import EntitySql.Statement.Template

/-! # Expansion of IN tokens

The tokens of a text become text, one after the other from the left, when the sizes of the lists in
the binding table are known. Only the sizes count: no value finds its way into the text. The text
that a token becomes may complete another token with what stands around it; still each step uses up
the colon of a token (`count_replaceToken_lt`), so that there is an end. -/

namespace EntitySql

/-- What stands between the brackets of an IN token, and around the token. -/
structure FoundToken where
  before : List Char
  slot : Nat
  column : List Char
  after : List Char

/-- What the first IN token of a text looks like. -/
inductive TokenScan where
  | absent
  /-- There is no closing bracket, no colon or no index in front of the colon. -/
  | malformed
  | found (token : FoundToken)

namespace TokenScan

/-- Looks for the first IN token. -/
def ofText (text : List Char) : TokenScan :=
  match Text.cutAt inTokenStart text with
  | none => absent
  | some (before, rest) =>
    match Text.cutFirst ')' rest with
    | none => malformed
    | some (body, after) =>
      match Text.cutFirst ':' body with
      | none => malformed
      | some (digits, column) =>
        match Text.readIndex digits with
        | .error _ => malformed
        | .ok slot => found ⟨before, slot, column, after⟩

theorem eq_append_of_found {text : List Char} {t : FoundToken} (h : ofText text = found t) :
    ∃ digits, Text.readIndex digits = .ok t.slot ∧
      text = t.before ++ inTokenStart ++ (digits ++ ':' :: t.column) ++ ')' :: t.after := by
  unfold ofText at h
  split at h
  · cases h
  next before rest hcut =>
    split at h
    · cases h
    next body after hbody =>
      split at h
      · cases h
      next digits column hcolon =>
        split at h
        · cases h
        next slot hslot =>
          cases h
          refine ⟨digits, hslot, ?_⟩
          rw [Text.cutAt_append hcut, Text.cutFirst_append hbody, Text.cutFirst_append hcolon]
          simp

end TokenScan

/-- The text of a comparison with a list of a given size; no value is in an empty list. -/
def inText (column : List Char) (size : Nat) : List Char :=
  if size = 0 then "1 = 2".toList
  else column ++ " IN(".toList ++ marks size ++ [')']

/-- The text in which the token has become the comparison. -/
def FoundToken.replace (t : FoundToken) (size : Nat) : List Char :=
  t.before ++ inText t.column size ++ t.after

theorem count_colon_marks (size : Nat) : (marks size).count ':' = 0 := by
  fun_induction marks size <;> simp_all

theorem count_inText_le (column : List Char) (size : Nat) :
    (inText column size).count ':' ≤ column.count ':' := by
  unfold inText
  split
  · simp
  · simp [count_colon_marks]

theorem count_replaceToken_lt {text : List Char} {t : FoundToken}
    (h : TokenScan.ofText text = .found t) (size : Nat) :
    (t.replace size).count ':' < text.count ':' := by
  obtain ⟨digits, -, rfl⟩ := TokenScan.eq_append_of_found h
  have := count_inText_le t.column size
  simp only [FoundToken.replace, List.count_append, List.count_cons]
  simp
  omega

/-- A text without IN tokens, and the slots of those that were empty. -/
structure Expansion where
  text : List Char
  ignored : List Nat := []
deriving DecidableEq, Repr

/-- Expands the tokens of a text, given the sizes of the slots. The whole query is for messages. -/
def expandTokens (query : String) (sizes : List Nat) (text : List Char) (ignored : List Nat) :
    Outcome Expansion :=
  match h : TokenScan.ofText text with
  | .absent => .ok ⟨text, ignored⟩
  | .malformed => .error (.configuration (.malformedIn query))
  | .found t =>
    match sizes[t.slot]? with
    | none => .error (.configuration (.missingBinding t.slot))
    | some size =>
      have := count_replaceToken_lt h size
      expandTokens query sizes (t.replace size) (if size = 0 then t.slot :: ignored else ignored)
termination_by text.count ':'

namespace Value

/-- The number of places that a value takes in a list: none for null, one for a single value. -/
def inSize : Value → Nat
  | null => 0
  | list items => items.length
  | _ => 1

/-- The values that a value binds: the elements of a list, or itself. -/
def flattened : Value → List Value
  | list items => items
  | value => [value]

end Value

/-- The values that are bound when some slots are left out. -/
def boundValues (values : List Value) (ignored : List Nat) : List Value :=
  (values.zipIdx.filter fun (_, slot) => !ignored.contains slot).flatMap fun (value, _) =>
    value.flattened

end EntitySql
