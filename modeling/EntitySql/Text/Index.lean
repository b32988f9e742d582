import EntitySql.Text.Reader

/-! # Reading an index

Indices below `2 ^ 64`, written in decimal with an optional plus sign in front. -/

namespace EntitySql

/-- Why a text is no index. -/
inductive IndexError where
  | empty
  | notADigit
  | tooLarge
deriving DecidableEq, Repr

def IndexError.message : IndexError → String
  | empty => "cannot parse integer from empty string"
  | notADigit => "invalid digit found in string"
  | tooLarge => "number too large to fit in target type"

namespace Text

/-- One more than the greatest index: `2 ^ 64`. -/
def indexBound : Nat := 18446744073709551616

/-- The number that digits write behind the number `before`. The first fault from the left decides
which error it is. -/
def indexAfter (before : Nat) : List Char → Except IndexError Nat
  | [] => .ok before
  | c :: rest =>
    match digit? c with
    | none => .error .notADigit
    | some d =>
      let next := before * 10 + d
      if next < indexBound then indexAfter next rest else .error .tooLarge

def readIndex : List Char → Except IndexError Nat
  | [] => .error .empty
  | ['+'] => .error .notADigit
  | '+' :: digits => indexAfter 0 digits
  | digits => indexAfter 0 digits

theorem digit?_digitChar {d : Nat} (h : d < 10) : digit? d.digitChar = some d := by
  have hall : ∀ d < 10, digit? (Nat.digitChar d) = some d := by decide
  exact hall d h

/-- The digits of an index count up to that index, whatever follows them. -/
theorem indexAfter_toDigits {k : Nat} (hk : k < indexBound) (rest : List Char) :
    indexAfter 0 (Nat.toDigits 10 k ++ rest) = indexAfter k rest := by
  induction k using Nat.strongRecOn generalizing rest with
  | ind k ih =>
    have step : ∀ before d, d < 10 → before * 10 + d = k →
        indexAfter before (d.digitChar :: rest) = indexAfter k rest := by
      intro before d hd hbefore
      rw [indexAfter, digit?_digitChar hd]
      simp only [hbefore, hk, ↓reduceIte]
    rcases Nat.lt_or_ge k 10 with h | h
    · rw [Nat.toDigits_of_lt_base h]
      exact step 0 k h (by omega)
    · rw [Nat.toDigits_of_base_le (by decide) h, List.append_assoc,
        ih (k / 10) (by omega) (by omega)]
      exact step (k / 10) (k % 10) (Nat.mod_lt _ (by decide)) (by omega)

theorem isDigit_of_mem_toString {k : Nat} {c : Char} (h : c ∈ (toString k).toList) :
    c.isDigit = true := by
  rw [Nat.toString_eq_repr, Nat.toList_repr] at h
  exact Nat.isDigit_of_mem_toDigits (by decide) (by decide) h

theorem readIndex_toString {k : Nat} (hk : k < indexBound) :
    readIndex (toString k).toList = .ok k := by
  have hplus : '+' ∉ (toString k).toList := fun h =>
    absurd (isDigit_of_mem_toString h) (by decide)
  rw [Nat.toString_eq_repr, Nat.toList_repr] at hplus ⊢
  have hall := indexAfter_toDigits hk []
  rw [List.append_nil] at hall
  unfold readIndex
  split
  · next h => exact absurd h Nat.toDigits_ne_nil
  · next h => exact absurd (by simp [h]) hplus
  · next h => exact absurd (by simp [h]) hplus
  · exact hall

end Text

end EntitySql
