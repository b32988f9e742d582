/-! # Cutting text at a separator

All functions work on lists of characters. `joinWith sep` puts back what `pieces sep` takes apart. -/

namespace EntitySql.Text

/-- What stands before and after the first `sep`. -/
def cutFirst (sep : Char) : List Char → Option (List Char × List Char)
  | [] => none
  | c :: rest =>
    if c = sep then some ([], rest)
    else (cutFirst sep rest).map fun (before, after) => (c :: before, after)

/-- What stands before and after the last `sep`. -/
def cutLast (sep : Char) : List Char → Option (List Char × List Char)
  | [] => none
  | c :: rest =>
    match cutLast sep rest with
    | some (before, after) => some (c :: before, after)
    | none => if c = sep then some ([], rest) else none

/-- The texts between the separators; a text without one is its only piece. -/
def pieces (sep : Char) : List Char → List (List Char)
  | [] => [[]]
  | c :: rest =>
    if c = sep then [] :: pieces sep rest
    else match pieces sep rest with
      | [] => [[c]]
      | piece :: others => (c :: piece) :: others

def joinWith (sep : Char) : List (List Char) → List Char
  | [] => []
  | [piece] => piece
  | piece :: others => piece ++ sep :: joinWith sep others

/-- What follows `start` in a text that begins with it. -/
def dropStart : (start text : List Char) → Option (List Char)
  | [], text => some text
  | _ :: _, [] => none
  | s :: start, c :: text => if s = c then dropStart start text else none

theorem cutFirst_append {sep : Char} {cs before after : List Char}
    (h : cutFirst sep cs = some (before, after)) : cs = before ++ sep :: after := by
  induction cs generalizing before with
  | nil => simp [cutFirst] at h
  | cons c rest ih =>
    by_cases hc : c = sep
    · simp [cutFirst, hc] at h
      simp [h.1, h.2, hc]
    · simp only [cutFirst, hc, ↓reduceIte, Option.map_eq_some_iff, Prod.exists, Prod.mk.injEq] at h
      obtain ⟨b, a, hba, rfl, rfl⟩ := h
      simp [ih hba]

theorem cutFirst_of_notMem {sep : Char} {before : List Char} (h : sep ∉ before)
    (after : List Char) : cutFirst sep (before ++ sep :: after) = some (before, after) := by
  induction before with
  | nil => simp [cutFirst]
  | cons c before ih =>
    have hc : c ≠ sep := fun hc => h (by simp [hc])
    rw [List.cons_append, cutFirst, if_neg hc, ih fun hmem => h (by simp [hmem])]
    rfl

theorem cutFirst_eq_none {sep : Char} {cs : List Char} (h : sep ∉ cs) : cutFirst sep cs = none := by
  induction cs with
  | nil => rfl
  | cons c rest ih =>
    have hc : c ≠ sep := fun hc => h (by simp [hc])
    rw [cutFirst, if_neg hc, ih fun hmem => h (by simp [hmem])]
    rfl

theorem cutLast_append {sep : Char} {cs before after : List Char}
    (h : cutLast sep cs = some (before, after)) : cs = before ++ sep :: after := by
  induction cs generalizing before with
  | nil => cases h
  | cons c rest ih =>
    unfold cutLast at h
    split at h
    · next b a hba =>
      obtain ⟨rfl, rfl⟩ := Prod.mk.inj (Option.some.inj h)
      rw [ih hba, List.cons_append]
    · split at h
      · next hc =>
        obtain ⟨rfl, rfl⟩ := Prod.mk.inj (Option.some.inj h)
        rw [hc, List.nil_append]
      · cases h

theorem cutLast_eq_none {sep : Char} {cs : List Char} (h : sep ∉ cs) : cutLast sep cs = none := by
  cases hcut : cutLast sep cs with
  | none => rfl
  | some cut =>
    rw [cutLast_append hcut] at h
    exact absurd (List.mem_append_right _ List.mem_cons_self) h

theorem pieces_ne_nil (sep : Char) (cs : List Char) : pieces sep cs ≠ [] := by
  induction cs with
  | nil => simp [pieces]
  | cons c rest ih =>
    unfold pieces
    split
    · simp
    · split <;> simp

theorem pieces_of_notMem {sep : Char} {cs : List Char} (h : sep ∉ cs) : pieces sep cs = [cs] := by
  induction cs with
  | nil => rfl
  | cons c rest ih =>
    have hc : c ≠ sep := fun hc => h (by simp [hc])
    rw [pieces, if_neg hc, ih fun hmem => h (by simp [hmem])]

theorem pieces_append {sep : Char} {piece : List Char} (h : sep ∉ piece) (rest : List Char) :
    pieces sep (piece ++ sep :: rest) = piece :: pieces sep rest := by
  induction piece with
  | nil => rw [List.nil_append, pieces, if_pos rfl]
  | cons c piece ih =>
    have hc : c ≠ sep := fun hc => h (by simp [hc])
    rw [List.cons_append, pieces, if_neg hc, ih fun hmem => h (by simp [hmem])]

theorem joinWith_pieces (sep : Char) (cs : List Char) : joinWith sep (pieces sep cs) = cs := by
  induction cs with
  | nil => rfl
  | cons c rest ih =>
    have hne := pieces_ne_nil sep rest
    unfold pieces
    split
    · next h =>
      subst h
      cases hp : pieces c rest with
      | nil => exact absurd hp hne
      | cons p ps => rw [hp] at ih; simp [joinWith, ih]
    · cases hp : pieces sep rest with
      | nil => exact absurd hp hne
      | cons p ps =>
        rw [hp] at ih
        cases ps with
        | nil => simp [joinWith] at ih ⊢; exact ih
        | cons q qs => simp [joinWith] at ih ⊢; exact ih

theorem dropStart_eq_some_iff {start text rest : List Char} :
    dropStart start text = some rest ↔ text = start ++ rest := by
  induction start generalizing text with
  | nil => simp [dropStart, eq_comm]
  | cons s start ih =>
    cases text with
    | nil => simp [dropStart]
    | cons c text =>
      by_cases h : s = c
      · simp [dropStart, h, ih]
      · simp [dropStart, h, Ne.symm h]

end EntitySql.Text
