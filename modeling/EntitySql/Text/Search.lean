import EntitySql.Text.Split

/-! # Searching text -/

namespace EntitySql.Text

/-- Whether the pattern stands somewhere in the text. -/
def contains (pattern : List Char) : List Char → Bool
  | [] => pattern.isEmpty
  | c :: rest => (dropStart pattern (c :: rest)).isSome || contains pattern rest

/-- What stands before and after the first place where the pattern stands. -/
def cutAt (pattern : List Char) : List Char → Option (List Char × List Char)
  | [] => if pattern.isEmpty then some ([], []) else none
  | c :: rest =>
    match dropStart pattern (c :: rest) with
    | some after => some ([], after)
    | none => (cutAt pattern rest).map fun (before, after) => (c :: before, after)

/-- The text without any run of `c` at its two ends. -/
def trim (c : Char) (cs : List Char) : List Char :=
  ((cs.dropWhile (· = c)).reverse.dropWhile (· = c)).reverse

theorem contains_iff {pattern text : List Char} :
    contains pattern text = true ↔ ∃ before after, text = before ++ pattern ++ after := by
  induction text with
  | nil =>
    constructor
    · intro h
      refine ⟨[], [], ?_⟩
      simpa [contains] using h
    · rintro ⟨before, after, h⟩
      have : before = [] ∧ pattern = [] ∧ after = [] := by simpa [eq_comm, and_assoc] using h
      simp [contains, this.2.1]
  | cons c rest ih =>
    simp only [contains, Bool.or_eq_true, ih, Option.isSome_iff_exists, dropStart_eq_some_iff]
    constructor
    · rintro (⟨after, h⟩ | ⟨before, after, h⟩)
      · exact ⟨[], after, by simpa using h⟩
      · exact ⟨c :: before, after, by simp [h]⟩
    · rintro ⟨before, after, h⟩
      cases before with
      | nil => exact .inl ⟨after, by simpa using h⟩
      | cons b before =>
        rw [List.cons_append, List.cons_append, List.cons.injEq] at h
        exact .inr ⟨before, after, h.2⟩

theorem cutAt_append {pattern text before after : List Char}
    (h : cutAt pattern text = some (before, after)) : text = before ++ pattern ++ after := by
  induction text generalizing before with
  | nil =>
    simp only [cutAt, Option.ite_none_right_eq_some, List.isEmpty_iff, Option.some.injEq,
      Prod.mk.injEq] at h
    obtain ⟨rfl, rfl, rfl⟩ := h
    rfl
  | cons c rest ih =>
    unfold cutAt at h
    split at h
    · next rest' heq =>
      simp only [Option.some.injEq, Prod.mk.injEq] at h
      obtain ⟨rfl, rfl⟩ := h
      simpa using dropStart_eq_some_iff.1 heq
    · simp only [Option.map_eq_some_iff, Prod.exists, Prod.mk.injEq] at h
      obtain ⟨b, a, hba, rfl, rfl⟩ := h
      simp [ih hba]

theorem cutAt_eq_none_iff {pattern text : List Char} :
    cutAt pattern text = none ↔ contains pattern text = false := by
  induction text with
  | nil => cases pattern <;> simp [cutAt, contains]
  | cons c rest ih =>
    unfold cutAt contains
    cases h : dropStart pattern (c :: rest) <;> simp [ih]

end EntitySql.Text
