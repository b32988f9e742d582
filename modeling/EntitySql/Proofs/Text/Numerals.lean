import EntitySql.Text.Index

/-! # Reading numerals back

Digits in front of a text are read as the number that they write (`IsNumeral.readNat`), and a number is
written in such digits (`isNumeral_padded`), as many as asked for (`length_padded`). -/

namespace EntitySql.Text

/-- The digits write the number. -/
def IsNumeral (digits : List Char) (n : Nat) : Prop :=
  ∃ values : List Nat, digits = values.map Nat.digitChar ∧ (∀ d ∈ values, d < 10) ∧
    digitsToNat values = n

/-- The text does not begin with a digit. -/
def Digitless (rest : List Char) : Prop := ∀ c ∈ rest.head?, digit? c = none

theorem Digitless.nil : Digitless [] := by simp [Digitless]

theorem Digitless.cons {c : Char} (h : digit? c = none) (rest : List Char) :
    Digitless (c :: rest) := by
  simpa [Digitless] using h

/-- Digits are taken up to the limit, or up to the first character that is none. -/
theorem takeDigits_append {values : List Nat} (h : ∀ d ∈ values, d < 10) {limit : Nat}
    (hlimit : values.length ≤ limit) {rest : List Char}
    (hend : values.length = limit ∨ Digitless rest) :
    takeDigits limit (values.map Nat.digitChar ++ rest) = (values, rest) := by
  induction values generalizing limit with
  | nil =>
    cases limit with
    | zero => rfl
    | succ limit =>
      have hrest : Digitless rest := hend.resolve_left (by simp)
      cases rest with
      | nil => rfl
      | cons c rest =>
        have hc : digit? c = none := hrest c (by simp)
        simp [takeDigits, hc]
  | cons d values ih =>
    cases limit with
    | zero => simp at hlimit
    | succ limit =>
      have hd : digit? d.digitChar = some d := digit?_digitChar (h d (by simp))
      have hvalues : takeDigits limit (values.map Nat.digitChar ++ rest) = (values, rest) :=
        ih (fun d hmem => h d (by simp [hmem])) (by simpa using hlimit) (hend.imp_left (by simp))
      simp [takeDigits, hd, hvalues]

theorem digitsToNat_concat (values : List Nat) (d : Nat) :
    digitsToNat (values ++ [d]) = digitsToNat values * 10 + d := by
  simp [digitsToNat, List.foldl_append]

theorem digitsToNat_zeros (count : Nat) (values : List Nat) :
    digitsToNat (List.replicate count 0 ++ values) = digitsToNat values := by
  induction count with
  | zero => rfl
  | succ count ih => exact ih

theorem isNumeral_toDigits (n : Nat) : IsNumeral (Nat.toDigits 10 n) n := by
  induction n using Nat.strongRecOn with
  | ind n ih =>
    rcases Nat.lt_or_ge n 10 with h | h
    · rw [Nat.toDigits_of_lt_base h]
      exact ⟨[n], rfl, by simpa using h, by simp [digitsToNat]⟩
    · -- all digits but the last write a tenth of the number
      obtain ⟨values, hdigits, hvalues, hn⟩ := ih (n / 10) (by omega)
      rw [Nat.toDigits_of_base_le (by decide) h, hdigits]
      refine ⟨values ++ [n % 10], by simp, ?_, ?_⟩
      · intro d hd
        rcases List.mem_append.1 hd with hd | hd
        · exact hvalues d hd
        · obtain rfl := List.mem_singleton.1 hd
          exact Nat.mod_lt _ (by decide)
      · rw [digitsToNat_concat, hn]
        omega

theorem isNumeral_padded (width n : Nat) : IsNumeral (padded width n).toList n := by
  obtain ⟨values, hdigits, hvalues, hn⟩ := isNumeral_toDigits n
  refine ⟨List.replicate (width - (Nat.toDigits 10 n).length) 0 ++ values, ?_, ?_, ?_⟩
  · simp only [padded, String.toList_ofList, List.map_append, List.map_replicate, ← hdigits]
    rfl
  · intro d hd
    rcases List.mem_append.1 hd with hd | hd
    · rw [List.eq_of_mem_replicate hd]
      decide
    · exact hvalues d hd
  · rw [digitsToNat_zeros, hn]

theorem length_padded {width n : Nat} (hwidth : 0 < width) (h : n < Nat.pow 10 width) :
    (padded width n).toList.length = width := by
  have hlength : (Nat.toDigits 10 n).length ≤ width :=
    (Nat.length_toDigits_le_iff (by decide) hwidth).2 h
  simp only [padded, String.toList_ofList, List.length_append, List.length_replicate]
  omega

theorem padded_ne_nil (width n : Nat) : (padded width n).toList ≠ [] := by
  simp [padded, Nat.toDigits_ne_nil]

namespace IsNumeral
variable {digits rest : List Char} {n least most : Nat}

theorem readNat (h : IsNumeral digits n) (hleast : least ≤ digits.length)
    (hmost : digits.length ≤ most) (hend : digits.length = most ∨ Digitless rest) :
    Text.readNat least most (digits ++ rest) = some (n, rest) := by
  obtain ⟨values, rfl, hvalues, rfl⟩ := h
  rw [List.length_map] at hleast hmost hend
  simp [Text.readNat, takeDigits_append hvalues hmost hend, Nat.not_lt.2 hleast]

theorem readDigits (h : IsNumeral digits n) (hend : Digitless rest) :
    ∃ values, Text.readDigits (digits ++ rest) = (values, rest) ∧ values.length = digits.length ∧
      digitsToNat values = n := by
  obtain ⟨values, rfl, hvalues, rfl⟩ := h
  refine ⟨values, takeDigits_append hvalues ?_ (.inr hend), by simp, rfl⟩
  simp

theorem readSomeDigits (h : IsNumeral digits n) (hne : digits ≠ []) (hend : Digitless rest) :
    ∃ values, Text.readSomeDigits (digits ++ rest) = some (values, rest) ∧
      digitsToNat values = n := by
  obtain ⟨values, hread, hlength, hn⟩ := h.readDigits hend
  refine ⟨values, ?_, hn⟩
  cases values with
  | nil => exact absurd (List.length_eq_zero_iff.1 hlength.symm) hne
  | cons d values => simp [Text.readSomeDigits, hread]

theorem head_digit (h : IsNumeral digits n) (hne : digits ≠ []) :
    ∃ d others, d < 10 ∧ digits = Nat.digitChar d :: others := by
  obtain ⟨values, rfl, hvalues, -⟩ := h
  cases values with
  | nil => exact absurd rfl hne
  | cons d values => exact ⟨d, values.map Nat.digitChar, hvalues d (by simp), by simp⟩

theorem dropBlanks (h : IsNumeral digits n) (hne : digits ≠ []) :
    Text.dropBlanks (digits ++ rest) = digits ++ rest := by
  have hblank : ∀ d < 10, isBlank (Nat.digitChar d) = false := by decide
  obtain ⟨d, others, hd, rfl⟩ := h.head_digit hne
  simp [Text.dropBlanks, hblank d hd]

end IsNumeral

end EntitySql.Text
