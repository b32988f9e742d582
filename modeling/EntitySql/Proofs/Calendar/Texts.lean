import EntitySql.Calendar.Timestamp
import EntitySql.Proofs.Text.Numerals

/-! # Reading dates and times back

A date is read from its text (`Date.parse?_text`), with a sign in front of the year or without, and a
point in time from its text with an offset (`Timestamp.parse?_textWithOffset`), if the year has four
digits. Leap seconds and all digits of a fraction come back. -/

namespace EntitySql

open Text

namespace Date

theorem readYear_minus {cs rest : List Char} {values : List Nat}
    (h : readSomeDigits cs = some (values, rest)) :
    readYear ('-' :: cs) = some (-(digitsToNat values : Int), rest) := by
  show (readSomeDigits cs).map _ = _
  rw [h]
  rfl

theorem readYear_plus {cs rest : List Char} {values : List Nat}
    (h : readSomeDigits cs = some (values, rest)) :
    readYear ('+' :: cs) = some ((digitsToNat values : Int), rest) := by
  show (readSomeDigits cs).map _ = _
  rw [h]
  rfl

theorem readYear_numeral {digits rest : List Char} {n : Nat} (h : IsNumeral digits n)
    (hlength : digits.length = 4) : readYear (digits ++ rest) = some ((n : Int), rest) := by
  have hne : digits ≠ [] := fun hnil => by simp [hnil] at hlength
  have hread : readNat 1 4 (digits ++ rest) = some (n, rest) :=
    h.readNat (by omega) (Nat.le_of_eq hlength) (.inl hlength)
  have hdrop : dropBlanks (digits ++ rest) = digits ++ rest := h.dropBlanks hne
  have hsign : ∀ d < 10, Nat.digitChar d ≠ '-' ∧ Nat.digitChar d ≠ '+' := by decide
  obtain ⟨d, others, hd, rfl⟩ := h.head_digit hne
  unfold readYear
  rw [hdrop]
  split
  · next heq => exact absurd (List.cons.inj heq).1 (hsign d hd).1
  · next heq => exact absurd (List.cons.inj heq).1 (hsign d hd).2
  · rw [hread]
    rfl

theorem readYear_yearText (year : Int) {rest : List Char} (hrest : Digitless rest) :
    readYear ((yearText year).toList ++ rest) = some (year, rest) := by
  unfold yearText
  split
  · next h =>
    rw [readYear_numeral (isNumeral_padded 4 year.toNat)
      (length_padded (by decide) (by simp only [Nat.pow_eq, Nat.reducePow]; omega)),
      Int.toNat_of_nonneg h.1]
  · next h =>
    obtain ⟨values, hread, hnumber⟩ := (isNumeral_padded 4 year.natAbs).readSomeDigits
      (padded_ne_nil 4 year.natAbs) hrest
    rw [String.toList_append, List.append_assoc]
    -- years of more than four digits have a plus, so that a sign is read in both cases
    split
    · next hneg =>
      have hyear : -(year.natAbs : Int) = year := by omega
      have hsigned := readYear_minus hread
      rw [hnumber, hyear] at hsigned
      simpa using hsigned
    · next hpos =>
      have hyear : (year.natAbs : Int) = year := by omega
      have hsigned := readYear_plus hread
      rw [hnumber, hyear] at hsigned
      simpa using hsigned

theorem readPart_padded {n : Nat} (h : n < 100) (rest : List Char) :
    readPart ((padded 2 n).toList ++ rest) = some (n, rest) := by
  have hlength : (padded 2 n).toList.length = 2 := length_padded (by decide) h
  have hnumeral := isNumeral_padded 2 n
  rw [readPart, hnumeral.dropBlanks (padded_ne_nil 2 n)]
  exact hnumeral.readNat (by omega) (Nat.le_of_eq hlength) (.inl hlength)

theorem month_lt (d : Date) : d.month < 100 := by
  have := d.inCalendar.2.2.2.1
  omega

theorem day_lt (d : Date) : d.day < 100 := by
  have hday := d.inCalendar.2.2.2.2.2
  have hmonth : daysInMonth d.year d.month ≤ 31 := by
    unfold daysInMonth
    split
    · split <;> omega
    all_goals omega
  omega

theorem ofParts?_self (d : Date) : ofParts? d.year d.month d.day = some d := by
  rw [ofParts?, dif_pos d.inCalendar]

theorem readLenient_text (d : Date) (rest : List Char) :
    readLenient (d.text.toList ++ rest) = some (d, rest) := by
  have htext : d.text.toList ++ rest = (yearText d.year).toList ++ '-' ::
      ((padded 2 d.month).toList ++ '-' :: ((padded 2 d.day).toList ++ rest)) := by
    simp [text]
  have hyear := readYear_yearText d.year (.cons (c := '-') rfl
    ((padded 2 d.month).toList ++ '-' :: ((padded 2 d.day).toList ++ rest)))
  have hmonth := readPart_padded d.month_lt ('-' :: ((padded 2 d.day).toList ++ rest))
  have hday := readPart_padded d.day_lt rest
  simp [readLenient, htext, hyear, hmonth, hday, readChar, d.ofParts?_self]

theorem parse?_text (d : Date) : parse? d.text = some d := by
  have hread := d.readLenient_text []
  rw [List.append_nil] at hread
  rw [parse?, hread]

end Date

theorem Text.Digitless.readDigits {rest : List Char} (h : Digitless rest) :
    Text.readDigits rest = ([], rest) := by
  have htake : takeDigits rest.length ([].map Nat.digitChar ++ rest) = ([], rest) :=
    takeDigits_append (by simp) (Nat.zero_le rest.length) (.inr h)
  exact htake

namespace TimeOfDay

theorem ofParts?_written (t : TimeOfDay) :
    ofParts? t.hour t.minute t.writtenSecond (t.nanosecond % nanosPerSecond) = some t := by
  obtain ⟨hour, minute, second, nanosecond, hhour, hminute, hsecond, hnano, hleap⟩ := t
  have hmod : nanosecond % nanosPerSecond < nanosPerSecond := Nat.mod_lt _ (by decide)
  have hparts := Nat.div_add_mod nanosecond nanosPerSecond
  unfold ofParts? writtenSecond
  dsimp only at *
  rcases Nat.lt_or_ge nanosecond nanosPerSecond with h | h
  · have hdiv : nanosecond / nanosPerSecond = 0 := Nat.div_eq_of_lt h
    rw [dif_pos ⟨hhour, hminute, by omega, hmod⟩, dif_neg (by omega)]
    simp [hdiv, Nat.mod_eq_of_lt h]
  · -- from the start of a leap second on, the minute has second 60
    obtain rfl := hleap h
    have hdiv : nanosecond / nanosPerSecond = 1 := by
      rw [Nat.div_eq_iff (by decide)]
      simp only [nanosPerSecond] at *
      omega
    rw [hdiv, Nat.mul_one] at hparts
    rw [dif_pos ⟨hhour, hminute, by omega, hmod⟩, dif_pos (by omega)]
    simp [hparts]

end TimeOfDay

namespace Timestamp

theorem readNanoseconds_numeral {digits rest : List Char} {k : Nat} (h : IsNumeral digits k)
    (hne : digits ≠ []) (hlength : digits.length ≤ 9) (hrest : Digitless rest) :
    readNanoseconds (digits ++ rest) = some (k * Nat.pow 10 (9 - digits.length), rest) := by
  obtain ⟨values, rfl, hvalues, rfl⟩ := h
  rw [List.length_map] at hlength ⊢
  have htake := takeDigits_append hvalues hlength (.inr hrest)
  unfold readNanoseconds
  rw [htake]
  cases values with
  | nil => exact absurd rfl hne
  | cons d values => simp [hrest.readDigits]

/-- A fraction is read back, with the digits that were left out as zeros. -/
theorem readFraction_fractionText (t : TimeOfDay) {rest : List Char} (hrest : Digitless rest)
    (hpoint : rest.head? ≠ some '.') :
    readFraction (t.fractionText.toList ++ rest) = some (t.nanosecond % nanosPerSecond, rest) := by
  have hbound : t.nanosecond % nanosPerSecond < 1000000000 := Nat.mod_lt _ (by decide)
  unfold TimeOfDay.fractionText
  generalize t.nanosecond % nanosPerSecond = n at hbound ⊢
  have hdigits : ∀ places k, 0 < places → places ≤ 9 → k < Nat.pow 10 places →
      k * Nat.pow 10 (9 - places) = n →
      readFraction (("." ++ padded places k).toList ++ rest) = some (n, rest) := by
    intro places k hplaces hmost hk hn
    have hlength : (padded places k).toList.length = places := length_padded hplaces hk
    have hread := readNanoseconds_numeral (isNumeral_padded places k) (padded_ne_nil places k)
      (Nat.le_trans (Nat.le_of_eq hlength) hmost) hrest
    rw [hlength, hn] at hread
    rw [String.toList_append, List.append_assoc]
    exact hread
  -- no fraction is written, or three, six or nine digits of one
  dsimp only
  split
  · next hzero =>
    subst hzero
    cases rest with
    | nil => rfl
    | cons c rest =>
      have hc : c ≠ '.' := fun heq => hpoint (by rw [heq]; rfl)
      show readFraction (c :: rest) = _
      unfold readFraction
      split
      · next heq => exact absurd (List.cons.inj heq).1 hc
      · rfl
  split
  · exact hdigits 3 _ (by decide) (by decide) (by simp only [Nat.pow_eq, Nat.reducePow]; omega)
      (by simp only [Nat.pow_eq, Nat.reduceSub, Nat.reducePow]; omega)
  split
  · exact hdigits 6 _ (by decide) (by decide) (by simp only [Nat.pow_eq, Nat.reducePow]; omega)
      (by simp only [Nat.pow_eq, Nat.reduceSub, Nat.reducePow]; omega)
  · exact hdigits 9 _ (by decide) (by decide) hbound (by simp)

theorem ofLocal?_zero (date : Date) (time : TimeOfDay) :
    ofLocal? date time 0 = some ⟨date, time⟩ := by
  have hhour := time.hour_lt
  have hminute := time.minute_lt
  have hday : (time.hour * 60 + time.minute - 0 : Int).fdiv 1440 = 0 := by
    rw [Int.fdiv_eq_ediv_of_nonneg _ (by decide)]
    omega
  have hofDay : ((time.hour * 60 + time.minute - 0 : Int).fmod 1440).toNat =
      time.hour * 60 + time.minute := by
    rw [Int.fmod_eq_emod_of_nonneg _ (by decide)]
    omega
  have hhours : (time.hour * 60 + time.minute) / 60 = time.hour := by omega
  have hminutes : (time.hour * 60 + time.minute) % 60 = time.minute := by omega
  simp only [ofLocal?, hday, hofDay, hhours, hminutes, hhour, ↓reduceIte, ↓reduceDIte,
    Option.map_some]

theorem readNat_padded {n : Nat} (h : n < 100) (rest : List Char) :
    readNat 2 2 ((padded 2 n).toList ++ rest) = some (n, rest) := by
  have hlength : (padded 2 n).toList.length = 2 := length_padded (by decide) h
  exact (isNumeral_padded 2 n).readNat (Nat.le_of_eq hlength.symm) (Nat.le_of_eq hlength) (.inl hlength)

theorem readZoned_text (t : Timestamp) :
    readZoned t.date (t.time.text ++ "+00:00").toList = some (t, []) := by
  have hhour := t.time.hour_lt
  have hminute := t.time.minute_lt
  have hsecond : t.time.writtenSecond < 100 := by
    have hsecond := t.time.second_lt
    have hnano := t.time.nanosecond_lt
    unfold TimeOfDay.writtenSecond
    simp only [nanosPerSecond] at *
    omega
  have htext : (t.time.text ++ "+00:00").toList = (padded 2 t.time.hour).toList ++ ':' ::
      ((padded 2 t.time.minute).toList ++ ':' :: ((padded 2 t.time.writtenSecond).toList ++
        (t.time.fractionText.toList ++ "+00:00".toList))) := by
    simp [TimeOfDay.text]
  have hfraction : readFraction (t.time.fractionText.toList ++ "+00:00".toList) =
      some (t.time.nanosecond % nanosPerSecond, "+00:00".toList) :=
    readFraction_fractionText t.time (.cons (c := '+') rfl _) (by decide)
  have hoffset : readOffset "+00:00".toList = some (0, []) := by decide
  simp only [readZoned, htext, readNat_padded (show t.time.hour < 100 by omega), readChar,
    readNat_padded (show t.time.minute < 100 by omega), readNat_padded hsecond, hfraction, hoffset,
    t.time.ofParts?_written, ofLocal?_zero, Option.bind_eq_bind, Option.bind_some, ↓reduceIte]
  rfl

theorem parse?_textWithOffset (t : Timestamp) (h : 0 ≤ t.date.year ∧ t.date.year ≤ 9999) :
    parse? t.textWithOffset = some t := by
  have hyear : (padded 4 t.date.year.toNat).toList.length = 4 :=
    length_padded (by decide) (by simp only [Nat.pow_eq, Nat.reducePow]; omega)
  have htext : t.textWithOffset.toList = (padded 4 t.date.year.toNat).toList ++ '-' ::
      ((padded 2 t.date.month).toList ++ '-' :: ((padded 2 t.date.day).toList ++
        'T' :: (t.time.text ++ "+00:00").toList)) := by
    simp [textWithOffset, textWith, Date.text, Date.yearText, h]
  have hread : ∀ rest, readNat 4 4 ((padded 4 t.date.year.toNat).toList ++ rest) =
      some (t.date.year.toNat, rest) := fun rest =>
    (isNumeral_padded 4 _).readNat (Nat.le_of_eq hyear.symm) (Nat.le_of_eq hyear) (.inl hyear)
  have hstrict : readStrict t.textWithOffset.toList = some (t, []) := by
    simp only [readStrict, htext, hread, readChar, readNat_padded t.date.month_lt,
      readNat_padded t.date.day_lt, Int.toNat_of_nonneg h.1, t.date.ofParts?_self,
      Option.bind_eq_bind, Option.bind_some, ↓reduceIte, true_or, t.readZoned_text]
  rw [parse?, readAll, hstrict]
  rfl

end Timestamp

end EntitySql
