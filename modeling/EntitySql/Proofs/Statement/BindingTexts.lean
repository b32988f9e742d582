import EntitySql.Proofs.Outcome
import EntitySql.Proofs.Text.Numerals
import EntitySql.Statement.Binding

/-! # Bindings as texts

Every binding is read back from its text, and the texts that are read are those of a grammar
(`BindingText`): an index may be written with a plus sign and with zeros in front, which the text of the
binding does not have any more (`Binding.parse_text`). The dot behind an index is the first one of the text, so
that a path may hold dots itself, and no index is mistaken for the keyword. -/

namespace EntitySql

/-! ### Indices -/

namespace Text
variable {cs digits rest : List Char} {k before : Nat}

theorem digit?_eq_some {c : Char} {d : Nat} (h : digit? c = some d) : d < 10 ∧ c = Nat.digitChar d := by
  unfold digit? at h
  split at h
  · next hc =>
    obtain rfl := Option.some.inj h
    obtain ⟨hlow, hhigh⟩ : 48 ≤ c.toNat ∧ c.toNat ≤ 57 := by
      simpa [Char.isDigit, UInt32.le_iff_toNat_le] using hc
    have hzero : '0'.toNat = 48 := rfl
    refine ⟨by omega, Char.toNat_inj.1 ?_⟩
    rw [Nat.toNat_digitChar_of_lt_ten (by omega)]
    omega
  · cases h

theorem isDigit_of_digit? {c : Char} {d : Nat} (h : digit? c = some d) : c.isDigit = true := by
  unfold digit? at h
  split at h
  · next hc => exact hc
  · cases h

theorem isDigit_of_mem_map {values : List Nat} (hvalues : ∀ d ∈ values, d < 10) {c : Char}
    (hc : c ∈ values.map Nat.digitChar) : c.isDigit = true := by
  obtain ⟨d, hd, rfl⟩ := List.mem_map.1 hc
  exact isDigit_of_digit? (digit?_digitChar (hvalues d hd))

/-- A number only grows with the digits behind it. -/
theorem le_foldl_digits (values : List Nat) (before : Nat) :
    before ≤ values.foldl (fun n d => n * 10 + d) before := by
  induction values generalizing before with
  | nil => exact Nat.le_refl _
  | cons d values ih =>
    have := ih (before * 10 + d)
    rw [List.foldl_cons]
    omega

/-- The values of digits are those that are read off them. -/
theorem digits_of_cons {c : Char} {values : List Nat} (h : c :: cs = values.map Nat.digitChar)
    (hvalues : ∀ d ∈ values, d < 10) :
    ∃ d others, values = d :: others ∧ digit? c = some d ∧ cs = others.map Nat.digitChar := by
  cases values with
  | nil => cases h
  | cons d others =>
    rw [List.map_cons, List.cons.injEq] at h
    exact ⟨d, others, rfl, by rw [h.1, digit?_digitChar (hvalues d List.mem_cons_self)], h.2⟩

/-- Reading goes on as long as digits come and the number is in bounds. -/
theorem indexAfter_eq_ok (hbefore : before < indexBound) :
    indexAfter before cs = .ok k ↔ ∃ values : List Nat, cs = values.map Nat.digitChar ∧
      (∀ d ∈ values, d < 10) ∧ values.foldl (fun n d => n * 10 + d) before = k ∧ k < indexBound := by
  induction cs generalizing before with
  | nil =>
    constructor
    · intro h
      obtain rfl := Except.ok.inj h
      exact ⟨[], rfl, by simp, rfl, hbefore⟩
    · rintro ⟨values, hnil, -, rfl, -⟩
      obtain rfl := List.map_eq_nil_iff.1 hnil.symm
      rfl
  | cons c cs ih =>
    rw [indexAfter]
    cases hc : digit? c with
    | none =>
      refine iff_of_false (by simp) ?_
      rintro ⟨values, hcs, hvalues, -⟩
      obtain ⟨d, others, -, hd, -⟩ := digits_of_cons hcs hvalues
      cases hc.symm.trans hd
    | some d =>
      obtain ⟨hlt, rfl⟩ := digit?_eq_some hc
      dsimp only
      split
      · next hnext =>
        rw [ih hnext]
        constructor
        · rintro ⟨values, rfl, hvalues, hk, hbound⟩
          exact ⟨d :: values, rfl, List.forall_mem_cons.2 ⟨hlt, hvalues⟩, hk, hbound⟩
        · rintro ⟨values, hcs, hvalues, hk, hbound⟩
          obtain ⟨d', others, rfl, hd', hrest⟩ := digits_of_cons hcs hvalues
          obtain rfl := Option.some.inj (hc.symm.trans hd')
          exact ⟨others, hrest, (List.forall_mem_cons.1 hvalues).2, hk, hbound⟩
      · next hlarge =>
        -- the digits behind would have to make the number smaller
        refine iff_of_false (by simp) ?_
        rintro ⟨values, hcs, hvalues, hk, hbound⟩
        obtain ⟨d', others, rfl, hd', -⟩ := digits_of_cons hcs hvalues
        obtain rfl := Option.some.inj (hc.symm.trans hd')
        have hle := le_foldl_digits others (before * 10 + d)
        rw [List.foldl_cons] at hk
        omega

/-- An index as it may be written: at least one digit, perhaps zeros in front, perhaps behind a plus sign. -/
def IndexText (cs : List Char) (k : Nat) : Prop :=
  ∃ digits, (cs = digits ∨ cs = '+' :: digits) ∧ digits ≠ [] ∧ IsNumeral digits k ∧ k < indexBound

theorem indexAfter_zero_eq_ok :
    indexAfter 0 digits = .ok k ↔ IsNumeral digits k ∧ k < indexBound := by
  rw [indexAfter_eq_ok (by decide)]
  constructor
  · rintro ⟨values, hdigits, hvalues, hk, hbound⟩
    exact ⟨⟨values, hdigits, hvalues, hk⟩, hbound⟩
  · rintro ⟨⟨values, hdigits, hvalues, hk⟩, hbound⟩
    exact ⟨values, hdigits, hvalues, hk, hbound⟩

theorem IsNumeral.isDigit (h : IsNumeral digits k) {c : Char} (hc : c ∈ digits) : c.isDigit = true := by
  obtain ⟨values, rfl, hvalues, -⟩ := h
  exact isDigit_of_mem_map hvalues hc

theorem readIndex_eq_ok : readIndex cs = .ok k ↔ IndexText cs k := by
  have hplus : ∀ {digits : List Char}, ¬ IsNumeral ('+' :: digits) k := fun h =>
    absurd (h.isDigit List.mem_cons_self) (by decide)
  unfold readIndex
  split
  · refine iff_of_false (by simp) ?_
    rintro ⟨digits, hcs | hcs, hne, -⟩
    · exact hne hcs.symm
    · cases hcs
  · refine iff_of_false (by simp) ?_
    rintro ⟨digits, rfl | hcs, hne, hnumeral, -⟩
    · exact hplus hnumeral
    · exact hne (List.cons.inj hcs).2.symm
  · next digits hsign =>
    rw [indexAfter_zero_eq_ok]
    constructor
    · intro h
      exact ⟨digits, .inr rfl, fun hnil => hsign (by rw [hnil]), h⟩
    · rintro ⟨digits', rfl | hcs, -, hnumeral, hbound⟩
      · exact absurd hnumeral hplus
      · obtain rfl := (List.cons.inj hcs).2
        exact ⟨hnumeral, hbound⟩
  · next hempty _ hsign =>
    rw [indexAfter_zero_eq_ok]
    constructor
    · intro h
      exact ⟨cs, .inl rfl, hempty, h⟩
    · rintro ⟨digits, rfl | rfl, -, h⟩
      · exact h
      · exact absurd rfl (hsign digits)

/-! ### Plus signs and zeros in front -/

def withoutPlus : List Char → List Char
  | '+' :: cs => cs
  | cs => cs

/-- The text without zeros that stand in front of a digit. -/
def withoutZeros : List Char → List Char
  | '0' :: c :: cs => if c.isDigit then withoutZeros (c :: cs) else '0' :: c :: cs
  | cs => cs

theorem withoutPlus_of_head {c : Char} (hc : c ≠ '+') (cs : List Char) : withoutPlus (c :: cs) = c :: cs := by
  unfold withoutPlus
  split
  · next heq => exact absurd (List.cons.inj heq).1 hc
  · rfl

theorem withoutZeros_of_head {c : Char} (hc : c ≠ '0') (cs : List Char) :
    withoutZeros (c :: cs) = c :: cs := by
  unfold withoutZeros
  split
  · next heq => exact absurd (List.cons.inj heq).1 hc
  · rfl

theorem withoutZeros_zero (hrest : Digitless rest) : withoutZeros ('0' :: rest) = '0' :: rest := by
  cases rest with
  | nil => rfl
  | cons c rest =>
    have hc : c.isDigit = false := by
      cases hdigit : c.isDigit with
      | false => rfl
      | true =>
        have hnone := hrest c (by simp)
        simp [digit?, hdigit] at hnone
    rw [withoutZeros, hc]
    rfl

/-- Digits behind a number that is not zero are its further digits. -/
theorem toDigits_append_digits {values : List Nat} (hvalues : ∀ d ∈ values, d < 10) (hbefore : 0 < before) :
    Nat.toDigits 10 before ++ values.map Nat.digitChar =
      Nat.toDigits 10 (values.foldl (fun n d => n * 10 + d) before) := by
  induction values generalizing before with
  | nil => simp
  | cons d values ih =>
    obtain ⟨hd, hvalues⟩ := List.forall_mem_cons.1 hvalues
    have hone : Nat.toDigits 10 before ++ [Nat.digitChar d] = Nat.toDigits 10 (before * 10 + d) := by
      rw [← Nat.toDigits_of_lt_base hd, Nat.toDigits_append_toDigits (by decide) hbefore hd, Nat.mul_comm]
    calc Nat.toDigits 10 before ++ (d :: values).map Nat.digitChar
        = Nat.toDigits 10 before ++ [Nat.digitChar d] ++ values.map Nat.digitChar := by simp
      _ = Nat.toDigits 10 (before * 10 + d) ++ values.map Nat.digitChar := by rw [hone]
      _ = Nat.toDigits 10 (values.foldl (fun n d => n * 10 + d) (before * 10 + d)) :=
        ih hvalues (by omega)

/-- What is left of a numeral without its zeros is the number as it is printed. -/
theorem IsNumeral.withoutZeros (h : IsNumeral digits k) (hne : digits ≠ []) (hrest : Digitless rest) :
    Text.withoutZeros (digits ++ rest) = Nat.toDigits 10 k ++ rest := by
  obtain ⟨values, rfl, hvalues, rfl⟩ := h
  induction values with
  | nil => exact absurd rfl hne
  | cons d values ih =>
    obtain ⟨hd, hothers⟩ := List.forall_mem_cons.1 hvalues
    by_cases hzero : d = 0
    · subst hzero
      cases values with
      | nil => exact withoutZeros_zero hrest
      | cons d' values =>
        have hdigit : (Nat.digitChar d').isDigit = true :=
          isDigit_of_digit? (digit?_digitChar (hothers d' List.mem_cons_self))
        show Text.withoutZeros ('0' :: Nat.digitChar d' :: (values.map Nat.digitChar ++ rest)) = _
        rw [Text.withoutZeros, if_pos hdigit]
        exact ih (by simp) hothers
    · have hhead : Nat.digitChar d ≠ '0' := by
        intro heq
        have hread := digit?_digitChar hd
        rw [heq] at hread
        exact hzero (Option.some.inj hread).symm
      have hdigits := toDigits_append_digits hothers (Nat.pos_of_ne_zero hzero)
      rw [Nat.toDigits_of_lt_base hd] at hdigits
      have hnumber : digitsToNat (d :: values) = values.foldl (fun n d => n * 10 + d) d := by
        simp [digitsToNat]
      rw [hnumber, ← hdigits, List.map_cons, List.cons_append, withoutZeros_of_head hhead]
      rfl

theorem IndexText.withoutSign (h : IndexText cs k) (rest : List Char) :
    ∃ digits, withoutPlus (cs ++ rest) = digits ++ rest ∧ digits ≠ [] ∧ IsNumeral digits k := by
  obtain ⟨digits, hcs, hne, hnumeral, -⟩ := h
  refine ⟨digits, ?_, hne, hnumeral⟩
  rcases hcs with rfl | rfl
  · obtain ⟨c, others, rfl⟩ := List.exists_cons_of_ne_nil hne
    refine withoutPlus_of_head (fun hc => ?_) _
    exact absurd (hnumeral.isDigit List.mem_cons_self) (by rw [hc]; decide)
  · rfl

/-- Without sign and zeros, an index in front of a text is the number as it is printed. -/
theorem IndexText.printed (h : IndexText cs k) (hrest : Digitless rest) :
    Text.withoutZeros (withoutPlus (cs ++ rest)) = (toString k).toList ++ rest := by
  obtain ⟨digits, hsign, hne, hnumeral⟩ := h.withoutSign rest
  rw [hsign, hnumeral.withoutZeros hne hrest, Nat.toString_eq_repr, Nat.toList_repr]

theorem IndexText.notMem {c : Char} (h : IndexText cs k) (hdigit : c.isDigit = false) (hplus : c ≠ '+') :
    c ∉ cs := by
  obtain ⟨digits, hcs, -, hnumeral, -⟩ := h
  have hdigits : c ∉ digits := fun hc => by
    rw [hnumeral.isDigit hc] at hdigit
    cases hdigit
  rcases hcs with rfl | rfl
  · exact hdigits
  · simpa [hplus] using hdigits

theorem indexText_toString (hk : k < indexBound) : IndexText (toString k).toList k :=
  readIndex_eq_ok.1 (readIndex_toString hk)

end Text

/-! ### Bindings -/

/-- The texts that name a binding: the keyword, an index, or an index with a path behind a dot. -/
inductive BindingText : List Char → Prop
  | lastUpdated : BindingText "lastUpdated".toList
  | argument {index : List Char} {k : Nat} (hindex : Text.IndexText index k) : BindingText index
  | property {index path : List Char} {k : Nat} (hindex : Text.IndexText index k) (hpath : path ≠ []) :
    BindingText (index ++ '.' :: path)

namespace Binding
variable {b : Binding} {text path : String} {k : Nat} {cs : List Char}

/-- The bindings that can be made: an index is in bounds, and a path is not empty. -/
def Valid : Binding → Prop
  | argument index => index < Text.indexBound
  | property index path => index < Text.indexBound ∧ path ≠ ""
  | lastUpdated => True

instance : DecidablePred Valid
  | argument _ => inferInstanceAs (Decidable (_ < _))
  | property .. => inferInstanceAs (Decidable (_ ∧ _))
  | lastUpdated => .isTrue trivial

theorem ofProperty_eq_ok : ofProperty k path = .ok b ↔ path ≠ "" ∧ b = .property k path := by
  unfold ofProperty
  split <;> simp_all [eq_comm]

theorem keyword_notIndex (h : Text.IndexText cs k) (more : List Char) : cs ++ more ≠ "lastUpdated".toList := by
  intro heq
  obtain ⟨digits, hcs, hne, hnumeral, -⟩ := h
  obtain ⟨c, others, rfl⟩ := List.exists_cons_of_ne_nil hne
  have hdigit := hnumeral.isDigit List.mem_cons_self
  rcases hcs with rfl | rfl
  · obtain rfl : c = 'l' := (List.cons.inj heq).1
    exact absurd hdigit (by decide)
  · exact absurd (List.cons.inj heq).1 (by decide)

theorem parse_index (h : Text.IndexText text.toList k) : parse text = .ok (.argument k) := by
  have hkeyword : text ≠ "lastUpdated" := fun heq =>
    keyword_notIndex h [] (by rw [List.append_nil, heq])
  have hcut := Text.cutFirst_eq_none (h.notMem (c := '.') (by decide) (by decide))
  rw [parse, if_neg hkeyword]
  simp only [hcut, Text.readIndex_eq_ok.2 h]
  rfl

theorem parse_property (h : Text.IndexText cs k) (hpath : path ≠ "")
    (htext : text.toList = cs ++ '.' :: path.toList) : parse text = .ok (.property k path) := by
  have hkeyword : text ≠ "lastUpdated" := fun heq =>
    keyword_notIndex h ('.' :: path.toList) (by rw [← htext, heq])
  have hcut := Text.cutFirst_of_notMem (h.notMem (c := '.') (by decide) (by decide)) path.toList
  rw [parse, if_neg hkeyword, htext]
  simp only [hcut, Text.readIndex_eq_ok.2 h, String.ofList_toList]
  exact ofProperty_eq_ok.2 ⟨hpath, rfl⟩

/-- What a text is read as: the keyword, or what stands before and behind its first dot. -/
theorem parse_cases (h : parse text = .ok b) :
    (text = "lastUpdated" ∧ b = .lastUpdated) ∨
    (∃ k, Text.IndexText text.toList k ∧ b = .argument k) ∨
    ∃ index k path, Text.IndexText index k ∧ path ≠ "" ∧ text.toList = index ++ '.' :: path.toList ∧
      b = .property k path := by
  have hindex : ∀ {digits : List Char} {k : Nat}, (Text.readIndex digits).mapError (fun cause =>
      Error.configuration (.invalidBinding text cause)) = .ok k → Text.IndexText digits k := by
    intro digits k hread
    cases hdigits : Text.readIndex digits with
    | error cause =>
      rw [hdigits] at hread
      cases hread
    | ok k' =>
      rw [hdigits] at hread
      obtain rfl := Except.ok.inj hread
      exact Text.readIndex_eq_ok.1 hdigits
  unfold parse at h
  split at h
  · next hkeyword => exact .inl ⟨hkeyword, (Except.ok.inj h).symm⟩
  dsimp only at h
  split at h
  · next digits rest hcut =>
    obtain ⟨k, hread, hproperty⟩ := Outcome.bind_eq_ok.1 h
    obtain ⟨hpath, rfl⟩ := ofProperty_eq_ok.1 hproperty
    refine .inr (.inr ⟨digits, k, _, hindex hread, hpath, ?_, rfl⟩)
    rw [String.toList_ofList, Text.cutFirst_append hcut]
  · obtain ⟨k, hread, rfl⟩ := Outcome.map_eq_ok.1 h
    exact .inr (.inl ⟨k, hindex hread, rfl⟩)

theorem parse_of_valid (h : b.Valid) : parse b.text = .ok b := by
  cases b with
  | lastUpdated => rfl
  | argument k => exact parse_index (Text.indexText_toString h)
  | property k path =>
    refine parse_property (Text.indexText_toString h.1) h.2 ?_
    simp [text]

theorem valid_of_parse (h : parse text = .ok b) : b.Valid := by
  rcases parse_cases h with ⟨-, rfl⟩ | ⟨k, ⟨_, _, _, _, hbound⟩, rfl⟩ |
    ⟨index, k, path, ⟨_, _, _, _, hbound⟩, hpath, -, rfl⟩
  · trivial
  · exact hbound
  · exact ⟨hbound, hpath⟩

theorem bindingText_of_parse (h : parse text = .ok b) : BindingText text.toList := by
  rcases parse_cases h with ⟨rfl, -⟩ | ⟨k, hindex, -⟩ | ⟨index, k, path, hindex, hpath, htext, -⟩
  · exact .lastUpdated
  · exact .argument hindex
  · rw [htext]
    exact .property hindex fun hnil => hpath (String.toList_eq_nil_iff.1 hnil)

theorem exists_parse (h : BindingText text.toList) : ∃ b, parse text = .ok b := by
  generalize hcs : text.toList = cs at h
  cases h with
  | lastUpdated =>
    obtain rfl := String.toList_inj.1 hcs
    exact ⟨.lastUpdated, rfl⟩
  | argument hindex => exact ⟨_, parse_index (hcs ▸ hindex)⟩
  | @property index path k hindex hpath =>
    refine ⟨.property k (String.ofList path), parse_property hindex (fun hnil => hpath ?_) ?_⟩
    · simpa using hnil
    · rw [hcs, String.toList_ofList]

/-- The text of what is read is the text itself, without the sign and the zeros of its index. -/
theorem text_of_parse (h : parse text = .ok b) :
    b.text = String.ofList (Text.withoutZeros (Text.withoutPlus text.toList)) := by
  rw [← String.toList_inj, String.toList_ofList]
  rcases parse_cases h with ⟨rfl, rfl⟩ | ⟨k, hindex, rfl⟩ | ⟨index, k, path, hindex, -, htext, rfl⟩
  · rfl
  · have hprinted := hindex.printed .nil
    rw [List.append_nil, List.append_nil] at hprinted
    exact hprinted.symm
  · rw [htext, hindex.printed (.cons (by decide) _)]
    simp [Binding.text]

/-- A binding is what its text is read as. The texts that are read are those of the grammar, and each is the
text of what it is read as but for the plus sign and the zeros in front of its index. -/
theorem parse_text :
    (∀ b : Binding, b.Valid → parse b.text = .ok b) ∧
    (∀ text, (∃ b, parse text = .ok b) ↔ BindingText text.toList) ∧
    ∀ text b, parse text = .ok b →
      b.Valid ∧ b.text = String.ofList (Text.withoutZeros (Text.withoutPlus text.toList)) :=
  ⟨fun _ => parse_of_valid, fun _ => ⟨fun ⟨_, h⟩ => bindingText_of_parse h, exists_parse⟩,
    fun _ _ h => ⟨valid_of_parse h, text_of_parse h⟩⟩

/-- A path with a dot, and an index that is written with a sign and zeros. -/
theorem parse_text_authorName :
    parse "12.author.name" = .ok (.property 12 "author.name") ∧
    BindingText "+0012.author.name".toList ∧
    ∃ b, parse "+0012.author.name" = .ok b ∧ b.Valid ∧ b.text = "12.author.name" := by
  have hread : ∃ b, parse "+0012.author.name" = .ok b := ⟨.property 12 "author.name", by rfl⟩
  obtain ⟨hback, haccepted, hprinted⟩ := parse_text
  obtain ⟨b, hb⟩ := hread
  obtain ⟨hvalid, htext⟩ := hprinted _ b hb
  refine ⟨hback (.property 12 "author.name") (by decide), (haccepted _).1 ⟨b, hb⟩, b, hb, hvalid, ?_⟩
  rw [htext]
  rfl

end Binding

end EntitySql
