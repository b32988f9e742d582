import EntitySql.Proofs.Statement.ExpansionRounds

/-! # Text behind the tokens

What follows the tokens of a text has no part in their expansion: it stands behind the expanded text as it
stood behind the text (`expandTokens_append`). For this each token has to end in the text itself, or it would
look for its closing bracket in what follows (`TokensClosed`). This is kept when a token is replaced, also when
the replacement completes another token: a comparison with a list ends with a bracket of its own, and the one
with no list holds no character of a token. -/

namespace EntitySql

/-- A list that holds an element stands behind or in front of it in a list that does not. -/
theorem exists_of_append_eq_append_cons {α : Type} {pattern before after a b : List α} {x : α}
    (hx : x ∉ pattern) (h : before ++ pattern ++ after = a ++ x :: b) :
    (∃ rest, a = before ++ pattern ++ rest ∧ after = rest ++ x :: b) ∨
      ∃ rest, before = a ++ x :: rest ∧ b = rest ++ pattern ++ after := by
  rcases List.append_eq_append_iff.1 h with ⟨rest, ha, hafter⟩ | ⟨rest, hpattern, hb⟩
  · exact .inl ⟨rest, ha, hafter⟩
  rcases List.cons_eq_append_iff.1 hb with ⟨rfl, rfl⟩ | ⟨rest, rfl, rfl⟩
  · exact .inl ⟨[], by simpa using hpattern.symm, rfl⟩
  rcases List.append_eq_append_iff.1 hpattern with ⟨start, -, rfl⟩ | ⟨start, rfl, hstart⟩
  · exact absurd (by simp) hx
  rcases List.cons_eq_append_iff.1 hstart with ⟨-, rfl⟩ | ⟨start, rfl, rfl⟩
  · exact absurd List.mem_cons_self hx
  · exact .inr ⟨start, rfl, rfl⟩

/-! ### Texts without tokens -/

/-- No token starts in the text. -/
def TokenFree (text : List Char) : Prop := ∀ before after, text ≠ before ++ inTokenStart ++ after

theorem tokenFree_iff {text : List Char} : TokenFree text ↔ Text.contains inTokenStart text = false := by
  rw [← Bool.not_eq_true, Text.contains_iff]
  simp only [TokenFree, ne_eq, not_exists]

instance (text : List Char) : Decidable (TokenFree text) := decidable_of_iff _ tokenFree_iff.symm

theorem TokenFree.append_cons {a b : List Char} {c : Char} (ha : TokenFree a) (hc : c ∉ inTokenStart)
    (hb : TokenFree b) : TokenFree (a ++ c :: b) := by
  intro before after h
  rcases exists_of_append_eq_append_cons hc h.symm with ⟨rest, hstart, -⟩ | ⟨rest, -, hstart⟩
  · exact ha _ _ hstart
  · exact hb _ _ hstart

/-- A token starts with a question mark. -/
theorem TokenFree.prepend {a b : List Char} (ha : '?' ∉ a) (hb : TokenFree b) : TokenFree (a ++ b) := by
  induction a with
  | nil => exact hb
  | cons c a ih =>
    simp only [List.mem_cons, not_or] at ha
    intro before after h
    cases before with
    | nil => exact ha.1 (List.cons.inj h).1.symm
    | cons d before => exact ih ha.2 before after (List.cons.inj h).2

/-- A text that takes no part in a token of the text in front of it. -/
structure Apart (more : List Char) : Prop where
  tokenFree : TokenFree more
  head : ∀ c ∈ more.head?, c ∉ inTokenStart

theorem Apart.nil : Apart [] := ⟨by decide, by simp⟩

theorem TokenFree.append {text more : List Char} (h : TokenFree text) (hmore : Apart more) :
    TokenFree (text ++ more) := by
  cases more with
  | nil => simpa using h
  | cons c more =>
    refine h.append_cons (hmore.head c rfl) fun before after hstart => ?_
    exact hmore.tokenFree (c :: before) after (by rw [hstart]; rfl)

/-! ### Texts whose tokens end -/

/-- Every token that starts in the text also ends in it. -/
def TokensClosed (text : List Char) : Prop :=
  ∀ before after, text = before ++ inTokenStart ++ after → ')' ∈ after

namespace TokensClosed
variable {text a b : List Char} {c : Char} {t : FoundToken}

theorem of_tokenFree (h : TokenFree text) : TokensClosed text := fun before after hstart =>
  absurd hstart (h before after)

theorem append_cons (ha : TokenFree a) (hc : c ∉ inTokenStart) (hb : TokensClosed b) :
    TokensClosed (a ++ c :: b) := by
  intro before after h
  rcases exists_of_append_eq_append_cons hc h.symm with ⟨rest, hstart, -⟩ | ⟨rest, -, hstart⟩
  · exact absurd hstart (ha _ _)
  · exact hb _ _ hstart

theorem append_close (hb : TokensClosed b) : TokensClosed (a ++ ')' :: b) := by
  intro before after h
  rcases exists_of_append_eq_append_cons (by decide) h.symm with ⟨rest, -, rfl⟩ | ⟨rest, -, hstart⟩
  · simp
  · exact hb _ _ hstart

theorem of_append (h : TokensClosed (a ++ b)) : TokensClosed b := fun before after hstart =>
  h (a ++ before) after (by rw [hstart]; simp [List.append_assoc])

end TokensClosed

/-! ### The first token -/

theorem Text.cutFirst_append_right {sep : Char} {cs before after : List Char}
    (h : cutFirst sep cs = some (before, after)) (more : List Char) :
    cutFirst sep (cs ++ more) = some (before, after ++ more) := by
  induction cs generalizing before with
  | nil => cases h
  | cons c rest ih =>
    by_cases hc : c = sep
    · simp only [cutFirst, hc, if_true, Option.some.injEq, Prod.mk.injEq] at h
      obtain ⟨rfl, rfl⟩ := h
      simp [cutFirst, hc]
    · simp only [cutFirst, hc, if_false, Option.map_eq_some_iff, Prod.exists, Prod.mk.injEq] at h
      obtain ⟨before, after, hrest, rfl, rfl⟩ := h
      simp [cutFirst, hc, ih hrest]

theorem Text.exists_cutFirst {sep : Char} {cs : List Char} (h : sep ∈ cs) :
    ∃ before after, cutFirst sep cs = some (before, after) := by
  obtain ⟨before, after, rfl, hbefore⟩ := List.eq_append_cons_of_mem h
  exact ⟨before, after, cutFirst_of_notMem hbefore after⟩

theorem Text.cutAt_append_right {pattern text before after : List Char}
    (h : cutAt pattern text = some (before, after)) (more : List Char) :
    cutAt pattern (text ++ more) = some (before, after ++ more) := by
  induction text generalizing before with
  | nil =>
    simp only [cutAt, Option.ite_none_right_eq_some, List.isEmpty_iff, Option.some.injEq,
      Prod.mk.injEq] at h
    obtain ⟨rfl, rfl, rfl⟩ := h
    cases more <;> simp [cutAt, dropStart]
  | cons c rest ih =>
    have hwhole := cutAt_append h
    unfold cutAt at h
    split at h
    · next rest' heq =>
      obtain ⟨rfl, rfl⟩ := Prod.mk.inj (Option.some.inj h)
      have hstart : dropStart pattern (c :: (rest ++ more)) = some (rest' ++ more) := by
        rw [dropStart_eq_some_iff, ← List.cons_append, hwhole]
        simp
      rw [List.cons_append, cutAt, hstart]
    · next hnone =>
      obtain ⟨⟨before', after'⟩, hrest, hcut⟩ := Option.map_eq_some_iff.1 h
      obtain ⟨rfl, rfl⟩ := Prod.mk.inj hcut
      -- the pattern stands further behind, so that the text is long enough for it to end here too
      have hstart : dropStart pattern (c :: (rest ++ more)) = none := by
        by_contra hsome
        obtain ⟨tail, htail⟩ := Option.ne_none_iff_exists'.1 hsome
        have hpattern : pattern <+: c :: rest ++ more := ⟨tail, (dropStart_eq_some_iff.1 htail).symm⟩
        have hprefix : pattern <+: c :: rest := by
          refine List.prefix_of_prefix_length_le hpattern (List.prefix_append (c :: rest) more) ?_
          rw [hwhole]
          simp only [List.length_append]
          omega
        obtain ⟨tail', htail'⟩ := hprefix
        rw [dropStart_eq_some_iff.2 htail'.symm] at hnone
        cases hnone
      rw [List.cons_append, cutAt, hstart, ih hrest]
      rfl

/-- No token starts in front of the first one. -/
theorem tokenFree_of_cutAt {text before after : List Char}
    (h : Text.cutAt inTokenStart text = some (before, after)) : TokenFree before := by
  intro start rest hbefore
  obtain ⟨⟨first, behind⟩, hcut⟩ : ∃ cut, Text.cutAt inTokenStart before = some cut := by
    rw [← Option.ne_none_iff_exists', ne_eq, Text.cutAt_eq_none_iff, Bool.not_eq_false, Text.contains_iff]
    exact ⟨start, rest, hbefore⟩
  have hfirst := Text.cutAt_append_right hcut (inTokenStart ++ after)
  rw [← List.append_assoc, ← Text.cutAt_append h, h] at hfirst
  obtain ⟨hsame, -⟩ := Prod.mk.inj (Option.some.inj hfirst)
  have hlength := congrArg List.length (Text.cutAt_append hcut)
  rw [← hsame] at hlength
  simp [inTokenStart] at hlength

namespace TokenScan

theorem tokenFree_before {text : List Char} {t : FoundToken} (h : ofText text = found t) :
    TokenFree t.before := by
  unfold ofText at h
  split at h
  · cases h
  next before rest hcut =>
  split at h
  · cases h
  split at h
  · cases h
  split at h
  · cases h
  · cases h
    exact tokenFree_of_cutAt hcut

/-- The scan of a text with more behind it. -/
def append (more : List Char) : TokenScan → TokenScan
  | absent => absent
  | malformed => malformed
  | found t => found { t with after := t.after ++ more }

/-- The first token is where it is without the text behind. -/
theorem ofText_append {text more : List Char} (hclosed : TokensClosed text) (hmore : Apart more) :
    ofText (text ++ more) = (ofText text).append more := by
  cases hcut : Text.cutAt inTokenStart text with
  | none =>
    have hfree : TokenFree text := tokenFree_iff.2 (Text.cutAt_eq_none_iff.1 hcut)
    rw [ofText_eq_absent_iff.2 (Text.cutAt_eq_none_iff.1 hcut),
      ofText_eq_absent_iff.2 (tokenFree_iff.1 (hfree.append hmore))]
    rfl
  | some cut =>
    obtain ⟨before, rest⟩ := cut
    obtain ⟨body, after, hbody⟩ := Text.exists_cutFirst (hclosed before rest (Text.cutAt_append hcut))
    rw [ofText, ofText, hcut, Text.cutAt_append_right hcut]
    simp only [hbody, Text.cutFirst_append_right hbody]
    split
    · rfl
    · next digits column hcolon =>
      split <;> rfl

end TokenScan

/-- The replacement of a token closes what it opens. -/
theorem TokensClosed.replace {text : List Char} {t : FoundToken} (h : TokensClosed text)
    (ht : TokenScan.ofText text = .found t) (size : Nat) : TokensClosed (t.replace size) := by
  obtain ⟨digits, -, htext⟩ := TokenScan.eq_append_of_found ht
  have hafter : TokensClosed t.after := by
    refine TokensClosed.of_append (a := t.before ++ inTokenStart ++ (digits ++ ':' :: t.column) ++ [')']) ?_
    rw [htext] at h
    simpa [List.append_assoc] using h
  have hbefore := TokenScan.tokenFree_before ht
  unfold FoundToken.replace inText
  split
  · have hnever : t.before ++ "1 = 2".toList ++ t.after = (t.before ++ '1' :: " = ".toList) ++ '2' :: t.after := by
      simp
    rw [hnever]
    exact append_cons (hbefore.append_cons (by decide) (by decide)) (by decide) hafter
  · have hlist : t.before ++ (t.column ++ " IN(".toList ++ marks size ++ [')']) ++ t.after =
        (t.before ++ (t.column ++ " IN(".toList ++ marks size)) ++ ')' :: t.after := by
      simp [List.append_assoc]
    rw [hlist]
    exact append_close hafter

/-! ### All tokens -/

/-- An expansion with more text behind it. -/
def Expansion.append (more : List Char) (x : Expansion) : Expansion := { x with text := x.text ++ more }

/-- Expansion of a text with more behind it succeeds when that of the text does, and leaves what is behind
as it is. The whole query is for messages. -/
theorem expandTokens_append {text more : List Char} (hclosed : TokensClosed text) (hmore : Apart more)
    (query query' : String) (sizes ignored : List Nat) :
    (expandTokens query sizes (text ++ more) ignored).toOption =
      (expandTokens query' sizes text ignored).toOption.map (·.append more) := by
  have hscan := TokenScan.ofText_append hclosed hmore
  cases ht : TokenScan.ofText text with
  | absent =>
    rw [ht] at hscan
    rw [expandTokens_of_absent hscan, expandTokens_of_absent ht]
    rfl
  | malformed =>
    rw [ht] at hscan
    rw [expandTokens_of_malformed hscan, expandTokens_of_malformed ht]
    rfl
  | found t =>
    rw [ht] at hscan
    cases hsize : sizes[t.slot]? with
    | none =>
      have hslot := List.getElem?_eq_none_iff.1 hsize
      rw [expandTokens_of_missing hscan hslot, expandTokens_of_missing ht hslot]
      rfl
    | some size =>
      have := count_replaceToken_lt ht size
      rw [expandTokens_of_found hscan hsize, expandTokens_of_found ht hsize,
        ← expandTokens_append (hclosed.replace ht size) hmore query query' sizes]
      simp [FoundToken.replace, List.append_assoc]
termination_by text.count ':'

/-- Without slots there can be no token at all. -/
theorem expandTokens_noSlots (query : String) (text : List Char) (ignored : List Nat) :
    (expandTokens query [] text ignored).toOption = if TokenFree text then some ⟨text, ignored⟩ else none := by
  by_cases hfree : TokenFree text
  · rw [if_pos hfree, expandTokens_of_absent (TokenScan.ofText_eq_absent_iff.2 (tokenFree_iff.1 hfree))]
    rfl
  · rw [if_neg hfree]
    cases ht : TokenScan.ofText text with
    | absent => exact absurd (tokenFree_iff.2 (TokenScan.ofText_eq_absent_iff.1 ht)) hfree
    | malformed =>
      rw [expandTokens_of_malformed ht]
      rfl
    | found t =>
      rw [expandTokens_of_missing ht (Nat.zero_le _)]
      rfl

theorem expandTokens_append_of_noSlots {more : List Char} (hmore : Apart more) (query query' : String)
    (text : List Char) (ignored : List Nat) :
    (expandTokens query [] (text ++ more) ignored).toOption =
      (expandTokens query' [] text ignored).toOption.map (·.append more) := by
  rw [expandTokens_noSlots, expandTokens_noSlots]
  by_cases hfree : TokenFree text
  · rw [if_pos hfree, if_pos (hfree.append hmore)]
    rfl
  · rw [if_neg hfree, if_neg fun h => hfree fun before after hstart => ?_]
    · rfl
    · exact h before (after ++ more) (by rw [hstart, List.append_assoc])

end EntitySql
