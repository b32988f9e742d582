import EntitySql.Statement.InExpansion
import Mathlib.Data.List.Chain

/-! # Layouts

A text cut at its places, which are its placeholders and IN tokens. The place of a slot is the one at
that position, so that a layout says for every place which value it is for. `expandTokens_layout` is
the whole of the expansion: every token becomes the comparison in place, and nothing else changes.

What carries it: the text in front of a token is `Settled`. It does not end in a question mark, and
none in it is followed by the dollar of a token, so that no token starts in it, also not one that an
expansion has put together with what stands around it. -/

namespace EntitySql

/-- The values that a value stands for in a list; null stands for none. -/
def Value.elements : Value → List Value
  | .null => []
  | .list items => items
  | value => [value]

theorem Value.length_elements (value : Value) : value.elements.length = value.inSize := by
  cases value <;> rfl

theorem Value.flattened_of_inSize {value : Value} (h : value.inSize ≠ 0) :
    value.flattened = value.elements := by
  cases value with
  | null => exact absurd rfl h
  | _ => rfl

theorem Value.flattened_of_length? {value : Value} (h : value.length? = none) :
    value.flattened = [value] := by
  cases value with
  | list items => cases h
  | _ => rfl

/-- A placeholder, or an IN token on a column, with the text up to the next place. -/
structure Place where
  column : Option (List Char)
  after : List Char

structure Layout where
  /-- The text in front of the first place. -/
  lead : List Char
  places : List Place

namespace Place

/-- The place as a template writes it, for a slot of the binding table. -/
def template (slot : Nat) (p : Place) : List Char :=
  match p.column with
  | none => ['?']
  | some column => (inToken slot (String.ofList column)).toList

/-- The place in the statement that binds a value to it. -/
def shown (p : Place) (value : Value) : List Char :=
  match p.column with
  | none => ['?']
  | some column => inText column value.inSize

/-- The values for the placeholders that the place has in the statement. -/
def received (p : Place) (value : Value) : List Value :=
  match p.column with
  | none => [value]
  | some _ => value.elements

/-- No placeholder but the place's own, and nothing behind it that could make it a token. -/
structure WellFormed (p : Place) : Prop where
  after_unmarked : '?' ∉ p.after
  after_parted : ∃ c rest, p.after = c :: rest ∧ c ≠ '$'
  column_unmarked : ∀ column, p.column = some column → '?' ∉ column
  column_open : ∀ column, p.column = some column → ')' ∉ column

end Place

namespace Layout

/-- The places of a template whose first slot is the given one. -/
def templatePlaces : Nat → List Place → List Char
  | _, [] => []
  | slot, p :: places => p.template slot ++ p.after ++ templatePlaces (slot + 1) places

/-- The text of the template. -/
def template (slot : Nat) (l : Layout) : List Char := l.lead ++ templatePlaces slot l.places

/-- The places of a statement, given one value for each. -/
def shownPlaces (bound : List (Place × Value)) : List Char :=
  bound.flatMap fun (p, value) => p.shown value ++ p.after

/-- The text of the statement. -/
def shown (l : Layout) (values : List Value) : List Char :=
  l.lead ++ shownPlaces (l.places.zip values)

/-- The arguments for the places of a statement. -/
def receivedPlaces (bound : List (Place × Value)) : List Value :=
  bound.flatMap fun (p, value) => p.received value

/-- The arguments of the statement. -/
def received (l : Layout) (values : List Value) : List Value :=
  receivedPlaces (l.places.zip values)

structure WellFormed (l : Layout) : Prop where
  lead_unmarked : '?' ∉ l.lead
  places : ∀ p ∈ l.places, p.WellFormed

end Layout

/-- No question mark of the text is followed by a dollar. -/
def Tokenless (text : List Char) : Prop := text.IsChain fun c next => c = '?' → next ≠ '$'

/-- A text behind which nothing can make a token with what it ends in. -/
structure Settled (text : List Char) : Prop where
  tokenless : Tokenless text
  last : text.getLast? ≠ some '?'

namespace Tokenless
variable {a b : List Char}

theorem of_unmarked (h : '?' ∉ a) : Tokenless a := by
  induction a with
  | nil => exact .nil
  | cons c a ih =>
    refine List.isChain_cons.2 ⟨fun _ _ hc => absurd (by simp [hc]) h, ih fun hmem => h ?_⟩
    exact List.mem_cons_of_mem c hmem

theorem of_dollarless (h : '$' ∉ a) : Tokenless a := by
  induction a with
  | nil => exact .nil
  | cons c a ih =>
    refine List.isChain_cons.2 ⟨fun d hd _ hdollar => h ?_, ih fun hmem => h (by simp [hmem])⟩
    rw [hdollar] at hd
    exact List.mem_cons_of_mem c (List.mem_of_head? hd)

theorem contains_inTokenStart (h : Tokenless a) : Text.contains inTokenStart a = false := by
  induction a with
  | nil => rfl
  | cons c a ih =>
    have hhere : Text.dropStart inTokenStart (c :: a) = none := by
      by_contra hne
      obtain ⟨rest, hrest⟩ := Option.ne_none_iff_exists'.1 hne
      rw [Text.dropStart_eq_some_iff] at hrest
      obtain ⟨rfl, rfl⟩ : c = '?' ∧ a = "$IN(".toList ++ rest := by
        simpa [inTokenStart] using hrest
      exact (List.isChain_cons.1 h).1 '$' (by simp) rfl rfl
    rw [Text.contains, hhere, ih (List.isChain_cons.1 h).2]
    rfl

end Tokenless

namespace Settled
variable {done : List Char}

theorem of_unmarked (h : '?' ∉ done) : Settled done :=
  ⟨.of_unmarked h, fun hlast => h (List.mem_of_getLast? hlast)⟩

theorem of_dollarless (h : '$' ∉ done) (hlast : done.getLast? ≠ some '?') : Settled done :=
  ⟨.of_dollarless h, hlast⟩

theorem append {more : List Char} (h : Settled done) (hmore : Settled more) :
    Settled (done ++ more) := by
  refine ⟨List.isChain_append.2 ⟨h.tokenless, hmore.tokenless, fun c hc _ _ hmark => ?_⟩, ?_⟩
  · rw [hmark] at hc
    exact absurd hc h.last
  · intro hlast
    rw [List.getLast?_append] at hlast
    rcases Option.or_eq_some_iff.1 hlast with hlast | ⟨-, hlast⟩
    · exact hmore.last hlast
    · exact h.last hlast

/-- The first token behind a settled text is the one that follows it. -/
theorem cutAt_token (h : Settled done) (rest : List Char) :
    Text.cutAt inTokenStart (done ++ (inTokenStart ++ rest)) = some (done, rest) := by
  have htokenless := h.tokenless
  clear h
  induction done with
  | nil =>
    have hstart : Text.dropStart inTokenStart ('?' :: ("$IN(".toList ++ rest)) = some rest :=
      Text.dropStart_eq_some_iff.2 rfl
    show Text.cutAt inTokenStart ('?' :: ("$IN(".toList ++ rest)) = _
    rw [Text.cutAt, hstart]
  | cons c done ih =>
    obtain ⟨hc, hdone⟩ := List.isChain_cons.1 htokenless
    have hhere : Text.dropStart inTokenStart (c :: (done ++ (inTokenStart ++ rest))) = none := by
      by_contra hne
      obtain ⟨other, hother⟩ := Option.ne_none_iff_exists'.1 hne
      rw [Text.dropStart_eq_some_iff] at hother
      have hmark : c = '?' := by simpa [inTokenStart] using congrArg List.head? hother
      have hnext := congrArg (fun text => text.tail.head?) hother
      cases done with
      | nil => simp [inTokenStart] at hnext
      | cons d done =>
        have hdollar : d = '$' := by simpa [inTokenStart] using hnext
        exact hc d (by simp) hmark hdollar
    rw [List.cons_append, Text.cutAt, hhere, ih hdone]
    rfl

end Settled

theorem dollar_notMem_marks (size : Nat) : '$' ∉ marks size := by
  fun_induction marks size <;> simp_all

theorem count_mark_marks (size : Nat) : (marks size).count '?' = size := by
  fun_induction marks size with
  | case1 => rfl
  | case2 => rfl
  | case3 size _ ih => simp [ih]

theorem count_mark_inText {column : List Char} (h : '?' ∉ column) (size : Nat) :
    (inText column size).count '?' = size := by
  unfold inText
  split
  · next hsize => rw [hsize]; rfl
  · simp only [List.count_append, count_mark_marks, List.count_eq_zero_of_not_mem h]
    simp

theorem settled_inText {column : List Char} (h : '?' ∉ column) (size : Nat) :
    Settled (inText column size) := by
  unfold inText
  split
  · exact .of_unmarked (by decide)
  · rw [List.append_assoc]
    refine .append (.of_unmarked ?_) (.of_dollarless ?_ (by simp))
    · simp [h]
    · simp [dollar_notMem_marks]

namespace Place
variable {p : Place}

/-- A place has one placeholder for each of the values that it receives. -/
theorem WellFormed.count_shown (h : p.WellFormed) (value : Value) :
    (p.shown value).count '?' = (p.received value).length := by
  unfold shown received
  cases hcolumn : p.column with
  | none => rfl
  | some column =>
    rw [Value.length_elements]
    exact count_mark_inText (h.column_unmarked column hcolumn) _

theorem WellFormed.settled (h : p.WellFormed) (value : Value) :
    Settled (p.shown value ++ p.after) := by
  have hafter : Settled p.after := .of_unmarked h.after_unmarked
  unfold shown
  cases hcolumn : p.column with
  | some column => exact (settled_inText (h.column_unmarked column hcolumn) _).append hafter
  | none =>
    -- the placeholder itself is not settled, but what follows it parts it from any dollar
    obtain ⟨c, rest, heq, hc⟩ := h.after_parted
    rw [heq] at hafter ⊢
    refine ⟨List.isChain_cons.2 ⟨fun d hd _ => ?_, hafter.tokenless⟩, ?_⟩
    · obtain rfl : c = d := by simpa using hd
      exact hc
    · simpa using hafter.last

end Place

/-- The slots, from the given one on, of tokens that have no values. -/
def Layout.emptied : Nat → List Place → List Value → List Nat
  | slot, p :: places, value :: values =>
    if p.column.isSome ∧ value.inSize = 0 then slot :: emptied (slot + 1) places values
    else emptied (slot + 1) places values
  | _, _, _ => []

namespace TokenScan
variable {done rest column : List Char} {slot : Nat}

theorem ofText_absent (h : Settled done) : ofText done = absent := by
  rw [ofText, Text.cutAt_eq_none_iff.2 h.tokenless.contains_inTokenStart]

theorem ofText_token (h : Settled done) (hslot : slot < Text.indexBound) (hcolumn : ')' ∉ column) :
    ofText (done ++ ((inToken slot (String.ofList column)).toList ++ rest)) =
      found ⟨done, slot, column, rest⟩ := by
  have hdigits : ∀ c ∈ (toString slot).toList, c.isDigit = true := fun _ =>
    Text.isDigit_of_mem_toString
  have htoken : (inToken slot (String.ofList column)).toList ++ rest =
      inTokenStart ++ (((toString slot).toList ++ ':' :: column) ++ ')' :: rest) := by
    simp [inToken, inTokenStart]
  have hbody : ')' ∉ (toString slot).toList ++ ':' :: column := by
    intro hmem
    rcases List.mem_append.1 hmem with hmem | hmem
    · exact absurd (hdigits _ hmem) (by decide)
    · exact hcolumn (by simpa using hmem)
  have hcolon : ':' ∉ (toString slot).toList := fun hmem => absurd (hdigits _ hmem) (by decide)
  rw [ofText, htoken, h.cutAt_token]
  simp only [Text.cutFirst_of_notMem hbody, Text.cutFirst_of_notMem hcolon,
    Text.readIndex_toString hslot]

end TokenScan

theorem expandTokens_of_absent {query : String} {sizes ignored : List Nat} {text : List Char}
    (h : TokenScan.ofText text = .absent) :
    expandTokens query sizes text ignored = .ok ⟨text, ignored⟩ := by
  rw [expandTokens]
  split <;> simp_all

theorem expandTokens_of_found {query : String} {sizes ignored : List Nat} {text : List Char}
    {t : FoundToken} {size : Nat} (h : TokenScan.ofText text = .found t)
    (hsize : sizes[t.slot]? = some size) :
    expandTokens query sizes text ignored =
      expandTokens query sizes (t.replace size)
        (if size = 0 then t.slot :: ignored else ignored) := by
  rw [expandTokens]
  split
  · simp_all
  · simp_all
  · next t' h' =>
    obtain rfl : t = t' := by simpa [h] using h'
    rw [hsize]

namespace Layout

/-- Expansion of the places behind a settled text. The loop looks from the start of the text again
after each token, and finds the next one each time, since what it has passed stays settled. -/
theorem expandTokens_places (query : String) {sizes : List Nat} {places : List Place}
    {values : List Value} {slot : Nat} {done : List Char} (ignored : List Nat)
    (hdone : Settled done) (hplaces : ∀ p ∈ places, p.WellFormed)
    (hlength : places.length = values.length)
    (hsizes : ∀ i, sizes[slot + i]? = values[i]?.map (·.inSize))
    (hbound : slot + places.length ≤ Text.indexBound) :
    expandTokens query sizes (done ++ templatePlaces slot places) ignored =
      .ok ⟨done ++ shownPlaces (places.zip values),
        (emptied slot places values).reverse ++ ignored⟩ := by
  induction places generalizing values slot done ignored with
  | nil =>
    rw [templatePlaces, List.append_nil, expandTokens_of_absent (TokenScan.ofText_absent hdone)]
    simp [shownPlaces, emptied]
  | cons p places ih =>
    obtain ⟨value, values, rfl⟩ : ∃ value rest, values = value :: rest := by
      cases values with
      | nil => simp at hlength
      | cons value rest => exact ⟨value, rest, rfl⟩
    have hp : p.WellFormed := hplaces p (by simp)
    have hrest : ∀ ignored,
        expandTokens query sizes
            (done ++ (p.shown value ++ p.after) ++ templatePlaces (slot + 1) places) ignored =
          .ok ⟨done ++ (p.shown value ++ p.after) ++ shownPlaces (places.zip values),
            (emptied (slot + 1) places values).reverse ++ ignored⟩ := fun ignored => by
      refine ih ignored (hdone.append (hp.settled value)) (fun p hmem => hplaces p (by simp [hmem]))
        (by simpa using hlength) (fun i => ?_) ?_
      · have := hsizes (i + 1)
        rwa [List.getElem?_cons_succ, ← Nat.add_assoc, Nat.add_right_comm] at this
      · simp only [List.length_cons] at hbound
        omega
    have hshown : shownPlaces ((p :: places).zip (value :: values)) =
        p.shown value ++ p.after ++ shownPlaces (places.zip values) := by
      simp [shownPlaces]
    rw [hshown, templatePlaces]
    cases hcolumn : p.column with
    | none =>
      have hplain : p.template slot = p.shown value := by simp [Place.template, Place.shown, hcolumn]
      rw [hplain, ← List.append_assoc, hrest]
      simp [emptied, hcolumn, List.append_assoc]
    | some column =>
      have hslot : slot < Text.indexBound := by
        simp only [List.length_cons] at hbound
        omega
      have hfound : TokenScan.ofText
          (done ++ (p.template slot ++ p.after ++ templatePlaces (slot + 1) places)) =
            .found ⟨done, slot, column, p.after ++ templatePlaces (slot + 1) places⟩ := by
        rw [List.append_assoc, Place.template, hcolumn]
        exact TokenScan.ofText_token hdone hslot (hp.column_open column hcolumn)
      have hsize : sizes[slot]? = some value.inSize := by simpa using hsizes 0
      have hreplace : (FoundToken.mk done slot column
            (p.after ++ templatePlaces (slot + 1) places)).replace value.inSize =
          done ++ (p.shown value ++ p.after) ++ templatePlaces (slot + 1) places := by
        simp [FoundToken.replace, Place.shown, hcolumn, List.append_assoc]
      rw [expandTokens_of_found hfound hsize, hreplace, hrest]
      by_cases hzero : value.inSize = 0 <;> simp [emptied, hcolumn, hzero, List.append_assoc]

theorem le_of_mem_emptied {places : List Place} {values : List Value} {slot i : Nat}
    (h : i ∈ emptied slot places values) : slot ≤ i := by
  fun_induction emptied slot places values with
  | case1 slot p places value values hempty ih =>
    rcases List.mem_cons.1 h with rfl | h
    · exact Nat.le_refl _
    · exact Nat.le_of_succ_le (ih h)
  | case2 slot p places value values hfull ih => exact Nat.le_of_succ_le (ih h)
  | case3 => simp at h

/-- The values that are bound when the slots without values are left out. -/
theorem boundValues_emptied {places : List Place} {values : List Value} (slot : Nat)
    (hlength : places.length = values.length)
    (hplain : ∀ pv ∈ places.zip values, pv.1.column = none → pv.2.length? = none)
    (ignored : List Nat) (hignored : ∀ i, slot ≤ i → (i ∈ ignored ↔ i ∈ emptied slot places values)) :
    (((values.zipIdx slot).filter fun (_, i) => !ignored.contains i).flatMap fun (value, _) =>
      value.flattened) = receivedPlaces (places.zip values) := by
  induction places generalizing values slot with
  | nil =>
    obtain rfl : values = [] := by simpa using hlength.symm
    rfl
  | cons p places ih =>
    obtain ⟨value, values, rfl⟩ : ∃ value rest, values = value :: rest := by
      cases values with
      | nil => simp at hlength
      | cons value rest => exact ⟨value, rest, rfl⟩
    have hrest := ih (slot + 1) (by simpa using hlength)
      (fun pv hmem => hplain pv (List.mem_cons_of_mem _ hmem)) fun i hi => by
        have hne : i ≠ slot := by omega
        rw [hignored i (by omega), emptied]
        split <;> simp [hne]
    clear ih
    have hhere : slot ∈ ignored ↔ p.column.isSome ∧ value.inSize = 0 := by
      have hlater : slot ∉ emptied (slot + 1) places values := fun h =>
        absurd (le_of_mem_emptied h) (by omega)
      rw [hignored slot (Nat.le_refl _), emptied]
      split
      · next h => simp [h]
      · next h => exact iff_of_false hlater h
    have hvalue : (if slot ∈ ignored then [] else value.flattened) = p.received value := by
      cases hcolumn : p.column with
      | none =>
        rw [if_neg (by simp [hhere, hcolumn]), Place.received, hcolumn]
        exact Value.flattened_of_length? (hplain (p, value) List.mem_cons_self hcolumn)
      | some column =>
        rw [Place.received, hcolumn]
        by_cases hzero : value.inSize = 0
        · rw [if_pos (hhere.2 ⟨by simp [hcolumn], hzero⟩)]
          exact (List.length_eq_zero_iff.1 (value.length_elements.trans hzero)).symm
        · rw [if_neg fun hmem => hzero (hhere.1 hmem).2]
          exact Value.flattened_of_inSize hzero
    rw [List.zipIdx_cons]
    show _ = p.received value ++ receivedPlaces (places.zip values)
    rw [← hvalue, ← hrest]
    by_cases hmem : slot ∈ ignored <;> simp [hmem]

theorem settled_shownPlaces {bound : List (Place × Value)} (h : ∀ pv ∈ bound, pv.1.WellFormed)
    {done : List Char} (hdone : Settled done) : Settled (done ++ shownPlaces bound) := by
  induction bound generalizing done with
  | nil => simpa [shownPlaces] using hdone
  | cons pv bound ih =>
    have hpv := hdone.append ((h pv (by simp)).settled pv.2)
    simpa [shownPlaces, List.append_assoc] using ih (fun pv hmem => h pv (by simp [hmem])) hpv

theorem count_shownPlaces {bound : List (Place × Value)} (h : ∀ pv ∈ bound, pv.1.WellFormed) :
    (shownPlaces bound).count '?' = (receivedPlaces bound).length := by
  induction bound with
  | nil => rfl
  | cons pv bound ih =>
    have hpv := h pv (by simp)
    have hrest := ih fun pv hmem => h pv (by simp [hmem])
    show (pv.1.shown pv.2 ++ pv.1.after ++ shownPlaces bound).count '?' =
      (pv.1.received pv.2 ++ receivedPlaces bound).length
    rw [List.count_append, List.count_append, List.length_append, hrest, hpv.count_shown,
      List.count_eq_zero_of_not_mem hpv.after_unmarked, Nat.add_zero]

namespace WellFormed
variable {l : Layout} {values : List Value}

theorem of_mem_zip (h : l.WellFormed) : ∀ pv ∈ l.places.zip values, pv.1.WellFormed :=
  fun pv hmem => h.places pv.1 (List.of_mem_zip (a := pv.1) (b := pv.2) hmem).1

/-- Expansion of a template, given one value for each of its places. -/
theorem expandTokens (h : l.WellFormed) (hlength : l.places.length = values.length)
    (hbound : l.places.length ≤ Text.indexBound) (query : String) :
    EntitySql.expandTokens query (values.map (·.inSize)) (l.template 0) [] =
      .ok ⟨l.shown values, (emptied 0 l.places values).reverse⟩ := by
  rw [template, expandTokens_places query [] (.of_unmarked h.lead_unmarked) h.places hlength
    (fun i => by simp) (by simpa using hbound), List.append_nil]
  rfl

theorem boundValues (hlength : l.places.length = values.length)
    (hplain : ∀ pv ∈ l.places.zip values, pv.1.column = none → pv.2.length? = none) :
    EntitySql.boundValues values (emptied 0 l.places values).reverse = l.received values :=
  boundValues_emptied 0 hlength hplain _ fun _ _ => by rw [List.mem_reverse]

theorem settled (h : l.WellFormed) : Settled (l.shown values) :=
  settled_shownPlaces h.of_mem_zip (.of_unmarked h.lead_unmarked)

/-- The placeholders of the statement are as many as its arguments. -/
theorem count_shown (h : l.WellFormed) : (l.shown values).count '?' = (l.received values).length := by
  rw [shown, List.count_append, List.count_eq_zero_of_not_mem h.lead_unmarked, Nat.zero_add]
  exact count_shownPlaces h.of_mem_zip

end WellFormed

end Layout

end EntitySql
