import EntitySql.Proofs.Statement.Layout
import Mathlib.Data.List.Chain

/-! # Rounds of an expansion

The expansion of any text as the rounds that it takes, each of which looks for a token from the start of
the text again (`Expansion.Round`), and the ways in which it stops (`Expansion.Stop`). A round may make the
text longer, leave as many tokens as there were, or put a token together that was not there before. What it
always takes away is a colon: the one between the slot and the column of the token that it replaces. So
there are no more rounds than colons (`Expansion.length_le_of_isChain`), and the text that is left over has
no token, unless the expansion fails (`expandTokens_stops`). -/

namespace EntitySql

theorem TokenScan.ofText_eq_absent_iff {text : List Char} :
    ofText text = absent ↔ Text.contains inTokenStart text = false := by
  rw [← Text.cutAt_eq_none_iff]
  constructor
  · intro h
    unfold ofText at h
    split at h
    · next hcut => exact hcut
    · next before rest hcut =>
      split at h
      · cases h
      split at h
      · cases h
      split at h <;> cases h
  · intro h
    rw [ofText, h]

section
variable {query : String} {sizes ignored : List Nat} {text : List Char}

theorem expandTokens_of_malformed (h : TokenScan.ofText text = .malformed) :
    expandTokens query sizes text ignored = .error (.configuration (.malformedIn query)) := by
  rw [expandTokens]
  split <;> simp_all

theorem expandTokens_of_missing {t : FoundToken} (h : TokenScan.ofText text = .found t)
    (hslot : sizes.length ≤ t.slot) :
    expandTokens query sizes text ignored = .error (.configuration (.missingBinding t.slot)) := by
  rw [expandTokens]
  split
  · simp_all
  · simp_all
  · next t' h' =>
    obtain rfl : t = t' := by simpa [h] using h'
    rw [List.getElem?_eq_none hslot]

end

namespace Expansion
variable {query : String} {values : List Value} {x y : Expansion} {rounds : List Expansion}
  {outcome : Outcome Expansion}

/-- One round: the first token becomes the comparison with the value in its slot, which is left out from
the arguments if it is empty. -/
inductive Round (values : List Value) (x : Expansion) : Expansion → Prop
  | replace {t : FoundToken} {value : Value} (htoken : TokenScan.ofText x.text = .found t)
    (hvalue : values[t.slot]? = some value) :
    Round values x ⟨t.replace value.inSize,
      if value.inSize = 0 then t.slot :: x.ignored else x.ignored⟩

/-- How the rounds stop: no token is left, or the first one cannot be read or names no slot. -/
inductive Stop (query : String) (values : List Value) (x : Expansion) : Outcome Expansion → Prop
  | done (h : Text.contains inTokenStart x.text = false) : Stop query values x (.ok x)
  | malformed (h : TokenScan.ofText x.text = .malformed) :
    Stop query values x (.error (.configuration (.malformedIn query)))
  | missing {t : FoundToken} (h : TokenScan.ofText x.text = .found t)
    (hslot : values.length ≤ t.slot) :
    Stop query values x (.error (.configuration (.missingBinding t.slot)))

/-- Whatever the text is, there is a next round, or the rounds stop here. -/
theorem round_or_stop (query : String) (values : List Value) (x : Expansion) :
    (∃ y, Round values x y) ∨ ∃ outcome, Stop query values x outcome := by
  cases hscan : TokenScan.ofText x.text with
  | absent => exact .inr ⟨_, .done (TokenScan.ofText_eq_absent_iff.1 hscan)⟩
  | malformed => exact .inr ⟨_, .malformed hscan⟩
  | found t =>
    cases hvalue : values[t.slot]? with
    | none => exact .inr ⟨_, .missing hscan (List.getElem?_eq_none_iff.1 hvalue)⟩
    | some value => exact .inl ⟨_, .replace hscan hvalue⟩

theorem Round.count_lt (h : Round values x y) : y.text.count ':' < x.text.count ':' := by
  cases h with
  | replace htoken _ => exact count_replaceToken_lt htoken _

/-- A round leaves out no slot but one of the table. -/
theorem Round.slot_lt (h : Round values x y) {slot : Nat} (hslot : slot ∈ y.ignored) :
    slot ∈ x.ignored ∨ slot < values.length := by
  cases h with
  | @replace t value _ hvalue =>
    dsimp only at hslot
    split at hslot
    · rcases List.mem_cons.1 hslot with rfl | hslot
      · exact .inr (List.getElem?_eq_some_iff.1 hvalue).1
      · exact .inl hslot
    · exact .inl hslot

theorem length_le_of_isChain (h : List.IsChain (Round values) (x :: rounds)) :
    rounds.length ≤ x.text.count ':' := by
  induction rounds generalizing x with
  | nil => exact Nat.zero_le _
  | cons y rounds ih =>
    obtain ⟨hround, hrest⟩ := List.isChain_cons_cons.1 h
    exact Nat.succ_le_of_lt (Nat.lt_of_le_of_lt (ih hrest) hround.count_lt)

theorem slot_lt_of_isChain (h : List.IsChain (Round values) (x :: rounds)) :
    ∀ y ∈ rounds, ∀ slot ∈ y.ignored, slot ∈ x.ignored ∨ slot < values.length := by
  induction rounds generalizing x with
  | nil => simp
  | cons z rounds ih =>
    obtain ⟨hround, hrest⟩ := List.isChain_cons_cons.1 h
    refine List.forall_mem_cons.2 ⟨fun slot hslot => hround.slot_lt hslot, fun y hy slot hslot => ?_⟩
    exact (ih hrest y hy slot hslot).elim hround.slot_lt .inr

/-! ### The rounds are those of the function -/

theorem Round.expandTokens_eq (query : String) (h : Round values x y) :
    expandTokens query (values.map (·.inSize)) x.text x.ignored =
      expandTokens query (values.map (·.inSize)) y.text y.ignored := by
  cases h with
  | replace htoken hvalue =>
    exact expandTokens_of_found htoken (by rw [List.getElem?_map, hvalue, Option.map_some])

theorem Stop.expandTokens_eq (h : Stop query values x outcome) :
    expandTokens query (values.map (·.inSize)) x.text x.ignored = outcome := by
  cases h with
  | done h => exact expandTokens_of_absent (TokenScan.ofText_eq_absent_iff.2 h)
  | malformed h => exact expandTokens_of_malformed h
  | missing h hslot => exact expandTokens_of_missing h (by simpa using hslot)

/-- From every text the rounds come to a stop, with what the function gives for the text. -/
theorem exists_rounds (query : String) (values : List Value) (x : Expansion) :
    ∃ rounds last, List.IsChain (Round values) (x :: rounds) ∧ last ∈ (x :: rounds).getLast? ∧
      Stop query values last (expandTokens query (values.map (·.inSize)) x.text x.ignored) := by
  rcases round_or_stop query values x with ⟨y, hround⟩ | ⟨outcome, hstop⟩
  · have := hround.count_lt
    obtain ⟨rounds, last, hchain, hlast, hstop⟩ := exists_rounds query values y
    refine ⟨y :: rounds, last, List.isChain_cons_cons.2 ⟨hround, hchain⟩, ?_, ?_⟩
    · rw [List.getLast?_cons_cons]
      exact hlast
    · rw [hround.expandTokens_eq query]
      exact hstop
  · exact ⟨[], x, List.isChain_singleton x, rfl, hstop.expandTokens_eq ▸ hstop⟩
termination_by x.text.count ':'

end Expansion

open Expansion in
/-- The expansion of any text stops after a number of rounds that no run of them exceeds, each of which
replaces a token of a slot in the table. What it gives is then a text without tokens, or the error of a
token that cannot be read or has no slot. -/
theorem expandTokens_stops (query : String) (values : List Value) (x : Expansion) :
    (∀ rounds, List.IsChain (Round values) (x :: rounds) → rounds.length ≤ x.text.count ':' ∧
      ∀ y ∈ rounds, ∀ slot ∈ y.ignored, slot ∈ x.ignored ∨ slot < values.length) ∧
    (∃ rounds last, List.IsChain (Round values) (x :: rounds) ∧ last ∈ (x :: rounds).getLast? ∧
      Stop query values last (expandTokens query (values.map (·.inSize)) x.text x.ignored)) ∧
    ((∃ y, expandTokens query (values.map (·.inSize)) x.text x.ignored = .ok y ∧
        Text.contains inTokenStart y.text = false ∧
        ∀ slot ∈ y.ignored, slot ∈ x.ignored ∨ slot < values.length) ∨
      ∃ cause, expandTokens query (values.map (·.inSize)) x.text x.ignored =
        .error (.configuration cause)) := by
  obtain ⟨rounds, last, hchain, hlast, hstop⟩ := exists_rounds query values x
  refine ⟨fun rounds h => ⟨length_le_of_isChain h, slot_lt_of_isChain h⟩,
    ⟨rounds, last, hchain, hlast, hstop⟩, ?_⟩
  generalize expandTokens query (values.map (·.inSize)) x.text x.ignored = outcome at hstop
  cases hstop with
  | malformed | missing => exact .inr ⟨_, rfl⟩
  | done htext =>
    refine .inl ⟨last, rfl, htext, fun slot hslot => ?_⟩
    rcases List.mem_cons.1 (List.mem_of_getLast? hlast) with rfl | hlast
    · exact .inl hslot
    · exact slot_lt_of_isChain hchain last hlast slot hslot

end EntitySql
