import EntitySql.Text.Quoted
import EntitySql.Text.Reader
import EntitySql.Text.Split

/-! # Universally unique identifiers

The text of an identifier is read back as that identifier (`Uuid.parse?_text`). -/

namespace EntitySql

structure Uuid where
  code : BitVec 128
deriving DecidableEq, Repr

namespace Uuid

open Text

/-- The lower-case text with hyphens after 8, 12, 16 and 20 digits. -/
def text (u : Uuid) : String :=
  let n := u.code.toNat
  let group (shift digits : Nat) : String := hex digits (n / Nat.pow 16 shift % Nat.pow 16 digits)
  group 24 8 ++ "-" ++ group 20 4 ++ "-" ++ group 16 4 ++ "-" ++ group 12 4 ++ "-" ++ group 0 12

/-- The number that hexadecimal digits of either case write, after the number `before`. -/
def hexNumber (before : Nat) : List Char → Option Nat
  | [] => some before
  | c :: rest => (hexDigit? c).bind fun d => hexNumber (before * 16 + d) rest

def ofDigits? (digits : List Char) : Option Uuid :=
  if digits.length = 32 then (hexNumber 0 digits).map fun n => ⟨BitVec.ofNat 128 n⟩ else none

/-- Five groups of 8, 4, 4, 4 and 12 digits with hyphens between. -/
def ofHyphenated? (cs : List Char) : Option Uuid :=
  match pieces '-' cs with
  | [a, b, c, d, e] =>
    if a.length = 8 ∧ b.length = 4 ∧ c.length = 4 ∧ d.length = 4 ∧ e.length = 12 then
      ofDigits? (a ++ b ++ c ++ d ++ e)
    else none
  | _ => none

/-- The text between a pair of braces. -/
def unbraced? : List Char → Option (List Char)
  | '\x7b' :: rest => if rest.getLast? = some '\x7d' then some rest.dropLast else none
  | _ => none

/-- What follows `urn:uuid:`, in any case of its letters. -/
def unlabelled? (cs : List Char) : Option (List Char) :=
  if (cs.take 9).map Char.toLower = "urn:uuid:".toList then some (cs.drop 9) else none

/-- The identifier that a text holds: 32 digits, or the hyphenated form alone, in braces or behind
`urn:uuid:`. -/
def parse? (s : String) : Option Uuid :=
  let cs := s.toList
  (ofDigits? cs).or <| (ofHyphenated? cs).or <|
    ((unbraced? cs).bind ofHyphenated?).or <|
      (unlabelled? cs).bind ofHyphenated?

/-! An identifier is written in groups of digits, each of which is read back as its number. -/

/-- The digits write the number in that many places. -/
def IsGroup (places : Nat) (digits : List Char) (n : Nat) : Prop :=
  digits.length = places ∧ hexNumber 0 digits = some n

theorem hexDigit?_digitChar {d : Nat} (h : d < 16) : hexDigit? d.digitChar = some d := by
  have hall : ∀ d < 16, hexDigit? (Nat.digitChar d) = some d := by decide
  exact hall d h

theorem hexNumber_eq_map (before : Nat) (digits : List Char) :
    hexNumber before digits = (hexNumber 0 digits).map (before * Nat.pow 16 digits.length + ·) := by
  induction digits generalizing before with
  | nil => simp [hexNumber]
  | cons c rest ih =>
    cases hd : hexDigit? c with
    | none => simp [hexNumber, hd]
    | some d =>
      simp only [hexNumber, hd, Option.bind_some]
      rw [ih (before * 16 + d), ih (0 * 16 + d), Option.map_map]
      congr 1
      funext n
      simp only [Function.comp_apply, List.length_cons, Nat.pow_eq, Nat.pow_succ]
      rw [Nat.zero_mul, Nat.zero_add, Nat.add_mul, Nat.add_assoc, Nat.mul_assoc, Nat.mul_comm 16]

theorem hexNumber_toDigits (n : Nat) (rest : List Char) :
    hexNumber 0 (Nat.toDigits 16 n ++ rest) = hexNumber n rest := by
  induction n using Nat.strongRecOn generalizing rest with
  | ind n ih =>
    have step : ∀ before d, d < 16 → before * 16 + d = n →
        hexNumber before (d.digitChar :: rest) = hexNumber n rest := by
      intro before d hd hbefore
      rw [hexNumber, hexDigit?_digitChar hd, Option.bind_some, hbefore]
    rcases Nat.lt_or_ge n 16 with h | h
    · rw [Nat.toDigits_of_lt_base h]
      exact step 0 n h (by omega)
    · rw [Nat.toDigits_of_base_le (by decide) h, List.append_assoc, ih (n / 16) (by omega)]
      exact step (n / 16) (n % 16) (Nat.mod_lt _ (by decide)) (by omega)

theorem isGroup_hex {places n : Nat} (hplaces : 0 < places) (hn : n < Nat.pow 16 places) :
    IsGroup places (hex places n).toList n := by
  have hlength : (Nat.toDigits 16 n).length ≤ places :=
    (Nat.length_toDigits_le_iff (by decide) hplaces).2 hn
  have hzeros : ∀ count cs, hexNumber 0 (List.replicate count '0' ++ cs) = hexNumber 0 cs := by
    intro count cs
    induction count with
    | zero => rfl
    | succ count ih =>
      rw [List.replicate_succ, List.cons_append, hexNumber]
      exact ih
  constructor
  · simp only [hex, String.toList_ofList, List.length_append, List.length_replicate]
    omega
  · have hdigits := hexNumber_toDigits n []
    rw [List.append_nil] at hdigits
    rw [hex, String.toList_ofList, hzeros, hdigits]
    rfl

theorem IsGroup.hyphen_notMem {places n : Nat} {digits : List Char} (h : IsGroup places digits n) :
    '-' ∉ digits := by
  have hall : ∀ (before n : Nat) (digits : List Char), hexNumber before digits = some n →
      '-' ∉ digits := by
    intro before n digits
    induction digits generalizing before with
    | nil => simp
    | cons c rest ih =>
      intro h hmem
      obtain ⟨d, hd, hrest⟩ := Option.bind_eq_some_iff.1 h
      rcases List.mem_cons.1 hmem with rfl | hmem
      · have hnone : hexDigit? '-' = none := by decide
        rw [hnone] at hd
        cases hd
      · exact ih _ hrest hmem
  exact hall 0 n digits h.2

theorem IsGroup.append {places places' n n' : Nat} {digits digits' : List Char}
    (h : IsGroup places digits n) (h' : IsGroup places' digits' n') :
    IsGroup (places + places') (digits ++ digits') (n * Nat.pow 16 places' + n') := by
  have happend : ∀ before, hexNumber before (digits ++ digits') =
      (hexNumber before digits).bind fun n => hexNumber n digits' := by
    generalize digits = digits
    induction digits with
    | nil => exact fun _ => rfl
    | cons c rest ih =>
      intro before
      rw [List.cons_append, hexNumber, hexNumber]
      cases hexDigit? c with
      | none => rfl
      | some d => exact ih _
  refine ⟨by rw [List.length_append, h.1, h'.1], ?_⟩
  rw [happend, h.2, Option.bind_some, hexNumber_eq_map, h'.2, h'.1]
  rfl

theorem ofHyphenated?_groups {a b c d e : List Char} {na nb nc nd ne : Nat} (ha : IsGroup 8 a na)
    (hb : IsGroup 4 b nb) (hc : IsGroup 4 c nc) (hd : IsGroup 4 d nd) (he : IsGroup 12 e ne) :
    ofHyphenated? (a ++ '-' :: (b ++ '-' :: (c ++ '-' :: (d ++ '-' :: e)))) = some ⟨BitVec.ofNat 128
      ((((na * Nat.pow 16 4 + nb) * Nat.pow 16 4 + nc) * Nat.pow 16 4 + nd) * Nat.pow 16 12 + ne)⟩ := by
  obtain ⟨hlength, hnumber⟩ := (((ha.append hb).append hc).append hd).append he
  rw [ofHyphenated?, pieces_append ha.hyphen_notMem, pieces_append hb.hyphen_notMem,
    pieces_append hc.hyphen_notMem, pieces_append hd.hyphen_notMem,
    pieces_of_notMem he.hyphen_notMem]
  simp only [ha.1, hb.1, hc.1, hd.1, he.1, and_self, ↓reduceIte]
  rw [ofDigits?, if_pos hlength, hnumber, Option.map_some]

theorem toList_hyphenated (a b c d e : String) :
    (a ++ "-" ++ b ++ "-" ++ c ++ "-" ++ d ++ "-" ++ e).toList = a.toList ++ '-' ::
      (b.toList ++ '-' :: (c.toList ++ '-' :: (d.toList ++ '-' :: e.toList))) := by
  simp

/-- The text of an identifier is read as that identifier. -/
theorem parse?_text (u : Uuid) : parse? u.text = some u := by
  have group : ∀ shift places, 0 < places → IsGroup places
      (hex places (u.code.toNat / Nat.pow 16 shift % Nat.pow 16 places)).toList
      (u.code.toNat / Nat.pow 16 shift % Nat.pow 16 places) := fun shift places hplaces =>
    isGroup_hex hplaces (Nat.mod_lt _ (Nat.pow_pos (by decide)))
  have ha := group 24 8 (by decide)
  have hb := group 20 4 (by decide)
  have hc := group 16 4 (by decide)
  have hd := group 12 4 (by decide)
  have he := group 0 12 (by decide)
  have htext : u.text.toList = _ := toList_hyphenated _ _ _ _ _
  have hcode : u.code.toNat < 2 ^ 128 := u.code.isLt
  have hyphenated : ofHyphenated? u.text.toList = some u := by
    rw [htext, ofHyphenated?_groups ha hb hc hd he]
    have hnumber : ((((u.code.toNat / Nat.pow 16 24 % Nat.pow 16 8 * Nat.pow 16 4 +
        u.code.toNat / Nat.pow 16 20 % Nat.pow 16 4) * Nat.pow 16 4 +
        u.code.toNat / Nat.pow 16 16 % Nat.pow 16 4) * Nat.pow 16 4 +
        u.code.toNat / Nat.pow 16 12 % Nat.pow 16 4) * Nat.pow 16 12 +
        u.code.toNat / Nat.pow 16 0 % Nat.pow 16 12) = u.code.toNat := by
      generalize u.code.toNat = n at hcode
      simp only [Nat.pow_eq, Nat.reducePow] at hcode ⊢
      omega
    rw [hnumber, BitVec.ofNat_toNat, BitVec.setWidth_eq]
  have hplain : ofDigits? u.text.toList = none := by
    refine if_neg ?_
    rw [htext]
    simp only [List.length_append, List.length_cons, ha.1, hb.1, hc.1, hd.1, he.1]
    decide
  rw [parse?, hplain, hyphenated]
  rfl

end Uuid

end EntitySql
