import EntitySql.Metadata.Naming
import EntitySql.Text.Split

/-! # Texts without blanks

Names that are derived from texts without blanks have none either: no case mapping and no naming strategy
writes a blank of its own. And a text is the blanks in it with the words between, so that texts of such
words are equal only if the words are. -/

namespace EntitySql

def Blankless (text : String) : Prop := ' ' ∉ text.toList

instance (text : String) : Decidable (Blankless text) := inferInstanceAs (Decidable (' ' ∉ text.toList))

@[simp] theorem Blankless.append_iff {a b : String} : Blankless (a ++ b) ↔ Blankless a ∧ Blankless b := by
  simp only [Blankless, String.toList_append, List.mem_append, not_or]

theorem Blankless.intercalate {sep : String} {texts : List String} (hsep : Blankless sep)
    (h : ∀ text ∈ texts, Blankless text) : Blankless (sep.intercalate texts) := by
  induction texts with
  | nil => simp [Blankless]
  | cons text texts ih =>
    have htext := h text (by simp)
    have hrest := ih fun text hmem => h text (by simp [hmem])
    cases texts with
    | nil => simpa using htext
    | cons next texts =>
      rw [String.intercalate_cons_cons, append_iff, append_iff]
      exact ⟨⟨htext, hsep⟩, hrest⟩

namespace Text

/-! ### Case mappings -/

theorem eq_of_ofNat_eq {code : Nat} {c : Char} (hc : c.toNat ≠ 0) (h : Char.ofNat code = c) :
    code = c.toNat := by
  by_cases hvalid : code.isValidChar
  · rw [Char.ofNat, dif_pos hvalid] at h
    exact congrArg Char.toNat h
  · rw [Char.ofNat, dif_neg hvalid] at h
    exact absurd (congrArg Char.toNat h.symm) hc

/-- A character that no run and no longer entry leads to is the lower case of itself at most. -/
theorem notMem_lowerChar {d : Char} (hd : d.toNat ≠ 0)
    (hruns : ∀ run ∈ CaseTable.toLower.toList, run.covers (d.toNat - run.shift).toNat = false)
    (hlong : ∀ entry ∈ CaseTable.toLowerLong.toList, d.toNat ∉ entry.2) {c : Char} (hc : c ≠ d) :
    d ∉ lowerChar c := by
  intro hmem
  unfold lowerChar mapChar at hmem
  split at hmem
  · next run hrun =>
    have hcovers := Array.find?_some hrun
    have htarget := eq_of_ofNat_eq hd (List.mem_singleton.1 hmem).symm
    have hcode : c.toNat = (d.toNat - run.shift).toNat := by
      unfold ShiftRun.apply at htarget
      omega
    have hfalse := hruns run (Array.mem_toList_iff.2 (Array.mem_of_find?_eq_some hrun))
    rw [← hcode, hcovers] at hfalse
    cases hfalse
  · split at hmem
    · next code codes hentry =>
      obtain ⟨code', hcode', htarget⟩ := List.mem_map.1 hmem
      have hfound := hlong _ (Array.mem_toList_iff.2 (Array.mem_of_find?_eq_some hentry))
      exact hfound (eq_of_ofNat_eq hd htarget ▸ hcode')
    · exact hc (List.mem_singleton.1 hmem).symm

theorem blank_notMem_lowerChar {c : Char} (hc : c ≠ ' ') : ' ' ∉ lowerChar c :=
  notMem_lowerChar (by decide) (by decide +kernel) (by decide) hc

theorem blank_notMem_lowerAfter {before cs : List Char} (h : ' ' ∉ cs) : ' ' ∉ lowerAfter before cs := by
  induction cs generalizing before with
  | nil => simp [lowerAfter]
  | cons c rest ih =>
    simp only [List.mem_cons, not_or] at h
    simp only [lowerAfter, List.mem_append, not_or]
    refine ⟨?_, ih h.2⟩
    split
    · unfold lowerSigma
      split <;> decide
    · exact blank_notMem_lowerChar (Ne.symm h.1)

theorem notMem_snakeAfter {d : Char} (hd : d ≠ '_') {written cs : List Char} (hwritten : d ∉ written)
    (hupper : ∀ c ∈ cs, isUppercase c = true → d ∉ lowerChar c)
    (hother : ∀ c ∈ cs, isUppercase c = false → c ≠ d) : d ∉ snakeAfter written cs := by
  induction cs generalizing written with
  | nil => simpa [snakeAfter] using hwritten
  | cons c rest ih =>
    obtain ⟨hupper, hupperRest⟩ := List.forall_mem_cons.1 hupper
    obtain ⟨hother, hotherRest⟩ := List.forall_mem_cons.1 hother
    unfold snakeAfter
    split
    · next hcapital =>
      refine ih ?_ hupperRest hotherRest
      simp only [List.mem_append, List.mem_reverse, not_or]
      refine ⟨⟨hupper hcapital, ?_⟩, hwritten⟩
      split
      · simp
      · split <;> simp [hd]
    · next hplain =>
      have hne := hother (by simpa using hplain)
      exact ih (by simp [Ne.symm hne, hwritten]) hupperRest hotherRest

end Text

namespace Blankless
variable {text : String}

theorem lower (h : Blankless text) : Blankless (Text.lower text) := by
  unfold Blankless Text.lower
  rw [String.toList_ofList]
  exact Text.blank_notMem_lowerAfter h

theorem snakeCase (h : Blankless text) : Blankless (Text.snakeCase text) := by
  unfold Blankless Text.snakeCase
  rw [String.toList_ofList]
  have hne : ∀ c ∈ text.toList, c ≠ ' ' := fun c hc heq => h (heq ▸ hc)
  exact Text.notMem_snakeAfter (by decide) (by simp) (fun c hc _ => Text.blank_notMem_lowerChar (hne c hc))
    fun c hc _ => hne c hc

theorem decapitalize (h : Blankless text) : Blankless (Text.decapitalize text) := by
  unfold Text.decapitalize
  unfold Blankless at h
  split
  · decide
  · next c rest hcs =>
    rw [hcs, List.mem_cons, not_or] at h
    unfold Blankless
    rw [String.toList_ofList, List.mem_append, not_or]
    exact ⟨Text.blank_notMem_lowerChar (Ne.symm h.1), h.2⟩

/-! ### Naming strategies -/

theorem columnName (naming : Naming) (h : Blankless text) : Blankless (naming.columnName text) := by
  cases naming with
  | raw => exact h
  | underscored => exact h.snakeCase

theorem entityTable (naming : Naming) (h : Blankless text) : Blankless (naming.entityTable text) := by
  cases naming with
  | raw => exact h.lower
  | underscored => exact h.snakeCase

theorem referenceColumn (naming : Naming) (h : Blankless text) : Blankless (naming.referenceColumn text) :=
  columnName naming (append_iff.2 ⟨h, by decide⟩)

theorem foreignKeyColumn (naming : Naming) (h : Blankless text) :
    Blankless (naming.foreignKeyColumn text) :=
  columnName naming (append_iff.2 ⟨h.decapitalize, by decide⟩)

theorem joinTable (naming : Naming) {owner association : String} (howner : Blankless owner)
    (hassociation : Blankless association) : Blankless (naming.joinTable owner association) :=
  columnName naming (append_iff.2 ⟨append_iff.2 ⟨howner.decapitalize, by decide⟩, hassociation⟩)

theorem quoteIdentifier (h : Blankless text) : Blankless (quoteIdentifier text) :=
  append_iff.2 ⟨append_iff.2 ⟨by decide, h⟩, by decide⟩

end Blankless

/-! ### Words -/

namespace Text
variable {sep : Char}

theorem pieces_append_sep (before after : List Char) :
    pieces sep (before ++ sep :: after) = pieces sep before ++ pieces sep after := by
  induction before with
  | nil => simp [pieces]
  | cons c before ih =>
    rw [List.cons_append, pieces, pieces, ih]
    split
    · rfl
    · cases hpieces : pieces sep before with
      | nil => exact absurd hpieces (pieces_ne_nil sep before)
      | cons piece others => rfl

theorem pieces_joinWith {words : List (List Char)} (hne : words ≠ []) (h : ∀ word ∈ words, sep ∉ word) :
    pieces sep (joinWith sep words) = words := by
  induction words with
  | nil => exact absurd rfl hne
  | cons word words ih =>
    cases words with
    | nil => exact pieces_of_notMem (h word (by simp))
    | cons next words =>
      rw [joinWith, pieces_append (h word (by simp)), ih (by simp) fun word hword => h word (by simp [hword])]
      simp

end Text

end EntitySql
