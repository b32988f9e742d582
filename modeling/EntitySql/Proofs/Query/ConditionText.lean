import EntitySql.Proofs.Query.ConditionReader
import EntitySql.Proofs.Query.Names

/-! # Texts of conditions

The text of a condition says its tree and no other condition (`Condition.saysOnly_text`), whatever
parentheses it leaves out: an operand without them is a constant, which binds as tightly as one with
them, or the start of a chain to the left. -/

namespace EntitySql

namespace Lexeme
variable {rest : List Char}

/-- Whether a word ends in front of the text. -/
def Ends : List Char → Prop
  | [] => True
  | c :: _ => IsSeparator c

theorem scan_ends (h : Ends rest) (start : List Char) : scan start rest = flush start ++ scan [] rest := by
  cases rest with
  | nil => simp [scan, flush]
  | cons c rest => rcases h with rfl | rfl | rfl <;> simp [scan, flush]

theorem scan_append {text : List Char} (h : ∀ c ∈ text, ¬ IsSeparator c) (start : List Char) :
    scan start (text ++ rest) = scan (start ++ text) rest := by
  induction text generalizing start with
  | nil => simp
  | cons c text ih =>
    have hc : ¬ IsSeparator c := h c (by simp)
    simp only [IsSeparator, not_or] at hc
    rw [List.cons_append, scan, if_neg hc.1, if_neg hc.2.1, if_neg hc.2.2,
      ih fun d hd => h d (by simp [hd])]
    simp

theorem scan_word {text : String} (h : IsWord text) (hrest : Ends rest) :
    scan [] (text.toList ++ rest) = .word text :: scan [] rest := by
  have hflush : flush text.toList = [.word text] := by
    unfold flush
    split
    · next hnil => exact absurd (String.toList_eq_nil_iff.1 hnil) h.1
    · rw [String.ofList_toList]
  rw [scan_append h.2, List.nil_append, scan_ends hrest, hflush]
  rfl

theorem scan_blank : scan [] (' ' :: rest) = scan [] rest := by simp [scan, flush]

theorem scan_opening : scan [] ('(' :: rest) = .opening :: scan [] rest := by simp [scan, flush]

theorem scan_closing : scan [] (')' :: rest) = .closing :: scan [] rest := by simp [scan, flush]

end Lexeme

open Lexeme

namespace ConditionTree

def columns : ConditionTree → List String
  | comparison _ column | inList _ column | isNull column | isNotNull column => [column]
  | connected _ left right => left.columns ++ right.columns
  | not inner => inner.columns
  | always | never => []

/-- Conditions nested to the left; a single one is itself. -/
def nested (connective : Connective) (empty : ConditionTree) : List ConditionTree → ConditionTree
  | [] => empty
  | first :: others => others.foldl (connected connective) first

end ConditionTree

namespace Condition

/-- The tree of a condition, whose columns are as they stand in the text. -/
def tree : Condition → ConditionTree
  | always => .always
  | never => .never
  | comparison operator column => .comparison operator column.text
  | inList slot column => .inList slot column.text
  | isNull column => .isNull column.text
  | isNotNull column => .isNotNull column.text
  | connected connective left right => .connected connective left.tree right.tree
  | not inner => .not inner.tree

theorem columns_tree (condition : Condition) :
    condition.tree.columns = condition.columns.map (·.text) := by
  induction condition with
  | connected connective left right ihl ihr =>
    rw [tree, ConditionTree.columns, ihl, ihr, columns, List.map_append]
  | not inner ih => exact ih
  | _ => rfl

def operandLexemes (bare : Bool) (lexemes : List Lexeme) : List Lexeme :=
  if bare then lexemes else .opening :: (lexemes ++ [.closing])

/-- The lexemes in the text of a condition. -/
def lexemes : Condition → List Lexeme
  | always => [.word "1", .word "=", .word "1"]
  | never => [.word "1", .word "=", .word "2"]
  | comparison operator column => [.word column.text, .word operator.operator, .word "?"]
  | inList slot column =>
    [.word "?$IN", .opening, .word (toString slot ++ ":" ++ column.text), .closing]
  | isNull column => [.word column.text, .word "IS", .word "NULL"]
  | isNotNull column => [.word column.text, .word "IS", .word "NOT", .word "NULL"]
  | connected connective left right =>
    operandLexemes (left.isConstant || left.isChainOf connective) left.lexemes ++
      .word connective.keyword :: operandLexemes right.isConstant right.lexemes
  | not inner => .word "NOT" :: operandLexemes inner.isConstant inner.lexemes

theorem columnOperand_eq {column : QualifiedColumn} (h : IsColumnWord column.text) :
    columnOperand column = column.text := by
  have hnone : ¬ (Text.dropStart inTokenStart column.text.toList).isSome := by
    rw [Option.isSome_iff_exists]
    rintro ⟨rest, hrest⟩
    rw [Text.dropStart_eq_some_iff] at hrest
    exact h.unmarked (by rw [hrest]; simp [inTokenStart])
  rw [columnOperand, if_neg hnone]

theorem scan_operand {text : String} {lexemes : List Lexeme}
    (h : ∀ rest, Ends rest → scan [] (text.toList ++ rest) = lexemes ++ scan [] rest) (bare : Bool)
    (rest : List Char) (hrest : Ends rest) :
    scan [] ((operand bare text).toList ++ rest) = operandLexemes bare lexemes ++ scan [] rest := by
  cases bare with
  | true => exact h rest hrest
  | false =>
    have htext : (operand false text).toList ++ rest = '(' :: (text.toList ++ ')' :: rest) := by
      simp [operand, parenthesized]
    rw [htext, scan_opening, h (')' :: rest) (by simp [Ends, IsSeparator]), scan_closing]
    simp [operandLexemes]

/-- A word and a blank. -/
theorem scan_word_blank {text : String} (h : IsWord text) (rest : List Char) :
    scan [] (text.toList ++ ' ' :: rest) = .word text :: scan [] rest := by
  rw [scan_word h (by simp [Ends, IsSeparator]), scan_blank]

theorem scan_text {condition : Condition} (h : ∀ column ∈ condition.columns, IsColumnWord column.text) :
    ∀ rest, Ends rest →
      scan [] (condition.text.toList ++ rest) = condition.lexemes ++ scan [] rest := by
  have hword : ∀ word ∈ ["1", "2", "=", "?", "?$IN", "IS", "NOT", "NULL"], IsWord word := by
    decide +kernel
  have hcolumn : ∀ {column : QualifiedColumn}, IsColumnWord column.text → IsWord column.text :=
    fun h => (isColumnWord_iff.1 h).1
  induction condition with
  | always =>
    intro rest hrest
    show scan [] ("1".toList ++ ' ' :: ("=".toList ++ ' ' :: ("1".toList ++ rest))) = _
    rw [scan_word_blank (hword "1" (by simp)), scan_word_blank (hword "=" (by simp)),
      scan_word (hword "1" (by simp)) hrest]
    rfl
  | never =>
    intro rest hrest
    show scan [] ("1".toList ++ ' ' :: ("=".toList ++ ' ' :: ("2".toList ++ rest))) = _
    rw [scan_word_blank (hword "1" (by simp)), scan_word_blank (hword "=" (by simp)),
      scan_word (hword "2" (by simp)) hrest]
    rfl
  | comparison operator column =>
    have hword' := h column (by simp [columns])
    have hoperator : IsWord operator.operator := by cases operator <;> decide +kernel
    intro rest hrest
    have htext : (text (comparison operator column)).toList ++ rest =
        column.text.toList ++ ' ' :: (operator.operator.toList ++ ' ' :: ("?".toList ++ rest)) := by
      simp [text, columnOperand_eq hword']
    rw [htext, scan_word_blank (hcolumn hword'), scan_word_blank hoperator,
      scan_word (hword "?" (by simp)) hrest]
    rfl
  | inList slot column =>
    have hword' := h column (by simp [columns])
    have hdigits : ∀ c ∈ (toString slot).toList, ¬ IsSeparator c := fun c hc hsep => by
      have hdigit := Text.isDigit_of_mem_toString hc
      rcases hsep with rfl | rfl | rfl <;> exact absurd hdigit (by decide)
    have hbody : IsWord (toString slot ++ ":" ++ column.text) := by
      refine ⟨by simp, fun c hc => ?_⟩
      simp only [String.toList_append, List.mem_append] at hc
      rcases hc with (hc | hc) | hc
      · exact hdigits c hc
      · obtain rfl : c = ':' := by simpa using hc
        decide
      · exact hword'.unparted c hc
    intro rest hrest
    have htext : (text (inList slot column)).toList ++ rest = "?$IN".toList ++ '(' ::
        ((toString slot ++ ":" ++ column.text).toList ++ ')' :: rest) := by
      simp [text, inToken]
    rw [htext, scan_word (hword "?$IN" (by simp)) (by simp [Ends, IsSeparator]), scan_opening,
      scan_word hbody (by simp [Ends, IsSeparator]), scan_closing]
    rfl
  | isNull column =>
    have hword' := h column (by simp [columns])
    intro rest hrest
    have htext : (text (isNull column)).toList ++ rest =
        column.text.toList ++ ' ' :: ("IS".toList ++ ' ' :: ("NULL".toList ++ rest)) := by
      simp [text, columnOperand_eq hword']
    rw [htext, scan_word_blank (hcolumn hword'), scan_word_blank (hword "IS" (by simp)),
      scan_word (hword "NULL" (by simp)) hrest]
    rfl
  | isNotNull column =>
    have hword' := h column (by simp [columns])
    intro rest hrest
    have htext : (text (isNotNull column)).toList ++ rest = column.text.toList ++ ' ' ::
        ("IS".toList ++ ' ' :: ("NOT".toList ++ ' ' :: ("NULL".toList ++ rest))) := by
      simp [text, columnOperand_eq hword']
    rw [htext, scan_word_blank (hcolumn hword'), scan_word_blank (hword "IS" (by simp)),
      scan_word_blank (hword "NOT" (by simp)), scan_word (hword "NULL" (by simp)) hrest]
    rfl
  | connected connective left right ihl ihr =>
    have hl := scan_operand (ihl fun column hmem => h column (by simp [columns, hmem]))
    have hr := scan_operand (ihr fun column hmem => h column (by simp [columns, hmem]))
    have hkeyword : IsWord connective.keyword := by cases connective <;> decide +kernel
    intro rest hrest
    have htext : (text (connected connective left right)).toList ++ rest =
        (operand (left.isConstant || left.isChainOf connective) left.text).toList ++ ' ' ::
          (connective.keyword.toList ++ ' ' ::
            ((operand right.isConstant right.text).toList ++ rest)) := by
      simp [text]
    rw [htext, hl _ _ (by simp [Ends, IsSeparator]), scan_blank,
      scan_word_blank hkeyword, hr _ _ hrest]
    simp [lexemes]
  | not inner ih =>
    have hinner := scan_operand (ih fun column hmem => h column hmem)
    intro rest hrest
    have htext : (text (not inner)).toList ++ rest =
        "NOT".toList ++ ' ' :: ((operand inner.isConstant inner.text).toList ++ rest) := by
      simp [text]
    rw [htext, scan_word_blank (hword "NOT" (by simp)), hinner _ _ hrest]
    rfl

/-- The level of the grammar that a condition is of. -/
def level : Condition → Nat
  | connected connective _ _ => connective.strength
  | not _ => 2
  | _ => 3

theorem reads_looser {tight loose : Nat} {lexemes : List Lexeme} {tree : ConditionTree}
    (h : Reads tight lexemes tree) (hle : loose ≤ tight) : Reads loose lexemes tree := by
  obtain ⟨gap, rfl⟩ := Nat.exists_eq_add_of_le hle
  induction gap with
  | zero => exact h
  | succ gap ih => exact ih (.looser h) (Nat.le_add_right loose gap)

/-- An operand in parentheses, or one that binds tightly enough without. -/
theorem reads_operand {bare : Bool} {tight loose : Nat} {lexemes : List Lexeme} {tree : ConditionTree}
    (h : Reads tight lexemes tree) (hloose : loose ≤ 3) (hbare : bare → loose ≤ tight) :
    Reads loose (operandLexemes bare lexemes) tree := by
  cases bare with
  | true => exact reads_looser h (hbare rfl)
  | false => exact reads_looser (.parens (reads_looser h (Nat.zero_le _))) hloose

theorem level_of_isConstant {condition : Condition} (h : condition.isConstant) :
    condition.level = 3 := by
  cases condition with
  | always | never => rfl
  | _ => cases h

theorem level_of_isChainOf {condition : Condition} {connective : Connective}
    (h : condition.isChainOf connective) : condition.level = connective.strength := by
  cases condition with
  | connected other left right =>
    have hother : other = connective := by simpa [isChainOf] using h
    rw [level, hother]
  | _ => cases h

/-- The text of a condition says its tree. -/
theorem reads_lexemes {condition : Condition}
    (h : ∀ column ∈ condition.columns, IsColumnWord column.text) :
    Reads condition.level condition.lexemes condition.tree := by
  induction condition with
  | always => exact .leaf .always
  | never => exact .leaf .never
  | comparison operator column => exact .leaf (.comparison operator (h column (by simp [columns])))
  | inList slot column => exact .leaf (.inList slot column.text)
  | isNull column => exact .leaf (.isNull (h column (by simp [columns])))
  | isNotNull column => exact .leaf (.isNotNull (h column (by simp [columns])))
  | connected connective left right ihl ihr =>
    have hl := ihl fun column hmem => h column (by simp [columns, hmem])
    have hr := ihr fun column hmem => h column (by simp [columns, hmem])
    have hstrength : connective.strength + 1 ≤ 3 := by cases connective <;> decide
    refine .connected connective (reads_operand hl (by omega) fun hbare => ?_)
      (reads_operand hr hstrength fun hbare => ?_)
    · -- a left operand without parentheses is a constant or a chain of the same connective
      rcases Bool.or_eq_true_iff.1 hbare with hconstant | hchain
      · rw [level_of_isConstant hconstant]
        omega
      · exact Nat.le_of_eq (level_of_isChainOf hchain).symm
    · rw [level_of_isConstant hbare]
      exact hstrength
  | not inner ih =>
    have hinner := ih fun column hmem => h column hmem
    refine .not (reads_operand hinner (by decide) fun hbare => ?_)
    rw [level_of_isConstant hbare]
    decide

theorem saysOnly_text {condition : Condition}
    (h : ∀ column ∈ condition.columns, IsColumnWord column.text) :
    SaysOnly condition.text condition.tree := by
  have hscan := scan_text h [] trivial
  have hlexemes : scan [] condition.text.toList = condition.lexemes := by
    simpa [scan, flush] using hscan
  refine Reads.saysOnly ?_
  rw [hlexemes]
  exact reads_looser (reads_lexemes h) (Nat.zero_le _)

end Condition

end EntitySql
