import EntitySql.Query.Condition

/-! # Reading conditions

What a database reads in the text of a condition. `Reads` is the grammar: a comparison, a test for
null and an IN token bind tighter than NOT, that tighter than AND and that tighter than OR, and chains
of one connective lean to the left. `readLexemes` is a reader with a stack of what is still open; it
finds the tree of every text of the grammar (`Reads.readLexemes_eq`), so that a text says no other
(`Reads.saysOnly`). -/

namespace EntitySql

/-- A condition with its columns as they are written. -/
inductive ConditionTree where
  | always
  | never
  | comparison (operator : Comparison) (column : String)
  | inList (slot : Nat) (column : String)
  | isNull (column : String)
  | isNotNull (column : String)
  | connected (connective : Connective) (left right : ConditionTree)
  | not (inner : ConditionTree)
deriving DecidableEq, Repr

inductive Lexeme where
  | word (text : String)
  | opening
  | closing
deriving DecidableEq, Repr

namespace Lexeme

def IsSeparator (c : Char) : Prop := c = ' ' ∨ c = '(' ∨ c = ')'

instance (c : Char) : Decidable (IsSeparator c) := inferInstanceAs (Decidable (_ ∨ _))

/-- Text that is one lexeme. -/
def IsWord (text : String) : Prop := text ≠ "" ∧ ∀ c ∈ text.toList, ¬ IsSeparator c

-- by a walk over the text: all characters at once are too many to decide
instance (text : String) : Decidable (IsWord text) :=
  decidable_of_iff (text ≠ "" ∧ (text.toList.all fun c => !decide (IsSeparator c)) = true)
    (by simp [IsWord])

/-- The word that has come to its end, if there is one. -/
def flush : List Char → List Lexeme
  | [] => []
  | text => [word (String.ofList text)]

/-- The lexemes of a text behind the start of a word. -/
def scan (start : List Char) : List Char → List Lexeme
  | [] => flush start
  | c :: rest =>
    if c = ' ' then flush start ++ scan [] rest
    else if c = '(' then flush start ++ opening :: scan [] rest
    else if c = ')' then flush start ++ closing :: scan [] rest
    else scan (start ++ [c]) rest

end Lexeme

/-- The words of the grammar. -/
def conditionWords : List String :=
  ["NOT", "AND", "OR", "IS", "NULL", "IN", "LIKE", "=", "<>", ">", ">=", "<", "<="]

/-- A column that is one word, and none of the grammar. -/
structure IsColumnWord (column : String) : Prop where
  nonempty : column ≠ ""
  unparted : ∀ c ∈ column.toList, ¬ Lexeme.IsSeparator c
  unmarked : '?' ∉ column.toList
  unreserved : column ∉ conditionWords

theorem isColumnWord_iff {column : String} : IsColumnWord column ↔
    Lexeme.IsWord column ∧ '?' ∉ column.toList ∧ column ∉ conditionWords :=
  ⟨fun h => ⟨⟨h.nonempty, h.unparted⟩, h.unmarked, h.unreserved⟩,
    fun ⟨⟨hne, hparted⟩, hmark, hword⟩ => ⟨hne, hparted, hmark, hword⟩⟩

instance (column : String) : Decidable (IsColumnWord column) :=
  decidable_of_iff _ isColumnWord_iff.symm

/-- How tightly a connective binds; NOT binds at 2. -/
def Connective.strength : Connective → Nat
  | or => 0
  | and => 1

/-- The lexemes of a condition that nothing is connected in. -/
inductive Leaf : List Lexeme → ConditionTree → Prop
  | always : Leaf [.word "1", .word "=", .word "1"] .always
  | never : Leaf [.word "1", .word "=", .word "2"] .never
  | comparison {column : String} (operator : Comparison) (h : IsColumnWord column) :
    Leaf [.word column, .word operator.operator, .word "?"] (.comparison operator column)
  | inList (slot : Nat) (column : String) :
    Leaf [.word "?$IN", .opening, .word (toString slot ++ ":" ++ column), .closing]
      (.inList slot column)
  | isNull {column : String} (h : IsColumnWord column) :
    Leaf [.word column, .word "IS", .word "NULL"] (.isNull column)
  | isNotNull {column : String} (h : IsColumnWord column) :
    Leaf [.word column, .word "IS", .word "NOT", .word "NULL"] (.isNotNull column)

/-- The grammar of conditions in which everything binds at least as tightly as a level. -/
inductive Reads : Nat → List Lexeme → ConditionTree → Prop
  | leaf {lexemes tree} (h : Leaf lexemes tree) : Reads 3 lexemes tree
  | parens {lexemes tree} (h : Reads 0 lexemes tree) :
    Reads 3 (.opening :: (lexemes ++ [.closing])) tree
  | not {lexemes tree} (h : Reads 2 lexemes tree) : Reads 2 (.word "NOT" :: lexemes) (.not tree)
  | connected {lexemes lexemes' left right} (connective : Connective)
    (hleft : Reads connective.strength lexemes left)
    (hright : Reads (connective.strength + 1) lexemes' right) :
    Reads connective.strength (lexemes ++ .word connective.keyword :: lexemes')
      (.connected connective left right)
  | looser {level lexemes tree} (h : Reads (level + 1) lexemes tree) : Reads level lexemes tree

/-- What is open in front of the place where the reader stands. -/
inductive Frame where
  | paren
  | not
  /-- A connective that waits for its right operand. -/
  | left (connective : Connective) (tree : ConditionTree)

/-- What the reader has seen of the current operand. -/
inductive Phase where
  | operand
  | column (column : String)
  | compared (operator : Comparison) (column : String)
  | is (column : String)
  | isNot (column : String)
  | token
  | tokenOpen
  | tokenBody (slot : Nat) (column : String)
  | done (tree : ConditionTree)

/-- Closes what binds at least as tightly as a level. -/
def settle (level : Nat) : List Frame → ConditionTree → List Frame × ConditionTree
  | .not :: stack, tree => settle level stack (.not tree)
  | .left connective left :: stack, tree =>
    if level ≤ connective.strength then settle level stack (.connected connective left tree)
    else (.left connective left :: stack, tree)
  | stack, tree => (stack, tree)

def comparison? (word : String) : Option Comparison :=
  [.eq, .ne, .gt, .gte, .lt, .lte, .like].find? (·.operator = word)

def connective? (word : String) : Option Connective := [.and, .or].find? (·.keyword = word)

/-- The slot and the column in a token. -/
def tokenBody? (body : String) : Option (Nat × String) :=
  match Text.cutFirst ':' body.toList with
  | some (digits, column) =>
    if digits.all (·.isDigit) then some (Nat.ofDigitChars 10 digits 0, String.ofList column) else none
  | none => none

/-- The reader takes one more lexeme. -/
def readStep : List Frame × Phase → Lexeme → Option (List Frame × Phase)
  | (stack, .operand), .opening => some (.paren :: stack, .operand)
  | (stack, .operand), .word w =>
    if w = "NOT" then some (.not :: stack, .operand)
    else if w = "?$IN" then some (stack, .token)
    else if w ∈ conditionWords then none
    else some (stack, .column w)
  | (stack, .column c), .word w =>
    if w = "IS" then some (stack, .is c)
    else (comparison? w).map fun operator => (stack, .compared operator c)
  | (stack, .compared operator c), .word w =>
    if w = "?" then some (stack, .done (.comparison operator c))
    else if operator = .eq ∧ c = "1" ∧ w = "1" then some (stack, .done .always)
    else if operator = .eq ∧ c = "1" ∧ w = "2" then some (stack, .done .never)
    else none
  | (stack, .is c), .word w =>
    if w = "NULL" then some (stack, .done (.isNull c))
    else if w = "NOT" then some (stack, .isNot c)
    else none
  | (stack, .isNot c), .word w => if w = "NULL" then some (stack, .done (.isNotNull c)) else none
  | (stack, .token), .opening => some (stack, .tokenOpen)
  | (stack, .tokenOpen), .word w =>
    (tokenBody? w).map fun (slot, column) => (stack, .tokenBody slot column)
  | (stack, .tokenBody slot column), .closing => some (stack, .done (.inList slot column))
  | (stack, .done tree), .word w =>
    (connective? w).map fun connective =>
      let (stack, tree) := settle connective.strength stack tree
      (.left connective tree :: stack, .operand)
  | (stack, .done tree), .closing =>
    match settle 0 stack tree with
    | (.paren :: stack, tree) => some (stack, .done tree)
    | _ => none
  | _, _ => none

/-- The condition that lexemes say. -/
def readLexemes (lexemes : List Lexeme) : Option ConditionTree := do
  match ← lexemes.foldlM readStep ([], .operand) with
  | (stack, .done tree) =>
    match settle 0 stack tree with
    | ([], tree) => some tree
    | _ => none
  | _ => none

/-- Whether nothing on top of the stack binds as tightly as a level. -/
def Open (level : Nat) : List Frame → Prop
  | [] => True
  | .paren :: _ => True
  | .not :: _ => 2 ≤ level
  | .left connective _ :: _ => connective.strength < level

theorem Open.succ {level : Nat} {stack : List Frame} (h : Open level stack) :
    Open (level + 1) stack := by
  rcases stack with _ | ⟨_ | _ | ⟨connective, left⟩, stack⟩
  · trivial
  · trivial
  · exact Nat.le_succ_of_le h
  · exact Nat.lt_succ_of_lt h

theorem Open.settle_eq {level : Nat} {stack : List Frame} (h : Open level stack) (hlevel : level < 2)
    (tree : ConditionTree) : settle level stack tree = (stack, tree) := by
  rcases stack with _ | ⟨_ | _ | ⟨connective, left⟩, stack⟩
  · rfl
  · rfl
  · exact absurd h (Nat.not_le_of_lt hlevel)
  · rw [settle, if_neg (Nat.not_le_of_lt h)]

theorem tokenBody?_inToken (slot : Nat) (column : String) :
    tokenBody? (toString slot ++ ":" ++ column) = some (slot, column) := by
  have hdigits : ∀ c ∈ (toString slot).toList, c.isDigit = true := fun _ =>
    Text.isDigit_of_mem_toString
  have hcolon : ':' ∉ (toString slot).toList := fun hmem => absurd (hdigits _ hmem) (by decide)
  have hbody : (toString slot ++ ":" ++ column).toList =
      (toString slot).toList ++ ':' :: column.toList := by simp
  have hnumber : Nat.ofDigitChars 10 (toString slot).toList 0 = slot := by
    rw [Nat.toString_eq_repr, Nat.toList_repr, Nat.ofDigitChars_ten_toDigits]
  rw [tokenBody?, hbody, Text.cutFirst_of_notMem hcolon]
  simp only [List.all_eq_true.2 hdigits, hnumber, String.ofList_toList, ↓reduceIte]

theorem comparison?_operator (operator : Comparison) :
    comparison? operator.operator = some operator := by
  cases operator <;> decide

theorem connective?_keyword (connective : Connective) :
    connective? connective.keyword = some connective := by
  cases connective <;> decide

theorem IsColumnWord.readStep {column : String} (h : IsColumnWord column) (stack : List Frame) :
    readStep (stack, .operand) (.word column) = some (stack, .column column) := by
  have hnot : column ≠ "NOT" := fun heq => h.unreserved (by simp [heq, conditionWords])
  have htoken : column ≠ "?$IN" := fun heq => h.unmarked (by simp [heq])
  rw [EntitySql.readStep, if_neg hnot, if_neg htoken, if_neg h.unreserved]

/-- The reader takes a leaf without looking at the stack. -/
theorem Leaf.foldlM_readStep {lexemes : List Lexeme} {tree : ConditionTree} (h : Leaf lexemes tree)
    (stack : List Frame) :
    lexemes.foldlM readStep (stack, .operand) = some (stack, .done tree) := by
  cases h with
  | always => simp [readStep, comparison?, conditionWords, Comparison.operator]
  | never => simp [readStep, comparison?, conditionWords, Comparison.operator]
  | comparison operator h =>
    have his : operator.operator ≠ "IS" := by cases operator <;> decide
    simp only [List.foldlM_cons, h.readStep, Option.bind_eq_bind, Option.bind_some]
    simp [readStep, his, comparison?_operator]
  | inList slot column =>
    have hbody : readStep (stack, .tokenOpen) (.word (toString slot ++ ":" ++ column)) =
        some (stack, .tokenBody slot column) := by
      rw [readStep, tokenBody?_inToken, Option.map_some]
    show (readStep (stack, .tokenOpen) (.word (toString slot ++ ":" ++ column)) >>= _) = _
    rw [hbody]
    rfl
  | isNull h | isNotNull h =>
    simp only [List.foldlM_cons, h.readStep, Option.bind_eq_bind, Option.bind_some]
    simp [readStep]

/-- The reader takes a condition of the grammar: what it then leaves open closes to the tree. -/
theorem Reads.foldlM_readStep {level : Nat} {lexemes : List Lexeme} {tree : ConditionTree}
    (h : Reads level lexemes tree) (stack : List Frame) (hopen : Open level stack) :
    ∃ stack' tree', lexemes.foldlM readStep (stack, .operand) = some (stack', .done tree') ∧
      ∀ looser ≤ level, settle looser stack' tree' = settle looser stack tree := by
  induction h generalizing stack with
  | leaf h => exact ⟨stack, _, h.foldlM_readStep stack, fun _ _ => rfl⟩
  | @parens lexemes tree h ih =>
    obtain ⟨stack', tree', hrun, hsettle⟩ := ih (.paren :: stack) trivial
    refine ⟨stack, tree, ?_, fun _ _ => rfl⟩
    have hclosed : settle 0 stack' tree' = (.paren :: stack, tree) := hsettle 0 (Nat.le_refl 0)
    simp [List.foldlM_append, readStep, hrun, hclosed]
  | @not lexemes tree h ih =>
    obtain ⟨stack', tree', hrun, hsettle⟩ := ih (.not :: stack) (Nat.le_refl 2)
    refine ⟨stack', tree', ?_, fun looser hlooser => ?_⟩
    · simp [readStep, hrun]
    · rw [hsettle looser hlooser, settle]
  | @connected lexemes lexemes' left right connective hleft hright ihl ihr =>
    have hstrength : connective.strength < 2 := by cases connective <;> decide
    obtain ⟨stack₁, tree₁, hrun₁, hsettle₁⟩ := ihl stack hopen
    -- the connective closes all that the left operand has left open, and nothing below
    have hclosed : settle connective.strength stack₁ tree₁ = (stack, left) := by
      rw [hsettle₁ _ (Nat.le_refl _), hopen.settle_eq hstrength]
    obtain ⟨stack₂, tree₂, hrun₂, hsettle₂⟩ :=
      ihr (.left connective left :: stack) (Nat.lt_succ_self _)
    refine ⟨stack₂, tree₂, ?_, fun looser hlooser => ?_⟩
    · simp [List.foldlM_append, hrun₁, readStep, connective?_keyword, hclosed, hrun₂]
    · rw [hsettle₂ looser (Nat.le_succ_of_le hlooser), settle, if_pos hlooser]
  | looser h ih =>
    obtain ⟨stack', tree', hrun, hsettle⟩ := ih stack hopen.succ
    exact ⟨stack', tree', hrun, fun looser hlooser => hsettle looser (Nat.le_succ_of_le hlooser)⟩

theorem Reads.readLexemes_eq {level : Nat} {lexemes : List Lexeme} {tree : ConditionTree}
    (h : Reads level lexemes tree) : readLexemes lexemes = some tree := by
  obtain ⟨stack, tree', hrun, hsettle⟩ := h.foldlM_readStep [] trivial
  have hclosed : settle 0 stack tree' = ([], tree) := hsettle 0 (Nat.zero_le level)
  simp [readLexemes, hrun, hclosed]

example : readLexemes (Lexeme.scan [] "a = ? OR NOT b > ? AND c IS NULL".toList) =
    some (.connected .or (.comparison .eq "a")
      (.connected .and (.not (.comparison .gt "b")) (.isNull "c"))) := by decide +kernel

/-- The text says the condition in the grammar, and no other condition. -/
def SaysOnly (text : String) (tree : ConditionTree) : Prop :=
  ∀ other, Reads 0 (Lexeme.scan [] text.toList) other ↔ other = tree

theorem Reads.saysOnly {text : String} {tree : ConditionTree}
    (h : Reads 0 (Lexeme.scan [] text.toList) tree) : SaysOnly text tree := by
  intro other
  constructor
  · intro hother
    have heq := hother.readLexemes_eq
    rw [h.readLexemes_eq] at heq
    exact (Option.some.inj heq).symm
  · rintro rfl
    exact h

theorem SaysOnly.unique {text : String} {tree other : ConditionTree} (h : SaysOnly text tree)
    (hother : SaysOnly text other) : tree = other :=
  (hother tree).1 ((h tree).2 rfl)

end EntitySql
