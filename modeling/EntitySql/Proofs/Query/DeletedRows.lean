import EntitySql.Proofs.Query.ReadBack
import EntitySql.Proofs.Text.Blanks

/-! # Rows that a DELETE takes

The DELETE of a model takes the rows that its SELECT shows: both compile or neither does, with one binding
table, and their WHERE clauses say one condition, whose columns the SELECT qualifies with the alias of the
root (`Schema.delete_takesSelected`). Compiling criteria does not look at the columns that paths stand for,
so it commutes with every change of them (`whereCondition_mapColumn`). -/

namespace EntitySql

/-! ### Columns under another qualifier -/

def QualifiedColumn.under (qualifier : String) (c : QualifiedColumn) : QualifiedColumn := ⟨qualifier, c.name⟩

def ResolvedPath.mapColumn (f : QualifiedColumn → QualifiedColumn) (r : ResolvedPath) : ResolvedPath :=
  ⟨f r.column, r.type⟩

/-- A path stands for the same column under every qualifier. -/
theorem Schema.resolve_under {n : Nat} (s : Schema n) (e : Entity n) (qualifier qualifier' path : String) :
    s.resolve e qualifier path = (s.resolve e qualifier' path).map (·.mapColumn (·.under qualifier)) := by
  unfold resolve
  split
  · unfold resolveProperty
    split
    · rfl
    · split
      · rfl
      · split
        · next p _ _ a _ => cases (s.target a).requiredIdentity <;> rfl
        · rfl
  · unfold resolveInner
    split
    · rfl
    · split
      · rfl
      · next a _ =>
        split
        · split <;> rfl
        · cases (s.target a).requiredIdentity with
          | error e => rfl
          | ok identity =>
            simp only [bind, Except.bind]
            split <;> rfl

namespace Condition
variable {f : QualifiedColumn → QualifiedColumn}

def mapColumns (f : QualifiedColumn → QualifiedColumn) : Condition → Condition
  | always => always
  | never => never
  | comparison operator column => comparison operator (f column)
  | inList slot column => inList slot (f column)
  | isNull column => isNull (f column)
  | isNotNull column => isNotNull (f column)
  | connected connective left right => connected connective (left.mapColumns f) (right.mapColumns f)
  | not inner => not (inner.mapColumns f)

@[simp] theorem isConstant_mapColumns (condition : Condition) :
    (condition.mapColumns f).isConstant = condition.isConstant := by
  cases condition <;> rfl

@[simp] theorem isChainOf_mapColumns (connective : Connective) (condition : Condition) :
    (condition.mapColumns f).isChainOf connective = condition.isChainOf connective := by
  cases condition <;> rfl

theorem columns_mapColumns (condition : Condition) :
    (condition.mapColumns f).columns = condition.columns.map f := by
  induction condition with
  | connected connective left right ihl ihr => rw [mapColumns, columns, ihl, ihr, columns, List.map_append]
  | not inner ih => exact ih
  | _ => rfl

theorem mapColumns_chain (connective : Connective) (empty : Condition) (conditions : List Condition) :
    (chain connective empty conditions).mapColumns f =
      chain connective (empty.mapColumns f) (conditions.map (·.mapColumns f)) := by
  cases conditions with
  | nil => rfl
  | cons first others =>
    show (others.foldl (connected connective) first).mapColumns f = _
    induction others generalizing first with
    | nil => rfl
    | cons condition others ih => exact ih _

/-! ### Texts of one condition -/

/-- The text of a condition with its columns written in some way. -/
def textWith (column : QualifiedColumn → String) : Condition → String
  | always => "1 = 1"
  | never => "1 = 2"
  | comparison operator c => column c ++ " " ++ operator.operator ++ " ?"
  | inList slot c => inToken slot (column c)
  | isNull c => column c ++ " IS NULL"
  | isNotNull c => column c ++ " IS NOT NULL"
  | connected connective left right =>
    operand (left.isConstant || left.isChainOf connective) (left.textWith column) ++ " " ++ connective.keyword
      ++ " " ++ operand right.isConstant (right.textWith column)
  | not inner => "NOT " ++ operand inner.isConstant (inner.textWith column)

/-- The text, where no column reads like an IN token. -/
theorem text_eq_textWith {condition : Condition}
    (h : ∀ c ∈ condition.columns, Text.dropStart inTokenStart c.text.toList = none) :
    condition.text = condition.textWith (·.text) := by
  have hoperand : ∀ c : QualifiedColumn, Text.dropStart inTokenStart c.text.toList = none →
      columnOperand c = c.text := fun c hc => by simp [columnOperand, hc]
  induction condition with
  | always | never | inList => rfl
  | comparison | isNull | isNotNull => simp only [text, textWith, hoperand _ (h _ List.mem_cons_self)]
  | connected connective left right ihl ihr =>
    simp only [columns, List.mem_append] at h
    rw [text, textWith, ihl fun c hc => h c (.inl hc), ihr fun c hc => h c (.inr hc)]
  | not inner ih => rw [text, textWith, ih h]

theorem textWith_mapColumns (column : QualifiedColumn → String) (condition : Condition) :
    (condition.mapColumns f).textWith column = condition.textWith fun c => column (f c) := by
  induction condition with
  | connected connective left right ihl ihr =>
    simp only [mapColumns, textWith, isConstant_mapColumns, isChainOf_mapColumns, ihl, ihr]
  | not inner ih => simp only [mapColumns, textWith, isConstant_mapColumns, ih]
  | _ => rfl

theorem textWith_congr {column column' : QualifiedColumn → String} {condition : Condition}
    (h : ∀ c ∈ condition.columns, column c = column' c) :
    condition.textWith column = condition.textWith column' := by
  induction condition with
  | always | never => rfl
  | comparison | inList | isNull | isNotNull => simp only [textWith, h _ List.mem_cons_self]
  | connected connective left right ihl ihr =>
    simp only [columns, List.mem_append] at h
    rw [textWith, ihl fun c hc => h c (.inl hc), ihr fun c hc => h c (.inr hc), textWith]
  | not inner ih => rw [textWith, ih h, textWith]

end Condition

/-! ### Compiling with other columns -/

section
variable (f : QualifiedColumn → QualifiedColumn) (resolve : String → Outcome ResolvedPath)

namespace Criterion

mutual

theorem compile_mapColumn : ∀ (criterion : Criterion) (slots : List Slot),
    criterion.compile (fun path => (resolve path).map (·.mapColumn f)) slots =
      (criterion.compile resolve slots).map fun compiled => (compiled.1.mapColumns f, compiled.2)
  | compare _ path _, _ | isIn path _, _ | isNull path, _ | isNotNull path, _ => by
    simp only [compile]
    cases resolve path <;> rfl
  | and criteria, slots | or criteria, slots => by
    simp only [compile, compileAll_mapColumn criteria slots]
    cases compileAll resolve criteria slots with
    | error e => rfl
    | ok compiled =>
      dsimp only [Except.map, bind, Except.bind, pure, Except.pure]
      rw [Condition.mapColumns_chain]
      rfl
  | not criterion, slots => by
    simp only [compile, compile_mapColumn criterion slots]
    cases criterion.compile resolve slots <;> rfl

theorem compileAll_mapColumn : ∀ (criteria : List Criterion) (slots : List Slot),
    compileAll (fun path => (resolve path).map (·.mapColumn f)) criteria slots =
      (compileAll resolve criteria slots).map fun compiled => (compiled.1.map (·.mapColumns f), compiled.2)
  | [], _ => rfl
  | criterion :: criteria, slots => by
    simp only [compileAll, compile_mapColumn criterion slots]
    cases criterion.compile resolve slots with
    | error e => rfl
    | ok compiled =>
      have hrest := compileAll_mapColumn criteria compiled.2
      dsimp only [Except.map, bind, Except.bind] at hrest ⊢
      rw [hrest]
      cases compileAll resolve criteria compiled.2 <;> rfl

end

end Criterion

theorem whereCondition_mapColumn (criteria : List Criterion) :
    whereCondition (fun path => (resolve path).map (·.mapColumn f)) criteria =
      (whereCondition resolve criteria).map fun compiled =>
        (compiled.1.map (·.mapColumns f), compiled.2) := by
  simp only [whereCondition, Criterion.compileAll_mapColumn]
  cases Criterion.compileAll resolve criteria [] with
  | error e => rfl
  | ok compiled =>
    obtain ⟨conditions, slots⟩ := compiled
    cases conditions with
    | nil => rfl
    | cons first others =>
      show Except.ok (some (Condition.chain .and .always _), slots) =
        Except.ok (some (Condition.mapColumns f _), slots)
      rw [Condition.mapColumns_chain]
      rfl

end

/-! ### Root aliases -/

/-- No capital is left in snake case that has a lower case of its own. -/
theorem Text.capital_notMem_snakeCase (text : String) : 'I' ∉ (Text.snakeCase text).toList := by
  have hlower : ∀ c : Char, 'I' ∉ lowerChar c := fun c => by
    by_cases hc : c = 'I'
    · rw [hc]
      decide +kernel
    · exact notMem_lowerChar (by decide) (by decide +kernel) (by decide) hc
  have hupper : isUppercase 'I' = true := by decide +kernel
  unfold Text.snakeCase
  rw [String.toList_ofList]
  refine notMem_snakeAfter (by decide) (by simp) (fun c _ _ => hlower c) fun c _ hplain heq => ?_
  rw [heq, hupper] at hplain
  cases hplain

/-- A column behind a root alias does not read like an IN token: the alias has no capitals, and ends with a
character that the token does not have. -/
theorem Entity.rootAlias_notInToken {n : Nat} (e : Entity n) (rest : String) :
    Text.dropStart inTokenStart (e.rootAlias ++ rest).toList = none := by
  rw [Option.eq_none_iff_forall_ne_some]
  intro after h
  have htext := Text.dropStart_eq_some_iff.1 h
  simp only [rootAlias, String.toList_append, List.append_assoc] at htext
  have hcapital := Text.capital_notMem_snakeCase (Text.decapitalize e.name)
  rcases List.append_eq_append_iff.1 htext with ⟨more, htoken, hrest⟩ | ⟨more, hsnake, -⟩
  · cases more with
    | nil =>
      rw [List.append_nil] at htoken
      rw [← htoken] at hcapital
      exact absurd (by decide) hcapital
    | cons c more =>
      obtain rfl : '_' = c := (List.cons.inj hrest).1
      have hunderscore : '_' ∈ inTokenStart := htoken ▸ by simp
      exact absurd hunderscore (by decide)
  · rw [hsnake, List.mem_append, not_or] at hcapital
    exact absurd (by decide) hcapital.1

theorem Entity.rootAlias_ne_empty {n : Nat} (e : Entity n) : e.rootAlias ≠ "" := by
  simp [rootAlias]

theorem QualifiedColumn.text_under {qualifier : String} (h : qualifier ≠ "") (c : QualifiedColumn) :
    (c.under qualifier).text = qualifier ++ "." ++ c.name := by
  simp [under, text, h]

/-! ### Statements -/

namespace Schema
variable {n : Nat} {s : Schema n} {m : QueryModel n} {condition : Option Condition} {slots : List Slot}

theorem delete_withoutJoins (hjoins : m.joins = []) :
    s.delete m = (whereCondition (s.resolve m.root "") m.criteria).map fun compiled =>
      .ofSlots ("DELETE FROM " ++ m.root.tableName ++ whereText compiled.1) compiled.2 := by
  unfold delete deleteStatement
  rw [hjoins]
  cases whereCondition (s.resolve m.root "") m.criteria <;> rfl

theorem resolveJoined_empty (s : Schema n) (m : QueryModel n) : s.resolveJoined m {} = fun path =>
    (s.resolve m.root "" path).map (·.mapColumn (·.under m.root.rootAlias)) := by
  funext path
  rw [← resolve_under]
  unfold resolveJoined
  split <;> rfl

theorem selectStatement_withoutJoins (s : Schema n) (root : Entity n) (criteria : List Criterion) :
    s.selectStatement { root := root, criteria := criteria } =
      (whereCondition (s.resolve root "") criteria).map fun compiled =>
        ({ items := s.allItems root root.rootAlias, table := root.tableName, rootAlias := root.rootAlias
           joins := [], condition := compiled.1.map (·.mapColumns (·.under root.rootAlias)), order := [] },
          compiled.2) := by
  have hwhere := whereCondition_mapColumn (·.under root.rootAlias) (s.resolve root "") criteria
  rw [← s.resolveJoined_empty { root := root, criteria := criteria }] at hwhere
  have hitems : s.selectItems { root := root, criteria := criteria } {} =
      .ok (s.allItems root root.rootAlias) := by
    simp [selectItems]
  have hjoins : s.joinAll { root := root, criteria := criteria } = .ok {} := rfl
  unfold selectStatement
  rw [hjoins]
  dsimp only [bind, Except.bind]
  rw [hitems]
  dsimp only
  rw [hwhere]
  cases whereCondition (s.resolve root "") criteria <;> rfl

theorem query_withoutJoins (s : Schema n) (root : Entity n) (criteria : List Criterion) :
    s.query { root := root, criteria := criteria } =
      (whereCondition (s.resolve root "") criteria).map fun compiled =>
        .ofSlots ("SELECT " ++ s.selectAll root root.rootAlias ++ " FROM " ++ root.tableName ++ " " ++
          root.rootAlias ++ whereText (compiled.1.map (·.mapColumns (·.under root.rootAlias))))
          compiled.2 := by
  rw [query, selectStatement_withoutJoins]
  cases whereCondition (s.resolve root "") criteria with
  | error e => rfl
  | ok compiled =>
    refine congrArg (fun text => Except.ok (Template.ofSlots text compiled.2)) ?_
    simp [SelectStatement.text, selectAll, String.join]

/-- The DELETE does not qualify its columns. -/
theorem unqualified_of_whereCondition {root : Entity n} {criteria : List Criterion}
    (h : whereCondition (s.resolve root "") criteria = .ok (condition, slots)) :
    ∀ c ∈ condition, ∀ column ∈ c.columns, column.qualifier = "" := by
  have hresolve : s.resolve root "" = fun path => (s.resolve root "" path).map (·.mapColumn (·.under "")) :=
    funext fun path => resolve_under s root "" "" path
  have hmapped := whereCondition_mapColumn (·.under "") (s.resolve root "") criteria
  rw [← hresolve, h] at hmapped
  have hsame : condition = condition.map (·.mapColumns (·.under "")) :=
    congrArg Prod.fst (Except.ok.inj hmapped)
  intro c hc column hcolumn
  obtain rfl := hc
  rw [Option.some.inj hsame, Condition.columns_mapColumns] at hcolumn
  obtain ⟨column', -, rfl⟩ := List.mem_map.1 hcolumn
  rfl

/-- Both clauses are the text of one condition, each with the columns in its own way. -/
theorem whereTexts (root : Entity n)
    (hunqualified : ∀ c ∈ condition, ∀ column ∈ c.columns, column.qualifier = "")
    (hnames : ∀ c ∈ condition, ∀ column ∈ c.columns, Text.dropStart inTokenStart column.name.toList = none) :
    whereText condition = clauseText (condition.map (·.textWith (·.name))) ∧
      whereText (condition.map (·.mapColumns (·.under root.rootAlias))) =
        clauseText (condition.map (·.textWith fun column => root.rootAlias ++ "." ++ column.name)) := by
  cases condition with
  | none => exact ⟨rfl, rfl⟩
  | some c =>
    have hplain : ∀ column ∈ c.columns, column.text = column.name := fun column hcolumn => by
      simp [QualifiedColumn.text, hunqualified c rfl column hcolumn]
    have hqualified := QualifiedColumn.text_under root.rootAlias_ne_empty
    have hdeleted : c.text = c.textWith (·.name) := by
      rw [Condition.text_eq_textWith, Condition.textWith_congr hplain]
      intro column hcolumn
      rw [hplain column hcolumn]
      exact hnames c rfl column hcolumn
    have hshown : (c.mapColumns (·.under root.rootAlias)).text =
        c.textWith fun column => root.rootAlias ++ "." ++ column.name := by
      rw [Condition.text_eq_textWith, Condition.textWith_mapColumns]
      · exact Condition.textWith_congr fun column _ => hqualified column
      · intro column hcolumn
        rw [Condition.columns_mapColumns] at hcolumn
        obtain ⟨column', -, rfl⟩ := List.mem_map.1 hcolumn
        rw [hqualified column', String.append_assoc]
        exact root.rootAlias_notInToken _
    exact ⟨congrArg (fun text => " WHERE (" ++ text ++ ")") hdeleted,
      congrArg (fun text => " WHERE (" ++ text ++ ")") hshown⟩

/-- A model without joins compiles to a DELETE if and only if the SELECT of all columns on its criteria
compiles. The binding tables are the same, and the WHERE clauses have one condition, in which the SELECT puts
the alias of the root and a dot in front of each column. If no column's name reads like an IN token, the
texts of the condition differ in nothing else. -/
theorem delete_takesSelected (s : Schema n) {m : QueryModel n} (hjoins : m.joins = []) :
    let shown : QueryModel n := { root := m.root, criteria := m.criteria }
    ((∃ d, s.delete m = .ok d) ↔ ∃ q, s.query shown = .ok q) ∧
    ∀ d q, s.delete m = .ok d → s.query shown = .ok q →
      d.bindings = q.bindings ∧ d.types = q.types ∧
      ∃ condition slots, whereCondition (s.resolve m.root "") m.criteria = .ok (condition, slots) ∧
        d.text = "DELETE FROM " ++ m.root.tableName ++ whereText condition ∧
        q.text = "SELECT " ++ s.selectAll m.root m.root.rootAlias ++ " FROM " ++ m.root.tableName ++ " " ++
          m.root.rootAlias ++ whereText (condition.map (·.mapColumns (·.under m.root.rootAlias))) ∧
        ((∀ c ∈ condition, ∀ column ∈ c.columns, Text.dropStart inTokenStart column.name.toList = none) →
          whereText condition = clauseText (condition.map (·.textWith (·.name))) ∧
          whereText (condition.map (·.mapColumns (·.under m.root.rootAlias))) =
            clauseText
              (condition.map (·.textWith fun column => m.root.rootAlias ++ "." ++ column.name))) := by
  intro shown
  rw [delete_withoutJoins hjoins, query_withoutJoins]
  cases hwhere : whereCondition (s.resolve m.root "") m.criteria with
  | error e => exact ⟨⟨nofun, nofun⟩, nofun⟩
  | ok compiled =>
    obtain ⟨condition, slots⟩ := compiled
    refine ⟨⟨fun _ => ⟨_, rfl⟩, fun _ => ⟨_, rfl⟩⟩, ?_⟩
    rintro _ _ ⟨rfl⟩ ⟨rfl⟩
    exact ⟨rfl, rfl, condition, slots, rfl, rfl, rfl,
      whereTexts m.root (unqualified_of_whereCondition hwhere)⟩

theorem delete_takesSelected_untitledBooks : ∃ d q condition, untitledBooks.joins = [] ∧
    books.delete untitledBooks = .ok d ∧
    books.query { root := untitledBooks.root, criteria := untitledBooks.criteria } = .ok q ∧
    d.bindings = q.bindings ∧ d.types = q.types ∧
    d.text = "DELETE FROM book" ++ clauseText (some (Condition.textWith (·.name) condition)) ∧
    q.text = "SELECT book_.title,book_.id FROM book book_" ++
      clauseText (some (condition.textWith fun column => "book_." ++ column.name)) := by
  let condition : Condition := .connected .and
    (.connected .or (.comparison .gt ⟨"", "id"⟩) (.not (.inList 1 ⟨"", "title"⟩))) (.isNull ⟨"", "title"⟩)
  have hcompiled : (whereCondition (books.resolve untitledBooks.root "") untitledBooks.criteria).toOption =
      some (some condition, [⟨.argument 0, .long⟩, ⟨.argument 1, .string⟩]) := by decide +kernel
  have hcompiled := Outcome.eq_ok_of_toOption hcompiled
  have hnames : ∀ c ∈ some condition, ∀ column ∈ c.columns,
      Text.dropStart inTokenStart column.name.toList = none := by decide
  obtain ⟨hboth, hsame⟩ := delete_takesSelected books (m := untitledBooks) rfl
  have hdelete : ∃ d, books.delete untitledBooks = .ok d :=
    ⟨_, by rw [delete_withoutJoins rfl, hcompiled]; rfl⟩
  obtain ⟨d, hd⟩ := hdelete
  obtain ⟨q, hq⟩ := hboth.1 ⟨d, hd⟩
  obtain ⟨hbindings, htypes, condition', slots, hwhere, hdeleted, hshown, htexts⟩ := hsame d q hd hq
  obtain ⟨rfl, rfl⟩ := Prod.mk.inj (Except.ok.inj (hcompiled.symm.trans hwhere))
  obtain ⟨hclause, hclause'⟩ := htexts hnames
  have halias : untitledBooks.root.rootAlias = "book_" := by decide +kernel
  have hcolumns : books.selectAll untitledBooks.root "book_" = "book_.title,book_.id" := by decide +kernel
  rw [hclause] at hdeleted
  rw [hclause', halias, hcolumns] at hshown
  exact ⟨d, q, condition, rfl, hd, hq, hbindings, htypes, hdeleted, hshown⟩

end Schema

end EntitySql
