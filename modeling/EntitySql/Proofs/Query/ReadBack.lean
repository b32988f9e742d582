import EntitySql.Proofs.Query.ConditionText
import EntitySql.Proofs.Query.JoinWalk
import EntitySql.Proofs.Query.Placeholders

/-! # Criteria read back

The WHERE clause of a compiled SELECT or DELETE says the tree of its criteria and no other condition
(`Schema.where_saysOnly`). So criteria with different trees never have the same text. -/

namespace EntitySql

namespace Criterion

mutual

/-- The parameters of a criterion in the order of the text. -/
def parameters : Criterion → List Binding
  | compare _ _ parameter | isIn _ parameter => [parameter]
  | isNull _ | isNotNull _ => []
  | and criteria | or criteria => parametersAll criteria
  | not criterion => criterion.parameters

def parametersAll : List Criterion → List Binding
  | [] => []
  | criterion :: criteria => criterion.parameters ++ parametersAll criteria

end

mutual

/-- The tree that a criterion stands for, given the columns of paths and the slot of its first
parameter. -/
def tree (column : String → String) (slot : Nat) : Criterion → ConditionTree
  | compare operator path _ => .comparison operator (column path)
  | isIn path _ => .inList slot (column path)
  | isNull path => .isNull (column path)
  | isNotNull path => .isNotNull (column path)
  | and criteria => .nested .and .always (trees column slot criteria)
  | or criteria => .nested .or .never (trees column slot criteria)
  | not criterion => .not (criterion.tree column slot)

def trees (column : String → String) (slot : Nat) : List Criterion → List ConditionTree
  | [] => []
  | criterion :: criteria =>
    criterion.tree column slot :: trees column (slot + criterion.parameters.length) criteria

end

end Criterion

/-- What the WHERE clause of some criteria says, all of which have to hold. -/
def whereTree (column : String → String) (criteria : List Criterion) : Option ConditionTree :=
  if criteria.isEmpty then none
  else some (.nested .and .always (Criterion.trees column 0 criteria))

/-- The column of a path as it is written. -/
def columnText (resolve : String → Outcome ResolvedPath) (path : String) : String :=
  match resolve path with
  | .ok resolved => resolved.column.text
  | .error _ => ""

theorem Condition.tree_foldl (connective : Connective) (conditions : List Condition)
    (first : Condition) : (conditions.foldl (connected connective) first).tree =
      (conditions.map tree).foldl (.connected connective) first.tree := by
  induction conditions generalizing first with
  | nil => rfl
  | cons condition conditions ih => exact ih _

theorem Condition.tree_chain (connective : Connective) (empty : Condition)
    (conditions : List Condition) :
    (chain connective empty conditions).tree = .nested connective empty.tree (conditions.map tree) := by
  cases conditions with
  | nil => rfl
  | cons first others => exact tree_foldl connective others first

namespace Criterion
variable {resolve : String → Outcome ResolvedPath}

mutual

/-- A criterion compiles to a condition of its tree, and its parameters to slots in order. -/
theorem compile_tree : ∀ (criterion : Criterion) {slots slots' : List Slot} {condition : Condition},
    criterion.compile resolve slots = .ok (condition, slots') →
    condition.tree = criterion.tree (columnText resolve) slots.length ∧
      slots'.map (·.binding) = slots.map (·.binding) ++ criterion.parameters
  | compare .., _, _, _, h | isIn .., _, _, _, h => by
    simp only [compile, Outcome.bind_eq_ok, Outcome.pure_eq_ok, Prod.mk.injEq] at h
    obtain ⟨resolved, hresolved, rfl, rfl⟩ := h
    exact ⟨by simp [Condition.tree, tree, columnText, hresolved], by simp [parameters]⟩
  | isNull .., _, _, _, h | isNotNull .., _, _, _, h => by
    simp only [compile, Outcome.bind_eq_ok, Outcome.pure_eq_ok, Prod.mk.injEq] at h
    obtain ⟨resolved, hresolved, rfl, rfl⟩ := h
    exact ⟨by simp [Condition.tree, tree, columnText, hresolved], by simp [parameters]⟩
  | and criteria, _, _, _, h | or criteria, _, _, _, h => by
    simp only [compile, Outcome.bind_eq_ok, Outcome.pure_eq_ok, Prod.mk.injEq, Prod.exists] at h
    obtain ⟨conditions, slots, hall, rfl, rfl⟩ := h
    obtain ⟨htrees, hslots⟩ := compileAll_trees criteria hall
    refine ⟨?_, hslots⟩
    rw [Condition.tree_chain, htrees, tree, Condition.tree]
  | not criterion, _, _, _, h => by
    simp only [compile, Outcome.bind_eq_ok, Outcome.pure_eq_ok, Prod.mk.injEq, Prod.exists] at h
    obtain ⟨condition, slots, hinner, rfl, rfl⟩ := h
    obtain ⟨htree, hslots⟩ := compile_tree criterion hinner
    exact ⟨congrArg ConditionTree.not htree, hslots⟩

theorem compileAll_trees : ∀ (criteria : List Criterion) {slots slots' : List Slot}
    {conditions : List Condition}, compileAll resolve criteria slots = .ok (conditions, slots') →
    conditions.map (·.tree) = trees (columnText resolve) slots.length criteria ∧
      slots'.map (·.binding) = slots.map (·.binding) ++ parametersAll criteria
  | [], _, _, _, h => by
    simp only [compileAll, Outcome.pure_eq_ok, Prod.mk.injEq] at h
    obtain ⟨rfl, rfl⟩ := h
    exact ⟨rfl, by simp [parametersAll]⟩
  | criterion :: criteria, _, _, _, h => by
    simp only [compileAll, Outcome.bind_eq_ok, Outcome.pure_eq_ok, Prod.mk.injEq,
      Prod.exists] at h
    obtain ⟨condition, slots, hfirst, conditions, slots', hrest, rfl, rfl⟩ := h
    obtain ⟨htree, hslots⟩ := compile_tree criterion hfirst
    obtain ⟨htrees, hslots'⟩ := compileAll_trees criteria hrest
    have hlength := congrArg List.length hslots
    simp only [List.length_append, List.length_map] at hlength
    rw [hlength] at htrees
    refine ⟨?_, ?_⟩
    · rw [List.map_cons, htree, htrees, trees]
    · rw [hslots', hslots, parametersAll, List.append_assoc]

end

end Criterion

/-- A WHERE clause around a text. -/
def clauseText : Option String → String
  | none => ""
  | some inside => " WHERE (" ++ inside ++ ")"

theorem clauseText_injective : Function.Injective clauseText := by
  intro a b h
  rcases a with _ | a <;> rcases b with _ | b
  · rfl
  · exact absurd (congrArg String.toList h) (by simp [clauseText])
  · exact absurd (congrArg String.toList h) (by simp [clauseText])
  · have hchars := congrArg String.toList h
    simp only [clauseText, String.toList_append, List.append_assoc, List.append_cancel_left_eq,
      List.append_cancel_right_eq] at hchars
    rw [String.toList_inj.1 hchars]

/-- Whether all columns of a WHERE clause are words. -/
def HasColumnWords (tree : Option ConditionTree) : Prop :=
  ∀ t ∈ tree, ∀ column ∈ t.columns, IsColumnWord column

section
variable {resolve : String → Outcome ResolvedPath} {criteria : List Criterion}
  {condition : Option Condition} {slots : List Slot}

theorem whereCondition_tree (h : whereCondition resolve criteria = .ok (condition, slots)) :
    condition.map (·.tree) = whereTree (columnText resolve) criteria ∧
      slots.map (·.binding) = Criterion.parametersAll criteria := by
  simp only [whereCondition, Outcome.bind_eq_ok, Outcome.pure_eq_ok, Prod.exists,
    Prod.mk.injEq] at h
  obtain ⟨conditions, slots, hall, rfl, rfl⟩ := h
  obtain ⟨htrees, hslots⟩ := Criterion.compileAll_trees criteria hall
  refine ⟨?_, by simpa using hslots⟩
  rw [List.length_nil] at htrees
  have hempty : conditions.isEmpty = criteria.isEmpty := by
    cases criteria with
    | nil => simpa [Criterion.trees] using htrees
    | cons criterion criteria =>
      cases conditions with
      | nil => simp [Criterion.trees] at htrees
      | cons condition conditions => rfl
  rw [whereTree, hempty, ← htrees]
  split
  · rfl
  · rw [Option.map_some, Condition.tree_chain]
    rfl

/-- The text of a WHERE clause says the tree of the criteria. -/
theorem whereCondition_saysOnly (h : whereCondition resolve criteria = .ok (condition, slots))
    (hwords : HasColumnWords (whereTree (columnText resolve) criteria)) :
    ∃ inside, whereText condition = clauseText inside ∧
      Option.Rel SaysOnly inside (whereTree (columnText resolve) criteria) := by
  obtain ⟨htree, -⟩ := whereCondition_tree h
  rw [← htree] at hwords ⊢
  cases condition with
  | none => exact ⟨none, rfl, .none⟩
  | some c =>
    refine ⟨some c.text, rfl, .some (Condition.saysOnly_text fun column hcolumn => ?_)⟩
    refine hwords c.tree rfl column.text ?_
    rw [c.columns_tree]
    exact List.mem_map.2 ⟨column, hcolumn, rfl⟩

end

namespace Schema
variable {n : Nat} {s : Schema n} {m : QueryModel n} {t : Template}

/-- What stands around the WHERE clause does not depend on the criteria. -/
theorem selectStatement_of_query (h : s.query m = .ok t) :
    ∃ frame joins condition slots, s.joinAll m = .ok joins ∧
      s.selectStatement { m with criteria := [] } = .ok (frame, []) ∧
      whereCondition (s.resolveJoined m joins) m.criteria = .ok (condition, slots) ∧
      t.text = frame.headText ++ whereText condition ++ frame.orderText ∧
      t.bindings = slots.map (·.binding) := by
  simp only [query, selectStatement, Outcome.bind_eq_ok, Outcome.pure_eq_ok, Prod.exists,
    Prod.mk.injEq] at h
  obtain ⟨st, slots, ⟨joins, hjoins, items, hitems, condition, slots, hwhere, order, horder, rfl, rfl⟩,
    rfl⟩ := h
  refine ⟨⟨items, m.root.tableName, m.root.rootAlias, joins.pieces, none, order⟩, joins, condition,
    slots, hjoins, ?_, hwhere, rfl, rfl⟩
  have hframe : s.joinAll { m with criteria := [] } = s.joinAll m := joinAll_congr rfl rfl
  simp only [selectStatement, Outcome.bind_eq_ok, Outcome.pure_eq_ok, Prod.exists, Prod.mk.injEq]
  exact ⟨joins, hframe.trans hjoins, items, hitems, none, [], rfl, order, horder, rfl, rfl⟩

/-- What the WHERE clause of the SELECT of a model says. -/
def queryTree (s : Schema n) (m : QueryModel n) : Option ConditionTree :=
  match s.joinAll m with
  | .ok joins => whereTree (columnText (s.resolveJoined m joins)) m.criteria
  | .error _ => none

/-- What the WHERE clause of the DELETE of a model says. -/
def deleteTree (s : Schema n) (m : QueryModel n) : Option ConditionTree :=
  whereTree (columnText (s.resolve m.root "")) m.criteria

theorem query_saysOnly (h : s.query m = .ok t) (hwords : HasColumnWords (s.queryTree m)) :
    ∃ frame inside, s.selectStatement { m with criteria := [] } = .ok (frame, []) ∧
      t.text = frame.headText ++ clauseText inside ++ frame.orderText ∧
      Option.Rel SaysOnly inside (s.queryTree m) ∧
      t.bindings = Criterion.parametersAll m.criteria := by
  obtain ⟨frame, joins, condition, slots, hjoins, hframe, hwhere, htext, hbindings⟩ :=
    selectStatement_of_query h
  rw [queryTree, hjoins] at hwords ⊢
  obtain ⟨inside, hclause, hsays⟩ := whereCondition_saysOnly hwhere hwords
  refine ⟨frame, inside, hframe, ?_, hsays, ?_⟩
  · rw [htext, hclause]
  · rw [hbindings, (whereCondition_tree hwhere).2]

theorem delete_saysOnly (h : s.delete m = .ok t) (hwords : HasColumnWords (s.deleteTree m)) :
    ∃ inside, t.text = "DELETE FROM " ++ m.root.tableName ++ clauseText inside ∧
      Option.Rel SaysOnly inside (s.deleteTree m) ∧
      t.bindings = Criterion.parametersAll m.criteria := by
  simp only [delete, Outcome.bind_eq_ok, Outcome.pure_eq_ok, Prod.exists] at h
  obtain ⟨st, slots, hst, rfl⟩ := h
  unfold deleteStatement at hst
  split at hst
  · cases hst
  simp only [Outcome.bind_eq_ok, Outcome.pure_eq_ok, Prod.exists, Prod.mk.injEq] at hst
  obtain ⟨condition, slots, hwhere, rfl, rfl⟩ := hst
  obtain ⟨inside, hclause, hsays⟩ := whereCondition_saysOnly hwhere hwords
  refine ⟨inside, ?_, hsays, (whereCondition_tree hwhere).2⟩
  rw [← hclause]
  rfl

/-- A text says one tree at most. -/
theorem rel_saysOnly_unique {inside : Option String} {tree tree' : Option ConditionTree}
    (h : Option.Rel SaysOnly inside tree) (h' : Option.Rel SaysOnly inside tree') : tree = tree' := by
  cases h with
  | none => cases h'; rfl
  | some h =>
    cases h' with
    | some h' => rw [h.unique h']

/-- The clause of a SELECT or a DELETE says the criteria: between what the statement is without
criteria stands a text that says their tree and no other condition, and the binding table has their
parameters in the order of the text. Two lists of criteria on a model have the same text only if they
have the same tree. -/
theorem where_saysOnly (s : Schema n) (m : QueryModel n) :
    (∀ t, s.query m = .ok t → HasColumnWords (s.queryTree m) →
      ∃ frame inside, s.selectStatement { m with criteria := [] } = .ok (frame, []) ∧
        t.text = frame.headText ++ clauseText inside ++ frame.orderText ∧
        Option.Rel SaysOnly inside (s.queryTree m) ∧
        t.bindings = Criterion.parametersAll m.criteria) ∧
    (∀ t, s.delete m = .ok t → HasColumnWords (s.deleteTree m) →
      ∃ inside, t.text = "DELETE FROM " ++ m.root.tableName ++ clauseText inside ∧
        Option.Rel SaysOnly inside (s.deleteTree m) ∧
        t.bindings = Criterion.parametersAll m.criteria) ∧
    (∀ criteria t t', s.query m = .ok t → s.query { m with criteria := criteria } = .ok t' →
      HasColumnWords (s.queryTree m) → HasColumnWords (s.queryTree { m with criteria := criteria }) →
      t.text = t'.text → s.queryTree m = s.queryTree { m with criteria := criteria }) ∧
    (∀ criteria t t', s.delete m = .ok t → s.delete { m with criteria := criteria } = .ok t' →
      HasColumnWords (s.deleteTree m) → HasColumnWords (s.deleteTree { m with criteria := criteria }) →
      t.text = t'.text → s.deleteTree m = s.deleteTree { m with criteria := criteria }) := by
  refine ⟨fun t => query_saysOnly, fun t => delete_saysOnly, ?_, ?_⟩
  · intro criteria t t' h h' hwords hwords' htext
    obtain ⟨frame, inside, hframe, heq, hsays, -⟩ := query_saysOnly h hwords
    obtain ⟨frame', inside', hframe', heq', hsays', -⟩ := query_saysOnly h' hwords'
    obtain rfl : frame = frame' := congrArg Prod.fst (Except.ok.inj (hframe.symm.trans hframe'))
    rw [heq, heq', String.append_left_inj, String.append_right_inj] at htext
    obtain rfl := clauseText_injective htext
    exact rel_saysOnly_unique hsays hsays'
  · intro criteria t t' h h' hwords hwords' htext
    obtain ⟨inside, heq, hsays, -⟩ := delete_saysOnly h hwords
    obtain ⟨inside', heq', hsays', -⟩ := delete_saysOnly h' hwords'
    rw [heq, heq', String.append_right_inj] at htext
    obtain rfl := clauseText_injective htext
    exact rel_saysOnly_unique hsays hsays'

/-- The books without a title that have a large identity or none of some titles. -/
def untitledBooks : QueryModel 1 :=
  { root := .book
    criteria := [.or [.compare .gt "id" (.argument 0), .not (.isIn "title" (.argument 1))],
      .isNull "title"] }

theorem where_untitledBooks :
    ∃ t before inside after, books.query untitledBooks = .ok t ∧
      t.text = before ++ clauseText (some inside) ++ after ∧
      SaysOnly inside (.connected .and (.connected .or (.comparison .gt "book_.id")
        (.not (.inList 1 "book_.title"))) (.isNull "book_.title")) := by
  have htree : books.queryTree untitledBooks = some (.connected .and (.connected .or
      (.comparison .gt "book_.id") (.not (.inList 1 "book_.title"))) (.isNull "book_.title")) := by
    decide +kernel
  have hwords : HasColumnWords (books.queryTree untitledBooks) := by
    rw [htree]
    rintro t ⟨⟩
    decide +kernel
  obtain ⟨t, ht⟩ := Option.isSome_iff_exists.1
    (show (books.query untitledBooks).toOption.isSome by decide +kernel)
  have hquery := Outcome.eq_ok_of_toOption ht
  obtain ⟨frame, inside, -, htext, hsays, -⟩ :=
    (where_saysOnly books untitledBooks).1 t hquery hwords
  rw [htree] at hsays
  cases hsays with
  | some hsays => exact ⟨t, frame.headText, _, frame.orderText, hquery, htext, hsays⟩

end Schema

end EntitySql
