import EntitySql.Proofs.Metadata.Columns
import EntitySql.Proofs.Outcome
import EntitySql.Proofs.Query.Names

/-! # Columns and their tables

Which columns a table has (`Schema.HasColumn`), and which tables have an alias in a statement
(`GivesAlias`). A path of an entity stands for a column of its table, if what the entity embeds has no
identity (`Schema.resolve_hasColumn`), and a condition has the columns of its paths. -/

namespace EntitySql
variable {n : Nat}

/-! ### Tables and their columns -/

/-- The property has one column of its own. -/
def Property.IsSingle (p : Property n) : Prop := p.isForeignKey = false ∧ p.embedded? = none

instance (p : Property n) : Decidable p.IsSingle := inferInstanceAs (Decidable (_ ∧ _))

namespace Schema

/-- The entity is the root of a query, or one of the schema. -/
def Knows (s : Schema n) (root e : Entity n) : Prop := e = root ∨ ∃ i, s.entity i = e

/-- The table has the column. Both are written as in the table's definition: the table is that of an
entity, or a join table. -/
inductive HasColumn (s : Schema n) (root : Entity n) : (table column : String) → Prop
  | entity {e : Entity n} {c : Column n} (he : s.Knows root e) (hc : c ∈ s.columns e) :
    HasColumn s root e.tableName c.text
  | linkOwner {owner : Entity n} {p : Property n} {a : Association n} {columns : String × String}
    (howner : s.Knows root owner) (hp : p ∈ owner.joinTableProperties) (ha : p.association? = some a)
    (hcolumns : s.joinTableColumns owner p a = .ok columns) :
    HasColumn s root (owner.quote (joinTableName owner p a)) (owner.quote columns.1)
  | linkTarget {owner : Entity n} {p : Property n} {a : Association n} {columns : String × String}
    (howner : s.Knows root owner) (hp : p ∈ owner.joinTableProperties) (ha : p.association? = some a)
    (hcolumns : s.joinTableColumns owner p a = .ok columns) :
    HasColumn s root (owner.quote (joinTableName owner p a)) ((s.target a).quote columns.2)

end Schema

/-- The FROM clause or a join gives the alias to the table. -/
def GivesAlias (root : Entity n) (joins : List JoinPiece) (table tableAlias : String) : Prop :=
  table = root.tableName ∧ tableAlias = root.rootAlias ∨
    (" JOIN " ++ table ++ " " ++ tableAlias ++ " ON ").toList <:+:
      (String.join (joins.map (·.text))).toList

/-- The qualifier of the column is the alias of a table that has the column. -/
def Schema.InScope (s : Schema n) (root : Entity n) (joins : List JoinPiece) (c : QualifiedColumn) :
    Prop :=
  ∃ table, GivesAlias root joins table c.qualifier ∧ s.HasColumn root table c.name

def SelectItem.columns : SelectItem → List QualifiedColumn
  | star | count => []
  | column c => [c]
  | fetched owner field _ => [⟨owner, field⟩]

def JoinPiece.columns : JoinPiece → List QualifiedColumn
  | clause c => [⟨c.onAlias, c.onColumn⟩, ⟨c.tableAlias, c.column⟩]
  | blank => []

/-- Every column that a SELECT writes, in the order of the text. -/
def SelectStatement.columns (st : SelectStatement) : List QualifiedColumn :=
  st.items.flatMap (·.columns) ++ st.joins.flatMap (·.columns)
    ++ st.condition.toList.flatMap (·.columns) ++ st.order.map (·.column)

/-! ### What a schema has to keep to -/

namespace Schema

/-- A join along an association of the entity names columns that exist. -/
structure Joinable (s : Schema n) (e : Entity n) (a : Association n) : Prop where
  escape : (s.target a).escape = e.escape
  target : ∀ identity ∈ (s.target a).identity, identity.IsSingle
  owner : a.isForeignKey = true → ∀ identity ∈ e.identity, identity.IsSingle
  mapped : a.isForeignKey = true → ∀ name ∈ a.mappedBy, ∀ q ∈ (s.target a).property? name, q.IsSingle

/-- All associations of the entity can be joined, and what it embeds has no identity. -/
structure Sound (s : Schema n) (e : Entity n) : Prop where
  joinable : ∀ p ∈ e.properties ++ e.identity.toList, ∀ a ∈ p.association?, a.isEmbedded = false →
    s.Joinable e a
  embedded : ∀ p ∈ e.properties ++ e.identity.toList, ∀ a ∈ p.embedded?, (s.target a).identity = none

instance (s : Schema n) (e : Entity n) (a : Association n) : Decidable (s.Joinable e a) :=
  decidable_of_iff
    ((s.target a).escape = e.escape ∧ (∀ identity ∈ (s.target a).identity, identity.IsSingle) ∧
      (a.isForeignKey = true → ∀ identity ∈ e.identity, identity.IsSingle) ∧
      (a.isForeignKey = true → ∀ name ∈ a.mappedBy, ∀ q ∈ (s.target a).property? name, q.IsSingle))
    ⟨fun ⟨hescape, htarget, howner, hmapped⟩ => ⟨hescape, htarget, howner, hmapped⟩,
      fun h => ⟨h.escape, h.target, h.owner, h.mapped⟩⟩

instance (s : Schema n) (e : Entity n) : Decidable (s.Sound e) :=
  decidable_of_iff
    ((∀ p ∈ e.properties ++ e.identity.toList, ∀ a ∈ p.association?, a.isEmbedded = false →
      s.Joinable e a) ∧
      ∀ p ∈ e.properties ++ e.identity.toList, ∀ a ∈ p.embedded?, (s.target a).identity = none)
    ⟨fun ⟨hjoinable, hembedded⟩ => ⟨hjoinable, hembedded⟩, fun h => ⟨h.joinable, h.embedded⟩⟩

end Schema

/-- The root's table and the tables that joins lead to. -/
def QueryModel.tables (m : QueryModel n) (j : Joins n) : List (JoinedTable n) :=
  ⟨"", m.root.rootAlias, m.root⟩ :: j.tables

/-- No alias is used for tables of two entities. -/
def OneEntityEach (tables : List (JoinedTable n)) : Prop :=
  ∀ t ∈ tables, ∀ t' ∈ tables, t.tableAlias = t'.tableAlias → t.entity = t'.entity

instance (tables : List (JoinedTable n)) : Decidable (OneEntityEach tables) :=
  inferInstanceAs (Decidable (∀ t ∈ tables, ∀ t' ∈ tables, _))

/-! ### Paths -/

namespace Schema
variable {s : Schema n} {root e : Entity n}

theorem mem_of_property? {name : String} {p : Property n} (h : e.property? name = some p) :
    p ∈ e.properties ++ e.identity.toList :=
  List.mem_of_find?_eq_some h

theorem mem_of_identity {identity : Property n} (h : e.identity = some identity) :
    identity ∈ e.properties ++ e.identity.toList := by
  simp [h]

theorem hasColumn_of_mem {p : Property n} {column : String} (he : s.Knows root e)
    (hp : p ∈ e.properties ++ e.identity.toList)
    (h : ∀ identity, ∃ c ∈ s.columnsOf e identity p, c.text = column) :
    s.HasColumn root e.tableName column := by
  rcases List.mem_append.1 hp with hp | hp
  · obtain ⟨c, hc, rfl⟩ := h false
    exact .entity he (List.mem_append_left _ (List.mem_flatMap.2 ⟨p, hp, hc⟩))
  · obtain ⟨c, hc, rfl⟩ := h true
    exact .entity he (List.mem_append_right _ (List.mem_flatMap.2 ⟨p, hp, hc⟩))

theorem hasColumn_of_isSingle {p : Property n} (he : s.Knows root e)
    (hp : p ∈ e.properties ++ e.identity.toList) (h : p.IsSingle) :
    s.HasColumn root e.tableName (e.quote (e.columnName p)) :=
  hasColumn_of_mem he hp fun identity => by simp [columnsOf, h.1, h.2]

theorem hasColumn_of_embedded {p sub : Property n} {a : Association n} (he : s.Knows root e)
    (hp : p ∈ e.properties ++ e.identity.toList) (ha : p.embedded? = some a)
    (hsub : sub ∈ (s.target a).properties) :
    s.HasColumn root e.tableName (e.quote (e.embeddedColumnName p sub)) := by
  have hforeign : p.isForeignKey = false := by
    obtain ⟨hassociation, hembedded⟩ := Option.filter_eq_some_iff.1 ha
    have hkind : a.kind = .embedded := by simpa [Association.isEmbedded] using hembedded
    simp [Property.isForeignKey, hassociation, Association.isForeignKey, hkind]
  refine hasColumn_of_mem he hp fun identity => ?_
  simp only [columnsOf, hforeign, ha]
  exact ⟨_, List.mem_map_of_mem hsub, rfl⟩

theorem resolveProperty_hasColumn {qualifier path : String} {r : ResolvedPath} (he : s.Knows root e)
    (h : s.resolveProperty e qualifier path = .ok r) :
    r.column.qualifier = qualifier ∧ s.HasColumn root e.tableName r.column.name := by
  unfold resolveProperty at h
  split at h
  · cases h
  next p hproperty =>
  split at h
  · cases h
  next hsingle =>
  have hcolumn : r.column = ⟨qualifier, e.quote (e.columnName p)⟩ := by
    split at h <;> simp only [Outcome.bind_eq_ok, Outcome.pure_eq_ok] at h <;>
      obtain ⟨type, -, rfl⟩ := h <;> rfl
  rw [hcolumn]
  exact ⟨rfl, hasColumn_of_isSingle he (mem_of_property? hproperty)
    (by simpa [Property.IsSingle] using hsingle)⟩

theorem resolveInner_hasColumn {qualifier path owner sub : String} {r : ResolvedPath}
    (he : s.Knows root e) (hsound : s.Sound e)
    (h : s.resolveInner e qualifier path owner sub = .ok r) :
    r.column.qualifier = qualifier ∧ s.HasColumn root e.tableName r.column.name := by
  unfold resolveInner at h
  dsimp only at h
  split at h
  · cases h
  next p hproperty =>
  have hp := mem_of_property? hproperty
  split at h
  · cases h
  next a ha =>
  split at h
  · next hembedded =>
    have ha : p.embedded? = some a := by simp [Property.embedded?, ha, hembedded]
    split at h
    · cases h
    next inner hinner =>
    obtain rfl := Except.ok.inj h
    have hsub := mem_of_property? hinner
    rw [hsound.embedded p hp a ha, Option.toList_none, List.append_nil] at hsub
    exact ⟨rfl, hasColumn_of_embedded he hp ha hsub⟩
  · next hembedded =>
    simp only [Outcome.bind_eq_ok] at h
    obtain ⟨identity, -, h⟩ := h
    split at h
    · next hreference =>
      obtain rfl := Outcome.pure_eq_ok.1 h
      have hforeign : a.isForeignKey = false := by simp_all
      refine ⟨rfl, hasColumn_of_isSingle he hp ⟨?_, ?_⟩⟩
      · simp [Property.isForeignKey, ha, hforeign]
      · simp [Property.embedded?, ha, hembedded]
    · cases h

theorem resolve_hasColumn {qualifier path : String} {r : ResolvedPath} (he : s.Knows root e)
    (hsound : s.Sound e) (h : s.resolve e qualifier path = .ok r) :
    r.column.qualifier = qualifier ∧ s.HasColumn root e.tableName r.column.name := by
  unfold resolve at h
  split at h
  · exact resolveProperty_hasColumn he h
  · exact resolveInner_hasColumn he hsound h

end Schema

/-! ### Conditions -/

namespace Condition

theorem mem_columns_foldl {connective : Connective} {conditions : List Condition} {first : Condition}
    {c : QualifiedColumn} (h : c ∈ (conditions.foldl (connected connective) first).columns) :
    c ∈ first.columns ∨ ∃ condition ∈ conditions, c ∈ condition.columns := by
  induction conditions generalizing first with
  | nil => exact .inl h
  | cons condition conditions ih =>
    rcases ih h with hfirst | ⟨other, hother, hc⟩
    · rcases List.mem_append.1 hfirst with hc | hc
      · exact .inl hc
      · exact .inr ⟨condition, by simp, hc⟩
    · exact .inr ⟨other, by simp [hother], hc⟩

theorem mem_columns_chain {connective : Connective} {empty : Condition} (hempty : empty.columns = [])
    {conditions : List Condition} {c : QualifiedColumn}
    (h : c ∈ (chain connective empty conditions).columns) :
    ∃ condition ∈ conditions, c ∈ condition.columns := by
  cases conditions with
  | nil => simp [chain, hempty] at h
  | cons first others =>
    rcases mem_columns_foldl h with hc | ⟨other, hother, hc⟩
    · exact ⟨first, by simp, hc⟩
    · exact ⟨other, by simp [hother], hc⟩

end Condition

namespace Criterion
variable {resolve : String → Outcome ResolvedPath} {P : QualifiedColumn → Prop}

mutual

theorem compile_columns (hresolve : ∀ path r, resolve path = .ok r → P r.column) :
    ∀ (criterion : Criterion) {slots slots' : List Slot} {condition : Condition},
    criterion.compile resolve slots = .ok (condition, slots') → ∀ c ∈ condition.columns, P c
  | compare .., _, _, _, h | isIn .., _, _, _, h | isNull .., _, _, _, h | isNotNull .., _, _, _, h => by
    simp only [compile, Outcome.bind_eq_ok, Outcome.pure_eq_ok, Prod.mk.injEq] at h
    obtain ⟨r, hr, rfl, -⟩ := h
    intro c hc
    obtain rfl := List.mem_singleton.1 hc
    exact hresolve _ r hr
  | and criteria, _, _, _, h | or criteria, _, _, _, h => by
    simp only [compile, Outcome.bind_eq_ok, Outcome.pure_eq_ok, Prod.mk.injEq, Prod.exists] at h
    obtain ⟨conditions, slots, hall, rfl, -⟩ := h
    intro c hc
    obtain ⟨condition, hcondition, hc⟩ := Condition.mem_columns_chain rfl hc
    exact compileAll_columns hresolve criteria hall condition hcondition c hc
  | not criterion, _, _, _, h => by
    simp only [compile, Outcome.bind_eq_ok, Outcome.pure_eq_ok, Prod.mk.injEq, Prod.exists] at h
    obtain ⟨condition, slots, hinner, rfl, -⟩ := h
    intro c hc
    exact compile_columns hresolve criterion hinner c hc

theorem compileAll_columns (hresolve : ∀ path r, resolve path = .ok r → P r.column) :
    ∀ (criteria : List Criterion) {slots slots' : List Slot} {conditions : List Condition},
    compileAll resolve criteria slots = .ok (conditions, slots') →
    ∀ condition ∈ conditions, ∀ c ∈ condition.columns, P c
  | [], _, _, _, h => by
    simp only [compileAll, Outcome.pure_eq_ok, Prod.mk.injEq] at h
    obtain ⟨rfl, -⟩ := h
    simp
  | criterion :: criteria, _, _, _, h => by
    simp only [compileAll, Outcome.bind_eq_ok, Outcome.pure_eq_ok, Prod.mk.injEq,
      Prod.exists] at h
    obtain ⟨condition, slots, hfirst, conditions, slots', hrest, rfl, -⟩ := h
    intro condition' hcondition'
    rcases List.mem_cons.1 hcondition' with rfl | hmem
    · exact compile_columns hresolve criterion hfirst
    · exact compileAll_columns hresolve criteria hrest condition' hmem

end

end Criterion

theorem whereCondition_columns {resolve : String → Outcome ResolvedPath} {P : QualifiedColumn → Prop}
    (hresolve : ∀ path r, resolve path = .ok r → P r.column) {criteria : List Criterion}
    {condition : Option Condition} {slots : List Slot}
    (h : whereCondition resolve criteria = .ok (condition, slots)) :
    ∀ c ∈ condition.toList.flatMap (·.columns), P c := by
  simp only [whereCondition, Outcome.bind_eq_ok, Outcome.pure_eq_ok, Prod.mk.injEq, Prod.exists] at h
  obtain ⟨conditions, slots', hall, rfl, -⟩ := h
  intro c hc
  split at hc
  · simp at hc
  · simp only [Option.toList_some, List.flatMap_singleton] at hc
    obtain ⟨condition, hcondition, hc⟩ := Condition.mem_columns_chain rfl hc
    exact Criterion.compileAll_columns hresolve criteria hall condition hcondition c hc

end EntitySql
