import EntitySql.Proofs.Outcome
import EntitySql.Statement.Table

/-! # What table definitions are made of

The statements that create the tables of an entity, when they can be compiled: one for each join table in the
order of the associations, and one for the entity's own table, with one definition for each column
(`Schema.createStatements_eq_ok`, `Schema.ownTableDefinition_columns`). The tables have the names that
dropping them takes (`Schema.dropStatements_eq`). -/

namespace EntitySql
variable {n : Nat}

theorem getElem?_of_forall₂ {α β : Type} {R : α → β → Prop} {as : List α} {bs : List β}
    (h : List.Forall₂ R as bs) {k : Nat} {a : α} (ha : as[k]? = some a) : ∃ b, bs[k]? = some b ∧ R a b := by
  obtain ⟨hk, rfl⟩ := List.getElem?_eq_some_iff.1 ha
  have hk' : k < bs.length := h.length_eq ▸ hk
  exact ⟨bs[k], List.getElem?_eq_getElem hk', h.get hk hk'⟩

/-- When all of a list is kept, the list is related to what the images are related to. -/
theorem forall₂_of_filterMap {α β γ : Type} {f : α → Option β} {R : β → γ → Prop} {as : List α} {cs : List γ}
    (hf : ∀ a ∈ as, ∃ b, f a = some b) (h : List.Forall₂ R (as.filterMap f) cs) :
    List.Forall₂ (fun a c => ∃ b, f a = some b ∧ R b c) as cs := by
  induction as generalizing cs with
  | nil =>
    cases h
    exact .nil
  | cons a as ih =>
    obtain ⟨b, hb⟩ := hf a List.mem_cons_self
    rw [List.filterMap_cons_some hb] at h
    obtain ⟨c, rest, hfirst, hrest, rfl⟩ := List.forall₂_cons_left_iff.1 h
    exact .cons ⟨b, hb, hfirst⟩ (ih (fun a ha => hf a (List.mem_cons_of_mem _ ha)) hrest)

/-- The statement that drops a table. -/
def TableDefinition.dropText (t : TableDefinition) : String := "DROP TABLE " ++ t.name ++ ";"

theorem Entity.association_of_joinTable {e : Entity n} {p : Property n} (hp : p ∈ e.joinTableProperties) :
    ∃ a, p.association? = some a ∧ a.isJoinTable = true :=
  (Option.any_eq_true _ _).1 (List.mem_filter.1 hp).2

namespace Schema
variable {s : Schema n} {e : Entity n} {p : Property n} {a : Association n} {t own : TableDefinition}
  {tables : List TableDefinition}

theorem joinTableDefinition_name (h : s.joinTableDefinition e p a = .ok t) :
    t.name = e.quote (joinTableName e p a) := by
  simp only [joinTableDefinition, Outcome.bind_eq_ok, Outcome.pure_eq_ok] at h
  obtain ⟨_, _, _, _, _, _, _, _, _, _, rfl⟩ := h
  rfl

theorem ownTableDefinition_name (h : s.ownTableDefinition e = .ok own) : own.name = e.tableName := by
  simp only [ownTableDefinition, Outcome.bind_eq_ok, Outcome.pure_eq_ok] at h
  obtain ⟨_, _, rfl⟩ := h
  rfl

/-- One definition for each column, with the name of the column and the type of its property. -/
theorem ownTableDefinition_columns (h : s.ownTableDefinition e = .ok own) :
    List.Forall₂ (fun c d => d.name = c.text ∧ s.columnType e c.property = .ok d.type)
      (s.columns e) own.columns := by
  simp only [ownTableDefinition, Outcome.bind_eq_ok, Outcome.pure_eq_ok] at h
  obtain ⟨columns, hcolumns, rfl⟩ := h
  refine (Outcome.mapM_eq_ok.1 hcolumns).imp ?_
  intro c d hdefinition
  simp only [Outcome.bind_eq_ok, Outcome.pure_eq_ok] at hdefinition
  obtain ⟨type, htype, rfl⟩ := hdefinition
  exact ⟨rfl, htype⟩

theorem tableDefinitions_eq_ok (h : s.tableDefinitions e = .ok tables) :
    ∃ joinTables own, s.ownTableDefinition e = .ok own ∧
      List.Forall₂ (fun p t => ∃ a, p.association? = some a ∧ s.joinTableDefinition e p a = .ok t)
        e.joinTableProperties joinTables ∧ tables = joinTables ++ [own] := by
  simp only [tableDefinitions, Outcome.bind_eq_ok, Outcome.pure_eq_ok] at h
  obtain ⟨joinTables, hjoin, own, hown, rfl⟩ := h
  refine ⟨joinTables, own, hown, ?_, rfl⟩
  have hlinks : ∀ p ∈ e.joinTableProperties, ∃ link, p.association?.map (p, ·) = some link := by
    intro p hp
    obtain ⟨a, ha, -⟩ := Entity.association_of_joinTable hp
    exact ⟨(p, a), by rw [ha]; rfl⟩
  refine (forall₂_of_filterMap hlinks (Outcome.mapM_eq_ok.1 hjoin)).imp ?_
  rintro p t ⟨link, hlink, hdefinition⟩
  obtain ⟨a, ha, rfl⟩ := Option.map_eq_some_iff.1 hlink
  exact ⟨a, ha, hdefinition⟩

/-- The tables that are defined are the tables of the entity, which need no definition to be named. -/
theorem tableDefinitions_names (h : s.tableDefinitions e = .ok tables) :
    tables.map (·.name) = e.tableNames := by
  obtain ⟨joinTables, own, hown, hjoin, rfl⟩ := tableDefinitions_eq_ok h
  have hnames : joinTables.map (·.name) = e.joinTableProperties.filterMap fun p =>
      p.association?.map fun a => e.quote (joinTableName e p a) := by
    clear h
    generalize e.joinTableProperties = links at hjoin
    induction hjoin with
    | nil => rfl
    | cons hfirst _ ih =>
      obtain ⟨a, ha, hdefinition⟩ := hfirst
      rw [List.map_cons, ih, joinTableDefinition_name hdefinition, List.filterMap_cons_some (by rw [ha]; rfl)]
  rw [List.map_append, hnames, List.map_singleton, ownTableDefinition_name hown]
  rfl

theorem dropStatements_eq (h : s.tableDefinitions e = .ok tables) :
    e.dropStatements = tables.map (·.dropText) := by
  rw [Entity.dropStatements, ← tableDefinitions_names h, List.map_map]
  rfl

theorem createStatements_eq_ok {created : List String} (h : s.createStatements e = .ok created) :
    ∃ joinTables own, s.ownTableDefinition e = .ok own ∧
      List.Forall₂ (fun p t => ∃ a, p.association? = some a ∧ s.joinTableDefinition e p a = .ok t)
        e.joinTableProperties joinTables ∧ created = joinTables.map (·.text) ++ [own.text] := by
  obtain ⟨tables, htables, rfl⟩ := Outcome.map_eq_ok.1 h
  obtain ⟨joinTables, own, hown, hjoin, rfl⟩ := tableDefinitions_eq_ok htables
  exact ⟨joinTables, own, hown, hjoin, by rw [List.map_append, List.map_singleton]⟩

theorem createStatements_joinTable {k : Nat} {created : List String}
    (h : s.createStatements e = .ok created) (hp : e.joinTableProperties[k]? = some p)
    (ha : p.association? = some a) :
    ∃ t, s.joinTableDefinition e p a = .ok t ∧ created[k]? = some t.text := by
  obtain ⟨joinTables, own, -, hjoin, rfl⟩ := createStatements_eq_ok h
  obtain ⟨t, ht, a', ha', hdefinition⟩ := getElem?_of_forall₂ hjoin hp
  obtain rfl := Option.some.inj (ha.symm.trans ha')
  refine ⟨t, hdefinition, ?_⟩
  rw [List.getElem?_append_left, List.getElem?_map, ht]
  · rfl
  · rw [List.length_map]
    exact (List.getElem?_eq_some_iff.1 ht).1

end Schema

end EntitySql
