import EntitySql.Proofs.Bean.Rebinding

/-! # Columns that are populated on insert

Binding an INSERT gives every column of a property of the entity that is filled with the time that time, and
fails at one that is filled in an unknown way (`BindContext.insert_populates`). The columns of an embedded
entity are bound to what the bean holds, whichever way they are to be filled
(`BindContext.insert_skipsEmbedded`). -/

namespace EntitySql
variable {n : Nat} {σ : Type}

/-- The path of the column leads to the column's property, and not into the object of another. -/
def Column.IsOwn (c : Column n) (e : Entity n) : Prop :=
  pathInner? c.path = none ∧ e.property? c.path = some c.property

namespace BindContext
variable {ctx : BindContext n} {cascade : Cascade n σ} {e : Entity n} {p : Property n} {mode : BindMode}
  {state state' before : BeanState σ} {v : Value} {c : Column n} {path kind : String} {paths : List String}
  {values : List Value} {t : Template}

/-- The column is bound to the time, if it is to be filled with it, and is not to be filled in a way that
nothing implements. -/
def Populated (ctx : BindContext n) (mode : BindMode) (c : Column n) (v : Value) : Prop :=
  (c.property.IsStamped mode → v = ctx.currentTime c.property) ∧
    ∀ kind, c.property.autoPopulated ≠ some (.custom kind)

theorem IsKept.not_stamped {document : Json} (h : ctx.IsKept mode p document) : ¬ p.IsStamped mode := by
  rintro (hkind | ⟨hkind, rfl⟩) <;> simp [IsKept, hkind] at h

theorem IsKept.not_custom {document : Json} (h : ctx.IsKept mode p document) :
    p.autoPopulated ≠ some (.custom kind) := by
  intro hkind
  simp [IsKept, hkind] at h

theorem OwnStep.populated (h : ctx.OwnStep cascade mode c.property state v state') :
    ctx.Populated mode c v := by
  cases h with
  | read _ hkept => exact ⟨fun h => absurd h hkept.not_stamped, fun _ => hkept.not_custom⟩
  | stamped h =>
    refine ⟨fun _ => rfl, fun kind hkind => ?_⟩
    rcases h with h | ⟨h, -⟩ <;> cases h.symm.trans hkind
  | drawn hkind => simp [Populated, Property.IsStamped, hkind]
  | persisted hplain => simp [Populated, Property.IsStamped, hplain]

theorem populated_of_yields (hc : c.IsOwn e)
    (h : (ctx.bindPath cascade e mode c.path).Yields state v state') : ctx.Populated mode c v := by
  rw [bindPath_own (Option.map_eq_none_iff.1 hc.1) hc.2] at h
  exact (ownStep_of_yields h).populated

theorem run_bindPath_custom (hc : c.IsOwn e) (hkind : c.property.autoPopulated = some (.custom kind)) :
    (ctx.bindPath cascade e mode c.path).run state =
      (.error (.configuration (.unknownAutoPopulation kind c.property.name)), state) := by
  rw [bindPath_own (Option.map_eq_none_iff.1 hc.1) hc.2, bindOwn, hkind]
  rfl

/-! ### Runs -/

theorem forall₂_of_bind (h : (ctx.bind cascade e mode paths).Yields state values state') :
    List.Forall₂ (fun path v => ∃ before after, (ctx.bindPath cascade e mode path).Yields before v after)
      paths values := by
  induction paths generalizing state values with
  | nil =>
    obtain ⟨rfl, -⟩ := yields_bind_nil.1 h
    exact .nil
  | cons path paths ih =>
    obtain ⟨v, between, rest, hfirst, hrest, rfl⟩ := yields_bind_cons.1 h
    exact .cons ⟨_, _, hfirst⟩ (ih hrest)

/-- A bind fails with the first path that fails. -/
theorem run_bind_of_error {after : BeanState σ} {error : Error} {rest : List String}
    (h : (ctx.bind cascade e mode paths).Yields state values before)
    (hpath : (ctx.bindPath cascade e mode path).run before = (.error error, after)) :
    (ctx.bind cascade e mode (paths ++ path :: rest)).run state = (.error error, after) := by
  induction paths generalizing state values with
  | nil =>
    obtain ⟨-, rfl⟩ := yields_bind_nil.1 h
    rw [List.nil_append, bind, List.mapM_cons]
    exact BeanM.run_bind_error hpath _
  | cons first paths ih =>
    obtain ⟨v, between, values, hfirst, hrest, -⟩ := yields_bind_cons.1 h
    rw [List.cons_append, bind, List.mapM_cons, BeanM.run_bind_ok hfirst]
    exact BeanM.run_bind_error (ih hrest) _

/-- A column that is made from an embedded entity is bound to what the bean holds, once all are bound. -/
theorem own_or_inner (he : e.WellNamed) (hc : c ∈ ctx.schema.columns e)
    (h : ctx.AtRest e mode c.path state.bean v) :
    c.IsOwn e ∨ (∃ owner a, ctx.schema.MadeFrom e c (.inner owner a c.property)) ∧
      ctx.valueAt e c.path state.bean = .ok v := by
  obtain ⟨source, hsource⟩ := Schema.exists_madeFrom hc
  cases source with
  | own p =>
    obtain ⟨hp, -, -, hpath, -, rfl⟩ := hsource
    left
    rw [Column.IsOwn, hpath]
    exact ⟨pathInner?_of_dotless (he.dotless _ hp), he.property?_name hp⟩
  | inner owner a sub =>
    right
    have hmade := hsource
    obtain ⟨howner, -, -, hpath, -, rfl⟩ := hsource
    refine ⟨⟨owner, a, hmade⟩, ?_⟩
    have hsub : pathInner? c.path = some c.property.name := by
      rw [hpath, pathInner?_inner (he.dotless _ howner)]
    cases h with
    | inner hp hsub' h =>
      rw [valueAt, hp, hsub']
      exact h
    | stamped _ hnone | kept _ hnone => cases hsub.symm.trans hnone

/-- Every column of an INSERT that is a property of the entity is populated, and a bind that gets to one that
is to be filled in an unknown way fails there. The other columns are embedded, and bound to what the bean
holds. -/
theorem insert_populates (ht : ctx.schema.insert e = .ok t) (cascade : Cascade n σ) (state : BeanState σ) :
    (∀ values state', (ctx.bind cascade e .insert t.paths).Yields state values state' →
      List.Forall₂ (fun c v => c.IsOwn e → ctx.Populated .insert c v) (ctx.schema.insertedColumns e) values ∧
      (e.WellNamed → List.Forall₂ (fun c v => c.IsOwn e ∨
          (∃ owner a, ctx.schema.MadeFrom e c (.inner owner a c.property)) ∧
            ctx.valueAt e c.path state'.bean = .ok v)
        (ctx.schema.insertedColumns e) values)) ∧
    ∀ (i : Nat) c kind, (ctx.schema.insertedColumns e)[i]? = some c → c.IsOwn e →
      c.property.autoPopulated = some (.custom kind) →
      (∀ values state', ¬ (ctx.bind cascade e .insert t.paths).Yields state values state') ∧
      ∀ values before, (ctx.bind cascade e .insert (t.paths.take i)).Yields state values before →
        (ctx.bind cascade e .insert t.paths).run state =
          (.error (.configuration (.unknownAutoPopulation kind c.property.name)), before) := by
  have hpaths : t.paths = (ctx.schema.insertedColumns e).map (·.path) := by rw [Schema.eq_of_insert ht]; rfl
  refine ⟨fun values state' h => ⟨?_, fun he => ?_⟩, fun i c kind hc hown hkind => ?_⟩
  · have hbound := forall₂_of_bind h
    rw [hpaths, List.forall₂_map_left_iff] at hbound
    exact hbound.imp fun c v ⟨_, _, hv⟩ hown => populated_of_yields hown hv
  · have hrest := atRest_of_bind (Schema.pairwise_paths he (.inl ht)) h
    rw [hpaths, List.forall₂_map_left_iff] at hrest
    have hcolumns := (List.forall₂_and_left _ _).2 ⟨fun c hc => (List.mem_filter.1 hc).1, hrest⟩
    exact hcolumns.imp fun c v ⟨hc, hv⟩ => own_or_inner he hc hv
  · have hget : t.paths[i]? = some c.path := by rw [hpaths, List.getElem?_map, hc]; rfl
    refine ⟨fun values state' h => ?_, fun values before h => ?_⟩
    · obtain ⟨v, before, after, -, -, hv⟩ := (BeanM.yields_mapM h).2 i c.path hget
      exact (populated_of_yields hown hv).2 kind hkind
    · obtain ⟨hi, hpath⟩ := List.getElem?_eq_some_iff.1 hget
      have hsplit : t.paths = t.paths.take i ++ c.path :: t.paths.drop (i + 1) := by
        rw [← hpath, ← List.drop_eq_getElem_cons hi, List.take_append_drop]
      rw [hsplit]
      exact run_bind_of_error h (run_bindPath_custom hown hkind)

/-- Articles with an embedded history, whose slug is to be made in a way that nothing implements, for
examples. -/
def articles : Schema 2 where
  entity i :=
    if i = Fin.last 1 then {
      name := "History"
      properties := [
        { name := "created", content := .scalar .timestamp, autoPopulated := some .created },
        { name := "slug", content := .scalar .string, autoPopulated := some (.custom "slugify") }] }
    else {
      name := "Article"
      identity := some { name := "id", content := .scalar .long }
      properties := [
        { name := "title", content := .scalar .string },
        { name := "created", content := .scalar .date, autoPopulated := some .created },
        { name := "history", content := .association { kind := .embedded, target := Fin.last 1 } }] }

def publishing : BindContext 2 where
  schema := articles
  codec := .json
  now := .newYear
  freshId k := ⟨BitVec.ofNat 128 k⟩

def article : Bean := [("history", .object []), ("id", .int 1), ("title", .string "Emma")]

theorem exists_bind_article : ∃ (inserted : Template) (bound : BeanState Unit),
    publishing.schema.insert (articles.entity 0) = .ok inserted ∧
    (publishing.bind (fun _ => pure ()) (articles.entity 0) .insert inserted.paths).Yields ⟨article, 0, ()⟩
      [.string "Emma", .date Timestamp.newYear.date, .null, .null, .long 1] bound := by
  have hinserted : (articles.insert (articles.entity 0)).toOption.map (·.paths) =
      some ["title", "created", "history.created", "history.slug", "id"] := by
    decide +kernel
  obtain ⟨inserted, hi, hpaths⟩ := Option.map_eq_some_iff.1 hinserted
  refine ⟨inserted, ?_⟩
  rw [hpaths]
  exact ⟨_, Outcome.eq_ok_of_toOption hi, rfl⟩

/-- An article gets its date. A history that is inserted for itself gets its time, and fails at its slug. -/
theorem insert_populates_article : ∃ (inserted history : Template) (bound : BeanState Unit),
    publishing.schema.insert (articles.entity 0) = .ok inserted ∧
    (publishing.bind (fun _ => pure ()) (articles.entity 0) .insert inserted.paths).Yields ⟨article, 0, ()⟩
      [.string "Emma", .date Timestamp.newYear.date, .null, .null, .long 1] bound ∧
    List.Forall₂ (fun c v => c.IsOwn (articles.entity 0) → publishing.Populated .insert c v)
      (articles.insertedColumns (articles.entity 0))
      [.string "Emma", .date Timestamp.newYear.date, .null, .null, .long 1] ∧
    List.Forall₂ (fun c v => c.IsOwn (articles.entity 0) ∨
        (∃ owner a, articles.MadeFrom (articles.entity 0) c (.inner owner a c.property)) ∧
          publishing.valueAt (articles.entity 0) c.path bound.bean = .ok v)
      (articles.insertedColumns (articles.entity 0))
      [.string "Emma", .date Timestamp.newYear.date, .null, .null, .long 1] ∧
    publishing.schema.insert (articles.entity 1) = .ok history ∧
    (publishing.bind (fun _ => pure ()) (articles.entity 1) .insert history.paths).run ⟨[], 0, ()⟩ =
      (.error (.configuration (.unknownAutoPopulation "slugify" "slug")),
        ⟨[("created", .string Timestamp.newYear.text)], 0, ()⟩) := by
  obtain ⟨inserted, bound, hi, hbound⟩ := exists_bind_article
  have hhistory : (articles.insert (articles.entity 1)).toOption.map (·.paths) =
      some ["created", "slug"] := by
    decide +kernel
  obtain ⟨history, hh, hpaths⟩ := Option.map_eq_some_iff.1 hhistory
  have hh : publishing.schema.insert (articles.entity 1) = .ok history := Outcome.eq_ok_of_toOption hh
  have hcreated : (publishing.bind (fun _ => pure ()) (articles.entity 1) .insert
      (history.paths.take 1)).Yields ⟨[], 0, ()⟩ [.timestamp .newYear]
      ⟨[("created", .string Timestamp.newYear.text)], 0, ()⟩ := by
    rw [hpaths]
    rfl
  have hnamed : (articles.entity 0).WellNamed := ⟨by decide +kernel, by decide +kernel⟩
  obtain ⟨hpopulated, hembedded⟩ := (insert_populates hi (fun _ => pure ()) ⟨article, 0, ()⟩).1 _ _ hbound
  have hfails := (insert_populates hh (fun _ => pure ()) ⟨[], 0, ()⟩).2 1 _ "slugify" rfl ⟨rfl, rfl⟩ rfl
  exact ⟨inserted, history, bound, hi, hbound, hpopulated, hembedded hnamed, hh, hfails.2 _ _ hcreated⟩

/-- The time of creation in an article's history is left out, and the slug there passes. -/
theorem insert_skipsEmbedded : ∃ (inserted : Template) (bound : BeanState Unit) (created slug : Column 2),
    publishing.schema.insert (articles.entity 0) = .ok inserted ∧
    Bean.read article "history" = .object [] ∧
    (publishing.bind (fun _ => pure ()) (articles.entity 0) .insert inserted.paths).Yields ⟨article, 0, ()⟩
      [.string "Emma", .date Timestamp.newYear.date, .null, .null, .long 1] bound ∧
    (articles.insertedColumns (articles.entity 0))[2]? = some created ∧
    created.property.autoPopulated = some .created ∧
    publishing.currentTime created.property = .timestamp .newYear ∧
    (articles.insertedColumns (articles.entity 0))[3]? = some slug ∧
    slug.property.autoPopulated = some (.custom "slugify") := by
  obtain ⟨inserted, bound, hi, hbound⟩ := exists_bind_article
  exact ⟨inserted, bound, _, _, hi, rfl, hbound, rfl, rfl, rfl, rfl, rfl⟩

end BindContext

end EntitySql
