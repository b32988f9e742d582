import EntitySql.Proofs.Bean.Steps
import EntitySql.Proofs.Repository.Trace

/-! # Binding the columns of an INSERT

What binding the columns of an INSERT changes and plans (`BindContext.bind_bound`): each column writes
its own property only, so that what it binds is still there when all are bound, and the objects that
it cascades to are the ones that the document said before. -/

namespace EntitySql
variable {n : Nat}

/-- What the metadata of a schema has to be for cascades: names can be told apart, identities are
plain values that are not filled with times, and references are not filled at all. -/
structure Schema.Cascadable (s : Schema n) : Prop where
  names : Function.Injective fun i => (s.entity i).name
  wellNamed : ∀ i, (s.entity i).WellNamed
  identity_scalar : ∀ i identity, (s.entity i).identity = some identity →
    identity.association? = none ∧ identity.type ≠ .json ∧
      identity.autoPopulated ≠ some .created ∧ identity.autoPopulated ≠ some .updated
  reference_plain : ∀ i, ∀ p ∈ (s.entity i).properties, ∀ a, p.association? = some a → a.isToOne →
    p.autoPopulated = none

/-- The kept statements are those that the entities of the schema compile to. -/
def Schema.Kept (s : Schema n) (kept : StoredStatements) : Prop :=
  ∀ key template, kept.lookup key = some template → ∀ i, (s.entity i).name = key.entity →
    s.compileStored (s.entity i) key.kind = .ok template

/-- The state has the statements of a trace at the end of its plan. -/
structure Grows (s : Schema n) (state state' : BeanState PlanState) (trace : Trace) : Prop where
  plan : state'.outer.plan = state.outer.plan ++ trace.map Prod.snd
  kept : s.Kept state'.outer.stored

theorem Grows.append {s : Schema n} {state state' state'' : BeanState PlanState}
    {trace trace' : Trace} (h : Grows s state state' trace) (h' : Grows s state' state'' trace') :
    Grows s state state'' (trace ++ trace') := by
  refine ⟨?_, h'.kept⟩
  rw [h'.plan, h.plan, List.map_append, List.append_assoc]

/-- A cascade whose plans are traces. -/
def CascadesSoundly (s : Schema n) (cascade : Cascade n PlanState) : Prop :=
  ∀ i state state', (cascade (s.entity i)).Yields state () state' → s.Kept state.outer.stored →
    ∃ trace, Grows s state state' trace ∧ s.Traces (s.entity i) state.bean state'.bean trace

namespace Bean
variable {bean bean' : Bean}

theorem document_congr {path : String}
    (h : bean.read (pathOwner path) = bean'.read (pathOwner path)) :
    bean.document path = bean'.document path := by
  unfold document
  unfold pathOwner at h
  split at h
  · next hcut => simpa [hcut] using h
  · next name sub hcut => simp [hcut, h]

theorem document_of_dotless {path : String} (h : '.' ∉ path.toList) (bean : Bean) :
    bean.document path = bean.read path := by
  rw [document, Text.cutFirst_eq_none h]

theorem document_inner {name : String} {fields : Fields Json} (hdot : '.' ∉ name.toList)
    (h : bean.read name = .object fields) (sub : String) :
    bean.document (name ++ "." ++ sub) = Bean.read fields sub := by
  rw [document, cutFirst_inner hdot]
  simp only [String.ofList_toList, h]

theorem document_inner_null {name : String} (hdot : '.' ∉ name.toList)
    (h : ∀ fields, bean.read name = .object fields → False) (sub : String) :
    bean.document (name ++ "." ++ sub) = .null := by
  rw [document, cutFirst_inner hdot]
  simp only [String.ofList_toList]

theorem child?_congr {step : Step} (h : bean.read step.property = bean'.read step.property) :
    bean.child? step = bean'.child? step := by
  unfold child?
  rw [h]

end Bean

namespace Schema
variable {s : Schema n} {e : Entity n} {c : Column n} {bean bean' initial middle final : Bean}
  {value : Value} {values : List Value} {parts parts' : List Part} {cs : List (Column n)}

theorem ColumnIs.congr (h : s.ColumnIs c bean value)
    (hread : bean.read (pathOwner c.path) = bean'.read (pathOwner c.path)) :
    s.ColumnIs c bean' value := by
  unfold ColumnIs at h ⊢
  rw [← Bean.document_congr hread]
  exact h

theorem referenceIs_null {target : Entity n} {document : Json}
    (h : ∀ object, document = .object object → False) : ReferenceIs target document .null := by
  unfold ReferenceIs
  split
  · next object => exact absurd rfl (h object)
  · rfl

theorem cascadeTarget?_eq_some (h : e.WellNamed) {step : Step} {target : Entity n} :
    s.cascadeTarget? e step = some target ↔ ∃ p a, p ∈ e.properties ∧ p.name = step.property ∧
      p.association? = some a ∧ a.cascades = true ∧ s.target a = target ∧
      (if step.index.isSome then a.isJoinTable = true
        else a.isToOne = true ∧ p.generated = false) := by
  simp only [cascadeTarget?, Option.bind_eq_bind, Option.bind_eq_some_iff]
  constructor
  · rintro ⟨p, hfind, a, ha, hif⟩
    have hname : p.name = step.property := by simpa using List.find?_some hfind
    have hcond : (a.cascades &&
        (if step.index.isSome then a.isJoinTable else a.isToOne && !p.generated)) = true := by
      by_contra hne
      rw [if_neg hne] at hif
      cases hif
    rw [if_pos hcond] at hif
    rw [Bool.and_eq_true] at hcond
    refine ⟨p, a, List.mem_of_find?_eq_some hfind, hname, ha, hcond.1, Option.some.inj hif, ?_⟩
    cases hindex : step.index.isSome <;> simp_all
  · rintro ⟨p, a, hp, hname, ha, hcascades, rfl, hkind⟩
    refine ⟨p, hname ▸ h.find?_name hp, a, ha, ?_⟩
    rw [if_pos]
    cases hindex : step.index.isSome <;> simp_all

/-- The target at a property, which is the only one of its name. -/
theorem cascadeTarget?_name (h : e.WellNamed) {p : Property n}
    (hp : p ∈ e.properties ++ e.identity.toList) {index : Option Nat} {target : Entity n} :
    s.cascadeTarget? e ⟨p.name, index⟩ = some target ↔ p ∈ e.properties ∧ ∃ a,
      p.association? = some a ∧ a.cascades = true ∧ s.target a = target ∧
      (if index.isSome then a.isJoinTable = true
        else a.isToOne = true ∧ p.generated = false) := by
  rw [cascadeTarget?_eq_some h]
  constructor
  · rintro ⟨q, a, hq, hname, ha⟩
    obtain rfl := h.eq_of_name (List.mem_append_left _ hq) hp hname
    exact ⟨hq, a, ha⟩
  · rintro ⟨hp, a, ha⟩
    exact ⟨p, a, hp, rfl, ha⟩

theorem pathOwner_of_cascadeTarget? (h : e.WellNamed) {step : Step} {target : Entity n}
    (htarget : s.cascadeTarget? e step = some target) :
    pathOwner step.property = step.property := by
  obtain ⟨p, a, hp, hname, -⟩ := (cascadeTarget?_eq_some h).1 htarget
  rw [← hname]
  exact pathOwner_of_dotless (h.dotless p (List.mem_append_left _ hp))

/-- What binding some columns of an INSERT has changed and planned. -/
structure ColumnsBound (s : Schema n) (e : Entity n) (cs : List (Column n)) (initial final : Bean)
    (values : List Value) (parts : List Part) : Prop where
  frame : ∀ name, (∀ c ∈ cs, c.path ≠ name) → final.read name = initial.read name
  values : List.Forall₂ (fun c value => s.ColumnIs c final value) cs values
  keys : (parts.map Part.key).Nodup
  only : ∀ part ∈ parts, ∃ c ∈ cs, ∃ trace, part = .child ⟨c.path, none⟩ trace
  child : ∀ step trace, .child step trace ∈ parts → s.StepTraced e initial final step trace
  child_planned : ∀ c ∈ cs, ∀ target object, s.cascadeTarget? e ⟨c.path, none⟩ = some target →
    initial.child? ⟨c.path, none⟩ = some object → target.isUnset object →
    ∃ trace, .child ⟨c.path, none⟩ trace ∈ parts

theorem ColumnsBound.nil : s.ColumnsBound e [] initial initial [] [] where
  frame := fun _ _ => rfl
  values := .nil
  keys := List.nodup_nil
  only := by simp
  child := by simp
  child_planned := by simp

/-- A column that plans nothing. -/
theorem ColumnsBound.of_quiet
    (hframe : ∀ name, c.path ≠ name → final.read name = initial.read name)
    (hvalue : s.ColumnIs c final value)
    (hquiet : ∀ target object, s.cascadeTarget? e ⟨c.path, none⟩ = some target →
      initial.child? ⟨c.path, none⟩ = some object → ¬ target.isUnset object) :
    s.ColumnsBound e [c] initial final [value] [] where
  frame := fun name h => hframe name (h c (by simp))
  values := .cons hvalue .nil
  keys := List.nodup_nil
  only := by simp
  child := by simp
  child_planned := by
    intro d hd target object htarget hobject hunset
    obtain rfl := List.mem_singleton.1 hd
    exact absurd hunset (hquiet target object htarget hobject)

/-- A column that cascades. -/
theorem ColumnsBound.of_child {trace : Trace}
    (hframe : ∀ name, c.path ≠ name → final.read name = initial.read name)
    (hvalue : s.ColumnIs c final value)
    (hchild : s.StepTraced e initial final ⟨c.path, none⟩ trace) :
    s.ColumnsBound e [c] initial final [value] [.child ⟨c.path, none⟩ trace] where
  frame := fun name h => hframe name (h c (by simp))
  values := .cons hvalue .nil
  keys := List.nodup_singleton _
  only := fun part hpart => ⟨c, by simp, trace, List.mem_singleton.1 hpart⟩
  child := by
    intro step inner hpart
    cases List.mem_singleton.1 hpart
    exact hchild
  child_planned := by
    intro d hd target object _ _ _
    obtain rfl := List.mem_singleton.1 hd
    exact ⟨trace, by simp⟩

/-- Columns that are apart do not undo what was bound for the others. -/
theorem ColumnsBound.cons (he : e.WellNamed) (h : s.ColumnsBound e [c] initial middle [value] parts)
    (hrest : s.ColumnsBound e cs middle final values parts') (hapart : ∀ d ∈ cs, Apart c d) :
    s.ColumnsBound e (c :: cs) initial final (value :: values) (parts ++ parts') := by
  have hearlier : ∀ name, c.path ≠ name → middle.read name = initial.read name := fun name hne =>
    h.frame name fun d hd => by
      obtain rfl := List.mem_singleton.1 hd
      exact hne
  -- a cascade of one column is at a property that the other columns do not write
  have hfirst : ∀ target, s.cascadeTarget? e ⟨c.path, none⟩ = some target →
      final.child? ⟨c.path, none⟩ = middle.child? ⟨c.path, none⟩ := fun target htarget => by
    have howner : pathOwner c.path = c.path := pathOwner_of_cascadeTarget? he htarget
    exact Bean.child?_congr (hrest.frame c.path fun d hd => howner ▸ (hapart d hd).2)
  have hothers : ∀ d ∈ cs, ∀ target, s.cascadeTarget? e ⟨d.path, none⟩ = some target →
      middle.child? ⟨d.path, none⟩ = initial.child? ⟨d.path, none⟩ := fun d hd target htarget => by
    have howner : pathOwner d.path = d.path := pathOwner_of_cascadeTarget? he htarget
    exact Bean.child?_congr (hearlier d.path (howner ▸ (hapart d hd).1))
  refine ⟨?_, ?_, ?_, ?_, ?_, ?_⟩
  · intro name hne
    rw [hrest.frame name fun d hd => hne d (by simp [hd]), hearlier name (hne c (by simp))]
  · have hvalue : s.ColumnIs c middle value := by
      have hvalues := h.values
      rw [List.forall₂_cons] at hvalues
      exact hvalues.1
    have hread := hrest.frame (pathOwner c.path) fun d hd => (hapart d hd).2
    exact .cons (hvalue.congr hread.symm) hrest.values
  · refine List.pairwise_map.2 (List.pairwise_append.2 ⟨List.pairwise_map.1 h.keys,
      List.pairwise_map.1 hrest.keys, fun part hpart part' hpart' => ?_⟩)
    obtain ⟨c', hc', trace, rfl⟩ := h.only part hpart
    obtain ⟨d, hd, trace', rfl⟩ := hrest.only part' hpart'
    obtain rfl := List.mem_singleton.1 hc'
    obtain ⟨target, object, object', htarget, -⟩ := hrest.child _ _ hpart'
    have howner : pathOwner d.path = d.path := pathOwner_of_cascadeTarget? he htarget
    have hne := (hapart d hd).1
    rw [howner] at hne
    simpa [Part.key] using hne
  · intro part hpart
    rcases List.mem_append.1 hpart with hpart | hpart
    · obtain ⟨d, hd, trace, rfl⟩ := h.only part hpart
      obtain rfl := List.mem_singleton.1 hd
      exact ⟨d, by simp, trace, rfl⟩
    · obtain ⟨d, hd, trace, rfl⟩ := hrest.only part hpart
      exact ⟨d, by simp [hd], trace, rfl⟩
  · intro step trace hpart
    rcases List.mem_append.1 hpart with hpart | hpart
    · obtain ⟨target, -, -, htarget, -⟩ := h.child step trace hpart
      obtain ⟨d, hd, trace', hstep⟩ := h.only _ hpart
      obtain rfl := List.mem_singleton.1 hd
      cases hstep
      exact (h.child _ trace hpart).congr rfl (hfirst target htarget)
    · obtain ⟨target, -, -, htarget, -⟩ := hrest.child step trace hpart
      obtain ⟨d, hd, trace', hstep⟩ := hrest.only _ hpart
      cases hstep
      exact (hrest.child _ trace hpart).congr (hothers d hd target htarget).symm rfl
  · intro d hd target object htarget hobject hunset
    rcases List.mem_cons.1 hd with rfl | hd
    · obtain ⟨trace, hpart⟩ := h.child_planned d (by simp) target object htarget hobject hunset
      exact ⟨trace, List.mem_append_left _ hpart⟩
    · rw [← hothers d hd target htarget] at hobject
      obtain ⟨trace, hpart⟩ := hrest.child_planned d hd target object htarget hobject hunset
      exact ⟨trace, List.mem_append_right _ hpart⟩

end Schema

theorem Grows.same {s : Schema n} {state state' : BeanState PlanState}
    (h : state'.outer = state.outer) (hkept : s.Kept state.outer.stored) :
    Grows s state state' [] :=
  ⟨by rw [h]; simp, by rw [h]; exact hkept⟩

namespace BindContext
variable {ctx : BindContext n} {cascade : Cascade n PlanState} {e : Entity n} {p : Property n}
  {c : Column n} {state state' : BeanState PlanState} {value : Value} {i : Fin n}

/-- A property that is no reference is the only one that is written, and holds what is bound where that is
neither the time nor the text of a document. -/
theorem scalar_bound (hassociation : p.association? = none)
    (h : (ctx.bindOwn cascade .insert p).Yields state value state') :
    state'.outer = state.outer ∧
      (∀ name, p.name ≠ name → state'.bean.read name = state.bean.read name) ∧
      (p.type ≠ .json → ¬ p.IsStamped .insert →
        Value.ofJson (state'.bean.read p.name) p.type = .ok value) := by
  cases ownStep_of_yields h with
  | read hvalue =>
    refine ⟨rfl, fun _ _ => rfl, fun hjson _ => ?_⟩
    rw [held, hassociation] at hvalue
    split at hvalue
    · exact hvalue
    · next heq => cases heq
    · rwa [scalar, if_neg hjson] at hvalue
  | stamped hkind =>
    exact ⟨rfl, fun name hne => Bean.read_insert_of_ne hne _ _, fun _ hstamped => absurd hkind hstamped⟩
  | drawn _ htype =>
    refine ⟨rfl, fun name hne => Bean.read_insert_of_ne hne _ _, fun _ _ => ?_⟩
    rw [Bean.read_insert_self, htype]
    exact Value.ofJson_uuidText _
  | persisted _ ha => cases hassociation.symm.trans ha

theorem referenceIs_of_referred {a : Association n} {document : Json}
    (h : ctx.referred a document = .ok value) : Schema.ReferenceIs (ctx.schema.target a) document value := by
  obtain ⟨identity, hidentity, ⟨object, rfl, hvalue⟩ | ⟨hobject, rfl⟩⟩ := referred_eq_ok.1 h
  · exact ⟨identity, hidentity, hvalue⟩
  · exact Schema.referenceIs_null hobject

/-- Binding a reference: nothing is planned, or the object that it holds has no identity and is
persisted. -/
theorem reference_bound {a : Association n}
    (hcascade : CascadesSoundly ctx.schema cascade) (hkept : ctx.schema.Kept state.outer.stored)
    (hplain : p.autoPopulated = none) (ha : p.association? = some a)
    (h : (ctx.bindOwn cascade .insert p).Yields state value state') :
    (state' = state ∧ Schema.ReferenceIs (ctx.schema.target a) (state.bean.read p.name) value ∧
      (a.cascades = true → ∀ object, state.bean.read p.name = .object object →
        ¬ (ctx.schema.target a).isUnset object)) ∨
    ∃ object object' trace, state.bean.read p.name = .object object ∧ a.cascades = true ∧
      (ctx.schema.target a).isUnset object ∧
      state'.bean = Fields.insert p.name (.object object') state.bean ∧
      (ctx.schema.target a).isUnset object' = false ∧
      Schema.ReferenceIs (ctx.schema.target a) (.object object') value ∧
      ctx.schema.Traces (ctx.schema.target a) object object' trace ∧
      Grows ctx.schema state state' trace := by
  cases ownStep_of_yields h with
  | read hvalue hstay =>
    rw [held, hplain, ha] at hvalue
    rw [IsKept, hplain] at hstay
    refine .inl ⟨rfl, referenceIs_of_referred hvalue, fun hcascades object hobject => ?_⟩
    simpa using (hstay a ha).2 hcascades object hobject
  | stamped hkind => simp [Property.IsStamped, hplain] at hkind
  | drawn hkind => cases hplain.symm.trans hkind
  | @persisted b object inner v _ hb _ hcascades hobject hunset hinner hset hvalue =>
    obtain rfl := Option.some.inj (ha.symm.trans hb)
    obtain ⟨trace, hgrows, htraces⟩ := hcascade a.target _ inner hinner hkept
    exact .inr ⟨object, inner.bean, trace, hobject, hcascades, hunset, rfl, hset,
      referenceIs_of_referred hvalue, htraces, ⟨hgrows.plan, hgrows.kept⟩⟩

/-- What is bound for a property inside an embedded object. -/
theorem embedded_is {sub : Property n} {a : Association n} {bean : Bean}
    (hsub : (ctx.schema.target a).property? sub.name = some sub) (hembedded : p.embedded? = some a)
    (hdot : '.' ∉ p.name.toList) (hpath : c.path = p.name ++ "." ++ sub.name)
    (hproperty : c.property = sub) (hidentity : c.identity = false)
    (h : ctx.embedded e p sub.name bean = .ok value) : ctx.schema.ColumnIs c bean value := by
  unfold Schema.ColumnIs
  rw [hproperty]
  cases hassociation : sub.association? with
  | none => exact fun htrue => absurd htrue (by simp [hidentity])
  | some inner =>
    simp only [embedded, hembedded, hsub, hassociation] at h
    split at h
    · next fields hfields =>
      have hdocument : bean.document c.path = Bean.read fields sub.name := by
        rw [hpath]
        exact Bean.document_inner hdot hfields sub.name
      rw [hdocument]
      have hvalue : ctx.referred inner (Bean.read fields sub.name) = .ok value := h
      exact referenceIs_of_referred hvalue
    · next hfields =>
      obtain rfl : Value.null = value := Except.ok.inj h
      have hdocument : bean.document c.path = .null := by
        rw [hpath]
        exact Bean.document_inner_null hdot hfields sub.name
      rw [hdocument]
      exact rfl

/-- Binding a column inside an embedded object. -/
theorem bindPath_bound_inner (hs : ctx.schema.Cascadable) {sub : Property n} {a : Association n}
    (hp : p ∈ (ctx.schema.entity i).properties ++ (ctx.schema.entity i).identity.toList)
    (hembedded : p.embedded? = some a) (hsub : sub ∈ (ctx.schema.target a).properties)
    (hpath : c.path = p.name ++ "." ++ sub.name) (hproperty : c.property = sub)
    (hidentity : c.identity = true → (ctx.schema.entity i).identity = some p)
    (hkept : ctx.schema.Kept state.outer.stored)
    (h : (ctx.bindPath cascade (ctx.schema.entity i) .insert c.path).Yields state value state') :
    Grows ctx.schema state state' [] ∧
      ctx.schema.ColumnsBound (ctx.schema.entity i) [c] state.bean state'.bean [value] [] := by
  have he := hs.wellNamed i
  have hdot := he.dotless p hp
  rw [hpath, bindPath_inner he hp] at h
  simp only [BeanM.yields_bind, BeanM.yields_get, BeanM.yields_liftM] at h
  obtain ⟨current, read, ⟨rfl, rfl⟩, hvalue, rfl⟩ := h
  have hplain : c.identity = false := by
    by_contra hne
    have hscalar := (hs.identity_scalar i p (hidentity (by simpa using hne))).1
    rw [Property.embedded?, hscalar] at hembedded
    cases hembedded
  have hsubName := (hs.wellNamed a.target).property?_name (List.mem_append_left _ hsub)
  refine ⟨.same rfl hkept, .of_quiet (fun _ _ => rfl)
    (embedded_is hsubName hembedded hdot hpath hproperty hplain hvalue) ?_⟩
  intro target object htarget
  -- no property has a name with a dot
  have howner : pathOwner c.path = c.path := Schema.pathOwner_of_cascadeTarget? he htarget
  rw [hpath, pathOwner_inner hdot] at howner
  exact absurd (howner ▸ by simp : '.' ∈ p.name.toList) hdot

/-- Binding a column that is no reference. -/
theorem bindPath_bound_scalar (hs : ctx.schema.Cascadable)
    (hp : p ∈ (ctx.schema.entity i).properties ++ (ctx.schema.entity i).identity.toList)
    (hassociation : p.association? = none) (hpath : c.path = p.name) (hproperty : c.property = p)
    (hidentity : c.identity = true → (ctx.schema.entity i).identity = some p)
    (hkept : ctx.schema.Kept state.outer.stored)
    (h : (ctx.bindPath cascade (ctx.schema.entity i) .insert c.path).Yields state value state') :
    Grows ctx.schema state state' [] ∧
      ctx.schema.ColumnsBound (ctx.schema.entity i) [c] state.bean state'.bean [value] [] := by
  have he := hs.wellNamed i
  have hquiet : ∀ (target : Entity n) (object : Bean),
      ctx.schema.cascadeTarget? (ctx.schema.entity i) ⟨c.path, none⟩ = some target →
      state.bean.child? ⟨c.path, none⟩ = some object → ¬ target.isUnset object := by
    intro target object htarget
    rw [hpath] at htarget
    obtain ⟨-, a, ha, -⟩ := (Schema.cascadeTarget?_name he hp).1 htarget
    rw [hassociation] at ha
    cases ha
  have his : (c.identity = true → Value.ofJson (state'.bean.read p.name) p.type = .ok value) →
      ctx.schema.ColumnIs c state'.bean value := by
    intro hvalue
    rw [Schema.ColumnIs, hproperty, hassociation, hpath, Bean.document_of_dotless (he.dotless p hp)]
    exact hvalue
  rw [hpath, bindPath_plain he hp] at h
  obtain ⟨houter, hframe, hvalue⟩ := scalar_bound hassociation h
  refine ⟨.same houter hkept, .of_quiet (fun name hne => hframe name (hpath ▸ hne))
    (his fun htrue => ?_) hquiet⟩
  obtain ⟨-, hjson, hcreated, hupdated⟩ := hs.identity_scalar i p (hidentity htrue)
  exact hvalue hjson (not_or.2 ⟨hupdated, fun hkind => hcreated hkind.1⟩)

/-- Binding a column that is a reference. -/
theorem bindPath_bound_reference (hs : ctx.schema.Cascadable)
    (hcascade : CascadesSoundly ctx.schema cascade) {a : Association n}
    (hp : p ∈ (ctx.schema.entity i).properties) (hassociation : p.association? = some a)
    (htoOne : a.isToOne = true) (hgenerated : p.generated = false) (hpath : c.path = p.name)
    (hproperty : c.property = p) (hkept : ctx.schema.Kept state.outer.stored)
    (h : (ctx.bindPath cascade (ctx.schema.entity i) .insert c.path).Yields state value state') :
    ∃ parts, Grows ctx.schema state state' (Part.traceAll parts) ∧
      ctx.schema.ColumnsBound (ctx.schema.entity i) [c] state.bean state'.bean [value] parts := by
  have he := hs.wellNamed i
  have hmem := List.mem_append_left (ctx.schema.entity i).identity.toList hp
  have his : Schema.ReferenceIs (ctx.schema.target a) (state'.bean.read p.name) value →
      ctx.schema.ColumnIs c state'.bean value := by
    intro hvalue
    rw [Schema.ColumnIs, hproperty, hassociation, hpath,
      Bean.document_of_dotless (he.dotless p hmem)]
    exact hvalue
  rw [hpath, bindPath_plain he hmem] at h
  rcases reference_bound hcascade hkept (hs.reference_plain i p hp a hassociation htoOne) hassociation h with
    ⟨rfl, hvalue, hset⟩ |
    ⟨object, object', trace, hobject, hcascades, hunset, hbean, hset, hvalue, htraces, hgrows⟩
  · refine ⟨[], .same rfl hkept, .of_quiet (fun _ _ => rfl) (his hvalue) ?_⟩
    intro target object htarget hobject
    rw [hpath] at htarget hobject
    obtain ⟨-, b, hb, hcascades, rfl, -⟩ := (Schema.cascadeTarget?_name he hmem).1 htarget
    obtain rfl : a = b := Option.some.inj (hassociation.symm.trans hb)
    exact hset hcascades object (Bean.child?_reference.1 hobject)
  · have hread : state'.bean.read p.name = .object object' := by
      rw [hbean]
      exact Bean.read_insert_self _ _ _
    have htarget : ctx.schema.cascadeTarget? (ctx.schema.entity i) ⟨c.path, none⟩ =
        some (ctx.schema.target a) := by
      rw [hpath, Schema.cascadeTarget?_name he hmem]
      exact ⟨hp, a, hassociation, hcascades, rfl, htoOne, hgenerated⟩
    refine ⟨[.child ⟨c.path, none⟩ trace], ⟨?_, hgrows.kept⟩, .of_child ?_ (his (by rwa [hread]))
      ⟨_, object, object', htarget, ?_, hunset, ?_, hset, htraces⟩⟩
    · rw [hgrows.plan]
      simp [Part.traceAll, Part.trace]
    · intro name hne
      rw [hbean]
      exact Bean.read_insert_of_ne (hpath ▸ hne) _ _
    · rw [hpath]
      exact Bean.child?_reference.2 hobject
    · rw [hpath]
      exact Bean.child?_reference.2 hread

/-- Binding one column of an INSERT. -/
theorem bindPath_bound (hs : ctx.schema.Cascadable) (hcascade : CascadesSoundly ctx.schema cascade)
    (hc : c ∈ ctx.schema.insertedColumns (ctx.schema.entity i))
    (hkept : ctx.schema.Kept state.outer.stored)
    (h : (ctx.bindPath cascade (ctx.schema.entity i) .insert c.path).Yields state value state') :
    ∃ parts, Grows ctx.schema state state' (Part.traceAll parts) ∧
      ctx.schema.ColumnsBound (ctx.schema.entity i) [c] state.bean state'.bean [value] parts := by
  obtain ⟨hcolumn, hgenerated⟩ := List.mem_filter.1 hc
  have hgenerated : c.property.generated = false := by simpa using hgenerated
  cases Schema.origin_of_mem hcolumn with
  | @inner p sub a hp hembedded hsub hpath hproperty hidentity =>
    exact ⟨[], bindPath_bound_inner hs hp hembedded hsub hpath hproperty hidentity hkept h⟩
  | @plain p hp hforeign hembedded hpath hproperty hidentity hother =>
    cases hassociation : p.association? with
    | none => exact ⟨[], bindPath_bound_scalar hs hp hassociation hpath hproperty hidentity hkept h⟩
    | some a =>
      have hmem : p ∈ (ctx.schema.entity i).properties := by
        refine hother ?_
        by_contra hne
        have hscalar := (hs.identity_scalar i p (hidentity (by simpa using hne))).1
        rw [hassociation] at hscalar
        cases hscalar
      have htoOne : a.isToOne = true := by
        simp only [Property.isForeignKey, hassociation, Option.any_some] at hforeign
        simp only [Property.embedded?, hassociation, Option.filter_eq_none_iff] at hembedded
        simpa [Association.isToOne, hforeign] using hembedded
      exact bindPath_bound_reference hs hcascade hmem hassociation htoOne (hproperty ▸ hgenerated)
        hpath hproperty hkept h

/-- Binding columns of an INSERT one after the other. -/
theorem bind_bound (hs : ctx.schema.Cascadable) (hcascade : CascadesSoundly ctx.schema cascade)
    {cs : List (Column n)} {values : List Value}
    (hcs : ∀ c ∈ cs, c ∈ ctx.schema.insertedColumns (ctx.schema.entity i))
    (hapart : cs.Pairwise Schema.Apart) (hkept : ctx.schema.Kept state.outer.stored)
    (h : (ctx.bind cascade (ctx.schema.entity i) .insert (cs.map (·.path))).Yields state values
      state') :
    ∃ parts, Grows ctx.schema state state' (Part.traceAll parts) ∧
      ctx.schema.ColumnsBound (ctx.schema.entity i) cs state.bean state'.bean values parts := by
  unfold bind at h
  induction cs generalizing state values with
  | nil =>
    rw [List.map_nil, List.mapM_nil] at h
    obtain ⟨rfl, rfl⟩ := BeanM.yields_pure.1 h
    exact ⟨[], .same rfl hkept, .nil⟩
  | cons c cs ih =>
    rw [List.map_cons, List.mapM_cons] at h
    simp only [BeanM.yields_bind, BeanM.yields_pure] at h
    obtain ⟨value, between, hfirst, rest, after, hrest, rfl, rfl⟩ := h
    obtain ⟨hapartFirst, hapartRest⟩ := List.pairwise_cons.1 hapart
    obtain ⟨parts, hgrows, hbound⟩ := bindPath_bound hs hcascade (hcs c (by simp)) hkept hfirst
    obtain ⟨parts', hgrows', hbound'⟩ :=
      ih (fun d hd => hcs d (by simp [hd])) hapartRest hgrows.kept hrest
    refine ⟨parts ++ parts', ?_, hbound.cons (hs.wellNamed i) hbound' hapartFirst⟩
    rw [Part.traceAll, List.flatMap_append]
    exact hgrows.append hgrows'

end BindContext

end EntitySql
