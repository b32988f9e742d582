import EntitySql.Proofs.Repository.Binding

/-! # Planning the links of an owner

What planning the rows of join tables changes and plans (`BindContext.planJoinRows_planned`). The
elements of one array are planned one after the other, each of them before its link; an association
writes its own property only, so that the owner and its other arrays stay as they are. -/

namespace EntitySql
variable {n : Nat}

/-- What becomes of an element of an array. -/
inductive Element where
  /-- What is no object stays. -/
  | other (document : Json)
  /-- An object with an identity is linked. -/
  | linked (object : Bean) (link : Statement)
  /-- An object without identity is persisted, and linked then. -/
  | persisted (object object' : Bean) (trace : Trace) (link : Statement)

/-- The part is planned for an element of an array. -/
def Part.IsOf (property : String) (index : Nat) (part : Part) : Prop :=
  (∃ trace, part = .child ⟨property, some index⟩ trace) ∨ ∃ link, part = .link property index link

namespace Element

def before : Element → Json
  | other document => document
  | linked object _ => .object object
  | persisted object _ _ _ => .object object

def after : Element → Json
  | other document => document
  | linked object _ => .object object
  | persisted _ object' _ _ => .object object'

/-- What is planned for an element. -/
def parts (property : String) (index : Nat) : Element → List Part
  | other _ => []
  | linked _ link => [.link property index link]
  | persisted _ _ trace link =>
    [.child ⟨property, some index⟩ trace, .link property index link]

/-- The link inserts the identities of an owner and of an object. -/
def Links (target : Entity n) (sql : String) (ownerId : Value) (object : Bean)
    (link : Statement) : Prop :=
  ∃ childId, target.IdentityIs object childId ∧ link = ⟨sql, [ownerId, childId]⟩

/-- The element is planned as one of an owner's array of targets. -/
def Planned (s : Schema n) (target : Entity n) (sql : String) (ownerId : Value) : Element → Prop
  | other document => ∀ object, document ≠ .object object
  | linked object link => target.isUnset object = false ∧ Links target sql ownerId object link
  | persisted object object' trace link => target.isUnset object ∧ target.isUnset object' = false ∧
      s.Traces target object object' trace ∧ Links target sql ownerId object' link

/-- The parts of all elements of an array. -/
def partsFrom (property : String) (start : Nat) (elements : List Element) : List Part :=
  (elements.zipIdx start).flatMap fun (element, index) => element.parts property index

variable {property : String} {elements : List Element} {element : Element} {part : Part}

theorem mem_partsFrom : part ∈ partsFrom property 0 elements ↔
    ∃ (index : Nat) (element : Element), elements[index]? = some element ∧
      part ∈ element.parts property index := by
  simp only [partsFrom, List.mem_flatMap, Prod.exists, List.mem_zipIdx_iff_getElem?]
  exact exists_comm

theorem isOf_of_mem_parts {index : Nat} (h : part ∈ element.parts property index) :
    part.IsOf property index := by
  cases element with
  | other document => simp [parts] at h
  | linked object link => exact .inr ⟨link, by simpa [parts] using h⟩
  | persisted object object' trace link =>
    rcases List.mem_pair.1 h with rfl | rfl
    · exact .inl ⟨trace, rfl⟩
    · exact .inr ⟨link, rfl⟩

theorem pairwise_index (start : Nat) :
    (elements.zipIdx start).Pairwise fun x y => x.2 ≠ y.2 := by
  have hnodup : ((elements.zipIdx start).map Prod.snd).Nodup := by
    rw [List.zipIdx_map_snd]
    exact List.nodup_range'
  exact List.pairwise_map.1 hnodup

theorem keys_partsFrom (start : Nat) :
    ((partsFrom property start elements).map Part.key).Nodup := by
  refine List.pairwise_map.2 (List.pairwise_flatMap.2 ⟨?_, ?_⟩)
  · rintro ⟨element, index⟩ -
    cases element <;> simp [parts, Part.key]
  · refine (pairwise_index start).imp fun {x y} hne a ha b hb heq => ?_
    rcases isOf_of_mem_parts ha with ⟨_, rfl⟩ | ⟨_, rfl⟩ <;>
      rcases isOf_of_mem_parts hb with ⟨_, rfl⟩ | ⟨_, rfl⟩ <;>
      simp_all [Part.key]

theorem ordered_partsFrom (start : Nat) : Part.Ordered (partsFrom property start elements) := by
  refine List.pairwise_flatMap.2 ⟨?_, ?_⟩
  · rintro ⟨element, index⟩ -
    cases element <;> simp [parts, Part.Before]
  · refine (pairwise_index start).imp fun {x y} hne a ha b hb hbefore => ?_
    rcases isOf_of_mem_parts ha with ⟨_, rfl⟩ | ⟨_, rfl⟩ <;>
      rcases isOf_of_mem_parts hb with ⟨_, rfl⟩ | ⟨_, rfl⟩ <;>
      simp_all [Part.Before]

variable {s : Schema n} {target : Entity n} {sql : String} {ownerId : Value} {index : Nat}
  {object : Bean}

theorem Planned.child (h : element.Planned s target sql ownerId) {step : Step} {trace : Trace}
    (hpart : .child step trace ∈ element.parts property index) :
    step = ⟨property, some index⟩ ∧ ∃ object object', element.before = .object object ∧
      element.after = .object object' ∧ target.isUnset object ∧ target.isUnset object' = false ∧
      s.Traces target object object' trace := by
  cases element with
  | other document => simp [parts] at hpart
  | linked object link => simp [parts] at hpart
  | persisted object object' trace' link =>
    obtain ⟨rfl, rfl⟩ : step = ⟨property, some index⟩ ∧ trace = trace' := by
      simpa [parts] using hpart
    exact ⟨rfl, object, object', rfl, rfl, h.1, h.2.1, h.2.2.1⟩

theorem Planned.child_planned (h : element.Planned s target sql ownerId)
    (hobject : element.before = .object object) (hunset : target.isUnset object) :
    ∃ trace, .child ⟨property, some index⟩ trace ∈ element.parts property index := by
  cases element with
  | other document => exact absurd hobject (h object)
  | linked child link =>
    obtain rfl : child = object := Json.object.inj hobject
    rw [h.1] at hunset
    cases hunset
  | persisted child child' trace link => exact ⟨trace, by simp [parts]⟩

theorem Planned.link (h : element.Planned s target sql ownerId) {property' : String} {index' : Nat}
    {link : Statement} (hpart : .link property' index' link ∈ element.parts property index) :
    property' = property ∧ index' = index ∧ ∃ object object', element.before = .object object ∧
      element.after = .object object' ∧ Links target sql ownerId object' link := by
  cases element with
  | other document => simp [parts] at hpart
  | linked object link' =>
    obtain ⟨rfl, rfl, rfl⟩ : property' = property ∧ index' = index ∧ link = link' := by
      simpa [parts] using hpart
    exact ⟨rfl, rfl, object, object, rfl, rfl, h.2⟩
  | persisted object object' trace link' =>
    obtain ⟨rfl, rfl, rfl⟩ : property' = property ∧ index' = index ∧ link = link' := by
      simpa [parts] using hpart
    exact ⟨rfl, rfl, object, object', rfl, rfl, h.2.2.2⟩

theorem Planned.link_planned (h : element.Planned s target sql ownerId)
    (hobject : element.before = .object object) :
    ∃ link, .link property index link ∈ element.parts property index := by
  cases element with
  | other document => exact absurd hobject (h object)
  | linked child link => exact ⟨link, by simp [parts]⟩
  | persisted child child' trace link => exact ⟨link, by simp [parts]⟩

end Element

/-- An object with an identity that is not null is not unset. -/
theorem Entity.IdentityIs.isUnset {e : Entity n} {bean : Bean} {value : Value}
    (h : e.IdentityIs bean value) (hvalue : value.isNull = false) : e.isUnset bean = false := by
  obtain ⟨identity, hidentity, hjson⟩ := h
  by_contra hunset
  have hnull : (bean.read identity.name).isNull = true := by
    simpa [Entity.isUnset, hidentity] using hunset
  rw [Value.ofJson, if_pos hnull] at hjson
  cases hjson
  cases hvalue

/-- A statement in front of others. -/
theorem Grows.cons {s : Schema n} {state state' : BeanState PlanState} {trace : Trace}
    (statement : Statement)
    (h : Grows s
      { state with outer := { state.outer with plan := state.outer.plan ++ [statement] } } state' trace)
    (label : PlanLabel) : Grows s state state' ((label, statement) :: trace) := by
  refine ⟨?_, h.kept⟩
  rw [h.plan]
  simp

/-- The associations that an owner is linked by, with their properties. -/
def Entity.cascading (e : Entity n) : List (Property n × Association n) :=
  e.joinTableProperties.filterMap fun p => (p.association?.filter (·.cascades)).map (p, ·)

theorem Entity.mem_cascading {e : Entity n} {p : Property n} {a : Association n} :
    (p, a) ∈ e.cascading ↔
      p ∈ e.properties ∧ p.association? = some a ∧ a.isJoinTable = true ∧ a.cascades = true := by
  simp only [cascading, joinTableProperties, List.mem_filterMap, List.mem_filter,
    Option.map_eq_some_iff, Option.filter_eq_some_iff]
  constructor
  · rintro ⟨q, ⟨hq, hjoin⟩, b, ⟨hb, hcascades⟩, heq⟩
    cases heq
    rw [hb] at hjoin
    exact ⟨hq, hb, hjoin, hcascades⟩
  · rintro ⟨hp, ha, hjoin, hcascades⟩
    exact ⟨p, ⟨hp, by rw [ha]; exact hjoin⟩, a, ⟨ha, hcascades⟩, rfl⟩

theorem Entity.IdentityIs.congr {e : Entity n} {bean bean' : Bean} {value : Value}
    (h : e.IdentityIs bean value) (hread : ∀ identity, e.identity = some identity →
      bean'.read identity.name = bean.read identity.name) : e.IdentityIs bean' value := by
  obtain ⟨identity, hidentity, hjson⟩ := h
  exact ⟨identity, hidentity, by rw [hread identity hidentity]; exact hjson⟩

namespace Schema
variable {s : Schema n} {e : Entity n} {p : Property n} {a : Association n}
  {q : Property n × Association n} {ps : List (Property n × Association n)}
  {initial middle final : Bean} {parts parts' : List Part} {elements : List Element}

theorem LinkOf.congr {property : String} {index : Nat} {link : Statement}
    (h : s.LinkOf e middle property index link)
    (hchild : final.read property = middle.read property)
    (howner : ∀ identity, e.identity = some identity →
      final.read identity.name = middle.read identity.name) :
    s.LinkOf e final property index link := by
  cases h with
  | link hproperty hinsert htarget hobject hownerId hchildId =>
    refine .link hproperty hinsert htarget ?_ (hownerId.congr howner) hchildId
    rw [Bean.child?_congr hchild]
    exact hobject

/-- What planning the links of an owner by some associations has changed and planned. -/
structure LinksPlanned (s : Schema n) (e : Entity n) (ps : List (Property n × Association n))
    (initial final : Bean) (parts : List Part) : Prop where
  frame : ∀ name, (∀ q ∈ ps, q.1.name ≠ name) → final.read name = initial.read name
  keys : (parts.map Part.key).Nodup
  order : Part.Ordered parts
  only : ∀ part ∈ parts, ∃ q ∈ ps, ∃ index, part.IsOf q.1.name index
  child : ∀ step trace, .child step trace ∈ parts → s.StepTraced e initial final step trace
  child_planned : ∀ q ∈ ps, ∀ index target object,
    s.cascadeTarget? e ⟨q.1.name, some index⟩ = some target →
    initial.child? ⟨q.1.name, some index⟩ = some object → target.isUnset object →
    ∃ trace, .child ⟨q.1.name, some index⟩ trace ∈ parts
  link : ∀ property index statement, .link property index statement ∈ parts →
    (∃ target object, s.cascadeTarget? e ⟨property, some index⟩ = some target ∧
      initial.child? ⟨property, some index⟩ = some object) ∧
    s.LinkOf e final property index statement
  link_planned : ∀ q ∈ ps, ∀ index target object,
    s.cascadeTarget? e ⟨q.1.name, some index⟩ = some target →
    initial.child? ⟨q.1.name, some index⟩ = some object →
    ∃ statement, .link q.1.name index statement ∈ parts

theorem LinksPlanned.nil : s.LinksPlanned e [] initial initial [] where
  frame := fun _ _ => rfl
  keys := List.nodup_nil
  order := List.Pairwise.nil
  only := by simp
  child := by simp
  child_planned := by simp
  link := by simp
  link_planned := by simp

/-- An association whose property holds no array. -/
theorem LinksPlanned.of_no_array (h : ∀ items, initial.read q.1.name ≠ .array items) :
    s.LinksPlanned e [q] initial initial [] := by
  have hnone : ∀ index, initial.child? ⟨q.1.name, some index⟩ = none := fun index => by
    unfold Bean.child?
    split
    · contradiction
    · next items _ hitems => exact absurd hitems (h items)
    · rfl
  refine ⟨fun _ _ => rfl, List.nodup_nil, List.Pairwise.nil, by simp, by simp, ?_, by simp, ?_⟩
  · intro q' hq index target object htarget hobject
    obtain rfl := List.mem_singleton.1 hq
    rw [hnone] at hobject
    cases hobject
  · intro q' hq index target object htarget hobject
    obtain rfl := List.mem_singleton.1 hq
    rw [hnone] at hobject
    cases hobject

theorem child?_array {bean : Bean} {property : String} {items : List Element}
    {side : Element → Json} (h : bean.read property = .array (items.map side)) {index : Nat}
    {object : Bean} : bean.child? ⟨property, some index⟩ = some object ↔
      ∃ element, items[index]? = some element ∧ side element = .object object := by
  have hchild : bean.child? ⟨property, some index⟩ =
      items[index]?.bind fun element => (side element).fields? := by
    simp [Bean.child?, h, Option.bind_map, Function.comp_def]
  rw [hchild, Option.bind_eq_some_iff]
  simp only [Bean.fields?_eq_some]

/-- An association whose property holds an array, of which the elements were planned. -/
theorem LinksPlanned.of_elements {template : Template} {ownerId : Value} (he : e.WellNamed)
    (hcascading : (p, a) ∈ e.cascading)
    (hinitial : initial.read p.name = .array (elements.map Element.before))
    (hfinal : final = Fields.insert p.name (.array (elements.map Element.after)) initial)
    (hinsert : s.joinTableInsert e p = .ok template) (howner : e.IdentityIs final ownerId)
    (hplanned : ∀ element ∈ elements, element.Planned s (s.target a) template.text ownerId) :
    s.LinksPlanned e [(p, a)] initial final (Element.partsFrom p.name 0 elements) := by
  obtain ⟨hp, ha, hjoin, hcascades⟩ := Entity.mem_cascading.1 hcascading
  have hafter : final.read p.name = .array (elements.map Element.after) := by
    rw [hfinal]
    exact Bean.read_insert_self _ _ _
  have htarget : ∀ index target, s.cascadeTarget? e ⟨p.name, some index⟩ = some target ↔
      s.target a = target := by
    intro index target
    rw [cascadeTarget?_name he (List.mem_append_left _ hp)]
    constructor
    · rintro ⟨-, b, hb, -, rfl, -⟩
      rw [Option.some.inj (ha.symm.trans hb)]
    · rintro rfl
      exact ⟨hp, a, ha, hcascades, rfl, hjoin⟩
  refine ⟨?_, Element.keys_partsFrom 0, Element.ordered_partsFrom 0, ?_, ?_, ?_, ?_, ?_⟩
  · intro name hne
    rw [hfinal]
    exact Bean.read_insert_of_ne (hne (p, a) (by simp)) _ _
  · intro part hpart
    obtain ⟨index, element, -, hpart⟩ := Element.mem_partsFrom.1 hpart
    exact ⟨(p, a), by simp, index, Element.isOf_of_mem_parts hpart⟩
  · intro step trace hpart
    obtain ⟨index, element, helement, hpart⟩ := Element.mem_partsFrom.1 hpart
    obtain ⟨rfl, object, object', hobject, hobject', hunset, hset, htraces⟩ :=
      (hplanned element (List.mem_of_getElem? helement)).child hpart
    exact ⟨s.target a, object, object', (htarget _ _).2 rfl,
      (child?_array hinitial).2 ⟨element, helement, hobject⟩, hunset,
      (child?_array hafter).2 ⟨element, helement, hobject'⟩, hset, htraces⟩
  · intro q hq index target object hstep hobject hunset
    obtain rfl := List.mem_singleton.1 hq
    obtain rfl := (htarget _ _).1 hstep
    obtain ⟨element, helement, hobject⟩ := (child?_array hinitial).1 hobject
    obtain ⟨trace, hpart⟩ :=
      (hplanned element (List.mem_of_getElem? helement)).child_planned hobject hunset
    exact ⟨trace, Element.mem_partsFrom.2 ⟨index, element, helement, hpart⟩⟩
  · intro property index link hpart
    obtain ⟨index', element, helement, hpart⟩ := Element.mem_partsFrom.1 hpart
    obtain ⟨rfl, rfl, object, object', hobject, hobject', childId, hchildId, rfl⟩ :=
      (hplanned element (List.mem_of_getElem? helement)).link hpart
    refine ⟨⟨s.target a, object, (htarget _ _).2 rfl,
      (child?_array hinitial).2 ⟨element, helement, hobject⟩⟩, ?_⟩
    exact .link (he.property?_name (List.mem_append_left _ hp)) hinsert ((htarget _ _).2 rfl)
      ((child?_array hafter).2 ⟨element, helement, hobject'⟩) howner hchildId
  · intro q hq index target object hstep hobject
    obtain rfl := List.mem_singleton.1 hq
    obtain ⟨element, helement, hobject⟩ := (child?_array hinitial).1 hobject
    obtain ⟨link, hpart⟩ := (hplanned element (List.mem_of_getElem? helement)).link_planned hobject
    exact ⟨link, Element.mem_partsFrom.2 ⟨index, element, helement, hpart⟩⟩

/-- Associations by different properties do not undo what was planned for the others. -/
theorem LinksPlanned.cons (h : s.LinksPlanned e [q] initial middle parts)
    (hrest : s.LinksPlanned e ps middle final parts') (hne : ∀ q' ∈ ps, q.1.name ≠ q'.1.name)
    (hidentity : ∀ q' ∈ ps, ∀ identity, e.identity = some identity → q'.1.name ≠ identity.name) :
    s.LinksPlanned e (q :: ps) initial final (parts ++ parts') := by
  have hfirst : final.read q.1.name = middle.read q.1.name :=
    hrest.frame q.1.name fun q' hq' => (hne q' hq').symm
  have hothers : ∀ q' ∈ ps, middle.read q'.1.name = initial.read q'.1.name := fun q' hq' =>
    h.frame q'.1.name fun q'' hq'' => by
      obtain rfl := List.mem_singleton.1 hq''
      exact hne q' hq'
  have hpart : ∀ part ∈ parts, ∃ index, part.IsOf q.1.name index := fun part hpart => by
    obtain ⟨q', hq', index, hof⟩ := h.only part hpart
    obtain rfl := List.mem_singleton.1 hq'
    exact ⟨index, hof⟩
  have hpart' : ∀ part ∈ parts', ∃ q' ∈ ps, ∃ index, part.IsOf q'.1.name index := hrest.only
  have hacross : ∀ part ∈ parts, ∀ part' ∈ parts',
      part.key ≠ part'.key ∧ ¬ Part.Before part' part := by
    intro part hmem part' hmem'
    obtain ⟨index, hof⟩ := hpart part hmem
    obtain ⟨q', hq', index', hof'⟩ := hpart' part' hmem'
    have hname := hne q' hq'
    rcases hof with ⟨_, rfl⟩ | ⟨_, rfl⟩ <;> rcases hof' with ⟨_, rfl⟩ | ⟨_, rfl⟩ <;>
      simp [Part.key, Part.Before, hname, hname.symm]
  refine ⟨?_, ?_, ?_, ?_, ?_, ?_, ?_, ?_⟩
  · intro name hname
    rw [hrest.frame name fun q' hq' => hname q' (by simp [hq'])]
    exact h.frame name fun q' hq' => hname q' (by
      obtain rfl := List.mem_singleton.1 hq'
      simp)
  · refine List.pairwise_map.2 (List.pairwise_append.2 ⟨List.pairwise_map.1 h.keys,
      List.pairwise_map.1 hrest.keys, ?_⟩)
    exact fun part hmem part' hmem' => (hacross part hmem part' hmem').1
  · refine List.pairwise_append.2 ⟨h.order, hrest.order, ?_⟩
    exact fun part hmem part' hmem' => (hacross part hmem part' hmem').2
  · intro part hmem
    rcases List.mem_append.1 hmem with hmem | hmem
    · obtain ⟨index, hof⟩ := hpart part hmem
      exact ⟨q, by simp, index, hof⟩
    · obtain ⟨q', hq', index, hof⟩ := hpart' part hmem
      exact ⟨q', by simp [hq'], index, hof⟩
  · intro step trace hmem
    rcases List.mem_append.1 hmem with hmem | hmem
    · obtain ⟨index, ⟨_, heq⟩ | ⟨_, heq⟩⟩ := hpart _ hmem
      · cases heq
        exact (h.child _ trace hmem).congr rfl (Bean.child?_congr hfirst)
      · cases heq
    · obtain ⟨q', hq', index, ⟨_, heq⟩ | ⟨_, heq⟩⟩ := hpart' _ hmem
      · cases heq
        exact (hrest.child _ trace hmem).congr (Bean.child?_congr (hothers q' hq').symm) rfl
      · cases heq
  · intro q' hq' index target object htarget hobject hunset
    rcases List.mem_cons.1 hq' with rfl | hq'
    · obtain ⟨trace, hmem⟩ := h.child_planned q' (by simp) index target object htarget hobject hunset
      exact ⟨trace, List.mem_append_left _ hmem⟩
    · obtain ⟨trace, hmem⟩ := hrest.child_planned q' hq' index target object htarget
        ((Bean.child?_congr (hothers q' hq')).trans hobject) hunset
      exact ⟨trace, List.mem_append_right _ hmem⟩
  · intro property index link hmem
    rcases List.mem_append.1 hmem with hmem | hmem
    · obtain ⟨hobject, hlink⟩ := h.link property index link hmem
      obtain ⟨_, ⟨_, heq⟩ | ⟨_, heq⟩⟩ := hpart _ hmem
      · cases heq
      · cases heq
        refine ⟨hobject, hlink.congr hfirst fun identity hid => hrest.frame _ fun q' hq' => ?_⟩
        exact hidentity q' hq' identity hid
    · obtain ⟨⟨target, object, htarget, hobject⟩, hlink⟩ := hrest.link property index link hmem
      obtain ⟨q', hq', _, ⟨_, heq⟩ | ⟨_, heq⟩⟩ := hpart' _ hmem
      · cases heq
      · cases heq
        exact ⟨⟨target, object, htarget, (Bean.child?_congr (hothers q' hq')).symm.trans hobject⟩,
          hlink⟩
  · intro q' hq' index target object htarget hobject
    rcases List.mem_cons.1 hq' with rfl | hq'
    · obtain ⟨link, hmem⟩ := h.link_planned q' (by simp) index target object htarget hobject
      exact ⟨link, List.mem_append_left _ hmem⟩
    · obtain ⟨link, hmem⟩ := hrest.link_planned q' hq' index target object htarget
        ((Bean.child?_congr (hothers q' hq')).trans hobject)
      exact ⟨link, List.mem_append_right _ hmem⟩

end Schema

/-- The elements of an array were planned one after the other, and the bean is as it was. -/
structure ArrayPlanned (s : Schema n) (target : Entity n) (property : String) (sql : String)
    (ownerId : Value) (state state' : BeanState PlanState) (children children' : List Json)
    (elements : List Element) : Prop where
  before : children = elements.map Element.before
  after : children' = elements.map Element.after
  bean : state'.bean = state.bean
  planned : ∀ element ∈ elements, element.Planned s target sql ownerId
  grows : ∀ start, Grows s state state' (Part.traceAll (Element.partsFrom property start elements))

theorem ArrayPlanned.cons {s : Schema n} {target : Entity n} {property sql : String}
    {ownerId : Value} {state between state' : BeanState PlanState} {children children' : List Json}
    {elements : List Element} (element : Element)
    (h : ArrayPlanned s target property sql ownerId between state' children children' elements)
    (hplanned : element.Planned s target sql ownerId) (hbean : between.bean = state.bean)
    (hgrows : ∀ index, Grows s state between (Part.traceAll (element.parts property index))) :
    ArrayPlanned s target property sql ownerId state state' (element.before :: children)
      (element.after :: children') (element :: elements) := by
  refine ⟨by rw [h.before, List.map_cons], by rw [h.after, List.map_cons], h.bean.trans hbean, ?_, ?_⟩
  · exact List.forall_mem_cons.2 ⟨hplanned, h.planned⟩
  · intro start
    rw [Element.partsFrom, List.zipIdx_cons, List.flatMap_cons, Part.traceAll, List.flatMap_append]
    exact (hgrows start).append (h.grows (start + 1))

namespace BindContext
variable {ctx : BindContext n} {cascade : Cascade n PlanState} {r : Repository}
  {state state' : BeanState PlanState} {i : Fin n}

/-- Linking an object, behind which the rest is planned. -/
theorem yields_link {target : Entity n} {targetIdentity : Property n} {error : Error} {sql : String}
    {ownerId : Value} {object : Bean} {next : PlanM (List Json)} {children : List Json}
    (hidentity : target.identity = some targetIdentity)
    (h : BeanM.Yields (do
      let childId ← liftM (Value.ofJson (object.read targetIdentity.name) targetIdentity.type)
      if childId.isNull then throw error
      addStatement ⟨sql, [ownerId, childId]⟩
      let rest ← next
      return Json.object object :: rest) state children state') :
    ∃ link rest, children = .object object :: rest ∧ target.isUnset object = false ∧
      Element.Links target sql ownerId object link ∧
      next.Yields { state with outer := { state.outer with plan := state.outer.plan ++ [link] } } rest
        state' := by
  simp only [BeanM.yields_bind, BeanM.yields_liftM] at h
  obtain ⟨childId, after, ⟨hchildId, rfl⟩, h⟩ := h
  split at h
  · simp at h
  next hset =>
  simp only [addStatement, BeanM.yields_bind, BeanM.yields_modifyOuter, BeanM.yields_pure] at h
  obtain ⟨done, linked, rfl, rest, after, hrest, rfl, rfl⟩ := h
  have hid : target.IdentityIs object childId := ⟨targetIdentity, hidentity, hchildId⟩
  exact ⟨_, rest, rfl, hid.isUnset (by simpa using hset), ⟨childId, hid, rfl⟩, hrest⟩

/-- Planning the elements of an array. -/
theorem planLinks_planned {s : Schema n} {owner : Entity n} {p targetIdentity : Property n}
    {j : Fin n} {ownerId : Value} {insert : Template} {children children' : List Json}
    (hcascade : CascadesSoundly s cascade) (hkept : s.Kept state.outer.stored)
    (hidentity : (s.entity j).identity = some targetIdentity)
    (h : (planLinks cascade owner p (s.entity j) targetIdentity ownerId insert children).Yields
      state children' state') :
    ∃ elements, ArrayPlanned s (s.entity j) p.name insert.text ownerId state state' children children'
      elements := by
  have hunset : ∀ object : Bean, (s.entity j).isUnset object =
      (object.read targetIdentity.name).isNull := fun object => by
    simp [Entity.isUnset, hidentity]
  induction children generalizing state children' with
  | nil =>
    rw [planLinks] at h
    obtain ⟨rfl, rfl⟩ := BeanM.yields_pure.1 h
    exact ⟨[], rfl, rfl, rfl, by simp, fun start => .same rfl hkept⟩
  | cons document children ih =>
    unfold planLinks at h
    split at h
    · contradiction
    · next child rest hcons =>
      cases hcons
      have howner : ¬ ownerId.isNull = true := fun howner => by simp [howner] at h
      simp only [if_neg howner] at h
      split at h
      · next hnull =>
        obtain ⟨⟨outcome, object⟩, between, hon, h⟩ := BeanM.yields_bind.1 h
        obtain ⟨done, after, hlift, h⟩ := BeanM.yields_bind.1 h
        obtain ⟨object', after', hpure, h⟩ := BeanM.yields_bind.1 h
        obtain ⟨rfl, rfl⟩ := BeanM.yields_pure.1 hpure
        obtain ⟨houtcome, rfl⟩ := BeanM.yields_liftM.1 hlift
        obtain rfl : outcome = .ok () := houtcome
        obtain ⟨inner, hinner, rfl, rfl⟩ := BeanM.yields_on.1 hon
        obtain ⟨trace, hgrows, htraces⟩ := hcascade j _ inner hinner hkept
        obtain ⟨link, tail, rfl, hset, hlinks, hrest⟩ := yields_link hidentity h
        obtain ⟨elements, hplanned⟩ := ih (by exact hgrows.kept) hrest
        refine ⟨_, hplanned.cons (.persisted child inner.bean trace link) ?_ rfl fun index => ?_⟩
        · exact ⟨(hunset child).trans hnull, hset, htraces, hlinks⟩
        · have hplan : inner.outer.plan = state.outer.plan ++ trace.map Prod.snd := hgrows.plan
          exact ⟨by simp [hplan, Element.parts, Part.traceAll, Part.trace], hgrows.kept⟩
      · next hnull =>
        obtain ⟨object, between, hpure, h⟩ := BeanM.yields_bind.1 h
        obtain ⟨rfl, rfl⟩ := BeanM.yields_pure.1 hpure
        obtain ⟨link, tail, rfl, hset, hlinks, hrest⟩ := yields_link hidentity h
        obtain ⟨elements, hplanned⟩ := ih (by exact hkept) hrest
        refine ⟨_, hplanned.cons (.linked child link) ⟨hset, hlinks⟩ rfl fun index => ?_⟩
        exact ⟨by simp [Element.parts, Part.traceAll, Part.trace], hkept⟩
    · next other rest hother hcons =>
      cases hcons
      simp only [BeanM.yields_bind, BeanM.yields_pure] at h
      obtain ⟨rest, after, hrest, rfl, rfl⟩ := h
      obtain ⟨elements, hplanned⟩ := ih hkept hrest
      refine ⟨_, hplanned.cons (.other document) ?_ rfl fun index => .same rfl hkept⟩
      exact fun object heq => hother object heq

/-- A kept statement is the one that the entity compiles to, and using it changes nothing else. -/
theorem useStored_kept (hnames : Function.Injective fun i => (ctx.schema.entity i).name)
    {kind : StoredKind} {find : StoredStatements → Outcome (Template × StoredStatements)}
    (hfind : ∀ kept found, find kept = .ok found →
      ctx.schema.stored r (ctx.schema.entity i) kind kept = .ok found)
    {template : Template} (hkept : ctx.schema.Kept state.outer.stored)
    (h : (useStored find).Yields state template state') :
    ctx.schema.compileStored (ctx.schema.entity i) kind = .ok template ∧
      state'.bean = state.bean ∧ Grows ctx.schema state state' [] := by
  simp only [useStored, BeanM.yields_bind, BeanM.yields_get, BeanM.yields_liftM,
    BeanM.yields_modifyOuter, BeanM.yields_pure] at h
  obtain ⟨current, read, ⟨rfl, rfl⟩, ⟨found, stored⟩, after, ⟨hstored, rfl⟩, done, written, rfl,
    rfl, rfl⟩ := h
  replace hstored := hfind _ _ hstored
  simp only [Schema.stored] at hstored
  split at hstored
  · next kept hlookup =>
    cases hstored
    exact ⟨hkept _ _ hlookup i rfl, rfl, ⟨by simp, hkept⟩⟩
  · next hlookup =>
    simp only [Outcome.bind_eq_ok, Outcome.pure_eq_ok] at hstored
    obtain ⟨compiled, hcompiled, heq⟩ := hstored
    cases heq
    refine ⟨hcompiled, rfl, ⟨by simp, ?_⟩⟩
    intro key template hkey j hname
    rw [List.lookup_cons] at hkey
    split at hkey
    · next heq =>
      obtain rfl := eq_of_beq heq
      obtain rfl := Option.some.inj hkey
      obtain rfl := hnames hname
      exact hcompiled
    · exact hkept key template hkey j hname

theorem planAssociation_planned (hs : ctx.schema.Cascadable)
    (hcascade : CascadesSoundly ctx.schema cascade) (hkept : ctx.schema.Kept state.outer.stored)
    {p : Property n} {a : Association n} {ownerId : Value}
    (hcascading : (p, a) ∈ (ctx.schema.entity i).cascading)
    (howner : (ctx.schema.entity i).IdentityIs state.bean ownerId)
    (h : (ctx.planAssociation cascade r (ctx.schema.entity i) ownerId p a).Yields state () state') :
    ∃ parts, Grows ctx.schema state state' (Part.traceAll parts) ∧
      ctx.schema.LinksPlanned (ctx.schema.entity i) [(p, a)] state.bean state'.bean parts := by
  have he := hs.wellNamed i
  obtain ⟨hp, -, -, -⟩ := Entity.mem_cascading.1 hcascading
  have hname := he.property?_name (List.mem_append_left _ hp)
  unfold planAssociation at h
  simp only [BeanM.yields_bind, BeanM.yields_liftM] at h
  obtain ⟨targetIdentity, between, ⟨hrequired, rfl⟩, template, used, hused, document, read, hread,
    h⟩ := h
  obtain ⟨hcompiled, hbean, hgrows⟩ := useStored_kept hs.names (fun _ _ h => h) hkept hused
  obtain ⟨hdocument, rfl⟩ := BeanM.yields_read.1 hread
  simp only [Schema.compileStored, hname] at hcompiled
  rw [hbean] at hdocument
  split at h
  · next children =>
    simp only [BeanM.yields_bind, BeanM.yields_write] at h
    obtain ⟨children', linked, hlinks, rfl⟩ := h
    obtain ⟨elements, rfl, rfl, hlinked, hplanned, hgrows'⟩ := planLinks_planned (j := a.target)
      hcascade hgrows.kept (Entity.identity_of_required hrequired) hlinks
    refine ⟨Element.partsFrom p.name 0 elements,
      hgrows.append ⟨(hgrows' 0).plan, (hgrows' 0).kept⟩, ?_⟩
    refine .of_elements he hcascading hdocument (by rw [hlinked, hbean]) hcompiled
      (howner.congr fun identity hidentity => ?_) hplanned
    rw [Bean.read_insert_of_ne (he.name_ne_identity hp hidentity), hlinked, hbean]
  · next hother =>
    obtain ⟨-, rfl⟩ := BeanM.yields_pure.1 h
    rw [hbean]
    exact ⟨[], hgrows, .of_no_array fun items heq => hother items (hdocument.symm.trans heq)⟩

theorem planAssociations_planned (hs : ctx.schema.Cascadable)
    (hcascade : CascadesSoundly ctx.schema cascade) (hkept : ctx.schema.Kept state.outer.stored)
    {ps : List (Property n × Association n)} {ownerId : Value}
    (hps : ∀ q ∈ ps, q ∈ (ctx.schema.entity i).cascading)
    (hnames : ps.Pairwise fun q q' => q.1.name ≠ q'.1.name)
    (howner : (ctx.schema.entity i).IdentityIs state.bean ownerId)
    (h : BeanM.Yields (ps.forM fun (p, a) =>
      ctx.planAssociation cascade r (ctx.schema.entity i) ownerId p a) state () state') :
    ∃ parts, Grows ctx.schema state state' (Part.traceAll parts) ∧
      ctx.schema.LinksPlanned (ctx.schema.entity i) ps state.bean state'.bean parts := by
  have hidentity : ∀ q ∈ ps, ∀ identity, (ctx.schema.entity i).identity = some identity →
      q.1.name ≠ identity.name := fun q hq identity hid => by
    obtain ⟨hp, -⟩ := Entity.mem_cascading.1 (hps q hq)
    exact (hs.wellNamed i).name_ne_identity hp hid
  induction ps generalizing state with
  | nil =>
    obtain ⟨-, rfl⟩ := BeanM.yields_pure.1 h
    exact ⟨[], .same rfl hkept, .nil⟩
  | cons q ps ih =>
    obtain ⟨done, between, hfirst, hrest⟩ := BeanM.yields_bind.1 h
    obtain ⟨hne, hnames⟩ := List.pairwise_cons.1 hnames
    obtain ⟨parts, hgrows, hplanned⟩ :=
      planAssociation_planned hs hcascade hkept (hps q (by simp)) howner hfirst
    have howner' : (ctx.schema.entity i).IdentityIs between.bean ownerId :=
      howner.congr fun identity hid => hplanned.frame _ fun q' hq' => by
        obtain rfl := List.mem_singleton.1 hq'
        exact hidentity q (by simp) identity hid
    obtain ⟨parts', hgrows', hplanned'⟩ := ih hgrows.kept (fun q' hq' => hps q' (by simp [hq']))
      hnames howner' hrest fun q' hq' => hidentity q' (by simp [hq'])
    refine ⟨parts ++ parts', ?_,
      hplanned.cons hplanned' hne fun q' hq' => hidentity q' (by simp [hq'])⟩
    rw [Part.traceAll, List.flatMap_append]
    exact hgrows.append hgrows'

/-- Planning the links of an owner. -/
theorem planJoinRows_planned (hs : ctx.schema.Cascadable)
    (hcascade : CascadesSoundly ctx.schema cascade) (hkept : ctx.schema.Kept state.outer.stored)
    (h : (ctx.planJoinRows cascade r (ctx.schema.entity i)).Yields state () state') :
    ∃ parts, Grows ctx.schema state state' (Part.traceAll parts) ∧
      ctx.schema.LinksPlanned (ctx.schema.entity i) (ctx.schema.entity i).cascading state.bean
        state'.bean parts := by
  have hnames : (ctx.schema.entity i).cascading.Pairwise fun q q' => q.1.name ≠ q'.1.name := by
    have hnodup := (hs.wellNamed i).nodup
    rw [List.map_append] at hnodup
    have hproperties := List.pairwise_map.1 (List.Nodup.of_append_left hnodup)
    refine (hproperties.filter _).filterMap _ fun p p' hne q hq q' hq' => ?_
    obtain ⟨a, -, rfl⟩ := Option.map_eq_some_iff.1 hq
    obtain ⟨a', -, rfl⟩ := Option.map_eq_some_iff.1 hq'
    exact hne
  have hcascading : (ctx.schema.entity i).cascading =
      (ctx.schema.entity i).joinTableProperties.filterMap fun p =>
        (p.association?.filter (·.cascades)).map (p, ·) := rfl
  simp only [planJoinRows, ← hcascading] at h
  split at h
  · next hempty =>
    obtain ⟨-, rfl⟩ := BeanM.yields_pure.1 h
    rw [List.isEmpty_iff.1 hempty]
    exact ⟨[], .same rfl hkept, .nil⟩
  · simp only [BeanM.yields_bind, BeanM.yields_liftM, BeanM.yields_read] at h
    obtain ⟨identity, between, ⟨hrequired, rfl⟩, document, read, ⟨rfl, rfl⟩, ownerId, after,
      ⟨hownerId, rfl⟩, h⟩ := h
    exact planAssociations_planned hs hcascade hkept (fun q hq => hq) hnames
      ⟨identity, Entity.identity_of_required hrequired, hownerId⟩ h

end BindContext

end EntitySql
