import EntitySql.Proofs.Repository.Cascade
import Mathlib.Data.List.Flatten
import Mathlib.Data.List.Nodup

/-! # Traces from their parts

The trace of an object's plan is made of parts: its row, its links, and the traces of the objects
that are inserted with it (`PartsOf`). What the parts have to satisfy makes the whole a trace
(`PartsOf.traces`). Statements of one part stay together, so that their order is that of the
parts. -/

namespace EntitySql

/-- A label as seen from one step further out. -/
def PlanLabel.under (step : Step) : PlanLabel → PlanLabel
  | row place => .row (step :: place)
  | link owner property index => .link (step :: owner) property index

theorem PlanLabel.under_injective (step : Step) : Function.Injective (under step) := by
  intro a b h
  cases a <;> cases b <;> simp_all [under]

/-- What is planned at once for an object. -/
inductive Part where
  /-- The trace of the object that a step leads to. -/
  | child (step : Step) (trace : Trace)
  | row (statement : Statement)
  | link (property : String) (index : Nat) (statement : Statement)

namespace Part

def trace : Part → Trace
  | child step trace => trace.map fun (label, statement) => (label.under step, statement)
  | row statement => [(.row [], statement)]
  | link property index statement => [(.link [] property index, statement)]

/-- What distinguishes the parts of an object. -/
def key : Part → PlanLabel
  | child step _ => .row [step]
  | row _ => .row []
  | link property index _ => .link [] property index

/-- What has to come first: a reference before the row, the row before its links, and an element
before its link. -/
def Before : Part → Part → Prop
  | child ⟨_, none⟩ _, row _ => True
  | row _, link .. => True
  | child ⟨property, some index⟩ _, link property' index' _ => property = property' ∧ index = index'
  | _, _ => False

theorem not_before_self (part : Part) : ¬ Before part part := by
  cases part with
  | child step trace =>
    obtain ⟨property, index⟩ := step
    cases index <;> exact id
  | row statement => exact id
  | link property index statement => exact id

/-- Nothing stands in front of what has to come first. -/
def Ordered (parts : List Part) : Prop := parts.Pairwise fun a b => ¬ Before b a

theorem Ordered.sublist {parts : List Part} (h : Ordered parts) {a b : Part} (ha : a ∈ parts)
    (hb : b ∈ parts) (hbefore : Before a b) : [a, b].Sublist parts := by
  induction parts with
  | nil => simp at ha
  | cons part parts ih =>
    obtain ⟨hfirst, hrest⟩ := List.pairwise_cons.1 h
    rcases List.mem_cons.1 ha with rfl | ha'
    · rcases List.mem_cons.1 hb with rfl | hb'
      · exact absurd hbefore (not_before_self _)
      · exact (List.singleton_sublist.2 hb').cons_cons _
    · rcases List.mem_cons.1 hb with rfl | hb'
      · exact absurd hbefore (hfirst a ha')
      · exact (ih hrest ha' hb').cons _

theorem eq_of_key {parts : List Part} (h : (parts.map key).Nodup) {a b : Part} (ha : a ∈ parts)
    (hb : b ∈ parts) (hkey : a.key = b.key) : a = b :=
  List.inj_on_of_nodup_map h ha hb hkey

theorem disjoint_labels {a b : Part} (h : a.key ≠ b.key) :
    (a.trace.map Prod.fst).Disjoint (b.trace.map Prod.fst) := by
  intro label ha hb
  have hlabel : ∀ {step : Step} {inner : Trace} {label : PlanLabel},
      label ∈ (Part.trace (.child step inner)).map Prod.fst →
      ∃ inside : PlanLabel, label = inside.under step := by
    intro step inner label hmem
    simp only [trace, List.map_map, List.mem_map] at hmem
    obtain ⟨entry, -, rfl⟩ := hmem
    exact ⟨entry.1, rfl⟩
  cases a with
  | child step inner =>
    obtain ⟨inside, rfl⟩ := hlabel ha
    cases b with
    | child step' inner' =>
      obtain ⟨inside', heq⟩ := hlabel hb
      have hstep : step = step' := by
        cases inside <;> cases inside' <;> simp_all [PlanLabel.under]
      exact h (by simp [key, hstep])
    | row statement | link property index statement =>
      cases inside <;> simp [trace, PlanLabel.under] at hb
  | row statement | link property index statement =>
    simp only [trace, List.map_cons, List.map_nil, List.mem_singleton] at ha
    subst ha
    cases b with
    | child step' inner' =>
      obtain ⟨inside', heq⟩ := hlabel hb
      cases inside' <;> simp [PlanLabel.under] at heq
    | row statement' | link property' index' statement' =>
      simp_all [trace, key]

/-- The trace of all parts. -/
def traceAll (parts : List Part) : Trace := parts.flatMap trace

variable {parts : List Part} {statement : Statement}

theorem mem_traceAll_row :
    (PlanLabel.row [], statement) ∈ traceAll parts ↔ .row statement ∈ parts := by
  simp only [traceAll, List.mem_flatMap]
  constructor
  · rintro ⟨part, hpart, hmem⟩
    cases part with
    | child step inner =>
      simp only [trace, List.mem_map, Prod.mk.injEq] at hmem
      obtain ⟨⟨label, other⟩, -, hlabel, -⟩ := hmem
      cases label <;> simp [PlanLabel.under] at hlabel
    | row other =>
      obtain rfl : statement = other := by simpa [trace] using hmem
      exact hpart
    | link property index other => simp [trace] at hmem
  · intro h
    exact ⟨_, h, by simp [trace]⟩

theorem mem_traceAll_link {property : String} {index : Nat} :
    (PlanLabel.link [] property index, statement) ∈ traceAll parts ↔
      .link property index statement ∈ parts := by
  simp only [traceAll, List.mem_flatMap]
  constructor
  · rintro ⟨part, hpart, hmem⟩
    cases part with
    | child step inner =>
      simp only [trace, List.mem_map, Prod.mk.injEq] at hmem
      obtain ⟨⟨label, other⟩, -, hlabel, -⟩ := hmem
      cases label <;> simp [PlanLabel.under] at hlabel
    | row other => simp [trace] at hmem
    | link property' index' other =>
      obtain ⟨⟨rfl, rfl⟩, rfl⟩ : (property = property' ∧ index = index') ∧ statement = other := by
        simpa [trace] using hmem
      exact hpart
  · intro h
    exact ⟨_, h, by simp [trace]⟩

theorem mem_traceAll_under {step : Step} (label : PlanLabel) :
    (label.under step, statement) ∈ traceAll parts ↔
      ∃ inner, .child step inner ∈ parts ∧ (label, statement) ∈ inner := by
  simp only [traceAll, List.mem_flatMap]
  constructor
  · rintro ⟨part, hpart, hmem⟩
    cases part with
    | child step' inner =>
      simp only [trace, List.mem_map, Prod.mk.injEq, Prod.exists] at hmem
      obtain ⟨label', other, hinner, hlabel, rfl⟩ := hmem
      obtain ⟨rfl, rfl⟩ : step' = step ∧ label' = label := by
        cases label <;> cases label' <;> simp_all [PlanLabel.under]
      exact ⟨inner, hpart, hinner⟩
    | row other | link property index other => cases label <;> simp [trace, PlanLabel.under] at hmem
  · rintro ⟨inner, hpart, hmem⟩
    exact ⟨_, hpart, List.mem_map.2 ⟨_, hmem, rfl⟩⟩

/-- Statements of different parts stand in the order of the parts. -/
theorem sublist_traceAll {a b : Part} (h : [a, b].Sublist parts) {x y : PlanLabel × Statement}
    (hx : x ∈ a.trace) (hy : y ∈ b.trace) : [x, y].Sublist (traceAll parts) := by
  have hall : (traceAll [a, b]).Sublist (traceAll parts) := h.flatMap trace
  have hpair : [x, y].Sublist (a.trace ++ b.trace) :=
    List.Sublist.append (List.singleton_sublist.2 hx) (List.singleton_sublist.2 hy)
  refine List.Sublist.trans ?_ hall
  simpa [traceAll] using hpair

/-- Statements of one inner trace stand in its order. -/
theorem sublist_traceAll_under {step : Step} {inner : Trace} (h : .child step inner ∈ parts)
    {a b : PlanLabel} {x y : Statement} (hsub : [(a, x), (b, y)].Sublist inner) :
    [(a.under step, x), (b.under step, y)].Sublist (traceAll parts) := by
  have hmap := hsub.map fun (label, statement) => (PlanLabel.under step label, statement)
  have hpart : (Part.trace (.child step inner)).Sublist (traceAll parts) :=
    List.sublist_flatten_of_mem (List.mem_map.2 ⟨_, h, rfl⟩)
  exact List.Sublist.trans hmap hpart

end Part

namespace Schema
variable {n : Nat} {s : Schema n} {e : Entity n} {initial final : Bean} {parts : List Part}

/-- The trace is that of the object that a step leads to, which had no identity before and has one
then. -/
def StepTraced (s : Schema n) (e : Entity n) (initial final : Bean) (step : Step)
    (trace : Trace) : Prop :=
  ∃ target object object', s.cascadeTarget? e step = some target ∧
    initial.child? step = some object ∧ target.isUnset object ∧ final.child? step = some object' ∧
    target.isUnset object' = false ∧ s.Traces target object object' trace

theorem StepTraced.congr {initial' final' : Bean} {step : Step} {trace : Trace}
    (h : s.StepTraced e initial final step trace)
    (hinitial : initial'.child? step = initial.child? step)
    (hfinal : final'.child? step = final.child? step) :
    s.StepTraced e initial' final' step trace := by
  obtain ⟨target, object, object', htarget, hobject, hunset, hobject', hset, htraces⟩ := h
  exact ⟨target, object, object', htarget, hinitial.trans hobject, hunset, hfinal.trans hobject',
    hset, htraces⟩

/-- What the parts of an object's plan are, when planning has changed it from `initial` to
`final`. -/
structure PartsOf (s : Schema n) (e : Entity n) (initial final : Bean) (parts : List Part) :
    Prop where
  keys : (parts.map Part.key).Nodup
  row : ∃ statement, .row statement ∈ parts
  row_of : ∀ statement, .row statement ∈ parts → s.RowOf e final statement
  child : ∀ step trace, .child step trace ∈ parts → s.StepTraced e initial final step trace
  unset_of_generated : ∀ identity, e.identity = some identity → identity.generated = true →
    e.isUnset final = e.isUnset initial
  child_planned : ∀ step target object, s.cascadeTarget? e step = some target →
    initial.child? step = some object → target.isUnset object →
    ∃ trace, .child step trace ∈ parts
  link : ∀ property index statement, .link property index statement ∈ parts →
    (∃ target object, s.cascadeTarget? e ⟨property, some index⟩ = some target ∧
      initial.child? ⟨property, some index⟩ = some object) ∧
    s.LinkOf e final property index statement
  link_planned : ∀ property index target object,
    s.cascadeTarget? e ⟨property, some index⟩ = some target →
    initial.child? ⟨property, some index⟩ = some object →
    ∃ statement, .link property index statement ∈ parts
  order : Part.Ordered parts

theorem inserted?_cons_eq_some {step : Step} {place : ObjectPlace} {found : Entity n × Bean} :
    s.inserted? e initial (step :: place) = some found ↔ ∃ target object,
      s.cascadeTarget? e step = some target ∧ initial.child? step = some object ∧
        target.isUnset object ∧ s.inserted? target object place = some found := by
  rw [inserted?]
  simp only [Option.bind_eq_bind, Option.bind_eq_some_iff]
  constructor
  · rintro ⟨target, htarget, object, hobject, hfound⟩
    split at hfound
    · next hunset => exact ⟨target, object, htarget, hobject, hunset, hfound⟩
    · cases hfound
  · rintro ⟨target, object, htarget, hobject, hunset, hfound⟩
    exact ⟨target, htarget, object, hobject, by rw [if_pos hunset]; exact hfound⟩

namespace PartsOf

theorem child_unique (h : s.PartsOf e initial final parts) {step : Step} {trace trace' : Trace}
    (hmem : .child step trace ∈ parts) (hmem' : .child step trace' ∈ parts) : trace = trace' := by
  have heq := Part.eq_of_key h.keys hmem hmem' rfl
  cases heq
  rfl

/-- An inner statement, and what is inserted where it is. -/
theorem under (h : s.PartsOf e initial final parts) {step : Step} (label : PlanLabel)
    {statement : Statement} (hmem : (label.under step, statement) ∈ Part.traceAll parts) :
    ∃ trace target object object', .child step trace ∈ parts ∧ (label, statement) ∈ trace ∧
      final.child? step = some object' ∧ s.Traces target object object' trace ∧
      ∀ place found, s.inserted? target object place = some found →
        s.inserted? e initial (step :: place) = some found := by
  obtain ⟨trace, hpart, hlabel⟩ := (Part.mem_traceAll_under label).1 hmem
  obtain ⟨target, object, object', htarget, hobject, hunset, hobject', -, htraces⟩ :=
    h.child step trace hpart
  exact ⟨trace, target, object, object', hpart, hlabel, hobject', htraces, fun place found hfound =>
    inserted?_cons_eq_some.2 ⟨target, object, htarget, hobject, hunset, hfound⟩⟩

theorem nodup (h : s.PartsOf e initial final parts) :
    ((Part.traceAll parts).map Prod.fst).Nodup := by
  rw [Part.traceAll, List.map_flatMap, List.nodup_flatMap]
  constructor
  · intro part hpart
    cases part with
    | child step trace =>
      obtain ⟨target, object, object', -, -, -, -, -, htraces⟩ := h.child step trace hpart
      have hlabels : (Part.trace (.child step trace)).map Prod.fst =
          (trace.map Prod.fst).map (PlanLabel.under step) := by
        simp [Part.trace]
      rw [hlabels]
      exact htraces.nodup.map (PlanLabel.under_injective step)
    | row statement | link property index statement => simp [Part.trace]
  · have hkeys := List.pairwise_map.1 h.keys
    exact hkeys.imp Part.disjoint_labels

theorem row_iff (h : s.PartsOf e initial final parts) (place : ObjectPlace) :
    (∃ statement, (.row place, statement) ∈ Part.traceAll parts) ↔
      (s.inserted? e initial place).isSome := by
  cases place with
  | nil =>
    obtain ⟨statement, hrow⟩ := h.row
    exact iff_of_true ⟨statement, Part.mem_traceAll_row.2 hrow⟩ rfl
  | cons step place =>
    constructor
    · rintro ⟨statement, hmem⟩
      obtain ⟨trace, target, object, object', -, hlabel, -, htraces, hinserted⟩ :=
        h.under (.row place) hmem
      obtain ⟨found, hfound⟩ :=
        Option.isSome_iff_exists.1 ((htraces.row_iff place).1 ⟨statement, hlabel⟩)
      rw [hinserted place found hfound]
      rfl
    · intro hsome
      obtain ⟨found, hfound⟩ := Option.isSome_iff_exists.1 hsome
      obtain ⟨target, object, htarget, hobject, hunset, hinner⟩ := inserted?_cons_eq_some.1 hfound
      obtain ⟨trace, hpart⟩ := h.child_planned step target object htarget hobject hunset
      obtain ⟨target', child, child', htarget', hchild, -, -, -, htraces⟩ :=
        h.child step trace hpart
      obtain rfl : target = target' := Option.some.inj (htarget.symm.trans htarget')
      obtain rfl : object = child := Option.some.inj (hobject.symm.trans hchild)
      obtain ⟨statement, hlabel⟩ := (htraces.row_iff place).2 (by rw [hinner]; rfl)
      exact ⟨statement, (Part.mem_traceAll_under _).2 ⟨trace, hpart, hlabel⟩⟩

theorem link_iff (h : s.PartsOf e initial final parts) (place : ObjectPlace) (property : String)
    (index : Nat) :
    (∃ statement, (.link place property index, statement) ∈ Part.traceAll parts) ↔
      ∃ owner object target child, s.inserted? e initial place = some (owner, object) ∧
        s.cascadeTarget? owner ⟨property, some index⟩ = some target ∧
        object.child? ⟨property, some index⟩ = some child := by
  cases place with
  | nil =>
    constructor
    · rintro ⟨statement, hmem⟩
      obtain ⟨⟨target, child, htarget, hchild⟩, -⟩ :=
        h.link property index statement (Part.mem_traceAll_link.1 hmem)
      exact ⟨e, initial, target, child, rfl, htarget, hchild⟩
    · rintro ⟨owner, object, target, child, hinserted, htarget, hchild⟩
      cases hinserted
      obtain ⟨statement, hpart⟩ := h.link_planned property index target child htarget hchild
      exact ⟨statement, Part.mem_traceAll_link.2 hpart⟩
  | cons step place =>
    constructor
    · rintro ⟨statement, hmem⟩
      obtain ⟨trace, target, object, object', -, hlabel, -, htraces, hinserted⟩ :=
        h.under (.link place property index) hmem
      obtain ⟨owner, inner, target', child, hinner, htarget', hchild⟩ :=
        (htraces.link_iff place property index).1 ⟨statement, hlabel⟩
      exact ⟨owner, inner, target', child, hinserted place _ hinner, htarget', hchild⟩
    · rintro ⟨owner, inner, target', child, hinner, htarget', hchild⟩
      obtain ⟨target, object, htarget, hobject, hunset, hinner⟩ := inserted?_cons_eq_some.1 hinner
      obtain ⟨trace, hpart⟩ := h.child_planned step target object htarget hobject hunset
      obtain ⟨target'', object', object'', htarget'', hobject', -, -, -, htraces⟩ :=
        h.child step trace hpart
      obtain rfl : target = target'' := Option.some.inj (htarget.symm.trans htarget'')
      obtain rfl : object = object' := Option.some.inj (hobject.symm.trans hobject')
      obtain ⟨statement, hlabel⟩ := (htraces.link_iff place property index).2
        ⟨owner, inner, target', child, hinner, htarget', hchild⟩
      exact ⟨statement, (Part.mem_traceAll_under _).2 ⟨trace, hpart, hlabel⟩⟩

/-- An object that is inserted with another one has an identity that its INSERT binds: one that the
database generates would still be unset. -/
theorem bound (h : s.PartsOf e initial final parts) (place : ObjectPlace) (owner : Entity n)
    (object : Bean) (hne : place ≠ []) (hinserted : s.inserted? e initial place = some (owner, object)) :
    ∃ identity, owner.identity = some identity ∧ identity.generated = false := by
  cases place with
  | nil => exact absurd rfl hne
  | cons step place =>
    obtain ⟨target, child, htarget, hchild, hunset, hinner⟩ := inserted?_cons_eq_some.1 hinserted
    obtain ⟨trace, hpart⟩ := h.child_planned step target child htarget hchild hunset
    obtain ⟨target', child', final', htarget', hchild', -, -, hset, htraces⟩ :=
      h.child step trace hpart
    obtain rfl : target = target' := Option.some.inj (htarget.symm.trans htarget')
    obtain rfl : child = child' := Option.some.inj (hchild.symm.trans hchild')
    cases place with
    | cons step' place => exact htraces.bound (step' :: place) owner object (by simp) hinner
    | nil =>
      cases hinner
      cases hidentity : owner.identity with
      | none => simp [Entity.isUnset, hidentity] at hset
      | some identity =>
        refine ⟨identity, rfl, ?_⟩
        by_contra hgenerated
        have hkept := htraces.unset_of_generated identity hidentity (by simpa using hgenerated)
        rw [hset, hunset] at hkept
        cases hkept

/-- The parts of an object's plan make its trace. -/
theorem traces (h : s.PartsOf e initial final parts) :
    s.Traces e initial final (Part.traceAll parts) where
  nodup := h.nodup
  row_iff := h.row_iff
  link_iff := h.link_iff
  unset_of_generated := h.unset_of_generated
  bound := h.bound
  row_of := by
    intro place statement hmem
    cases place with
    | nil => exact ⟨e, initial, final, rfl, rfl, h.row_of statement (Part.mem_traceAll_row.1 hmem)⟩
    | cons step place =>
      obtain ⟨trace, target, object, object', -, hlabel, hobject', htraces, hinserted⟩ :=
        h.under (.row place) hmem
      obtain ⟨owner, inner, inner', hinner, hinner', hrow⟩ := htraces.row_of place statement hlabel
      refine ⟨owner, inner, inner', hinserted place _ hinner, ?_, hrow⟩
      rw [Bean.at?, hobject', Option.bind_some, hinner']
  link_of := by
    intro place property index statement hmem
    cases place with
    | nil =>
      exact ⟨e, initial, final, rfl, rfl,
        (h.link property index statement (Part.mem_traceAll_link.1 hmem)).2⟩
    | cons step place =>
      obtain ⟨trace, target, object, object', -, hlabel, hobject', htraces, hinserted⟩ :=
        h.under (.link place property index) hmem
      obtain ⟨owner, inner, inner', hinner, hinner', hlink⟩ :=
        htraces.link_of place property index statement hlabel
      refine ⟨owner, inner, inner', hinserted place _ hinner, ?_, hlink⟩
      rw [Bean.at?, hobject', Option.bind_some, hinner']
  reference_first := by
    intro place name row reference hrow hreference
    cases place with
    | nil =>
      obtain ⟨trace, hpart, hlabel⟩ := (Part.mem_traceAll_under (.row [])).1 hreference
      have hrowPart := Part.mem_traceAll_row.1 hrow
      exact Part.sublist_traceAll (h.order.sublist hpart hrowPart trivial)
        (List.mem_map.2 ⟨_, hlabel, rfl⟩) (by simp [Part.trace])
    | cons step place =>
      obtain ⟨trace, target, object, object', hpart, hlabel, -, htraces, -⟩ :=
        h.under (.row place) hrow
      obtain ⟨trace', hpart', hlabel'⟩ :=
        (Part.mem_traceAll_under (.row (place ++ [⟨name, none⟩]))).1 hreference
      obtain rfl := h.child_unique hpart hpart'
      exact Part.sublist_traceAll_under hpart
        (htraces.reference_first place name row reference hlabel hlabel')
  owner_first := by
    intro place property index row link hrow hlink
    cases place with
    | nil =>
      have hrowPart := Part.mem_traceAll_row.1 hrow
      have hlinkPart := Part.mem_traceAll_link.1 hlink
      exact Part.sublist_traceAll (h.order.sublist hrowPart hlinkPart trivial)
        (by simp [Part.trace]) (by simp [Part.trace])
    | cons step place =>
      obtain ⟨trace, target, object, object', hpart, hlabel, -, htraces, -⟩ :=
        h.under (.row place) hrow
      obtain ⟨trace', hpart', hlabel'⟩ :=
        (Part.mem_traceAll_under (.link place property index)).1 hlink
      obtain rfl := h.child_unique hpart hpart'
      exact Part.sublist_traceAll_under hpart
        (htraces.owner_first place property index row link hlabel hlabel')
  child_first := by
    intro place property index row link hrow hlink
    cases place with
    | nil =>
      obtain ⟨trace, hpart, hlabel⟩ := (Part.mem_traceAll_under (.row [])).1 hrow
      have hlinkPart := Part.mem_traceAll_link.1 hlink
      exact Part.sublist_traceAll (h.order.sublist hpart hlinkPart ⟨rfl, rfl⟩)
        (List.mem_map.2 ⟨_, hlabel, rfl⟩) (by simp [Part.trace])
    | cons step place =>
      obtain ⟨trace, target, object, object', hpart, hlabel, -, htraces, -⟩ :=
        h.under (.link place property index) hlink
      obtain ⟨trace', hpart', hlabel'⟩ :=
        (Part.mem_traceAll_under (.row (place ++ [⟨property, some index⟩]))).1 hrow
      obtain rfl := h.child_unique hpart hpart'
      exact Part.sublist_traceAll_under hpart
        (htraces.child_first place property index row link hlabel' hlabel)

end PartsOf

end Schema

end EntitySql
