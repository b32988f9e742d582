import EntitySql.Proofs.Query.Names
import EntitySql.Proofs.Repository.Planning

/-! # Persisting an object graph

The plan that persists an object inserts it and each object without identity that its cascades
reach, once, and no other; references come before what refers to them, and links behind what they
link. Each reference and each link binds the identity that the INSERT of the object binds
(`BindContext.planInsert_insertsOnce`). -/

namespace EntitySql
variable {n : Nat}

namespace Schema
variable {s : Schema n} {e owner target : Entity n} {p identity : Property n} {a : Association n}
  {bean initial final object child : Bean} {trace : Trace} {place : ObjectPlace} {step : Step}
  {statement row : Statement}

/-- The value that an INSERT binds for a property. -/
def argument? (s : Schema n) (e : Entity n) (name : String) (statement : Statement) :
    Option Value :=
  (((s.insertedColumns e).map (·.path)).zip statement.args).lookup name

/-- One INSERT for the root and for each object without identity that a cascade reaches, and none
for an object with an identity. -/
structure InsertsOnce (s : Schema n) (e : Entity n) (initial : Bean) (trace : Trace) : Prop where
  root : (trace.map Prod.fst).count (.row []) = 1
  reached : ∀ place owner object step target child,
    s.inserted? e initial place = some (owner, object) →
    s.cascadeTarget? owner step = some target → object.child? step = some child →
    (trace.map Prod.fst).count (.row (place ++ [step])) = if target.isUnset child then 1 else 0

/-- References and links bind the identities that the INSERTs of their objects bind. An identity
that the database generates is bound by no INSERT; only the root can have one. -/
structure IdentitiesAgree (s : Schema n) (e : Entity n) (initial : Bean) (trace : Trace) :
    Prop where
  reference : ∀ place owner object name target row inserted,
    s.inserted? e initial place = some (owner, object) →
    s.cascadeTarget? owner ⟨name, none⟩ = some target → (.row place, row) ∈ trace →
    (.row (place ++ [⟨name, none⟩]), inserted) ∈ trace →
    ∃ identity value, target.identity = some identity ∧ s.argument? owner name row = some value ∧
      s.argument? target identity.name inserted = some value
  owner : ∀ place owner object identity property index row link,
    s.inserted? e initial place = some (owner, object) → owner.identity = some identity →
    (place = [] → identity.generated = false) → (.row place, row) ∈ trace →
    (.link place property index, link) ∈ trace →
    ∃ ownerId childId, link.args = [ownerId, childId] ∧
      s.argument? owner identity.name row = some ownerId
  child : ∀ place owner object property index target inserted link,
    s.inserted? e initial place = some (owner, object) →
    s.cascadeTarget? owner ⟨property, some index⟩ = some target →
    (.row (place ++ [⟨property, some index⟩]), inserted) ∈ trace →
    (.link place property index, link) ∈ trace →
    ∃ identity ownerId childId, target.identity = some identity ∧ link.args = [ownerId, childId] ∧
      s.argument? target identity.name inserted = some childId

theorem inserted?_append (e : Entity n) (bean : Bean) (place : ObjectPlace) (step : Step) :
    s.inserted? e bean (place ++ [step]) =
      (s.inserted? e bean place).bind fun (owner, object) => s.inserted? owner object [step] := by
  induction place generalizing e bean with
  | nil => rfl
  | cons first place ih =>
    rw [List.cons_append, inserted?, inserted?]
    cases s.cascadeTarget? e first with
    | none => rfl
    | some target =>
      cases bean.child? first with
      | none => rfl
      | some child =>
        simp only [Option.bind_eq_bind, Option.bind_some]
        split
        · exact ih target child
        · rfl

theorem at?_append (bean : Bean) (place : ObjectPlace) (step : Step) :
    bean.at? (place ++ [step]) = (bean.at? place).bind (·.child? step) := by
  induction place generalizing bean with
  | nil => simp [Bean.at?]
  | cons first place ih =>
    rw [List.cons_append, Bean.at?, Bean.at?, Option.bind_assoc]
    congr 1
    funext child
    exact ih child

/-- What is inserted one step from an object that is. -/
theorem inserted?_of_step (hinserted : s.inserted? e initial place = some (owner, object))
    (htarget : s.cascadeTarget? owner step = some target)
    (hchild : object.child? step = some child) :
    s.inserted? e initial (place ++ [step]) =
      if target.isUnset child then some (target, child) else none := by
  simp only [inserted?_append, hinserted, Option.bind_eq_bind, Option.bind_some, inserted?, htarget,
    hchild]

theorem Traces.insertsOnce (h : s.Traces e initial final trace) :
    s.InsertsOnce e initial trace := by
  have hcount : ∀ place, (trace.map Prod.fst).count (.row place) =
      if (s.inserted? e initial place).isSome then 1 else 0 := by
    intro place
    have hmem : .row place ∈ trace.map Prod.fst ↔ (s.inserted? e initial place).isSome := by
      rw [← h.row_iff]
      simp
    rw [h.nodup.count]
    simp only [hmem]
  refine ⟨by rw [hcount]; rfl, ?_⟩
  intro place owner object step target child hinserted htarget hchild
  rw [hcount, inserted?_of_step hinserted htarget hchild]
  split <;> simp_all

theorem inserted?_entity (hs : ∀ i, (s.entity i).WellNamed) {i : Fin n}
    (h : s.inserted? (s.entity i) initial place = some (owner, object)) :
    ∃ j, owner = s.entity j := by
  induction place generalizing i initial with
  | nil =>
    cases h
    exact ⟨i, rfl⟩
  | cons step place ih =>
    obtain ⟨target, child, htarget, -, -, hinner⟩ := inserted?_cons_eq_some.1 h
    obtain ⟨p, a, -, -, -, -, rfl, -⟩ := (cascadeTarget?_eq_some (hs i)).1 htarget
    exact ih hinner

/-- The value that an INSERT binds for a column is what a column of this path binds. -/
theorem RowOf.argument?_eq (h : s.RowOf e bean row) {c : Column n} (hc : c ∈ s.insertedColumns e) :
    ∃ d ∈ s.insertedColumns e, d.path = c.path ∧
      ∃ value, s.argument? e c.path row = some value ∧ s.ColumnIs d bean value := by
  have hlookup : ∀ {cs : List (Column n)} {values : List Value},
      List.Forall₂ (fun c value => s.ColumnIs c bean value) cs values → c ∈ cs →
      ∃ d ∈ cs, d.path = c.path ∧ ∃ value,
        ((cs.map (·.path)).zip values).lookup c.path = some value ∧ s.ColumnIs d bean value := by
    intro cs values hvalues hmem
    induction hvalues with
    | nil => simp at hmem
    | @cons d value cs values hvalue hvalues ih =>
      rw [List.map_cons, List.zip_cons_cons, List.lookup_cons]
      by_cases hpath : d.path = c.path
      · exact ⟨d, by simp, hpath, value, by simp [hpath], hvalue⟩
      · rcases List.mem_cons.1 hmem with rfl | hmem
        · exact absurd rfl hpath
        · obtain ⟨d', hd', hpath', value', hvalue', his⟩ := ih hmem
          have hne : (c.path == d.path) = false := by simpa using Ne.symm hpath
          exact ⟨d', by simp [hd'], hpath', value', by simp [hne, hvalue'], his⟩
  exact hlookup h.args hc

/-- The INSERT binds the identity of the object, unless the database generates it. -/
theorem RowOf.identity_argument (h : s.RowOf e bean row) (he : e.WellNamed)
    (hidentity : e.identity = some identity) (hscalar : identity.association? = none)
    (hgenerated : identity.generated = false) :
    ∃ value, s.argument? e identity.name row = some value ∧ e.IdentityIs bean value := by
  have hp : identity ∈ e.properties ++ e.identity.toList := by simp [hidentity]
  obtain ⟨c, hc, hpath, hproperty⟩ := mem_columns_of_plain (s := s) hp
    (by simp [Property.isForeignKey, hscalar]) (by simp [Property.embedded?, hscalar])
  have hinserted : c ∈ s.insertedColumns e :=
    List.mem_filter.2 ⟨hc, by simp [hproperty, hgenerated]⟩
  obtain ⟨d, hd, hdpath, value, hvalue, his⟩ := h.argument?_eq hinserted
  rw [hpath] at hdpath hvalue
  obtain ⟨hdproperty, hother⟩ := property_of_path he (List.mem_filter.1 hd).1 hp hdpath
  have hdidentity : d.identity = true := by
    by_contra hne
    exact he.name_ne_identity (hother (by simpa using hne)) hidentity rfl
  rw [ColumnIs, hdproperty, hscalar, hdpath,
    Bean.document_of_dotless (he.dotless identity hp)] at his
  exact ⟨value, hvalue, identity, hidentity, his hdidentity⟩

/-- The INSERT binds the identity of an object that a property refers to. -/
theorem RowOf.reference_argument (h : s.RowOf e bean row) (he : e.WellNamed) (hp : p ∈ e.properties)
    (ha : p.association? = some a) (htoOne : a.isToOne = true) (hgenerated : p.generated = false) :
    ∃ value, s.argument? e p.name row = some value ∧
      ReferenceIs (s.target a) (bean.read p.name) value := by
  obtain ⟨c, hc, hpath, -⟩ := mem_insertedColumns_of_reference (s := s) hp ha htoOne hgenerated
  obtain ⟨d, hd, hdpath, value, hvalue, his⟩ := h.argument?_eq hc
  rw [hpath] at hdpath hvalue
  have hmem := List.mem_append_left e.identity.toList hp
  obtain ⟨hproperty, -⟩ := property_of_path he (List.mem_filter.1 hd).1 hmem hdpath
  rw [ColumnIs, hproperty, ha, hdpath, Bean.document_of_dotless (he.dotless p hmem)] at his
  exact ⟨value, hvalue, his⟩

end Schema

theorem Entity.IdentityIs.unique {e : Entity n} {bean : Bean} {value value' : Value}
    (h : e.IdentityIs bean value) (h' : e.IdentityIs bean value') : value = value' := by
  obtain ⟨identity, hidentity, hvalue⟩ := h
  obtain ⟨other, hother, hvalue'⟩ := h'
  obtain rfl := Option.some.inj (hidentity.symm.trans hother)
  exact Except.ok.inj (hvalue.symm.trans hvalue')

namespace Schema
variable {s : Schema n} {owner target : Entity n} {identity : Property n}
  {initial final object : Bean} {trace : Trace} {place : ObjectPlace} {step : Step} {row : Statement}

/-- What an INSERT of the trace binds for the identity of its object. -/
theorem Traces.row_identity (hs : s.Cascadable) {i : Fin n}
    (h : s.Traces (s.entity i) initial final trace)
    (hinserted : s.inserted? (s.entity i) initial place = some (owner, object))
    (hidentity : owner.identity = some identity) (hroot : place = [] → identity.generated = false)
    (hrow : (.row place, row) ∈ trace) :
    ∃ object' value, final.at? place = some object' ∧
      s.argument? owner identity.name row = some value ∧ owner.IdentityIs object' value := by
  obtain ⟨owner', object, object', hinserted', hat, hrowOf⟩ := h.row_of place row hrow
  obtain ⟨rfl, rfl⟩ := Prod.mk.inj (Option.some.inj (hinserted.symm.trans hinserted'))
  obtain ⟨j, rfl⟩ := inserted?_entity hs.wellNamed hinserted
  have hgenerated : identity.generated = false := by
    by_cases hplace : place = []
    · exact hroot hplace
    · obtain ⟨other, hother, hgenerated⟩ := h.bound place _ _ hplace hinserted
      obtain rfl := Option.some.inj (hidentity.symm.trans hother)
      exact hgenerated
  obtain ⟨value, hvalue, his⟩ := hrowOf.identity_argument (hs.wellNamed j) hidentity
    (hs.identity_scalar j identity hidentity).1 hgenerated
  exact ⟨object', value, hat, hvalue, his⟩

/-- What an INSERT of the trace binds for the identity of an object that a step leads to. -/
theorem Traces.step_identity (hs : s.Cascadable) {i : Fin n}
    (h : s.Traces (s.entity i) initial final trace)
    (hinserted : s.inserted? (s.entity i) initial place = some (owner, object))
    (htarget : s.cascadeTarget? owner step = some target)
    (hrow : (.row (place ++ [step]), row) ∈ trace) :
    ∃ identity child value, target.identity = some identity ∧
      final.at? (place ++ [step]) = some child ∧
      s.argument? target identity.name row = some value ∧ target.IdentityIs child value := by
  have hsome := (h.row_iff (place ++ [step])).1 ⟨row, hrow⟩
  obtain ⟨⟨target', child⟩, hchild⟩ := Option.isSome_iff_exists.1 hsome
  have hstep : s.inserted? owner object [step] = some (target', child) := by
    rw [inserted?_append, hinserted] at hchild
    exact hchild
  obtain ⟨other, found, hother, -, -, hfound⟩ := inserted?_cons_eq_some.1 hstep
  obtain rfl : target = other := Option.some.inj (htarget.symm.trans hother)
  cases hfound
  obtain ⟨identity, hidentity, -⟩ := h.bound _ _ _ (by simp) hchild
  obtain ⟨child', value, hat, hvalue, his⟩ :=
    h.row_identity hs hchild hidentity (fun hnil => absurd hnil (by simp)) hrow
  exact ⟨identity, child', value, hidentity, hat, hvalue, his⟩

theorem Traces.identitiesAgree (hs : s.Cascadable) {i : Fin n}
    (h : s.Traces (s.entity i) initial final trace) :
    s.IdentitiesAgree (s.entity i) initial trace where
  reference := by
    intro place owner object name target row inserted hinserted htarget hrow hreference
    obtain ⟨identity, child, value, hidentity, hat, hvalue, his⟩ :=
      h.step_identity hs hinserted htarget hreference
    obtain ⟨owner', object', final', hinserted', hat', hrowOf⟩ := h.row_of place row hrow
    obtain ⟨rfl, rfl⟩ := Prod.mk.inj (Option.some.inj (hinserted.symm.trans hinserted'))
    obtain ⟨j, rfl⟩ := inserted?_entity hs.wellNamed hinserted
    obtain ⟨p, a, hp, rfl, ha, -, rfl, htoOne, hgenerated⟩ :=
      (cascadeTarget?_eq_some (hs.wellNamed j)).1 htarget
    obtain ⟨value', hvalue', hreferenceIs⟩ :=
      hrowOf.reference_argument (hs.wellNamed j) hp ha htoOne hgenerated
    rw [at?_append, hat', Option.bind_some, Bean.child?_reference] at hat
    rw [hat] at hreferenceIs
    obtain rfl := his.unique hreferenceIs
    exact ⟨identity, value, hidentity, hvalue', hvalue⟩
  owner := by
    intro place owner object identity property index row link hinserted hidentity hroot hrow hlink
    obtain ⟨object', ownerId, hat, hvalue, his⟩ :=
      h.row_identity hs hinserted hidentity hroot hrow
    obtain ⟨owner', initial', final', hinserted', hat', hlinkOf⟩ :=
      h.link_of place property index link hlink
    obtain ⟨rfl, rfl⟩ := Prod.mk.inj (Option.some.inj (hinserted.symm.trans hinserted'))
    obtain rfl := Option.some.inj (hat.symm.trans hat')
    cases hlinkOf with
    | @link p target child template ownerId' childId hproperty hinsert htarget hchild howner
        hchildId =>
      obtain rfl := his.unique howner
      exact ⟨ownerId, childId, rfl, hvalue⟩
  child := by
    intro place owner object property index target inserted link hinserted htarget hrow hlink
    obtain ⟨identity, child, value, hidentity, hat, hvalue, his⟩ :=
      h.step_identity hs hinserted htarget hrow
    obtain ⟨owner', initial', final', hinserted', hat', hlinkOf⟩ :=
      h.link_of place property index link hlink
    obtain ⟨rfl, rfl⟩ := Prod.mk.inj (Option.some.inj (hinserted.symm.trans hinserted'))
    rw [at?_append, hat', Option.bind_some] at hat
    cases hlinkOf with
    | @link p other child' template ownerId childId hproperty hinsert hother hchild howner
        hchildId =>
      obtain rfl : target = other := Option.some.inj (htarget.symm.trans hother)
      obtain rfl : child = child' := Option.some.inj (hat.symm.trans hchild)
      obtain rfl := his.unique hchildId
      exact ⟨identity, ownerId, value, hidentity, rfl, hvalue⟩

end Schema

namespace BindContext
variable {ctx : BindContext n} {r : Repository} {i : Fin n} {bean final : Bean}
  {plan : List Statement} {state state' : SessionState}

/-- Planning to persist an object succeeds with a trace of the objects that are inserted with it. -/
theorem planned_traces (hs : ctx.schema.Cascadable) (hinsert : r.insert = none)
    (hkept : ctx.schema.Kept state.stored)
    (h : (Operations.planned bean (ctx.planInsert r (ctx.schema.entity i))).run state =
      (.ok (plan, final), state')) :
    ∃ trace : Trace, plan = trace.map Prod.snd ∧
      ctx.schema.Traces (ctx.schema.entity i) bean final trace := by
  have hrun : (Operations.planned bean (ctx.planInsert r (ctx.schema.entity i))).run state =
      let work := (ctx.planInsert r (ctx.schema.entity i)).run
        { bean := bean, drawn := state.drawn, outer := { stored := state.stored } }
      (work.1.map fun _ => (work.2.outer.plan, work.2.bean),
        { state with drawn := work.2.drawn, stored := work.2.outer.stored }) := rfl
  rw [hrun] at h
  rcases hwork : (ctx.planInsert r (ctx.schema.entity i)).run
    { bean := bean, drawn := state.drawn, outer := { stored := state.stored } } with
    ⟨e | done, inner⟩
  · rw [hwork] at h
    cases congrArg Prod.fst h
  · rw [hwork] at h
    obtain ⟨rfl, rfl⟩ : inner.outer.plan = plan ∧ inner.bean = final := by
      have hresult := congrArg Prod.fst h
      simpa [Except.map] using hresult
    have hplanned : (ctx.planInsert r (ctx.schema.entity i)).Yields
        { bean := bean, drawn := state.drawn, outer := { stored := state.stored } } () inner := hwork
    simp only [planInsert, BeanM.yields_bind, BeanM.yields_get] at hplanned
    obtain ⟨current, read, ⟨rfl, rfl⟩, hinner⟩ := hplanned
    obtain ⟨trace, hgrows, htraces⟩ :=
      planInsertWithin_sound hs hinsert _ true i _ inner hinner hkept
    exact ⟨trace, hgrows.plan, htraces⟩

/-- Planning to persist an object, when it succeeds, inserts the object and each object without
identity that its cascades reach exactly once, and no object that has an identity. What a row refers
to comes before it, and what a link is of comes before it. Every reference and every link has the
identities that the final bean holds and that the INSERTs bind. -/
theorem planInsert_insertsOnce (hs : ctx.schema.Cascadable) (hinsert : r.insert = none)
    (hfresh : state.stored = [])
    (h : (Operations.planned bean (ctx.planInsert r (ctx.schema.entity i))).run state =
      (.ok (plan, final), state')) :
    ∃ trace : Trace, plan = trace.map Prod.snd ∧
      ctx.schema.Traces (ctx.schema.entity i) bean final trace ∧
      ctx.schema.InsertsOnce (ctx.schema.entity i) bean trace ∧
      ctx.schema.IdentitiesAgree (ctx.schema.entity i) bean trace := by
  have hkept : ctx.schema.Kept state.stored := by
    intro key template hlookup
    rw [hfresh] at hlookup
    cases hlookup
  obtain ⟨trace, hplan, htraces⟩ := planned_traces hs hinsert hkept h
  exact ⟨trace, hplan, htraces, htraces.insertsOnce, htraces.identitiesAgree hs⟩

/-- Books by authors who have mentors, and with sequels, all of which are persisted with them. -/
def library : BindContext 2 where
  schema :=
    { entity := fun i =>
        if i = 0 then
          { name := "Book"
            identity := some
              { name := "id", content := .scalar .uuid, autoPopulated := some .generated }
            properties :=
              [{ name := "author"
                 content := .association { kind := .manyToOne, target := 1, cascades := true } },
                { name := "sequels"
                  content := .association { kind := .manyToMany, target := 0, cascades := true } }] }
        else
          { name := "Author"
            identity := some
              { name := "id", content := .scalar .uuid, autoPopulated := some .generated }
            properties :=
              [{ name := "mentor"
                 content := .association { kind := .manyToOne, target := 1, cascades := true } }] } }
  codec := .json
  now := .newYear
  freshId k := ⟨BitVec.ofNat 128 k⟩

theorem cascadable_library : library.schema.Cascadable where
  names := by
    intro i j
    revert i j
    decide +kernel
  wellNamed i := by
    constructor
    · revert i
      decide +kernel
    · revert i
      decide +kernel
  identity_scalar i identity h := by
    have hall : ∀ i, ∀ identity ∈ (library.schema.entity i).identity.toList,
        identity.association? = none ∧ identity.type ≠ .json ∧
          identity.autoPopulated ≠ some .created ∧ identity.autoPopulated ≠ some .updated := by
      decide
    exact hall i identity (Option.mem_toList.2 h)
  reference_plain i p hp a _ _ := by
    have hall : ∀ i, ∀ p ∈ (library.schema.entity i).properties, p.autoPopulated = none := by decide
    exact hall i p hp

/-- A book by an author with a known mentor, which has a sequel and another one that is known. -/
def trilogy : Bean :=
  [("author", .object
      [("mentor", .object [("id", .string "00000000-0000-0000-0000-0000000000aa")])]),
    ("sequels", .array [.object [("author", .null)], .null,
      .object [("id", .string "00000000-0000-0000-0000-0000000000bb")]])]

/-- The author, the book and the sequel are inserted, and two links. -/
theorem planInsert_trilogy : ∃ (plan : List Statement) (final : Bean) (trace : Trace),
    plan.map (·.sql) =
      ["INSERT INTO author (mentor_id,id) VALUES (?,?)",
        "INSERT INTO book (author_id,id) VALUES (?,?)",
        "INSERT INTO book (author_id,id) VALUES (?,?)",
        "INSERT INTO book_sequels (book_id,book_id) VALUES (?, ?)",
        "INSERT INTO book_sequels (book_id,book_id) VALUES (?, ?)"] ∧
    plan = trace.map Prod.snd ∧
    library.schema.Traces (library.schema.entity 0) trilogy final trace ∧
    library.schema.InsertsOnce (library.schema.entity 0) trilogy trace ∧
    library.schema.IdentitiesAgree (library.schema.entity 0) trilogy trace := by
  have hplan : ((Operations.planned trilogy (library.planInsert { name := "Books", cache := "books" }
      (library.schema.entity 0))).run {}).1.toOption.map (fun planned => planned.1.map (·.sql)) =
      some ["INSERT INTO author (mentor_id,id) VALUES (?,?)",
        "INSERT INTO book (author_id,id) VALUES (?,?)",
        "INSERT INTO book (author_id,id) VALUES (?,?)",
        "INSERT INTO book_sequels (book_id,book_id) VALUES (?, ?)",
        "INSERT INTO book_sequels (book_id,book_id) VALUES (?, ?)"] := by
    decide +kernel
  rcases hrun : (Operations.planned trilogy (library.planInsert { name := "Books", cache := "books" }
    (library.schema.entity 0))).run {} with ⟨e | ⟨plan, final⟩, state'⟩
  · rw [hrun] at hplan
    cases hplan
  · rw [hrun] at hplan
    obtain ⟨trace, htrace⟩ := planInsert_insertsOnce cascadable_library rfl rfl hrun
    exact ⟨plan, final, trace, Option.some.inj hplan, htrace⟩

end BindContext

end EntitySql
