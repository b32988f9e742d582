import EntitySql.Proofs.Repository.Execution
import EntitySql.Proofs.Repository.Persist

/-! # Kept statements

A call that writes behaves as if no statement had been kept by calls before it
(`Operations.writes_unremembered`), as long as entities of one name that are written by repositories of one
name compile to the same statements. All that planning finds under a key is then what it would compile
(`Schema.Faithful`), and two runs that begin with different kept statements, all of them faithful, take the
same steps (`Transparent`).

Statements are kept by the names of repository and entity. Where two entities share a name, the second one
is written by the statements of the first (`Operations.persist_rememberedNamesake`). -/

namespace EntitySql
variable {n : Nat}

/-! ### Runs that do not depend on what is kept -/

/-- States with kept statements, which can be exchanged. -/
class KeepsStatements (σ : Type) where
  keep : StoredStatements → σ → σ

open KeepsStatements (keep)

instance : KeepsStatements (BeanState PlanState) where
  keep kept state := { state with outer := { state.outer with stored := kept } }

instance : KeepsStatements SessionState where
  keep kept state := { state with stored := kept }

/-- Two runs that differ in what was kept before, faithful both, differ in what is kept behind them only,
and that is faithful again. -/
def Transparent {σ α : Type} [KeepsStatements σ] (Faithful : StoredStatements → Prop)
    (work : ExceptT Error (StateM σ) α) : Prop :=
  ∀ state kept kept', Faithful kept → Faithful kept' → ∃ result state' after after',
    Faithful after ∧ Faithful after' ∧ work.run (keep kept state) = (result, keep after state') ∧
      work.run (keep kept' state) = (result, keep after' state')

/-- Looking among faithful statements gives the same statement or error, and leaves faithful ones. -/
def Finds (Faithful : StoredStatements → Prop)
    (find : StoredStatements → Outcome (Template × StoredStatements)) (found : Outcome Template) : Prop :=
  ∀ kept, Faithful kept → (∃ e, found = .error e ∧ find kept = .error e) ∨
    ∃ template after, found = .ok template ∧ find kept = .ok (template, after) ∧ Faithful after

namespace Transparent
variable {σ α β : Type} [KeepsStatements σ] {Faithful : StoredStatements → Prop}

/-- Work that does not look at what is kept. -/
theorem of_untouched {work : ExceptT Error (StateM σ) α}
    (h : ∀ state kept, work.run (keep kept state) = ((work.run state).1, keep kept (work.run state).2)) :
    Transparent Faithful work :=
  fun state kept kept' hkept hkept' => ⟨_, _, kept, kept', hkept, hkept', h state kept, h state kept'⟩

theorem pure (a : α) : Transparent Faithful (pure a : ExceptT Error (StateM σ) α) :=
  .of_untouched fun _ _ => rfl

theorem throw (e : Error) : Transparent Faithful (throw e : ExceptT Error (StateM σ) α) :=
  .of_untouched fun _ _ => rfl

/-- Nothing behind a failure is run. -/
theorem throw_bind (e : Error) (next : α → ExceptT Error (StateM σ) β) :
    Transparent Faithful (MonadExcept.throw e >>= next) :=
  .of_untouched fun _ _ => rfl

theorem liftM (x : Outcome α) : Transparent Faithful (liftM x : ExceptT Error (StateM σ) α) :=
  .of_untouched fun _ _ => by cases x <;> rfl

theorem bind {work : ExceptT Error (StateM σ) α} {next : α → ExceptT Error (StateM σ) β}
    (hwork : Transparent Faithful work) (hnext : ∀ a, Transparent Faithful (next a)) :
    Transparent Faithful (work >>= next) := by
  intro state kept kept' hkept hkept'
  obtain ⟨result, state', after, after', hafter, hafter', hrun, hrun'⟩ := hwork state kept kept' hkept hkept'
  have hbind : ∀ kept, (work >>= next).run (keep kept state) =
      (ExceptT.bindCont next (work.run (keep kept state)).1).run (work.run (keep kept state)).2 :=
    fun _ => rfl
  rw [hbind, hbind, hrun, hrun']
  cases result with
  | error e => exact ⟨.error e, state', after, after', hafter, hafter', rfl, rfl⟩
  | ok a => exact hnext a state' after after' hafter hafter'

/-- Work that goes on with the state, but not with what is kept in it. -/
theorem get_bind {next : σ → ExceptT Error (StateM σ) β} (hnext : ∀ state, Transparent Faithful (next state))
    (hsame : ∀ state kept, next (keep kept state) = next state) :
    Transparent Faithful (get >>= next) := by
  intro state kept kept' hkept hkept'
  have hrun : ∀ kept, (get >>= next).run (keep kept state) = (next state).run (keep kept state) := by
    intro kept
    show (next (keep kept state)).run (keep kept state) = _
    rw [hsame]
  rw [hrun, hrun]
  exact hnext state state kept kept' hkept hkept'

/-- Work that looks for a statement and keeps what is left. -/
theorem of_finds {find : StoredStatements → Outcome (Template × StoredStatements)} {found : Outcome Template}
    (h : Finds Faithful find found) {work : ExceptT Error (StateM σ) Template}
    (hrun : ∀ state kept, work.run (keep kept state) = match find kept with
      | .error e => (.error e, keep kept state)
      | .ok (template, after) => (.ok template, keep after state)) : Transparent Faithful work := by
  intro state kept kept' hkept hkept'
  rw [hrun, hrun]
  rcases h kept hkept with ⟨e, rfl, hfind⟩ | ⟨template, after, rfl, hfind, hafter⟩
  · rcases h kept' hkept' with ⟨_, ⟨rfl⟩, hfind'⟩ | ⟨_, _, hfound, -⟩
    · rw [hfind, hfind']
      exact ⟨.error e, state, kept, kept', hkept, hkept', rfl, rfl⟩
    · cases hfound
  · rcases h kept' hkept' with ⟨_, hfound, -⟩ | ⟨_, after', ⟨rfl⟩, hfind', hafter'⟩
    · cases hfound
    · rw [hfind, hfind']
      exact ⟨.ok template, state, after, after', hafter, hafter', rfl, rfl⟩

theorem mapM {f : α → ExceptT Error (StateM σ) β} {as : List α} (h : ∀ a ∈ as, Transparent Faithful (f a)) :
    Transparent Faithful (as.mapM f) := by
  induction as with
  | nil => exact .pure []
  | cons a as ih =>
    rw [List.mapM_cons]
    exact .bind (h a (by simp)) fun b => .bind (ih fun a ha => h a (by simp [ha])) fun bs => .pure _

theorem forM {f : α → ExceptT Error (StateM σ) Unit} {as : List α}
    (h : ∀ a ∈ as, Transparent Faithful (f a)) : Transparent Faithful (as.forM f) := by
  induction as with
  | nil => exact .pure ()
  | cons a as ih => exact .bind (h a (by simp)) fun _ => ih fun a ha => h a (by simp [ha])

end Transparent

/-! ### Work on beans -/

namespace BeanM
variable {α : Type} {Faithful : StoredStatements → Prop}

theorem transparent_read (property : String) :
    Transparent Faithful (read property : BeanM PlanState Json) :=
  .of_untouched fun _ _ => rfl

theorem transparent_write (property : String) (document : Json) :
    Transparent Faithful (write property document : BeanM PlanState Unit) :=
  .of_untouched fun _ _ => rfl

theorem transparent_draw : Transparent Faithful (draw : BeanM PlanState Nat) :=
  .of_untouched fun _ _ => rfl

theorem transparent_on {other : Bean} {work : BeanM PlanState α} (h : Transparent Faithful work) :
    Transparent Faithful (on other work) := by
  intro state kept kept' hkept hkept'
  obtain ⟨result, inner, after, after', hafter, hafter', hrun, hrun'⟩ :=
    h { state with bean := other } kept kept' hkept hkept'
  have hon : ∀ kept, (on other work).run (keep kept state) =
      let outcome := work.run (keep kept { state with bean := other })
      (.ok (outcome.1, outcome.2.bean), { outcome.2 with bean := state.bean }) := fun _ => rfl
  rw [hon, hon, hrun, hrun']
  exact ⟨.ok (result, inner.bean), { inner with bean := state.bean }, after, after', hafter, hafter', rfl,
    rfl⟩

theorem transparent_within {property : String} {object : Bean} {work : BeanM PlanState Unit}
    (h : Transparent Faithful work) : Transparent Faithful (within property object work) :=
  .bind (transparent_on h) fun _ => .bind (transparent_write _ _) fun _ =>
    .bind (.liftM _) fun _ => .pure _

end BeanM

/-! ### Binding -/

namespace BindContext
variable {ctx : BindContext n} {Faithful : StoredStatements → Prop} {cascade : Cascade n PlanState}
  {p : Property n} {mode : BindMode}

theorem transparent_stamp : Transparent Faithful (ctx.stamp p : PlanM Value) :=
  .bind (.liftM _) fun _ => .bind (BeanM.transparent_write _ _) fun _ => .pure _

theorem transparent_populate (kind : AutoPopulated) :
    Transparent Faithful (ctx.populate mode p kind : PlanM Value) := by
  have hread : ∀ type, Transparent Faithful (do
      liftM (Value.ofJson (← BeanM.read p.name) type) : PlanM Value) :=
    fun type => .bind (BeanM.transparent_read _) fun document => .liftM _
  cases kind with
  | created =>
    cases mode with
    | insert => exact transparent_stamp
    | update => exact hread p.type
  | updated => exact transparent_stamp
  | custom kind => exact .throw _
  | generated =>
    have hfill : Transparent Faithful (do
        let current ← BeanM.read p.name
        if current.isNull then
          let id := ctx.freshId (← BeanM.draw)
          BeanM.write p.name (.string id.text)
          return .uuid id
        else liftM (Value.ofJson current .uuid) : PlanM Value) := by
      refine .bind (BeanM.transparent_read _) fun current => ?_
      split
      · exact .bind BeanM.transparent_draw fun _ => .bind (BeanM.transparent_write _ _) fun _ => .pure _
      · exact .liftM _
    unfold populate
    dsimp only
    split
    · exact .throw_bind _ _
    · exact hfill

theorem transparent_reference {a : Association n}
    (hcascade : a.cascades = true → Transparent Faithful (cascade (ctx.schema.target a))) :
    Transparent Faithful (ctx.reference cascade p a) := by
  have hread : ∀ (object : Bean) (identity : Property n), Transparent Faithful
      (liftM (Value.ofJson (Bean.read object identity.name) identity.type) : PlanM Value) :=
    fun object identity => .liftM _
  unfold reference
  dsimp only
  split
  · exact .throw_bind _ _
  refine .bind (.liftM _) fun identity => .bind (BeanM.transparent_read _) fun document => ?_
  split
  · next object =>
    split
    · next hunset =>
      have hcascades : a.cascades = true := by
        rw [Bool.and_eq_true] at hunset
        exact hunset.2
      refine .bind (BeanM.transparent_within (hcascade hcascades)) fun object' => ?_
      split
      · exact .throw_bind _ _
      · exact .bind (.pure _) fun _ => hread _ identity
    · exact .bind (.pure _) fun _ => hread _ identity
  · exact .pure _

section
variable {e : Entity n} (hcascade : ∀ p ∈ e.properties ++ e.identity.toList, ∀ a, p.association? = some a →
  a.cascades = true → Transparent Faithful (cascade (ctx.schema.target a)))
include hcascade

theorem transparent_bindPath (path : String) :
    Transparent Faithful (ctx.bindPath cascade e mode path) := by
  unfold bindPath
  dsimp only
  split
  · exact .throw _
  next p hproperty =>
  split
  · exact .get_bind (fun state => .liftM _) fun _ _ => rfl
  split
  · exact transparent_populate _
  split
  · next a ha => exact transparent_reference (hcascade p (List.mem_of_find?_eq_some hproperty) a ha)
  · exact .bind (BeanM.transparent_read _) fun document => .liftM _

theorem transparent_bind (paths : List String) : Transparent Faithful (ctx.bind cascade e mode paths) :=
  .mapM fun path _ => transparent_bindPath hcascade path

end

/-! ### Planning -/

theorem transparent_addStatement (statement : Statement) : Transparent Faithful (addStatement statement) :=
  .of_untouched fun _ _ => rfl

theorem transparent_useStored {find : StoredStatements → Outcome (Template × StoredStatements)}
    {found : Outcome Template} (h : Finds Faithful find found) :
    Transparent Faithful (useStored find) := by
  refine .of_finds h fun state kept => ?_
  have hrun : (useStored find).run (KeepsStatements.keep kept state) =
      (ExceptT.bindCont (fun found : Template × StoredStatements => (do
        BeanM.modifyOuter fun state => { state with stored := found.2 }
        return found.1 : PlanM Template)) (find kept)).run (KeepsStatements.keep kept state) := rfl
  rw [hrun]
  cases find kept <;> rfl

end BindContext

namespace Schema

/-- What is kept under the key of an entity is what its statement compiles to now. The predicate says for
repositories of which names statements of which entities are kept. -/
def Faithful (s : Schema n) (stores : String → Entity n → Prop) (kept : StoredStatements) : Prop :=
  ∀ r e, stores r e → ∀ kind template, kept.lookup ⟨r, e.name, kind⟩ = some template →
    s.compileStored e kind = .ok template

/-- Entities whose statements are kept under one key compile to the same statements, and what cascades lead
to is among them. -/
structure StoresAlike (s : Schema n) (stores : String → Entity n → Prop) : Prop where
  alike : ∀ r e e', stores r e → stores r e' → e.name = e'.name →
    ∀ kind, s.compileStored e kind = s.compileStored e' kind
  cascade : ∀ r e, stores r e → ∀ p ∈ e.properties ++ e.identity.toList, ∀ a, p.association? = some a →
    a.cascades = true → stores r (s.target a)

variable {s : Schema n} {stores : String → Entity n → Prop} {r : Repository} {e : Entity n}

theorem faithful_nil : s.Faithful stores [] := by
  intro r e _ kind template hlookup
  cases hlookup

theorem StoresAlike.finds_stored (hs : s.StoresAlike stores) (he : stores r.name e) (kind : StoredKind) :
    Finds (s.Faithful stores) (s.stored r e kind) (s.compileStored e kind) := by
  intro kept hkept
  unfold stored
  dsimp only
  split
  · next template hlookup =>
    exact .inr ⟨template, kept, hkept r.name e he kind template hlookup, rfl, hkept⟩
  · cases hcompiled : s.compileStored e kind with
    | error error => exact .inl ⟨error, rfl, rfl⟩
    | ok template =>
      refine .inr ⟨template, _, rfl, rfl, fun r' e' he' kind' template' hlookup => ?_⟩
      rw [List.lookup_cons] at hlookup
      split at hlookup
      · next hkey =>
        -- another entity of this name would be found under the key as well
        obtain ⟨rfl, hname, rfl⟩ : r' = r.name ∧ e'.name = e.name ∧ kind' = kind := by
          simpa using eq_of_beq hkey
        rw [hs.alike _ e' e he' he hname, hcompiled]
        exact congrArg _ (Option.some.inj hlookup)
      · exact hkept r' e' he' kind' template' hlookup

theorem StoresAlike.finds_storedInsert (hs : s.StoresAlike stores) (he : stores r.name e) (isRoot : Bool) :
    ∃ found, Finds (s.Faithful stores) (s.storedInsert r e isRoot) found := by
  have hstored := hs.finds_stored he .insert
  unfold storedInsert
  split
  · next template _ => exact ⟨.ok template, fun kept hkept => .inr ⟨template, kept, rfl, rfl, hkept⟩⟩
  · split
    · exact ⟨_, hstored⟩
    · exact ⟨.error _, fun kept hkept => .inl ⟨_, rfl, rfl⟩⟩
  · exact ⟨_, hstored⟩

theorem StoresAlike.finds_storedUpdate (hs : s.StoresAlike stores) (he : stores r.name e) :
    ∃ found, Finds (s.Faithful stores) (s.storedUpdate r e) found := by
  have hstored := hs.finds_stored he .update
  unfold storedUpdate
  split
  · next template _ => exact ⟨.ok template, fun kept hkept => .inr ⟨template, kept, rfl, rfl, hkept⟩⟩
  · split
    · exact ⟨_, hstored⟩
    · exact ⟨.error _, fun kept hkept => .inl ⟨_, rfl, rfl⟩⟩

end Schema

namespace BindContext
variable {ctx : BindContext n} {Faithful : StoredStatements → Prop} {cascade : Cascade n PlanState}

theorem transparent_planLinks {owner target : Entity n} {p targetIdentity : Property n} {ownerId : Value}
    {insert : Template} (hcascade : Transparent Faithful (cascade target)) (children : List Json) :
    Transparent Faithful (planLinks cascade owner p target targetIdentity ownerId insert children) := by
  induction children with
  | nil => exact .pure _
  | cons child rest ih =>
    cases child with
    | object child =>
      have hlink : ∀ child : Bean, Transparent Faithful (do
          let childId ← Value.ofJson (Bean.read child targetIdentity.name) targetIdentity.type
          if childId.isNull then throw (.build (.unsetReference target.name p.name))
          addStatement ⟨insert.text, [ownerId, childId]⟩
          let rest ← planLinks cascade owner p target targetIdentity ownerId insert rest
          return .object child :: rest : PlanM (List Json)) := by
        intro child
        refine .bind (.liftM _) fun childId => ?_
        split
        · exact .throw_bind _ _
        · exact .bind (transparent_addStatement _) fun _ => .bind ih fun _ => .pure _
      unfold planLinks
      dsimp only
      split
      · exact .throw_bind _ _
      split
      · refine .bind (BeanM.transparent_on hcascade) fun outcome => ?_
        exact .bind (.liftM _) fun _ => .bind (.pure _) fun child => hlink child
      · exact .bind (.pure _) fun child => hlink child
    | null | bool _ | int _ | float _ | string _ | array _ =>
      unfold planLinks
      exact .bind ih fun _ => .pure _

variable {stores : String → Entity n → Prop} (hs : ctx.schema.StoresAlike stores) {r : Repository}
include hs

theorem transparent_planAssociation {owner : Entity n} {ownerId : Value} {p : Property n}
    {a : Association n} (howner : stores r.name owner)
    (hcascade : Transparent (ctx.schema.Faithful stores) (cascade (ctx.schema.target a))) :
    Transparent (ctx.schema.Faithful stores) (ctx.planAssociation cascade r owner ownerId p a) := by
  unfold planAssociation
  refine .bind (.liftM _) fun targetIdentity => ?_
  refine .bind (transparent_useStored (hs.finds_stored howner _)) fun insert => ?_
  refine .bind (BeanM.transparent_read _) fun document => ?_
  split
  · exact .bind (transparent_planLinks hcascade _) fun _ => BeanM.transparent_write _ _
  · exact .pure _

theorem transparent_planJoinRows {owner : Entity n} (howner : stores r.name owner)
    (hcascade : ∀ e, stores r.name e → Transparent (ctx.schema.Faithful stores) (cascade e)) :
    Transparent (ctx.schema.Faithful stores) (ctx.planJoinRows cascade r owner) := by
  unfold planJoinRows
  dsimp only
  split
  · exact .pure _
  refine .bind (.liftM _) fun identity => .bind (BeanM.transparent_read _) fun document => ?_
  refine .bind (.liftM _) fun ownerId => .forM fun link hlink => ?_
  obtain ⟨p, a⟩ := link
  obtain ⟨q, hq, hlink⟩ := List.mem_filterMap.1 hlink
  obtain ⟨b, hb, heq⟩ := Option.map_eq_some_iff.1 hlink
  obtain ⟨rfl, rfl⟩ := Prod.mk.inj heq
  obtain ⟨hassociation, hcascades⟩ := Option.filter_eq_some_iff.1 hb
  have hmem := List.mem_append_left owner.identity.toList (List.mem_filter.1 hq).1
  exact transparent_planAssociation hs howner
    (hcascade _ (hs.cascade _ owner howner q hmem b hassociation hcascades))

/-- By induction on the nesting of cascades, which persist only entities whose statements are kept. -/
theorem transparent_planInsertWithin (nesting : Nat) (isRoot : Bool) {e : Entity n} (he : stores r.name e) :
    Transparent (ctx.schema.Faithful stores) (ctx.planInsertWithin r nesting isRoot e) := by
  induction nesting generalizing isRoot e with
  | zero => exact .throw _
  | succ nesting ih =>
    obtain ⟨found, hfound⟩ := hs.finds_storedInsert he isRoot
    unfold planInsertWithin
    refine .bind (transparent_useStored hfound) fun insert => ?_
    refine .bind (transparent_bind (fun p hp a ha hcascades => ?_) _) fun args => ?_
    · exact ih false (hs.cascade _ e he p hp a ha hcascades)
    · exact .bind (transparent_addStatement _) fun _ =>
        transparent_planJoinRows hs he fun e he => ih false he

theorem transparent_planInsert {e : Entity n} (he : stores r.name e) :
    Transparent (ctx.schema.Faithful stores) (ctx.planInsert r e) :=
  .get_bind (fun _ => transparent_planInsertWithin hs _ true he) fun _ _ => rfl

theorem transparent_planUpdate {e : Entity n} (he : stores r.name e) (update : Template) :
    Transparent (ctx.schema.Faithful stores) (ctx.planUpdate r e update) := by
  refine .get_bind (fun state => ?_) fun _ _ => rfl
  refine .bind (transparent_bind (fun p hp a ha hcascades => ?_) _) fun args => transparent_addStatement _
  exact transparent_planInsertWithin hs _ false (hs.cascade _ e he p hp a ha hcascades)

end BindContext

/-! ### Calls -/

namespace SessionM
variable {α : Type} {Faithful : StoredStatements → Prop}

theorem transparent_put (event : CacheEvent) (question : List CacheEvent → Except String α) :
    Transparent Faithful (put event question) := by
  refine .of_untouched fun state kept => ?_
  rw [run_put, run_put]
  rfl

end SessionM

structure WriteCall (n : Nat) where
  mode : BindMode
  repository : Repository
  entity : Entity n
  document : Json

/-- Cascades from the first entity lead to the second. -/
inductive Schema.Cascades (s : Schema n) (e : Entity n) : Entity n → Prop
  | refl : Cascades s e e
  | step {owner : Entity n} {p : Property n} {a : Association n} (h : Cascades s e owner)
    (hp : p ∈ owner.properties ++ owner.identity.toList) (ha : p.association? = some a)
    (hcascades : a.cascades = true) : Cascades s e (s.target a)

/-- Repositories of the name write the entity in one of the calls, maybe by a cascade. -/
def Schema.Writes (s : Schema n) (calls : List (WriteCall n)) (r : String) (e : Entity n) : Prop :=
  ∃ call ∈ calls, call.repository.name = r ∧ s.Cascades call.entity e

/-- Entities of one name that the calls write by repositories of one name compile to the same statements. -/
def Schema.CompilesByName (s : Schema n) (calls : List (WriteCall n)) : Prop :=
  ∀ r e e', s.Writes calls r e → s.Writes calls r e' → e.name = e'.name →
    ∀ kind, s.compileStored e kind = s.compileStored e' kind

theorem Schema.CompilesByName.storesAlike {s : Schema n} {calls : List (WriteCall n)}
    (h : s.CompilesByName calls) : s.StoresAlike (s.Writes calls) where
  alike := h
  cascade := by
    rintro r e ⟨call, hcall, hname, he⟩ p hp a ha hcascades
    exact ⟨call, hcall, hname, he.step hp ha hcascades⟩

namespace Operations
variable {ops : Operations n} {Faithful : StoredStatements → Prop}

theorem transparent_planned {bean : Bean} {work : BindContext.PlanM Unit} (h : Transparent Faithful work) :
    Transparent Faithful (planned bean work) := by
  intro state kept kept' hkept hkept'
  obtain ⟨result, inner, after, after', hafter, hafter', hrun, hrun'⟩ :=
    h { bean := bean, drawn := state.drawn, outer := {} } kept kept' hkept hkept'
  have hplanned : ∀ kept, (planned bean work).run (KeepsStatements.keep kept state) =
      let outcome := work.run
        (KeepsStatements.keep kept { bean := bean, drawn := state.drawn, outer := {} })
      (outcome.1.map fun _ => (outcome.2.outer.plan, outcome.2.bean),
        { state with drawn := outcome.2.drawn, stored := outcome.2.outer.stored }) := fun _ => rfl
  rw [hplanned, hplanned, hrun, hrun']
  exact ⟨result.map fun _ => (inner.outer.plan, inner.bean), { state with drawn := inner.drawn }, after,
    after', hafter, hafter', rfl, rfl⟩

theorem transparent_runPlan (cache : String) (plan : List Statement) :
    Transparent Faithful (ops.runPlan cache plan) :=
  .bind (SessionM.transparent_put _ _) fun _ => .forM fun _ _ =>
    .bind (SessionM.transparent_put _ _) fun _ => .pure _

section
variable {stores : String → Entity n → Prop} (hs : ops.schema.StoresAlike stores) {r : Repository}
  {e : Entity n} (he : stores r.name e) (document : Json)
include hs he

theorem transparent_persist : Transparent (ops.schema.Faithful stores) (ops.persist r e document) :=
  .bind (.liftM _) fun _ => .bind (transparent_planned (BindContext.transparent_planInsert hs he))
    fun _ => .bind (transparent_runPlan _ _) fun _ => .pure _

theorem transparent_update : Transparent (ops.schema.Faithful stores) (ops.update r e document) := by
  obtain ⟨found, hfound⟩ := hs.finds_storedUpdate he
  let template : SessionM Template := do
    let state ← get
    let found ← ops.schema.storedUpdate r e state.stored
    modify fun state => { state with stored := found.2 }
    return found.1
  have htemplate : Transparent (ops.schema.Faithful stores) template := by
    refine .of_finds hfound fun state kept => ?_
    have hrun : template.run (KeepsStatements.keep kept state) =
        (ExceptT.bindCont (fun found : Template × StoredStatements => (do
          modify fun state => { state with stored := found.2 }
          return found.1 : SessionM Template)) (ops.schema.storedUpdate r e kept)).run
            (KeepsStatements.keep kept state) := rfl
    rw [hrun]
    cases ops.schema.storedUpdate r e kept <;> rfl
  have hupdate : ops.update r e document = (do
      let template ← template
      let bean ← beanOf e document
      let outcome ← planned bean (ops.toBindContext.planUpdate r e template)
      ops.runPlan r.cache outcome.1
      return .object outcome.2) := by
    simp only [update, template, bind_assoc, pure_bind]
  rw [hupdate]
  refine .bind htemplate fun template => .bind (.liftM _) fun bean => ?_
  exact .bind (transparent_planned (BindContext.transparent_planUpdate hs he template)) fun _ =>
    .bind (transparent_runPlan _ _) fun _ => .pure _

end

end Operations

namespace WriteCall

def run (ops : Operations n) (call : WriteCall n) : SessionM Json :=
  match call.mode with
  | .insert => ops.persist call.repository call.entity call.document
  | .update => ops.update call.repository call.entity call.document

/-- The state that calls leave behind, one after the other, whether or not they fail. -/
def leave (ops : Operations n) : List (WriteCall n) → SessionState → SessionState
  | [], state => state
  | call :: calls, state => leave ops calls ((call.run ops).run state).2

theorem transparent_run {ops : Operations n} {stores : String → Entity n → Prop}
    (hs : ops.schema.StoresAlike stores) {call : WriteCall n} (he : stores call.repository.name call.entity) :
    Transparent (ops.schema.Faithful stores) (call.run ops) := by
  unfold run
  split
  · exact Operations.transparent_persist hs he _
  · exact Operations.transparent_update hs he _

/-- Whatever calls were made, what is kept is faithful. -/
theorem faithful_leave {ops : Operations n} {stores : String → Entity n → Prop}
    (hs : ops.schema.StoresAlike stores) {calls : List (WriteCall n)}
    (hcalls : ∀ call ∈ calls, stores call.repository.name call.entity) {state : SessionState}
    (hkept : ops.schema.Faithful stores state.stored) :
    ops.schema.Faithful stores (leave ops calls state).stored := by
  induction calls generalizing state with
  | nil => exact hkept
  | cons call calls ih =>
    refine ih (fun call hcall => hcalls call (List.mem_cons_of_mem _ hcall)) ?_
    obtain ⟨result, state', after, after', hafter, -, hrun, -⟩ :=
      transparent_run hs (hcalls call List.mem_cons_self) state _ _ hkept hkept
    have hrun : (call.run ops).run state = (result, { state' with stored := after }) := hrun
    rw [hrun]
    exact hafter

end WriteCall

/-- Entities of different names can be written in any order. -/
theorem Schema.CompilesByName.of_injective {s : Schema n} {calls : List (WriteCall n)}
    (hnames : Function.Injective fun i => (s.entity i).name)
    (hentities : ∀ call ∈ calls, ∃ i, s.entity i = call.entity) : s.CompilesByName calls := by
  have hwritten : ∀ r e, s.Writes calls r e → ∃ i, s.entity i = e := by
    rintro r e ⟨call, hcall, -, he⟩
    cases he with
    | refl => exact hentities call hcall
    | step => exact ⟨_, rfl⟩
  intro r e e' he he' hname kind
  obtain ⟨i, rfl⟩ := hwritten r e he
  obtain ⟨i', rfl⟩ := hwritten r e' he'
  rw [hnames hname]

namespace Operations

/-- What a call returns, draws and asks of caches is the same as if nothing had been kept by the calls
before it. -/
theorem writes_unremembered (ops : Operations n) {calls : List (WriteCall n)}
    (hnames : ops.schema.CompilesByName calls) (drawn : Nat) (history : List CacheEvent) :
    ∀ before call after, calls = before ++ call :: after →
      let reached := WriteCall.leave ops before { drawn, history }
      let remembering := (call.run ops).run reached
      let fresh := (call.run ops).run { reached with stored := [] }
      remembering.1 = fresh.1 ∧ remembering.2.drawn = fresh.2.drawn ∧
        remembering.2.history = fresh.2.history := by
  rintro before call after rfl reached remembering fresh
  have hs := hnames.storesAlike
  have hcall : ops.schema.Writes (before ++ call :: after) call.repository.name call.entity :=
    ⟨call, by simp, rfl, .refl⟩
  have hkept : ops.schema.Faithful (ops.schema.Writes (before ++ call :: after)) reached.stored :=
    WriteCall.faithful_leave hs (fun call hcall => ⟨call, List.mem_append_left _ hcall, rfl, .refl⟩)
      Schema.faithful_nil
  obtain ⟨result, state', after', after'', -, -, hrun, hrun'⟩ :=
    WriteCall.transparent_run hs hcall reached _ _ hkept Schema.faithful_nil
  have hremembering : remembering = (result, { state' with stored := after' }) := hrun
  have hfresh : fresh = (result, { state' with stored := after'' }) := hrun'
  rw [hremembering, hfresh]
  exact ⟨rfl, rfl, rfl⟩

/-- The texts of the statements that caches were handed to execute. -/
def executedTexts (history : List CacheEvent) : List String :=
  history.filterMap fun
    | .executed statement => some statement.sql
    | _ => none

/-- A cache that takes every statement, for examples. -/
def accepting : CacheProvider where
  openCache _ _ := .ok ()
  query _ _ _ := .ok ⟨[], []⟩
  execute _ _ _ := .ok 1

def libraryOperations : Operations 2 where
  toBindContext := .library
  provider := accepting

def persistInLibrary (i : Fin 2) (document : Bean) : WriteCall 2 :=
  ⟨.insert, { name := "Books", cache := "books" }, BindContext.library.schema.entity i, .object document⟩

/-- The INSERT of authors is kept when the trilogy is persisted, and changes nothing. -/
theorem writes_unremembered_library :
    let author := persistInLibrary 1 [("mentor", .object [])]
    let trilogy := persistInLibrary 0 BindContext.trilogy
    let reached := WriteCall.leave libraryOperations [author] {}
    let remembering := (trilogy.run libraryOperations).run reached
    let fresh := (trilogy.run libraryOperations).run { reached with stored := [] }
    libraryOperations.schema.CompilesByName [author, trilogy] ∧
      reached.stored.map Prod.fst = [⟨"Books", "Author", .insert⟩] ∧
      executedTexts remembering.2.history =
        ["INSERT INTO author (mentor_id,id) VALUES (?,?)",
          "INSERT INTO author (mentor_id,id) VALUES (?,?)",
          "INSERT INTO author (mentor_id,id) VALUES (?,?)",
          "INSERT INTO book (author_id,id) VALUES (?,?)",
          "INSERT INTO book (author_id,id) VALUES (?,?)",
          "INSERT INTO book_sequels (book_id,book_id) VALUES (?, ?)",
          "INSERT INTO book_sequels (book_id,book_id) VALUES (?, ?)"] ∧
      remembering.1 = fresh.1 ∧ remembering.2.drawn = fresh.2.drawn ∧
      remembering.2.history = fresh.2.history := by
  intro author trilogy reached remembering fresh
  have hnames : libraryOperations.schema.CompilesByName [author, trilogy] := by
    refine .of_injective BindContext.cascadable_library.names fun call hcall => ?_
    simp only [List.mem_cons, List.not_mem_nil, or_false] at hcall
    rcases hcall with rfl | rfl
    · exact ⟨1, rfl⟩
    · exact ⟨0, rfl⟩
  have hkept : reached.stored.map Prod.fst = [⟨"Books", "Author", .insert⟩] := by decide +kernel
  have htexts : executedTexts remembering.2.history =
      ["INSERT INTO author (mentor_id,id) VALUES (?,?)", "INSERT INTO author (mentor_id,id) VALUES (?,?)",
        "INSERT INTO author (mentor_id,id) VALUES (?,?)", "INSERT INTO book (author_id,id) VALUES (?,?)",
        "INSERT INTO book (author_id,id) VALUES (?,?)",
        "INSERT INTO book_sequels (book_id,book_id) VALUES (?, ?)",
        "INSERT INTO book_sequels (book_id,book_id) VALUES (?, ?)"] := by decide +kernel
  exact ⟨hnames, hkept, htexts, writes_unremembered libraryOperations hnames 0 [] [author] trilogy [] rfl⟩

def bookIn (table : String) : Entity 2 where
  name := "Book"
  table := some table
  identity := some { name := "id", content := .scalar .long }
  properties := [{ name := "title", content := .scalar .string }]

/-- Printed books and audio books, both called books. -/
def namesakes : Operations 2 where
  schema := { entity := fun
    | 0 => bookIn "print_book"
    | 1 => bookIn "audio_book" }
  codec := .json
  now := .newYear
  freshId _ := ⟨0⟩
  provider := accepting

def persistBook (i : Fin 2) (id : Int) : WriteCall 2 :=
  ⟨.insert, { name := "Books", cache := "books" }, namesakes.schema.entity i,
    .object [("id", .int id), ("title", .string "Emma")]⟩

/-- An audio book is inserted into the table of printed books, if one of these was persisted before. -/
theorem persist_rememberedNamesake :
    let reached := WriteCall.leave namesakes [persistBook 0 1] {}
    let remembering := ((persistBook 1 2).run namesakes).run reached
    let fresh := ((persistBook 1 2).run namesakes).run { reached with stored := [] }
    executedTexts remembering.2.history =
        ["INSERT INTO print_book (title,id) VALUES (?,?)", "INSERT INTO print_book (title,id) VALUES (?,?)"] ∧
      executedTexts fresh.2.history =
        ["INSERT INTO print_book (title,id) VALUES (?,?)", "INSERT INTO audio_book (title,id) VALUES (?,?)"] ∧
      remembering.2.history ≠ fresh.2.history := by
  have hremembering : executedTexts (((persistBook 1 2).run namesakes).run
      (WriteCall.leave namesakes [persistBook 0 1] {})).2.history =
      ["INSERT INTO print_book (title,id) VALUES (?,?)",
        "INSERT INTO print_book (title,id) VALUES (?,?)"] := by decide +kernel
  have hfresh : executedTexts (((persistBook 1 2).run namesakes).run
      { WriteCall.leave namesakes [persistBook 0 1] {} with stored := [] }).2.history =
      ["INSERT INTO print_book (title,id) VALUES (?,?)",
        "INSERT INTO audio_book (title,id) VALUES (?,?)"] := by decide +kernel
  refine ⟨hremembering, hfresh, fun hsame => ?_⟩
  have htexts := hremembering.symm.trans ((congrArg executedTexts hsame).trans hfresh)
  exact absurd htexts (by decide)

end Operations

end EntitySql
