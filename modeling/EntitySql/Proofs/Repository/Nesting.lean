import EntitySql.Proofs.Bean.Yields
import EntitySql.Proofs.Repository.Execution
import EntitySql.Proofs.Repository.Persist

/-! # The nesting of cascades

A cascade goes from an object to an object inside it, and what planning writes meanwhile makes no object
deeper: fresh identifiers and times are texts, and an object that was persisted is written back where it
was. So planning ends whatever the metadata say, and cascades are nested no deeper than the objects of the
bean (`Operations.planning_ends`). The bound that planning works with is never met: the same plan comes of a
recursion without one, and that recursion has one solution only. -/

namespace EntitySql
variable {n : Nat}

/-! ### Nested objects -/

namespace Json

mutual

/-- How deep objects are nested, 0 for a document without objects. -/
def nesting : Json → Nat
  | array items => nestingItems items
  | object fields => nestingFields fields + 1
  | _ => 0

def nestingItems : List Json → Nat
  | [] => 0
  | item :: items => max (nesting item) (nestingItems items)

def nestingFields : List (String × Json) → Nat
  | [] => 0
  | (_, value) :: fields => max (nesting value) (nestingFields fields)

end

mutual

theorem nesting_le_depth : ∀ document : Json, document.nesting ≤ document.depth
  | null | bool _ | int _ | float _ | string _ => Nat.le_refl 0
  | array items => by
    have := nestingItems_le_depth items
    simp only [nesting, depth]
    omega
  | object fields => by
    have := nestingFields_le_depth fields
    simp only [nesting, depth]
    omega

theorem nestingItems_le_depth : ∀ items : List Json, nestingItems items ≤ depthItems items
  | [] => Nat.le_refl 0
  | item :: items => by
    have := nesting_le_depth item
    have := nestingItems_le_depth items
    simp only [nestingItems, depthItems]
    omega

theorem nestingFields_le_depth : ∀ fields : List (String × Json), nestingFields fields ≤ depthFields fields
  | [] => Nat.le_refl 0
  | (_, value) :: fields => by
    have := nesting_le_depth value
    have := nestingFields_le_depth fields
    simp only [nestingFields, depthFields]
    omega

end

theorem nestingFields_insert (name : String) (document : Json) (fields : Fields Json) :
    nestingFields (Fields.insert name document fields) ≤ max document.nesting (nestingFields fields) := by
  induction fields with
  | nil => simp [Fields.insert, nestingFields]
  | cons field fields ih =>
    obtain ⟨key, old⟩ := field
    unfold Fields.insert
    split
    · simp only [nestingFields]
      omega
    split
    · exact Nat.le_refl _
    · simp only [nestingFields]
      omega

end Json

theorem Bean.nesting_read (bean : Bean) (property : String) :
    (bean.read property).nesting ≤ Json.nestingFields bean := by
  unfold read
  induction bean with
  | nil => exact Nat.le_refl 0
  | cons field fields ih =>
    obtain ⟨key, value⟩ := field
    simp only [Fields.get?, Json.nestingFields]
    split
    · exact Nat.le_max_left _ _
    · exact Nat.le_trans ih (Nat.le_max_right _ _)

/-! ### Work within a nesting -/

/-- Whether an error says that there is no answer. -/
def Error.isEndless : Error → Bool
  | endless _ => true
  | _ => false

/-- The work ended, with a value that satisfies the predicate or with an error that it stopped at. -/
def Ends {α : Type} (P : α → Prop) : Except Error α → Prop
  | .ok a => P a
  | .error e => e.isEndless = false

namespace BeanM
variable {σ α β : Type} {k : Nat} {P : α → Prop} {Q : β → Prop}

theorem run_get_bind (next : BeanState σ → BeanM σ α) (state : BeanState σ) :
    (get >>= next).run state = (next state).run state := rfl

/-- The two are the same work on beans whose objects are nested at most `k` deep. It ends, and leaves the
bean nested no deeper. -/
def SameWithin (k : Nat) (P : α → Prop) (work work' : BeanM σ α) : Prop :=
  ∀ state, (Json.object state.bean).nesting ≤ k → ∃ result state',
    work.run state = (result, state') ∧ work'.run state = (result, state') ∧
      (Json.object state'.bean).nesting ≤ k ∧ Ends P result

namespace SameWithin

theorem zero {work work' : BeanM σ α} : SameWithin 0 P work work' :=
  fun _ hstate => absurd hstate (by simp [Json.nesting])

theorem left {work work' : BeanM σ α} (h : SameWithin k P work work') : SameWithin k P work work := by
  intro state hstate
  obtain ⟨result, state', hrun, -, hstate', hresult⟩ := h state hstate
  exact ⟨result, state', hrun, hrun, hstate', hresult⟩

theorem pure {a : α} (h : P a) : SameWithin k P (pure a : BeanM σ α) (pure a) :=
  fun state hstate => ⟨.ok a, state, rfl, rfl, hstate, h⟩

theorem throw {e : Error} (h : e.isEndless = false) :
    SameWithin k P (throw e : BeanM σ α) (throw e) :=
  fun state hstate => ⟨.error e, state, rfl, rfl, hstate, h⟩

theorem liftM {x : Outcome α} (hok : ∀ a, x = .ok a → P a) (herror : x.FailsOnly (·.isEndless = false)) :
    SameWithin k P (liftM x : BeanM σ α) (liftM x) := by
  refine fun state hstate => ⟨x, state, rfl, rfl, hstate, ?_⟩
  cases x with
  | ok a => exact hok a rfl
  | error e => exact herror e rfl

theorem bind {work work' : BeanM σ α} {next next' : α → BeanM σ β} (hwork : SameWithin k P work work')
    (hnext : ∀ a, P a → SameWithin k Q (next a) (next' a)) :
    SameWithin k Q (work >>= next) (work' >>= next') := by
  intro state hstate
  obtain ⟨result, between, hrun, hrun', hbetween, hresult⟩ := hwork state hstate
  have hbind : ∀ (work : BeanM σ α) (next : α → BeanM σ β), (work >>= next).run state =
      (ExceptT.bindCont next (work.run state).1).run (work.run state).2 := fun _ _ => rfl
  rw [hbind, hbind, hrun, hrun']
  cases result with
  | error e => exact ⟨.error e, between, rfl, rfl, hbetween, hresult⟩
  | ok a => exact hnext a hresult between hbetween

theorem get : SameWithin k (fun state => (Json.object state.bean).nesting ≤ k)
    (get : BeanM σ (BeanState σ)) get :=
  fun state hstate => ⟨.ok state, state, rfl, rfl, hstate, hstate⟩

/-- What a bean holds is nested less deep than the bean. -/
theorem read (property : String) : SameWithin (k + 1) (fun document => document.nesting ≤ k)
    (read property : BeanM σ Json) (read property) := by
  refine fun state hstate => ⟨.ok (state.bean.read property), state, rfl, rfl, hstate, ?_⟩
  exact Nat.le_trans (state.bean.nesting_read property) (Nat.le_of_succ_le_succ hstate)

theorem write (property : String) {document : Json} (h : document.nesting ≤ k) :
    SameWithin (k + 1) (fun _ => True) (write property document : BeanM σ Unit)
      (write property document) := by
  refine fun state hstate => ⟨.ok (), _, rfl, rfl, ?_, trivial⟩
  have hinsert := Json.nestingFields_insert property document state.bean
  simp only [Json.nesting] at hstate ⊢
  omega

theorem draw : SameWithin k (fun _ => True) (draw : BeanM σ Nat) draw :=
  fun state hstate => ⟨.ok state.drawn, _, rfl, rfl, hstate, trivial⟩

theorem modifyOuter (f : σ → σ) :
    SameWithin k (fun _ => True) (modifyOuter f : BeanM σ Unit) (modifyOuter f) :=
  fun _ hstate => ⟨.ok (), _, rfl, rfl, hstate, trivial⟩

/-- Work on another object leaves that one nested no deeper, too. -/
theorem on {other : Bean} {j : Nat} (hother : (Json.object other).nesting ≤ j)
    {work work' : BeanM σ α} (h : SameWithin j P work work') :
    SameWithin k (fun outcome => Ends P outcome.1 ∧ (Json.object outcome.2).nesting ≤ j)
      (on other work) (on other work') := by
  intro state hstate
  obtain ⟨result, inner, hrun, hrun', hinner, hresult⟩ := h { state with bean := other } hother
  have hon : ∀ work : BeanM σ α, (BeanM.on other work).run state =
      (.ok ((work.run { state with bean := other }).1, (work.run { state with bean := other }).2.bean),
        { (work.run { state with bean := other }).2 with bean := state.bean }) := fun _ => rfl
  rw [hon, hon, hrun, hrun']
  exact ⟨.ok (result, inner.bean), { inner with bean := state.bean }, rfl, rfl, hstate, hresult, hinner⟩

theorem liftM_ended {result : Except Error α} (h : Ends P result) :
    SameWithin k P (MonadLiftT.monadLift result : BeanM σ α) (MonadLiftT.monadLift result) := by
  refine .liftM (fun a ha => ?_) (fun e he => ?_)
  · rw [ha] at h
    exact h
  · rw [he] at h
    exact h

theorem within {property : String} {object : Bean} (hobject : (Json.object object).nesting ≤ k)
    {work work' : BeanM σ Unit} (h : SameWithin k (fun _ => True) work work') :
    SameWithin (k + 1) (fun object => (Json.object object).nesting ≤ k)
      (within property object work) (within property object work') :=
  .bind (.on hobject h) fun _ houtcome => .bind (.write property houtcome.2) fun _ _ =>
    .bind (.liftM_ended houtcome.1) fun _ _ => .pure houtcome.2

theorem mapM {f f' : α → BeanM σ β} {as : List α} (h : ∀ a ∈ as, SameWithin k Q (f a) (f' a)) :
    SameWithin k (fun _ => True) (as.mapM f) (as.mapM f') := by
  induction as with
  | nil => exact .pure trivial
  | cons a as ih =>
    rw [List.mapM_cons, List.mapM_cons]
    exact .bind (h a (by simp)) fun b _ =>
      .bind (ih fun a ha => h a (by simp [ha])) fun bs _ => .pure trivial

theorem forM {f f' : α → BeanM σ Unit} {as : List α}
    (h : ∀ a ∈ as, SameWithin k (fun _ => True) (f a) (f' a)) :
    SameWithin k (fun _ => True) (as.forM f) (as.forM f') := by
  induction as with
  | nil => exact .pure trivial
  | cons a as ih => exact .bind (h a (by simp)) fun _ _ => ih fun a ha => h a (by simp [ha])

end SameWithin

end BeanM

/-! ### Errors that work stops at -/

theorem Value.ofJson_ends (document : Json) (type : DataType) :
    (Value.ofJson document type).FailsOnly (·.isEndless = false) := by
  unfold Value.ofJson
  split
  · exact .ok
  split
  · exact .ok
  · rintro e ⟨⟩
    rfl

theorem Entity.requiredIdentity_ends (e : Entity n) :
    e.requiredIdentity.FailsOnly (·.isEndless = false) := by
  unfold Entity.requiredIdentity
  split
  · exact .ok
  · rintro e ⟨⟩
    rfl

namespace Schema
variable {s : Schema n}

theorem linkedIdentity_ends (e : Entity n) : (linkedIdentity e).FailsOnly (·.isEndless = false) := by
  unfold linkedIdentity
  split
  · exact .ok
  · rintro e ⟨⟩
    rfl

theorem joinTableInsert_ends (e : Entity n) (p : Property n) :
    (s.joinTableInsert e p).FailsOnly (·.isEndless = false) := by
  unfold joinTableInsert
  split
  · rintro e ⟨⟩
    rfl
  refine .bind (.bind (linkedIdentity_ends _) fun _ => .bind (linkedIdentity_ends _) fun _ => ?_) fun _ => .ok
  split
  · exact .ok
  · exact .ok
  · rintro e ⟨⟩
    rfl

theorem compileStored_ends (e : Entity n) (kind : StoredKind) :
    (s.compileStored e kind).FailsOnly (·.isEndless = false) := by
  cases kind with
  | insert =>
    show (s.insert e).FailsOnly _
    unfold insert
    dsimp only
    split
    · rintro e ⟨⟩
      rfl
    · exact .ok
  | update =>
    refine .bind e.requiredIdentity_ends fun _ => ?_
    dsimp only
    split
    · rintro e ⟨⟩
      rfl
    · exact .ok
  | joinTable property =>
    unfold compileStored
    dsimp only
    split
    · exact joinTableInsert_ends e _
    · rintro e ⟨⟩
      rfl

theorem stored_ends (r : Repository) (e : Entity n) (kind : StoredKind) (kept : StoredStatements) :
    (s.stored r e kind kept).FailsOnly (·.isEndless = false) := by
  unfold stored
  dsimp only
  split
  · exact .ok
  · exact .bind (compileStored_ends e kind) fun _ => .ok

theorem storedInsert_ends (r : Repository) (e : Entity n) (isRoot : Bool) (kept : StoredStatements) :
    (s.storedInsert r e isRoot kept).FailsOnly (·.isEndless = false) := by
  unfold storedInsert
  split
  · exact .ok
  · split
    · exact stored_ends r e .insert kept
    · rintro e ⟨⟩
      rfl
  · exact stored_ends r e .insert kept

theorem storedUpdate_ends (r : Repository) (e : Entity n) (kept : StoredStatements) :
    (s.storedUpdate r e kept).FailsOnly (·.isEndless = false) := by
  unfold storedUpdate
  split
  · exact .ok
  · split
    · exact stored_ends r e .update kept
    · rintro e ⟨⟩
      rfl

end Schema

/-! ### Binding -/

namespace BindContext
open BeanM
variable {ctx : BindContext n} {σ : Type} {k : Nat} {cascade cascade' : Cascade n σ} {e : Entity n}
  {p : Property n} {mode : BindMode}

theorem scalar_ends (document : Json) : (ctx.scalar p document).FailsOnly (·.isEndless = false) := by
  unfold scalar
  split
  · split
    · exact .ok
    split
    · exact .ok
    · rintro e ⟨⟩
      rfl
  · exact Value.ofJson_ends document p.type

theorem embedded_ends (sub : String) (bean : Bean) :
    (ctx.embedded e p sub bean).FailsOnly (·.isEndless = false) := by
  unfold embedded
  split
  · rintro e ⟨⟩
    rfl
  dsimp only
  split
  · rintro e ⟨⟩
    rfl
  split
  · split
    · refine .bind (Entity.requiredIdentity_ends _) fun identity => ?_
      split
      · exact Value.ofJson_ends _ identity.type
      · exact .ok
    · exact scalar_ends _
  · exact .ok

theorem ofJson_sameWithin (document : Json) (type : DataType) :
    SameWithin k (fun _ => True) (liftM (Value.ofJson document type) : BeanM σ Value)
      (liftM (Value.ofJson document type)) :=
  .liftM (fun _ _ => trivial) (Value.ofJson_ends document type)

/-- Times are written as texts. -/
theorem stamp_sameWithin :
    SameWithin (k + 1) (fun _ => True) (ctx.stamp p : BeanM σ Value) (ctx.stamp p) := by
  have htext : ∃ text, (ctx.currentTime p).toUntyped = .ok (.string text) := by
    unfold currentTime
    split
    · exact ⟨_, rfl⟩
    · exact ⟨_, rfl⟩
  obtain ⟨text, htext⟩ := htext
  have hdocument : SameWithin (k + 1) (fun document => document.nesting ≤ k)
      (liftM (ctx.currentTime p).toUntyped : BeanM σ Json) (liftM (ctx.currentTime p).toUntyped) := by
    rw [htext]
    exact .pure (Nat.zero_le k)
  exact .bind hdocument fun _ hnesting => .bind (.write p.name hnesting) fun _ _ => .pure trivial

theorem populate_sameWithin (kind : AutoPopulated) :
    SameWithin (k + 1) (fun _ => True) (ctx.populate mode p kind : BeanM σ Value)
      (ctx.populate mode p kind) := by
  have hread : ∀ type, SameWithin (k + 1) (fun _ => True)
      (BeanM.read p.name >>= fun document => liftM (Value.ofJson document type) : BeanM σ Value)
      (BeanM.read p.name >>= fun document => liftM (Value.ofJson document type)) :=
    fun type => .bind (.read _) fun document _ => ofJson_sameWithin document type
  cases kind with
  | created =>
    cases mode with
    | insert => exact stamp_sameWithin
    | update => exact hread p.type
  | updated => exact stamp_sameWithin
  | custom kind => exact .throw rfl
  | generated =>
    unfold populate
    dsimp only
    split
    · exact .bind (P := fun _ => False) (.throw rfl) fun _ h => h.elim
    refine .bind (.read _) fun current _ => ?_
    split
    · exact .bind .draw fun _ _ => .bind (.write p.name (Nat.zero_le k)) fun _ _ => .pure trivial
    · exact ofJson_sameWithin current .uuid

/-- A reference is bound alike by cascades that are the same on the objects inside. -/
theorem reference_sameWithin (hcascade : ∀ e, SameWithin k (fun _ => True) (cascade e) (cascade' e))
    (a : Association n) : SameWithin (k + 1) (fun _ => True) (ctx.reference cascade p a)
      (ctx.reference cascade' p a) := by
  unfold reference
  dsimp only
  split
  · exact .bind (P := fun _ => False) (.throw rfl) fun _ h => h.elim
  refine .bind (.liftM (fun _ _ => trivial) (Entity.requiredIdentity_ends _)) fun identity _ => ?_
  refine .bind (.read _) fun document hdocument => ?_
  split
  · next object =>
    split
    · refine .bind (.within hdocument (hcascade _)) fun object' _ => ?_
      split
      · exact .bind (P := fun _ => False) (.throw rfl) fun _ h => h.elim
      · exact .bind (P := fun _ => True) (.pure trivial) fun _ _ => ofJson_sameWithin _ identity.type
    · exact .bind (P := fun _ => True) (.pure trivial) fun _ _ => ofJson_sameWithin _ identity.type
  · exact .pure trivial

theorem bindPath_sameWithin (hcascade : ∀ e, SameWithin k (fun _ => True) (cascade e) (cascade' e))
    (path : String) : SameWithin (k + 1) (fun _ => True) (ctx.bindPath cascade e mode path)
      (ctx.bindPath cascade' e mode path) := by
  unfold bindPath
  dsimp only
  split
  · exact .throw rfl
  split
  · exact .bind .get fun state _ => .liftM (fun _ _ => trivial) (embedded_ends _ _)
  split
  · exact populate_sameWithin _
  split
  · exact reference_sameWithin hcascade _
  · exact .bind (.read _) fun document _ => .liftM (fun _ _ => trivial) (scalar_ends document)

theorem bind_sameWithin (hcascade : ∀ e, SameWithin k (fun _ => True) (cascade e) (cascade' e))
    (paths : List String) : SameWithin (k + 1) (fun _ => True) (ctx.bind cascade e mode paths)
      (ctx.bind cascade' e mode paths) :=
  .mapM fun path _ => bindPath_sameWithin hcascade path

end BindContext

/-! ### Planning -/

namespace BindContext
open BeanM
variable {ctx : BindContext n} {k : Nat} {cascade cascade' : Cascade n PlanState} {r : Repository}
  {owner target : Entity n} {p : Property n}

theorem useStored_sameWithin {find : StoredStatements → Outcome (Template × StoredStatements)}
    (h : ∀ kept, (find kept).FailsOnly (·.isEndless = false)) :
    SameWithin k (fun _ => True) (useStored find) (useStored find) :=
  .bind .get fun state _ => .bind (.liftM (fun _ _ => trivial) (h state.outer.stored)) fun _ _ =>
    .bind (.modifyOuter _) fun _ _ => .pure trivial

theorem planLinks_sameWithin (hcascade : SameWithin k (fun _ => True) (cascade target) (cascade' target))
    {targetIdentity : Property n} {ownerId : Value} {insert : Template} (children : List Json)
    (hchildren : Json.nestingItems children ≤ k) :
    SameWithin (k + 1) (fun children => Json.nestingItems children ≤ k)
      (planLinks cascade owner p target targetIdentity ownerId insert children)
      (planLinks cascade' owner p target targetIdentity ownerId insert children) := by
  induction children with
  | nil => exact .pure (Nat.zero_le k)
  | cons child rest ih =>
    obtain ⟨hchild, hrest⟩ := Nat.max_le.1 hchildren
    cases child with
    | object child =>
      have hlink : ∀ child : Bean, (Json.object child).nesting ≤ k →
          ∀ links links' : PlanM (List Json),
          SameWithin (k + 1) (fun children => Json.nestingItems children ≤ k) links links' →
          SameWithin (k + 1) (fun children => Json.nestingItems children ≤ k) (do
            let childId ← Value.ofJson (Bean.read child targetIdentity.name) targetIdentity.type
            if childId.isNull then throw (.build (.unsetReference target.name p.name))
            addStatement ⟨insert.text, [ownerId, childId]⟩
            let rest ← links
            return .object child :: rest : PlanM (List Json)) (do
            let childId ← Value.ofJson (Bean.read child targetIdentity.name) targetIdentity.type
            if childId.isNull then throw (.build (.unsetReference target.name p.name))
            addStatement ⟨insert.text, [ownerId, childId]⟩
            let rest ← links'
            return .object child :: rest : PlanM (List Json)) := by
        intro child hchild links links' hlinks
        refine .bind (ofJson_sameWithin _ _) fun childId _ => ?_
        split
        · exact .bind (P := fun _ => False) (.throw rfl) fun _ h => h.elim
        · exact .bind (.modifyOuter _) fun _ _ => .bind hlinks fun rest hrest =>
            .pure (Nat.max_le.2 ⟨hchild, hrest⟩)
      unfold planLinks
      dsimp only
      split
      · exact .bind (P := fun _ => False) (.throw rfl) fun _ h => h.elim
      split
      · refine .bind (.on hchild hcascade) fun outcome houtcome => ?_
        refine .bind (.liftM_ended houtcome.1) fun _ _ => ?_
        exact .bind (.pure houtcome.2) fun child hchild => hlink child hchild _ _ (ih hrest)
      · exact .bind (.pure hchild) fun child hchild => hlink child hchild _ _ (ih hrest)
    | null | bool _ | int _ | float _ | string _ | array _ =>
      unfold planLinks
      exact .bind (ih hrest) fun rest hrest => .pure (Nat.max_le.2 ⟨hchild, hrest⟩)

theorem planAssociation_sameWithin (hcascade : ∀ e, SameWithin k (fun _ => True) (cascade e) (cascade' e))
    (ownerId : Value) (a : Association n) : SameWithin (k + 1) (fun _ => True)
      (ctx.planAssociation cascade r owner ownerId p a)
      (ctx.planAssociation cascade' r owner ownerId p a) := by
  unfold planAssociation
  refine .bind (.liftM (fun _ _ => trivial) (Entity.requiredIdentity_ends _)) fun targetIdentity _ => ?_
  refine .bind (useStored_sameWithin (Schema.stored_ends r owner _)) fun insert _ => ?_
  refine .bind (.read _) fun document hdocument => ?_
  split
  · next children =>
    exact .bind (planLinks_sameWithin (hcascade _) children hdocument) fun _ hnesting =>
      .write p.name hnesting
  · exact .pure trivial

theorem planJoinRows_sameWithin (hcascade : ∀ e, SameWithin k (fun _ => True) (cascade e) (cascade' e)) :
    SameWithin (k + 1) (fun _ => True) (ctx.planJoinRows cascade r owner)
      (ctx.planJoinRows cascade' r owner) := by
  unfold planJoinRows
  dsimp only
  split
  · exact .pure trivial
  refine .bind (.liftM (fun _ _ => trivial) owner.requiredIdentity_ends) fun identity _ => ?_
  refine .bind (.read _) fun document _ => .bind (ofJson_sameWithin document _) fun ownerId _ => ?_
  exact .forM fun link _ => planAssociation_sameWithin hcascade ownerId link.2

/-- Planning the INSERT of the bean, where `cascade` persists what it refers to. -/
def insertBy (ctx : BindContext n) (r : Repository) (cascade : Cascade n PlanState) (isRoot : Bool)
    (e : Entity n) : PlanM Unit := do
  let insert ← useStored (ctx.schema.storedInsert r e isRoot)
  let args ← ctx.bind cascade e .insert insert.paths
  addStatement ⟨insert.text, args⟩
  ctx.planJoinRows cascade r e

/-- Planning the UPDATE of the bean, where `cascade` persists what it refers to. -/
def updateBy (ctx : BindContext n) (cascade : Cascade n PlanState) (e : Entity n) (update : Template) :
    PlanM Unit := do
  let args ← ctx.bind cascade e .update update.paths
  addStatement ⟨update.text, args⟩

/-- One step of the recursion: cascades that are the same on the objects inside an object make the same of
the object itself. -/
theorem insertBy_sameWithin (hcascade : ∀ e, SameWithin k (fun _ => True) (cascade e) (cascade' e))
    (isRoot : Bool) (e : Entity n) : SameWithin (k + 1) (fun _ => True) (ctx.insertBy r cascade isRoot e)
      (ctx.insertBy r cascade' isRoot e) :=
  .bind (useStored_sameWithin (Schema.storedInsert_ends r e isRoot)) fun _ _ =>
    .bind (bind_sameWithin hcascade _) fun _ _ => .bind (.modifyOuter _) fun _ _ =>
      planJoinRows_sameWithin hcascade

theorem updateBy_sameWithin (hcascade : ∀ e, SameWithin k (fun _ => True) (cascade e) (cascade' e))
    (e : Entity n) (update : Template) : SameWithin (k + 1) (fun _ => True)
      (ctx.updateBy cascade e update) (ctx.updateBy cascade' e update) :=
  .bind (bind_sameWithin hcascade _) fun _ _ => .modifyOuter _

theorem planInsertWithin_succ (ctx : BindContext n) (r : Repository) (bound : Nat) (isRoot : Bool)
    (e : Entity n) : ctx.planInsertWithin r (bound + 1) isRoot e =
      ctx.insertBy r (ctx.planInsertWithin r bound false) isRoot e := rfl

/-- By induction on the nesting of the objects, which a bound on cascades has to reach only. -/
theorem planInsertWithin_sameWithin {bound bound' : Nat} (h : k ≤ bound) (h' : k ≤ bound') (isRoot : Bool)
    (e : Entity n) : SameWithin k (fun _ => True) (ctx.planInsertWithin r bound isRoot e)
      (ctx.planInsertWithin r bound' isRoot e) := by
  induction k generalizing bound bound' isRoot e with
  | zero => exact .zero
  | succ k ih =>
    obtain ⟨bound, rfl⟩ := Nat.exists_eq_add_of_le' (Nat.le_of_add_left_le h)
    obtain ⟨bound', rfl⟩ := Nat.exists_eq_add_of_le' (Nat.le_of_add_left_le h')
    rw [planInsertWithin_succ, planInsertWithin_succ]
    exact insertBy_sameWithin
      (fun e => ih (Nat.le_of_succ_le_succ h) (Nat.le_of_succ_le_succ h') false e) isRoot e

/-- Persists an object by cascades that are nested no deeper than its objects. -/
def planCascade (ctx : BindContext n) (r : Repository) : Cascade n PlanState := fun e => do
  ctx.planInsertWithin r (Json.object (← get).bean).nesting false e

theorem run_planCascade (ctx : BindContext n) (r : Repository) (e : Entity n)
    (state : BeanState PlanState) : (ctx.planCascade r e).run state =
      (ctx.planInsertWithin r (Json.object state.bean).nesting false e).run state := by
  unfold planCascade
  rw [run_get_bind]

theorem planCascade_sameWithin {bound : Nat} (h : k ≤ bound) (e : Entity n) :
    SameWithin k (fun _ => True) (ctx.planCascade r e) (ctx.planInsertWithin r bound false e) := by
  intro state hstate
  have hsame : SameWithin (Json.object state.bean).nesting (fun _ => True)
      (ctx.planInsertWithin r (Json.object state.bean).nesting false e) (ctx.planInsertWithin r bound false e) :=
    planInsertWithin_sameWithin (Nat.le_refl _) (Nat.le_trans hstate h) false e
  obtain ⟨result, state', hrun, hrun', hstate', hresult⟩ := hsame state (Nat.le_refl _)
  rw [run_planCascade]
  exact ⟨result, state', hrun, hrun', Nat.le_trans hstate' hstate, hresult⟩

theorem run_planInsertWithin {bound : Nat} {state : BeanState PlanState}
    (h : (Json.object state.bean).nesting ≤ bound) (isRoot : Bool) (e : Entity n) :
    (ctx.planInsertWithin r bound isRoot e).run state =
      (ctx.insertBy r (ctx.planCascade r) isRoot e).run state := by
  obtain ⟨bound, rfl⟩ := Nat.exists_eq_add_of_le' (Nat.le_of_add_left_le h)
  have hsame : SameWithin (bound + 1) (fun _ => True) (ctx.insertBy r (ctx.planCascade r) isRoot e)
      (ctx.insertBy r (ctx.planInsertWithin r bound false) isRoot e) :=
    insertBy_sameWithin (fun e => planCascade_sameWithin (Nat.le_refl bound) e) isRoot e
  obtain ⟨result, state', hrun, hrun', -⟩ := hsame state h
  rw [planInsertWithin_succ, hrun, hrun']

theorem run_updateBy {bound : Nat} {state : BeanState PlanState}
    (h : (Json.object state.bean).nesting ≤ bound + 1) (e : Entity n) (update : Template) :
    (ctx.updateBy (ctx.planInsertWithin r bound false) e update).run state =
      (ctx.updateBy (ctx.planCascade r) e update).run state := by
  have hsame : SameWithin (bound + 1) (fun _ => True) (ctx.updateBy (ctx.planCascade r) e update)
      (ctx.updateBy (ctx.planInsertWithin r bound false) e update) :=
    updateBy_sameWithin (fun e => planCascade_sameWithin (Nat.le_refl bound) e) e update
  obtain ⟨result, state', hrun, hrun', -⟩ := hsame state h
  rw [hrun, hrun']

theorem planCascade_eq (ctx : BindContext n) (r : Repository) (e : Entity n) :
    ctx.planCascade r e = ctx.insertBy r (ctx.planCascade r) false e := by
  funext state
  exact (run_planCascade ctx r e state).trans (run_planInsertWithin (Nat.le_refl _) false e)

/-- The recursion has one solution: what two of them make of objects nested `k` deep is the same, by
induction on `k`. -/
theorem eq_planCascade (h : ∀ e, cascade e = ctx.insertBy r cascade false e) :
    cascade = ctx.planCascade r := by
  have hsame : ∀ k e, SameWithin k (fun _ => True) (cascade e) (ctx.planCascade r e) := by
    intro k
    induction k with
    | zero => exact fun _ => .zero
    | succ k ih =>
      intro e
      rw [h e, planCascade_eq ctx r e]
      exact insertBy_sameWithin ih false e
  funext e state
  obtain ⟨result, state', hrun, hrun', -⟩ := hsame _ e state (Nat.le_refl _)
  exact hrun.trans hrun'.symm

theorem planInsert_eq (ctx : BindContext n) (r : Repository) (e : Entity n) :
    ctx.planInsert r e = ctx.insertBy r (ctx.planCascade r) true e := by
  funext state
  unfold planInsert
  exact (run_get_bind _ state).trans (run_planInsertWithin (Json.nesting_le_depth _) true e)

theorem planUpdate_eq (ctx : BindContext n) (r : Repository) (e : Entity n) (update : Template) :
    ctx.planUpdate r e update = ctx.updateBy (ctx.planCascade r) e update := by
  funext state
  unfold planUpdate
  exact (run_get_bind _ state).trans
    (run_updateBy (Nat.le_succ_of_le (Json.nesting_le_depth _)) e update)

end BindContext

namespace BindContext
open BeanM
variable {ctx : BindContext n} {r : Repository}

theorem planInsert_sameWithin (k : Nat) (e : Entity n) :
    SameWithin k (fun _ => True) (ctx.planInsert r e) (ctx.planInsert r e) := by
  cases k with
  | zero => exact .zero
  | succ k =>
    rw [planInsert_eq]
    exact insertBy_sameWithin (fun e => (planCascade_sameWithin (Nat.le_refl k) e).left) true e

theorem planUpdate_sameWithin (k : Nat) (e : Entity n) (update : Template) :
    SameWithin k (fun _ => True) (ctx.planUpdate r e update) (ctx.planUpdate r e update) := by
  cases k with
  | zero => exact .zero
  | succ k =>
    rw [planUpdate_eq]
    exact updateBy_sameWithin (fun e => (planCascade_sameWithin (Nat.le_refl k) e).left) e update

end BindContext

/-! ### Calls -/

namespace SessionM
variable {α β : Type} {P : α → Prop} {Q : β → Prop}

/-- The call ends, whatever was done before it. -/
def EndsWith (P : α → Prop) (call : SessionM α) : Prop := ∀ state, Ends P (call.run state).1

theorem EndsWith.liftM {x : Outcome α} (hok : ∀ a, x = .ok a → P a)
    (herror : x.FailsOnly (·.isEndless = false)) : EndsWith P (liftM x : SessionM α) := by
  intro state
  show Ends P x
  cases x with
  | ok a => exact hok a rfl
  | error e => exact herror e rfl

theorem EndsWith.bind {call : SessionM α} {next : α → SessionM β} (hcall : call.EndsWith P)
    (hnext : ∀ a, P a → (next a).EndsWith Q) : EndsWith Q (call >>= next) := by
  intro state
  have hresult := hcall state
  rcases hrun : call.run state with ⟨e | a, between⟩
  · rw [hrun] at hresult
    rw [run_bind_error hrun]
    exact hresult
  · rw [hrun] at hresult
    rw [run_bind_ok hrun]
    exact hnext a hresult between

end SessionM

namespace Operations
open SessionM
variable {ctx : BindContext n} {r : Repository} {e : Entity n} {k : Nat}

theorem beanOf_endsWith (e : Entity n) (document : Json) :
    EndsWith (fun bean => (Json.object bean).nesting = document.nesting)
      (liftM (beanOf e document) : SessionM Bean) := by
  unfold beanOf
  split
  · exact .liftM (fun bean hbean => Except.ok.inj hbean ▸ rfl) .ok
  · refine .liftM (fun _ h => nomatch h) ?_
    rintro e ⟨⟩
    rfl

theorem planned_endsWith {bean : Bean} {work : BindContext.PlanM Unit}
    (hbean : (Json.object bean).nesting ≤ k) (h : BeanM.SameWithin k (fun _ => True) work work) :
    EndsWith (fun planned => (Json.object planned.2).nesting ≤ k) (planned bean work) := by
  intro state
  obtain ⟨result, inner, hrun, -, hinner, hresult⟩ :=
    h { bean := bean, drawn := state.drawn, outer := { stored := state.stored } } hbean
  have hplanned : ((planned bean work).run state).1 =
      let outcome := work.run { bean := bean, drawn := state.drawn, outer := { stored := state.stored } }
      outcome.1.map fun _ => (outcome.2.outer.plan, outcome.2.bean) := rfl
  rw [hplanned, hrun]
  cases result with
  | error e => exact hresult
  | ok done => exact hinner

theorem persistPlan_endsWith (ctx : BindContext n) (r : Repository) (e : Entity n) (document : Json) :
    EndsWith (fun planned => (Json.object planned.2).nesting ≤ document.nesting)
      (persistPlan ctx r e document) := by
  refine .bind (beanOf_endsWith e document) fun bean hbean => ?_
  exact planned_endsWith (Nat.le_of_eq hbean) (BindContext.planInsert_sameWithin document.nesting e)

theorem updatePlan_endsWith (ctx : BindContext n) (r : Repository) (e : Entity n) (document : Json) :
    EndsWith (fun planned => (Json.object planned.2).nesting ≤ document.nesting)
      (updatePlan ctx r e document) := by
  refine .bind (P := fun _ => True) (fun _ => trivial) fun state _ => ?_
  refine .bind (P := fun _ => True) (.liftM (fun _ _ => trivial) (Schema.storedUpdate_ends r e _)) ?_
  rintro ⟨template, stored⟩ -
  refine .bind (P := fun _ => True) (fun _ => trivial) fun _ _ => ?_
  refine .bind (beanOf_endsWith e document) fun bean hbean => ?_
  exact planned_endsWith (Nat.le_of_eq hbean) (BindContext.planUpdate_sameWithin document.nesting e template)

/-- Planning ends, with a plan or with an error that it stopped at, and the bean is nested no deeper after
it. It is the recursion from objects to the objects that they refer to: that recursion has exactly one
solution, and its cascades are nested no deeper than the objects of the bean they start from. -/
theorem planning_ends (ctx : BindContext n) (r : Repository) :
    (∀ cascade : Cascade n PlanState,
      (∀ e, cascade e = ctx.insertBy r cascade false e) ↔ cascade = ctx.planCascade r) ∧
    (∀ e, ctx.planInsert r e = ctx.insertBy r (ctx.planCascade r) true e) ∧
    (∀ e update, ctx.planUpdate r e update = ctx.updateBy (ctx.planCascade r) e update) ∧
    (∀ e isRoot (bound : Nat) (state : BeanState PlanState),
      (Json.object state.bean).nesting ≤ bound →
        (ctx.planInsertWithin r bound isRoot e).run state =
          (ctx.insertBy r (ctx.planCascade r) isRoot e).run state) ∧
    (∀ e update (bound : Nat) (state : BeanState PlanState),
      (Json.object state.bean).nesting ≤ bound + 1 →
        (ctx.updateBy (ctx.planInsertWithin r bound false) e update).run state =
          (ctx.updateBy (ctx.planCascade r) e update).run state) ∧
    ∀ e document,
      EndsWith (fun planned => (Json.object planned.2).nesting ≤ document.nesting)
        (persistPlan ctx r e document) ∧
      EndsWith (fun planned => (Json.object planned.2).nesting ≤ document.nesting)
        (updatePlan ctx r e document) := by
  refine ⟨fun cascade => ⟨BindContext.eq_planCascade, ?_⟩, ctx.planInsert_eq r, ctx.planUpdate_eq r, ?_, ?_,
    fun e document => ⟨persistPlan_endsWith ctx r e document, updatePlan_endsWith ctx r e document⟩⟩
  · rintro rfl e
    exact ctx.planCascade_eq r e
  · exact fun e isRoot bound state h => BindContext.run_planInsertWithin h isRoot e
  · exact fun e update bound state h => BindContext.run_updateBy h e update

/-- An author with a mentor who has a mentor, who has one. -/
def apprenticeship : Bean :=
  [("mentor", .object [("mentor", .object [("mentor", .object [])])])]

/-- The authors are nested four deep, and a bound of four on the cascades is no bound for them. A bound of
three would be one. -/
theorem planning_ends_apprenticeship :
    let authors : Repository := { name := "Authors", cache := "authors" }
    let library := BindContext.library
    let author := library.schema.entity 1
    let begun : BeanState PlanState := { bean := apprenticeship, drawn := 0, outer := {} }
    (Json.object apprenticeship).nesting = 4 ∧
    (library.planInsertWithin authors 4 true author).run begun =
      (library.insertBy authors (library.planCascade authors) true author).run begun ∧
    ((library.planInsertWithin authors 4 true author).run begun).2.outer.plan.length = 4 ∧
    ((library.planInsertWithin authors 3 true author).run begun).1.isOk = false := by
  intro authors library author begun
  refine ⟨by decide, ?_, by decide +kernel, by decide +kernel⟩
  obtain ⟨-, -, -, hbound, -⟩ := planning_ends library authors
  exact hbound author true 4 begun (by decide)

end Operations

end EntitySql
