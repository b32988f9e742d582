import EntitySql.Proofs.Bean.Paths
import EntitySql.Proofs.Repository.Cascade

/-! # What binding a path does

Everything that binding a path can do to the bean (`BindContext.yields_bindPath`). A path into an object only
reads. A property is read, or filled with the time, or with a fresh identifier, or the object that it refers to
is persisted (`BindContext.OwnStep`); the last three write that property and no other one. -/

namespace EntitySql
variable {n : Nat} {σ : Type}

/-- The property that a path leads to inside the object of its owner. -/
def pathInner? (path : String) : Option String :=
  (Text.cutFirst '.' path.toList).map fun (_, sub) => String.ofList sub

theorem pathInner?_of_dotless {path : String} (h : '.' ∉ path.toList) : pathInner? path = none := by
  rw [pathInner?, Text.cutFirst_eq_none h]
  rfl

theorem pathInner?_inner {name : String} (h : '.' ∉ name.toList) (sub : String) :
    pathInner? (name ++ "." ++ sub) = some sub := by
  rw [pathInner?, cutFirst_inner h]
  simp only [Option.map_some, String.ofList_toList]

theorem pathOwner_of_pathInner? {path : String} (h : pathInner? path = none) : pathOwner path = path := by
  rw [pathOwner, Option.map_eq_none_iff.1 h]

theorem Entity.name_of_property? {e : Entity n} {p : Property n} {name : String}
    (h : e.property? name = some p) : p.name = name := by
  simpa using List.find?_some h

theorem Value.ofJson_uuidText (id : Uuid) : Value.ofJson (.string id.text) .uuid = .ok (.uuid id) := by
  simp [ofJson, ofPresent?, Json.isNull, Json.asText?, Uuid.parse?_text]

/-- Whether a statement of the kind fills the property with the time. -/
def Property.IsStamped (p : Property n) (mode : BindMode) : Prop :=
  p.autoPopulated = some .updated ∨ p.autoPopulated = some .created ∧ mode = .insert

namespace BindContext
variable {ctx : BindContext n} {cascade : Cascade n σ} {e : Entity n} {p : Property n} {mode : BindMode}
  {state state' : BeanState σ} {v : Value}

/-- The document that a property is filled with for the time. -/
def timeDocument (ctx : BindContext n) (p : Property n) : Json :=
  .string (if p.type = .date then ctx.now.date.text else ctx.now.text)

theorem toUntyped_currentTime : (ctx.currentTime p).toUntyped = .ok (ctx.timeDocument p) := by
  unfold currentTime timeDocument
  split <;> rfl

/-- The value of a reference: the identity of the object that it holds, or null. -/
def referred (ctx : BindContext n) (a : Association n) (document : Json) : Outcome Value := do
  let identity ← (ctx.schema.target a).requiredIdentity
  match document with
  | .object object => Value.ofJson (Bean.read object identity.name) identity.type
  | _ => return .null

/-- The value of a property as the bean holds it. -/
def held (ctx : BindContext n) (p : Property n) (document : Json) : Outcome Value :=
  match p.autoPopulated, p.association? with
  | some _, _ => Value.ofJson document p.type
  | none, some a => ctx.referred a document
  | none, none => ctx.scalar p document

/-- Whether nothing is written where the bean holds the document for the property: no time is due, and there
is an identifier, or an identity of what is referred to, where one would be made. -/
def IsKept (ctx : BindContext n) (mode : BindMode) (p : Property n) (document : Json) : Prop :=
  match p.autoPopulated with
  | some .created => mode = .update
  | some .updated | some (.custom _) => False
  | some .generated => p.type = .uuid ∧ document.isNull = false
  | none => ∀ a, p.association? = some a → a.isForeignKey = false ∧
    (a.cascades = true → ∀ object, document = .object object →
      (ctx.schema.target a).isUnset object = false)

/-- What binding a property does. -/
inductive OwnStep (ctx : BindContext n) (cascade : Cascade n σ) (mode : BindMode) (p : Property n)
    (state : BeanState σ) : Value → BeanState σ → Prop
  | read {v : Value} (h : ctx.held p (state.bean.read p.name) = .ok v)
    (hkept : ctx.IsKept mode p (state.bean.read p.name)) : OwnStep ctx cascade mode p state v state
  | stamped (h : p.IsStamped mode) : OwnStep ctx cascade mode p state (ctx.currentTime p)
    { state with bean := Fields.insert p.name (ctx.timeDocument p) state.bean }
  | drawn (hkind : p.autoPopulated = some .generated) (htype : p.type = .uuid)
    (hnull : (state.bean.read p.name).isNull = true) :
    OwnStep ctx cascade mode p state (.uuid (ctx.freshId state.drawn))
      { state with
        bean := Fields.insert p.name (.string (ctx.freshId state.drawn).text) state.bean
        drawn := state.drawn + 1 }
  | persisted {a : Association n} {object : Bean} {inner : BeanState σ} {v : Value}
    (hplain : p.autoPopulated = none) (ha : p.association? = some a) (hforeign : a.isForeignKey = false)
    (hcascades : a.cascades = true) (hobject : state.bean.read p.name = .object object)
    (hunset : (ctx.schema.target a).isUnset object = true)
    (hinner : (cascade (ctx.schema.target a)).Yields { state with bean := object } () inner)
    (hset : (ctx.schema.target a).isUnset inner.bean = false)
    (h : ctx.referred a (.object inner.bean) = .ok v) :
    OwnStep ctx cascade mode p state v
      { inner with bean := Fields.insert p.name (.object inner.bean) state.bean }

theorem referred_eq_ok {a : Association n} {document : Json} : ctx.referred a document = .ok v ↔
    ∃ identity, (ctx.schema.target a).identity = some identity ∧
      ((∃ object, document = .object object ∧
          Value.ofJson (Bean.read object identity.name) identity.type = .ok v) ∨
        (∀ object, document ≠ .object object) ∧ v = .null) := by
  unfold referred Entity.requiredIdentity
  cases (ctx.schema.target a).identity with
  | none => simp
  | some identity =>
    simp only [Option.some.injEq, exists_eq_left']
    cases document with
    | object object => simp
    | _ => simp [eq_comm]

theorem yields_stamp : (ctx.stamp p : BeanM σ Value).Yields state v state' ↔ v = ctx.currentTime p ∧
    state' = { state with bean := Fields.insert p.name (ctx.timeDocument p) state.bean } := by
  simp only [stamp, BeanM.yields_bind, BeanM.yields_liftM, BeanM.yields_write, BeanM.yields_pure,
    toUntyped_currentTime]
  constructor
  · rintro ⟨_, _, ⟨hdocument, rfl⟩, _, _, rfl, rfl, rfl⟩
    cases hdocument
    exact ⟨rfl, rfl⟩
  · rintro ⟨rfl, rfl⟩
    exact ⟨_, _, ⟨rfl, rfl⟩, (), _, rfl, rfl, rfl⟩

theorem ownStep_of_populate {kind : AutoPopulated} (hkind : p.autoPopulated = some kind)
    (h : (ctx.populate mode p kind).Yields state v state') : ctx.OwnStep cascade mode p state v state' := by
  have hstamp : p.IsStamped mode → (ctx.stamp p).Yields state v state' →
      ctx.OwnStep cascade mode p state v state' := by
    intro hstamped h
    obtain ⟨rfl, rfl⟩ := yields_stamp.1 h
    exact .stamped hstamped
  have hread : ctx.IsKept mode p (state.bean.read p.name) →
      Value.ofJson (state.bean.read p.name) p.type = .ok v → ctx.OwnStep cascade mode p state v state := by
    intro hkept hvalue
    refine .read ?_ hkept
    rw [held, hkind]
    exact hvalue
  cases kind with
  | updated => exact hstamp (.inl hkind) h
  | custom kind => exact absurd h (by simp [populate])
  | created =>
    cases mode with
    | insert => exact hstamp (.inr ⟨hkind, rfl⟩) h
    | update =>
      simp only [populate, BeanM.yields_bind, BeanM.yields_read, BeanM.yields_liftM] at h
      obtain ⟨_, _, ⟨rfl, rfl⟩, hvalue, rfl⟩ := h
      exact hread (by rw [IsKept, hkind]) hvalue
  | generated =>
    by_cases htype : p.type = .uuid
    · simp only [populate, htype, ne_eq, not_true_eq_false, ↓reduceIte, BeanM.yields_bind,
        BeanM.yields_read] at h
      obtain ⟨_, _, ⟨rfl, rfl⟩, h⟩ := h
      split at h
      · next hnull =>
        simp only [BeanM.yields_bind, BeanM.yields_draw, BeanM.yields_write, BeanM.yields_pure] at h
        obtain ⟨_, _, ⟨rfl, rfl⟩, _, _, rfl, rfl, rfl⟩ := h
        exact .drawn hkind htype hnull
      · next hset =>
        obtain ⟨hvalue, rfl⟩ := BeanM.yields_liftM.1 h
        refine hread ?_ (by rw [htype]; exact hvalue)
        rw [IsKept, hkind]
        exact ⟨htype, by simpa using hset⟩
    · simp [populate, htype] at h

theorem ownStep_of_reference {a : Association n} (hplain : p.autoPopulated = none)
    (ha : p.association? = some a) (h : (ctx.reference cascade p a).Yields state v state') :
    ctx.OwnStep cascade mode p state v state' := by
  have hkept : a.isForeignKey = false → (a.cascades = true → ∀ object,
      state.bean.read p.name = .object object → (ctx.schema.target a).isUnset object = false) →
      ctx.IsKept mode p (state.bean.read p.name) := by
    intro hforeign hset
    rw [IsKept, hplain]
    rintro b hb
    obtain rfl := Option.some.inj (ha.symm.trans hb)
    exact ⟨hforeign, hset⟩
  have hheld : ctx.held p (state.bean.read p.name) = ctx.referred a (state.bean.read p.name) := by
    rw [held, hplain, ha]
  unfold reference at h
  split at h
  · simp at h
  next hforeign =>
  have hforeign : a.isForeignKey = false := by simpa using hforeign
  simp only [BeanM.yields_bind, BeanM.yields_liftM, BeanM.yields_read] at h
  obtain ⟨identity, _, ⟨hrequired, rfl⟩, _, _, ⟨rfl, rfl⟩, h⟩ := h
  have hidentity := Entity.identity_of_required hrequired
  have hunset : ∀ object : Bean, (ctx.schema.target a).isUnset object =
      (object.read identity.name).isNull := fun object => by simp [Entity.isUnset, hidentity]
  split at h
  · next object hobject =>
    split at h
    · next hcond =>
      rw [Bool.and_eq_true] at hcond
      simp only [BeanM.yields_bind, BeanM.yields_within] at h
      obtain ⟨_, _, ⟨inner, hinner, rfl, rfl⟩, h⟩ := h
      split at h
      · simp at h
      next hset =>
      simp only [BeanM.yields_bind, BeanM.yields_pure, BeanM.yields_liftM] at h
      obtain ⟨_, _, ⟨rfl, rfl⟩, hvalue, rfl⟩ := h
      exact .persisted hplain ha hforeign hcond.2 hobject ((hunset object).trans hcond.1) hinner
        ((hunset inner.bean).trans (by simpa using hset))
        (referred_eq_ok.2 ⟨identity, hidentity, .inl ⟨_, rfl, hvalue⟩⟩)
    · next hcond =>
      simp only [BeanM.yields_bind, BeanM.yields_pure, BeanM.yields_liftM] at h
      obtain ⟨_, _, ⟨rfl, rfl⟩, hvalue, rfl⟩ := h
      refine .read ?_ (hkept hforeign fun hcascades other hother => ?_)
      · rw [hheld, referred_eq_ok]
        exact ⟨identity, hidentity, .inl ⟨object, hobject, hvalue⟩⟩
      · cases hobject.symm.trans hother
        rw [hunset]
        simpa [hcascades] using hcond
  · next hobject =>
    obtain ⟨rfl, rfl⟩ := BeanM.yields_pure.1 h
    refine .read ?_ (hkept hforeign fun _ object hother => absurd hother (hobject object))
    rw [hheld, referred_eq_ok]
    exact ⟨identity, hidentity, .inr ⟨hobject, rfl⟩⟩

/-- A reference that is kept is read. -/
theorem yields_reference_of_kept {a : Association n} (hforeign : a.isForeignKey = false)
    (hset : a.cascades = true → ∀ object, state.bean.read p.name = .object object →
      (ctx.schema.target a).isUnset object = false)
    (h : ctx.referred a (state.bean.read p.name) = .ok v) :
    (ctx.reference cascade p a).Yields state v state := by
  obtain ⟨identity, hidentity, hvalue⟩ := referred_eq_ok.1 h
  simp only [reference, hforeign, Bool.false_eq_true, ↓reduceIte, BeanM.yields_bind, BeanM.yields_liftM,
    BeanM.yields_read]
  refine ⟨identity, state, ⟨by rw [Entity.requiredIdentity, hidentity], rfl⟩, _, state, ⟨rfl, rfl⟩, ?_⟩
  rcases hvalue with ⟨object, hobject, hvalue⟩ | ⟨hobject, rfl⟩
  · have hskip : ¬ ((Bean.read object identity.name).isNull && a.cascades) = true := by
      intro hcond
      rw [Bool.and_eq_true] at hcond
      have := hset hcond.2 object hobject
      simp [Entity.isUnset, hidentity, hcond.1] at this
    rw [hobject]
    dsimp only
    rw [if_neg hskip]
    simp only [BeanM.yields_bind, BeanM.yields_pure, BeanM.yields_liftM]
    exact ⟨object, state, ⟨rfl, rfl⟩, hvalue, rfl⟩
  · split
    · next object heq => exact (hobject object heq).elim
    · exact BeanM.yields_pure.2 ⟨rfl, rfl⟩

/-- What is kept is read, whatever the cascade is. -/
theorem yields_bindOwn_of_kept (hkept : ctx.IsKept mode p (state.bean.read p.name))
    (h : ctx.held p (state.bean.read p.name) = .ok v) :
    (ctx.bindOwn cascade mode p).Yields state v state := by
  unfold bindOwn
  unfold held at h
  unfold IsKept at hkept
  cases hpopulated : p.autoPopulated with
  | none =>
    rw [hpopulated] at h hkept
    cases ha : p.association? with
    | none =>
      rw [ha] at h
      simp only [BeanM.yields_bind, BeanM.yields_read, BeanM.yields_liftM]
      exact ⟨_, state, ⟨rfl, rfl⟩, h, rfl⟩
    | some a =>
      rw [ha] at h
      obtain ⟨hforeign, hset⟩ := hkept a ha
      exact yields_reference_of_kept hforeign hset h
  | some kind =>
    rw [hpopulated] at h hkept
    cases kind with
    | updated | custom => exact hkept.elim
    | created =>
      obtain rfl : mode = .update := hkept
      simp only [populate, BeanM.yields_bind, BeanM.yields_read, BeanM.yields_liftM]
      exact ⟨_, state, ⟨rfl, rfl⟩, h, rfl⟩
    | generated =>
      obtain ⟨htype, hset⟩ := hkept
      simp only [populate, htype, ne_eq, not_true_eq_false, ↓reduceIte, BeanM.yields_bind,
        BeanM.yields_read]
      refine ⟨_, state, ⟨rfl, rfl⟩, ?_⟩
      rw [if_neg (by simp [hset])]
      exact BeanM.yields_liftM.2 ⟨htype ▸ h, rfl⟩

theorem yields_bindOwn_of_stamped (h : p.IsStamped mode) :
    (ctx.bindOwn cascade mode p).Yields state (ctx.currentTime p)
      { state with bean := Fields.insert p.name (ctx.timeDocument p) state.bean } := by
  unfold bindOwn
  rcases h with hkind | ⟨hkind, rfl⟩
  · rw [hkind]
    exact yields_stamp.2 ⟨rfl, rfl⟩
  · rw [hkind]
    exact yields_stamp.2 ⟨rfl, rfl⟩

theorem ownStep_of_yields (h : (ctx.bindOwn cascade mode p).Yields state v state') :
    ctx.OwnStep cascade mode p state v state' := by
  unfold bindOwn at h
  split at h
  · next kind hkind => exact ownStep_of_populate hkind h
  next hplain =>
  split at h
  · next a ha => exact ownStep_of_reference hplain ha h
  · next ha =>
    simp only [BeanM.yields_bind, BeanM.yields_read, BeanM.yields_liftM] at h
    obtain ⟨_, _, ⟨rfl, rfl⟩, hvalue, rfl⟩ := h
    refine .read (by rw [held, hplain, ha]; exact hvalue) ?_
    rw [IsKept, hplain]
    intro a ha'
    cases ha.symm.trans ha'

/-! ### Paths -/

variable {path : String}

/-- The value at a path, as the bean holds it. -/
def valueAt (ctx : BindContext n) (e : Entity n) (path : String) (bean : Bean) : Outcome Value :=
  match e.property? (pathOwner path), pathInner? path with
  | none, _ => .error (.build (.unknownBoundProperty e.name (pathOwner path) path))
  | some p, some sub => ctx.embedded e p sub bean
  | some p, none => ctx.held p (bean.read p.name)

/-- A path is bound by what it leads to. -/
theorem yields_bindPath : (ctx.bindPath cascade e mode path).Yields state v state' ↔
    ∃ p, e.property? (pathOwner path) = some p ∧
      ((∃ sub, pathInner? path = some sub ∧ ctx.embedded e p sub state.bean = .ok v ∧ state = state') ∨
        pathInner? path = none ∧ (ctx.bindOwn cascade mode p).Yields state v state') := by
  unfold bindPath pathOwner pathInner?
  cases Text.cutFirst '.' path.toList with
  | none =>
    dsimp only
    cases e.property? path with
    | none => simp
    | some p =>
      simp only [Option.some.injEq, exists_eq_left', Option.map_none, reduceCtorEq, false_and,
        exists_false, false_or, true_and]
      rfl
  | some parts =>
    dsimp only
    cases e.property? (String.ofList parts.1) with
    | none => simp
    | some p => simp [and_comm]

theorem embedded_congr {bean bean' : Bean} (sub : String) (h : bean.read p.name = bean'.read p.name) :
    ctx.embedded e p sub bean = ctx.embedded e p sub bean' := by
  unfold embedded
  rw [h]

theorem OwnStep.bean_eq (h : ctx.OwnStep cascade mode p state v state') :
    state'.bean = state.bean ∨ ∃ document, state'.bean = Fields.insert p.name document state.bean := by
  cases h with
  | read => exact .inl rfl
  | stamped | drawn | persisted => exact .inr ⟨_, rfl⟩

/-- A path that is bound writes the property of its own name, if any. -/
theorem bean_of_yields (h : (ctx.bindPath cascade e mode path).Yields state v state') :
    state'.bean = state.bean ∨ ∃ document, state'.bean = Fields.insert path document state.bean := by
  obtain ⟨p, hp, ⟨_, -, -, rfl⟩ | ⟨hsub, hown⟩⟩ := yields_bindPath.1 h
  · exact .inl rfl
  · have hname : p.name = path := (Entity.name_of_property? hp).trans (pathOwner_of_pathInner? hsub)
    exact hname ▸ (ownStep_of_yields hown).bean_eq

/-! ### Runs -/

variable {paths : List String} {values : List Value}

theorem yields_bind_nil :
    (ctx.bind cascade e mode []).Yields state values state' ↔ values = [] ∧ state = state' := by
  rw [bind, List.mapM_nil, BeanM.yields_pure, eq_comm]

theorem yields_bind_cons : (ctx.bind cascade e mode (path :: paths)).Yields state values state' ↔
    ∃ v between rest, (ctx.bindPath cascade e mode path).Yields state v between ∧
      (ctx.bind cascade e mode paths).Yields between rest state' ∧ values = v :: rest := by
  rw [bind, List.mapM_cons]
  simp only [BeanM.yields_bind, BeanM.yields_pure]
  constructor
  · rintro ⟨v, between, hfirst, rest, _, hrest, rfl, rfl⟩
    exact ⟨v, between, rest, hfirst, hrest, rfl⟩
  · rintro ⟨v, between, rest, hfirst, hrest, rfl⟩
    exact ⟨v, between, hfirst, rest, _, hrest, rfl, rfl⟩

end BindContext

end EntitySql
