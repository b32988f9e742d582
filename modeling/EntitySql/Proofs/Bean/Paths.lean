import EntitySql.Bean.Bind
import EntitySql.Proofs.Bean.Yields
import EntitySql.Proofs.Metadata.Columns

/-! # Paths back to properties

The path of a column leads the binder to the property that the column was made from
(`BindContext.bind_eq_mapM`), where names can be told apart. So nothing is missing when it gets there:
an error that says so comes from a cascade (`BindContext.bindSource_failsOnly`). -/

namespace EntitySql
variable {n : Nat} {σ : Type}

namespace BindContext
variable {ctx : BindContext n} {cascade : Cascade n σ} {e : Entity n} {p sub : Property n}
  {c : Column n} {mode : BindMode}

/-- The value of a property that was found. -/
def bindOwn (ctx : BindContext n) (cascade : Cascade n σ) (mode : BindMode) (p : Property n) :
    BeanM σ Value :=
  match p.autoPopulated with
  | some kind => ctx.populate mode p kind
  | none =>
    match p.association? with
    | some a => ctx.reference cascade p a
    | none => BeanM.read p.name >>= fun document => liftM (ctx.scalar p document)

/-- The value of a property that was found in what another embeds. -/
def innerValue (ctx : BindContext n) (owner sub : Property n) (bean : Bean) : Outcome Value :=
  match bean.read owner.name with
  | .object fields =>
    match sub.association? with
    | some inner => do
      let identity ← (ctx.schema.target inner).requiredIdentity
      match Bean.read fields sub.name with
      | .object object => Value.ofJson (Bean.read object identity.name) identity.type
      | _ => return .null
    | none => ctx.scalar sub (Bean.read fields sub.name)
  | _ => .ok .null

/-- The value of what a column is made from. -/
def bindSource (ctx : BindContext n) (cascade : Cascade n σ) (mode : BindMode) :
    ColumnSource n → BeanM σ Value
  | .own p => ctx.bindOwn cascade mode p
  | .inner owner _ sub => get >>= fun state => liftM (ctx.innerValue owner sub state.bean)

theorem bindPath_own {path : String} (hcut : Text.cutFirst '.' path.toList = none)
    (hp : e.property? path = some p) (mode : BindMode) :
    ctx.bindPath cascade e mode path = ctx.bindOwn cascade mode p := by
  unfold bindPath
  rw [hcut]
  dsimp only
  generalize e.property? path = found at hp ⊢
  subst hp
  rfl

theorem bindPath_plain (he : e.WellNamed) (hp : p ∈ e.properties ++ e.identity.toList)
    (mode : BindMode) : ctx.bindPath cascade e mode p.name = ctx.bindOwn cascade mode p :=
  bindPath_own (Text.cutFirst_eq_none (he.dotless p hp)) (he.property?_name hp) mode

theorem bindPath_inner (he : e.WellNamed) (hp : p ∈ e.properties ++ e.identity.toList)
    (sub : String) (mode : BindMode) :
    ctx.bindPath cascade e mode (p.name ++ "." ++ sub) =
      (get >>= fun state => liftM (ctx.embedded e p sub state.bean)) := by
  unfold bindPath
  rw [cutFirst_inner (he.dotless p hp)]
  simp only [String.ofList_toList, he.property?_name hp]

theorem embedded_eq_innerValue {a : Association n} (ha : p.embedded? = some a)
    (hsub : (ctx.schema.target a).property? sub.name = some sub) (bean : Bean) :
    ctx.embedded e p sub.name bean = ctx.innerValue p sub bean := by
  unfold embedded
  split
  · next hnone => exact nomatch ha.symm.trans hnone
  next a' ha' =>
  obtain rfl := Option.some.inj (ha.symm.trans ha')
  dsimp only
  split
  · next hnone => exact nomatch hsub.symm.trans hnone
  · next sub' hsub' =>
    obtain rfl := Option.some.inj (hsub.symm.trans hsub')
    rfl

theorem bindPath_eq_bindSource (he : e.WellNamed) (hembeds : ctx.schema.EmbedsNamed e)
    {source : ColumnSource n} (h : ctx.schema.MadeFrom e c source) (mode : BindMode) :
    ctx.bindPath cascade e mode c.path = ctx.bindSource cascade mode source := by
  cases source with
  | own p =>
    obtain ⟨hp, -, -, hpath, -⟩ := h
    rw [hpath]
    exact bindPath_plain he hp mode
  | inner owner a sub =>
    obtain ⟨howner, ha, hsub, hpath, -⟩ := h
    rw [hpath, bindPath_inner he howner]
    simp only [embedded_eq_innerValue ha (hembeds.property?_name howner ha hsub)]
    rfl

theorem bind_eq_mapM (he : e.WellNamed) (hembeds : ctx.schema.EmbedsNamed e)
    (cascade : Cascade n σ) (mode : BindMode) {cs : List (Column n)} {sources : List (ColumnSource n)}
    (h : List.Forall₂ (ctx.schema.MadeFrom e) cs sources) :
    ctx.bind cascade e mode (cs.map (·.path)) = sources.mapM (ctx.bindSource cascade mode) := by
  unfold bind
  induction h with
  | nil => rfl
  | cons hfirst _ ih =>
    rw [List.map_cons, List.mapM_cons, List.mapM_cons, ih, bindPath_eq_bindSource he hembeds hfirst]

end BindContext

/-! ### Errors of a lookup -/

/-- A path did not lead to a property with a column. -/
def Error.IsLookup : Error → Prop
  | .build (.unknownBoundProperty ..) | .build (.notEmbedded ..) | .build (.unknownEmbeddedProperty ..)
  | .build (.noColumnToBind ..) => True
  | _ => False

namespace BeanM
variable {α β : Type} {P : Error → Prop}

/-- Whether all errors that the work can fail with satisfy a predicate. -/
def FailsOnly (P : Error → Prop) (work : BeanM σ α) : Prop :=
  ∀ state error state', work.run state = (.error error, state') → P error

theorem FailsOnly.pure {a : α} : FailsOnly P (pure a : BeanM σ α) := fun _ _ _ h =>
  nomatch congrArg Prod.fst h

theorem FailsOnly.throw {error : Error} (h : P error) : FailsOnly P (throw error : BeanM σ α) := by
  intro state error' state' hrun
  exact Except.error.inj (congrArg Prod.fst hrun) ▸ h

theorem FailsOnly.liftM {x : Outcome α} (h : x.FailsOnly P) :
    FailsOnly P (liftM x : BeanM σ α) := fun _ error _ hrun => h error (congrArg Prod.fst hrun)

theorem FailsOnly.bind {work : BeanM σ α} {next : α → BeanM σ β} (hwork : work.FailsOnly P)
    (hnext : ∀ a, (next a).FailsOnly P) : (work >>= next).FailsOnly P := by
  intro state error state' hrun
  -- a run of a sequence is a run of its first part, and goes on where that one left the bean
  change (ExceptT.bindCont next (work.run state).1).run (work.run state).2 = _ at hrun
  rcases hfirst : work.run state with ⟨error' | a, between⟩
  · rw [hfirst] at hrun
    exact Except.error.inj (congrArg Prod.fst hrun) ▸ hwork state error' between hfirst
  · rw [hfirst] at hrun
    exact hnext a between error state' hrun

theorem FailsOnly.get : FailsOnly P (get : BeanM σ (BeanState σ)) := fun _ _ _ h =>
  nomatch congrArg Prod.fst h

theorem FailsOnly.read {property : String} : FailsOnly P (read property : BeanM σ Json) :=
  fun _ _ _ h => nomatch congrArg Prod.fst h

theorem FailsOnly.write {property : String} {document : Json} :
    FailsOnly P (write property document : BeanM σ Unit) := fun _ _ _ h =>
  nomatch congrArg Prod.fst h

theorem FailsOnly.draw : FailsOnly P (draw : BeanM σ Nat) := fun _ _ _ h =>
  nomatch congrArg Prod.fst h

theorem FailsOnly.within {property : String} {object : Bean} {work : BeanM σ Unit}
    (h : work.FailsOnly P) : FailsOnly P (within property object work) := by
  intro state error state' hrun
  -- the object is written back whether or not the inner work failed, and its error comes after that
  have hstep : (BeanM.within property object work).run state =
      (ExceptT.bindCont (fun _ => Pure.pure (work.run { state with bean := object }).2.bean)
        (work.run { state with bean := object }).1 : BeanM σ Bean).run
          { (work.run { state with bean := object }).2 with
            bean := Fields.insert property (.object (work.run { state with bean := object }).2.bean)
              state.bean } := rfl
  rw [hstep] at hrun
  rcases hwork : work.run { state with bean := object } with ⟨error' | done, inner⟩
  · rw [hwork] at hrun
    exact Except.error.inj (congrArg Prod.fst hrun) ▸ h _ error' inner hwork
  · rw [hwork] at hrun
    cases congrArg Prod.fst hrun

theorem FailsOnly.mapM {f : α → BeanM σ β} {as : List α} (h : ∀ a ∈ as, (f a).FailsOnly P) :
    FailsOnly P (as.mapM f) := by
  induction as with
  | nil => exact .pure
  | cons a as ih =>
    rw [List.mapM_cons]
    exact .bind (h a (by simp)) fun b => .bind (ih fun a ha => h a (by simp [ha])) fun bs => .pure

end BeanM

/-- The error is not of a lookup, unless a cascade has failed with it. -/
def FromCascade (cascade : Cascade n σ) (error : Error) : Prop :=
  error.IsLookup → ∃ target state state', (cascade target).run state = (.error error, state')

theorem Value.ofJson_failsOnly {cascade : Cascade n σ} (document : Json) (type : DataType) :
    (Value.ofJson document type).FailsOnly (FromCascade cascade) := by
  unfold Value.ofJson
  split
  · exact .ok
  split
  · exact .ok
  · rintro error ⟨⟩
    exact False.elim

theorem Entity.requiredIdentity_failsOnlyFrom {cascade : Cascade n σ} (e : Entity n) :
    e.requiredIdentity.FailsOnly (FromCascade cascade) := by
  unfold Entity.requiredIdentity
  split
  · exact .ok
  · rintro error ⟨⟩
    exact False.elim

namespace BindContext
variable {ctx : BindContext n} {cascade : Cascade n σ} {e : Entity n} {p : Property n}
  {mode : BindMode}

theorem scalar_failsOnly (document : Json) :
    (ctx.scalar p document).FailsOnly (FromCascade cascade) := by
  unfold scalar
  split
  · split
    · exact .ok
    split
    · exact .ok
    · rintro error ⟨⟩
      exact False.elim
  · exact Value.ofJson_failsOnly document p.type

theorem stamp_failsOnly : (ctx.stamp p : BeanM σ Value).FailsOnly (FromCascade cascade) := by
  have hdocument : ((ctx.currentTime p).toUntyped).FailsOnly (FromCascade cascade) := by
    unfold currentTime
    split <;> exact .ok
  exact .bind (.liftM hdocument) fun _ => .bind .write fun _ => .pure

theorem populate_failsOnly (kind : AutoPopulated) :
    (ctx.populate mode p kind : BeanM σ Value).FailsOnly (FromCascade cascade) := by
  have hread : ∀ type, (BeanM.read p.name >>= fun document =>
      liftM (Value.ofJson document type) : BeanM σ Value).FailsOnly (FromCascade cascade) :=
    fun type => .bind .read fun document => .liftM (Value.ofJson_failsOnly document type)
  cases kind with
  | created =>
    cases mode with
    | insert => exact stamp_failsOnly
    | update => exact hread p.type
  | updated => exact stamp_failsOnly
  | custom kind => exact .throw False.elim
  | generated =>
    have hfill : ∀ current : Json, (if current.isNull then do
          let id := ctx.freshId (← BeanM.draw)
          BeanM.write p.name (.string id.text)
          return .uuid id
        else liftM (Value.ofJson current .uuid) : BeanM σ Value).FailsOnly (FromCascade cascade) := by
      intro current
      split
      · exact .bind .draw fun _ => .bind .write fun _ => .pure
      · exact .liftM (Value.ofJson_failsOnly current .uuid)
    unfold populate
    dsimp only
    split
    · exact .bind (.throw False.elim) fun _ => .bind .read hfill
    · exact .bind .read hfill

theorem reference_failsOnly {a : Association n} (hforeign : a.isForeignKey = false) :
    (ctx.reference cascade p a).FailsOnly (FromCascade cascade) := by
  have hcascade : ∀ target, (cascade target).FailsOnly (FromCascade cascade) :=
    fun target state error state' hrun _ => ⟨target, state, state', hrun⟩
  have hread : ∀ (object : Bean) (identity : Property n), (pure object >>= fun object =>
      liftM (Value.ofJson (Bean.read object identity.name) identity.type) : BeanM σ Value).FailsOnly
        (FromCascade cascade) := fun object identity =>
    .bind .pure fun _ => .liftM (Value.ofJson_failsOnly _ identity.type)
  unfold reference
  rw [hforeign]
  simp only [Bool.false_eq_true, ↓reduceIte]
  refine .bind (.liftM (Entity.requiredIdentity_failsOnlyFrom _)) fun identity =>
    .bind .read fun document => ?_
  split
  · next object =>
    split
    · refine .bind (.within (hcascade _)) fun object' => ?_
      split
      · exact .bind (.throw False.elim) fun _ => hread object' identity
      · exact hread object' identity
    · exact hread object identity
  · exact .pure

theorem innerValue_failsOnly (owner sub : Property n) (bean : Bean) :
    (ctx.innerValue owner sub bean).FailsOnly (FromCascade cascade) := by
  unfold innerValue
  split
  · split
    · refine .bind (Entity.requiredIdentity_failsOnlyFrom _) fun identity => ?_
      split
      · exact Value.ofJson_failsOnly _ identity.type
      · exact .ok
    · exact scalar_failsOnly _
  · exact .ok

theorem bindSource_failsOnly {c : Column n} {source : ColumnSource n}
    (h : ctx.schema.MadeFrom e c source) :
    (ctx.bindSource cascade mode source).FailsOnly (FromCascade cascade) := by
  cases source with
  | inner owner a sub => exact .bind .get fun state => .liftM (innerValue_failsOnly owner sub state.bean)
  | own p =>
    obtain ⟨-, hforeign, -⟩ := h
    show (ctx.bindOwn cascade mode p).FailsOnly _
    unfold bindOwn
    split
    · exact populate_failsOnly _
    split
    · next a ha =>
      refine reference_failsOnly ?_
      simpa [Property.isForeignKey, ha] using hforeign
    · exact .bind .read fun document => .liftM (scalar_failsOnly document)

end BindContext

namespace BeanM
variable {α β : Type}

/-- A sequence of works yields one result for each, which it yields after those before it. -/
theorem yields_mapM {f : α → BeanM σ β} {as : List α} {bs : List β} {state state' : BeanState σ}
    (h : (as.mapM f).Yields state bs state') :
    bs.length = as.length ∧ ∀ i a, as[i]? = some a → ∃ b before after,
      bs[i]? = some b ∧ ((as.take i).mapM f).Yields state (bs.take i) before ∧
        (f a).Yields before b after := by
  induction as generalizing state bs with
  | nil =>
    rw [List.mapM_nil] at h
    obtain ⟨rfl, rfl⟩ := yields_pure.1 h
    exact ⟨rfl, by simp⟩
  | cons a as ih =>
    rw [List.mapM_cons] at h
    simp only [yields_bind, yields_pure] at h
    obtain ⟨b, between, hfirst, bs, last, hrest, rfl, rfl⟩ := h
    obtain ⟨hlength, hat⟩ := ih hrest
    refine ⟨by simp [hlength], fun i a' ha' => ?_⟩
    cases i with
    | zero =>
      obtain rfl : a = a' := by simpa using ha'
      exact ⟨b, state, between, rfl, by simp [List.mapM_nil], hfirst⟩
    | succ i =>
      obtain ⟨b', before, after, hb', hbefore, hafter⟩ := hat i a' (by simpa using ha')
      refine ⟨b', before, after, by simpa using hb', ?_, hafter⟩
      rw [List.take_succ_cons, List.take_succ_cons, List.mapM_cons]
      simp only [yields_bind, yields_pure]
      exact ⟨b, between, hfirst, bs.take i, before, hbefore, rfl, rfl⟩

end BeanM

end EntitySql
