import EntitySql.Bean.Basic
import EntitySql.Proofs.Outcome

/-! # Work on beans that succeeds

When work on a bean succeeds, with what, and what it leaves behind: one lemma for each of the
operations that work is made of. -/

namespace EntitySql

theorem Bean.read_insert (bean : Bean) (name other : String) (document : Json) :
    Bean.read (Fields.insert name document bean) other =
      if name = other then document else bean.read other := by
  rw [Bean.read, Fields.get?_insert]
  split <;> rfl

theorem Bean.read_insert_self (bean : Bean) (name : String) (document : Json) :
    Bean.read (Fields.insert name document bean) name = document := by
  rw [read_insert, if_pos rfl]

theorem Bean.read_insert_of_ne {name other : String} (h : name ≠ other) (bean : Bean)
    (document : Json) : Bean.read (Fields.insert name document bean) other = bean.read other := by
  rw [read_insert, if_neg h]

namespace BeanM
variable {σ α β : Type} {state state' : BeanState σ}

/-- The work succeeds, and leaves the second state behind. -/
def Yields (work : BeanM σ α) (state : BeanState σ) (a : α) (state' : BeanState σ) : Prop :=
  work.run state = (.ok a, state')

@[simp] theorem yields_pure {a b : α} :
    (pure a : BeanM σ α).Yields state b state' ↔ a = b ∧ state = state' := by
  show ((Except.ok a, state) : Except Error α × BeanState σ) = (.ok b, state') ↔ _
  simp

theorem run_bind_ok {work : BeanM σ α} {a : α} (h : work.run state = (.ok a, state'))
    (next : α → BeanM σ β) : (work >>= next).run state = (next a).run state' := by
  show (ExceptT.bindCont next (work.run state).1).run (work.run state).2 = _
  rw [h]
  rfl

theorem run_bind_error {work : BeanM σ α} {error : Error} (h : work.run state = (.error error, state'))
    (next : α → BeanM σ β) : (work >>= next).run state = (.error error, state') := by
  show (ExceptT.bindCont next (work.run state).1).run (work.run state).2 = _
  rw [h]
  rfl

@[simp] theorem yields_bind {work : BeanM σ α} {next : α → BeanM σ β} {b : β} :
    (work >>= next).Yields state b state' ↔
      ∃ a between, work.Yields state a between ∧ (next a).Yields between b state' := by
  unfold Yields
  rcases hwork : work.run state with ⟨e | a, between⟩
  · rw [run_bind_error hwork]
    constructor
    · intro h
      cases congrArg Prod.fst h
    · rintro ⟨a, between, h, -⟩
      cases congrArg Prod.fst h
  · rw [run_bind_ok hwork]
    constructor
    · intro h
      exact ⟨a, between, rfl, h⟩
    · rintro ⟨a, between, h, hnext⟩
      cases h
      exact hnext

@[simp] theorem yields_throw {e : Error} {a : α} :
    (throw e : BeanM σ α).Yields state a state' ↔ False := by
  refine iff_of_false (fun h => ?_) not_false
  cases congrArg Prod.fst h

@[simp] theorem yields_liftM {x : Outcome α} {a : α} :
    (liftM x : BeanM σ α).Yields state a state' ↔ x = .ok a ∧ state = state' := by
  show ((x, state) : Except Error α × BeanState σ) = (.ok a, state') ↔ _
  exact Prod.mk.injEq .. ▸ Iff.rfl

@[simp] theorem yields_get {a : BeanState σ} :
    (get : BeanM σ (BeanState σ)).Yields state a state' ↔ state = a ∧ state = state' := by
  show ((Except.ok state, state) : Except Error (BeanState σ) × BeanState σ) = (.ok a, state') ↔ _
  simp

@[simp] theorem yields_read {property : String} {document : Json} :
    (read property : BeanM σ Json).Yields state document state' ↔
      state.bean.read property = document ∧ state = state' := by
  show ((Except.ok (state.bean.read property), state) : Except Error Json × BeanState σ) =
    (.ok document, state') ↔ _
  simp

@[simp] theorem yields_write {property : String} {document : Json} {a : Unit} :
    (write property document : BeanM σ Unit).Yields state a state' ↔
      { state with bean := Fields.insert property document state.bean } = state' := by
  show ((Except.ok (), { state with bean := Fields.insert property document state.bean }) :
    Except Error Unit × BeanState σ) = (.ok a, state') ↔ _
  simp

@[simp] theorem yields_draw {k : Nat} :
    (draw : BeanM σ Nat).Yields state k state' ↔
      state.drawn = k ∧ { state with drawn := state.drawn + 1 } = state' := by
  show ((Except.ok state.drawn, { state with drawn := state.drawn + 1 }) :
    Except Error Nat × BeanState σ) = (.ok k, state') ↔ _
  simp

@[simp] theorem yields_modifyOuter {f : σ → σ} {a : Unit} :
    (modifyOuter f : BeanM σ Unit).Yields state a state' ↔
      { state with outer := f state.outer } = state' := by
  show ((Except.ok (), { state with outer := f state.outer }) : Except Error Unit × BeanState σ) =
    (.ok a, state') ↔ _
  simp

/-- Work on another object that has to succeed. -/
theorem yields_on {other object : Bean} {work : BeanM σ Unit} {a : Unit} :
    (on other work).Yields state (.ok a, object) state' ↔
      ∃ inner, work.Yields { state with bean := other } () inner ∧ inner.bean = object ∧
        { inner with bean := state.bean } = state' := by
  show ((Except.ok ((work.run { state with bean := other }).1,
      (work.run { state with bean := other }).2.bean),
    { (work.run { state with bean := other }).2 with bean := state.bean }) :
      Except Error (Except Error Unit × Bean) × BeanState σ) = (.ok (.ok a, object), state') ↔ _
  unfold Yields
  rcases work.run { state with bean := other } with ⟨e | done, inner⟩
  · constructor
    · intro h
      simp at h
    · rintro ⟨inner, h, -⟩
      cases congrArg Prod.fst h
  · constructor
    · intro h
      obtain ⟨hobject, hstate⟩ : inner.bean = object ∧ { inner with bean := state.bean } = state' := by
        simpa using h
      exact ⟨inner, rfl, hobject, hstate⟩
    · rintro ⟨inner', h, rfl, rfl⟩
      cases h
      rfl

@[simp] theorem yields_within {property : String} {object result : Bean} {work : BeanM σ Unit} :
    (within property object work).Yields state result state' ↔
      ∃ inner, work.Yields { state with bean := object } () inner ∧ inner.bean = result ∧
        { inner with bean := Fields.insert property (.object inner.bean) state.bean } = state' := by
  have hrun : (within property object work : BeanM σ Bean) = (do
      let p ← on object work
      write property (.object p.2)
      liftM p.1
      pure p.2) := rfl
  rw [hrun]
  simp only [yields_bind, yields_write, yields_liftM, yields_pure]
  constructor
  · rintro ⟨⟨outcome, object'⟩, between, hon, written, after, rfl, done, after', ⟨houtcome, rfl⟩,
      rfl, rfl⟩
    obtain rfl : outcome = .ok () := houtcome
    obtain ⟨inner, hwork, rfl, rfl⟩ := yields_on.1 hon
    exact ⟨inner, hwork, rfl, rfl⟩
  · rintro ⟨inner, hwork, rfl, rfl⟩
    exact ⟨(.ok (), inner.bean), _, yields_on.2 ⟨inner, hwork, rfl, rfl⟩, (), _, rfl, (), _,
      ⟨rfl, rfl⟩, rfl, rfl⟩

end BeanM

end EntitySql
