import EntitySql.Error
import Mathlib.Data.List.Forall2

/-! # Outcomes of steps

When a sequence of steps succeeds, and with what: every step of it succeeded. It fails with what one of
its steps fails with. -/

namespace EntitySql.Outcome
variable {α β : Type}

@[simp] theorem pure_eq_ok {a b : α} : (pure a : Outcome α) = .ok b ↔ a = b := by
  show Except.ok a = Except.ok b ↔ a = b
  simp

@[simp] theorem bind_eq_ok {x : Outcome α} {f : α → Outcome β} {b : β} :
    (x >>= f) = .ok b ↔ ∃ a, x = .ok a ∧ f a = .ok b := by
  cases x with
  | ok a => simp [bind, Except.bind]
  | error e => simp [bind, Except.bind]

@[simp] theorem map_eq_ok {x : Outcome α} {f : α → β} {b : β} :
    x.map f = .ok b ↔ ∃ a, x = .ok a ∧ f a = b := by
  cases x with
  | ok a => simp [Except.map]
  | error e => simp [Except.map]

theorem eq_ok_of_toOption {x : Outcome α} {a : α} (h : x.toOption = some a) : x = .ok a := by
  cases x with
  | ok b => rw [Option.some.inj h]
  | error e => cases h

theorem toOption_bind (x : Outcome α) (f : α → Outcome β) :
    (x >>= f).toOption = x.toOption.bind fun a => (f a).toOption := by
  cases x <;> rfl

/-- Failure comes from the first step that fails. -/
theorem bind_eq_error {x : Outcome α} {f : α → Outcome β} {e : Error} :
    (x >>= f) = .error e ↔ x = .error e ∨ ∃ a, x = .ok a ∧ f a = .error e := by
  cases x with
  | ok a => simp [bind, Except.bind]
  | error e' => simp [bind, Except.bind]

theorem mapM_eq_ok {f : α → Outcome β} {as : List α} {bs : List β} :
    as.mapM f = .ok bs ↔ List.Forall₂ (fun a b => f a = .ok b) as bs := by
  induction as generalizing bs with
  | nil => cases bs <;> simp
  | cons a as ih =>
    rw [List.mapM_cons, bind_eq_ok, List.forall₂_cons_left_iff]
    simp only [bind_eq_ok, pure_eq_ok, ih]
    constructor
    · rintro ⟨b, hb, rest, hrest, rfl⟩
      exact ⟨b, rest, hb, hrest, rfl⟩
    · rintro ⟨b, rest, hb, hrest, rfl⟩
      exact ⟨b, hb, rest, hrest, rfl⟩

theorem exists_of_mem_mapM {f : α → Outcome β} {as : List α} {bs : List β} (h : as.mapM f = .ok bs)
    {b : β} (hb : b ∈ bs) : ∃ a ∈ as, f a = .ok b := by
  rw [mapM_eq_ok] at h
  induction h with
  | nil => simp at hb
  | cons hfirst _ ih =>
    rcases List.mem_cons.1 hb with rfl | hb
    · exact ⟨_, List.mem_cons_self, hfirst⟩
    · obtain ⟨a, ha, hfa⟩ := ih hb
      exact ⟨a, List.mem_cons_of_mem _ ha, hfa⟩

theorem exists_of_mapM_eq_error {f : α → Outcome β} {as : List α} {e : Error}
    (h : as.mapM f = .error e) : ∃ a ∈ as, f a = .error e := by
  induction as with
  | nil => cases h
  | cons a as ih =>
    rw [List.mapM_cons] at h
    rcases bind_eq_error.1 h with hfirst | ⟨b, -, hrest⟩
    · exact ⟨a, List.mem_cons_self, hfirst⟩
    · rcases bind_eq_error.1 hrest with hrest | ⟨bs, -, hpure⟩
      · obtain ⟨a', ha', hfail⟩ := ih hrest
        exact ⟨a', List.mem_cons_of_mem _ ha', hfail⟩
      · cases hpure

section
variable {p : Error → Prop}

/-- Whether all errors that the step can fail with satisfy a predicate. -/
def FailsOnly (p : Error → Prop) (x : Outcome α) : Prop := ∀ e, x = .error e → p e

theorem FailsOnly.ok {a : α} : FailsOnly p (.ok a) := fun _ h => nomatch h

theorem FailsOnly.bind {x : Outcome α} {f : α → Outcome β} (hx : x.FailsOnly p)
    (hf : ∀ a, (f a).FailsOnly p) : (x >>= f).FailsOnly p := by
  intro e h
  rcases bind_eq_error.1 h with h | ⟨a, -, h⟩
  · exact hx e h
  · exact hf a e h

theorem FailsOnly.map {x : Outcome α} {f : α → β} (hx : x.FailsOnly p) :
    FailsOnly p (x.map f) := by
  cases x with
  | ok a => exact .ok
  | error e =>
    intro e' h
    obtain rfl : e = e' := by simpa [Except.map] using h
    exact hx e rfl

theorem FailsOnly.mapM {f : α → Outcome β} (hf : ∀ a, (f a).FailsOnly p) (as : List α) :
    FailsOnly p (as.mapM f) := by
  induction as with
  | nil => exact .ok
  | cons a as ih =>
    rw [List.mapM_cons]
    exact .bind (hf a) fun b => .bind ih fun bs => .ok

end

/-! ### Outcomes that agree -/

/-- Both fail in the same way, or succeed with results that are related. -/
inductive Agree (R : α → β → Prop) : Outcome α → Outcome β → Prop
  | ok {a : α} {b : β} (h : R a b) : Agree R (.ok a) (.ok b)
  | error (e : Error) : Agree R (.error e) (.error e)

namespace Agree
variable {γ δ : Type} {R : α → β → Prop} {Q : γ → δ → Prop}

theorem of_eq {x y : Outcome α} (h : x = y) : Agree Eq x y := by
  subst h
  cases x with
  | ok a => exact .ok rfl
  | error e => exact .error e

theorem eq {x y : Outcome α} (h : Agree Eq x y) : x = y := by
  cases h with
  | ok h => rw [h]
  | error e => rfl

theorem bind {x : Outcome α} {y : Outcome β} {f : α → Outcome γ} {g : β → Outcome δ} (h : Agree R x y)
    (hsteps : ∀ a b, R a b → Agree Q (f a) (g b)) : Agree Q (x >>= f) (y >>= g) := by
  cases h with
  | ok h => exact hsteps _ _ h
  | error e => exact .error e

theorem mapM {f : α → Outcome γ} {g : β → Outcome δ} (hsteps : ∀ a b, R a b → Agree Q (f a) (g b))
    {as : List α} {bs : List β} (h : List.Forall₂ R as bs) : Agree (List.Forall₂ Q) (as.mapM f) (bs.mapM g) := by
  induction h with
  | nil => exact .ok .nil
  | cons hfirst _ ih =>
    rw [List.mapM_cons, List.mapM_cons]
    exact (hsteps _ _ hfirst).bind fun c d hcd => ih.bind fun cs ds hrest => .ok (.cons hcd hrest)

end Agree

end EntitySql.Outcome
