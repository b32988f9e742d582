import EntitySql.Proofs.Bean.Steps
import EntitySql.Proofs.Statement.WrittenColumns

/-! # Binding again

A bean that was bound is at rest: at each path it holds what was bound there, so that binding it again at the
same time writes nothing and has nothing to persist (`BindContext.bind_again`). A path is at rest once it is
bound (`BindContext.atRest_of_yields`). It stays so, since the paths behind it write other properties
(`BindContext.AtRest.insert`). -/

namespace EntitySql
variable {n : Nat} {σ : Type}

namespace BindContext
variable {ctx : BindContext n} {cascade : Cascade n σ} {e : Entity n} {p : Property n} {mode : BindMode}
  {state state' : BeanState σ} {v : Value} {path : String} {bean : Bean}

/-- Binding the path gives the value, and changes nothing. -/
inductive AtRest (ctx : BindContext n) (e : Entity n) (mode : BindMode) (path : String) (bean : Bean) :
    Value → Prop
  | inner {p : Property n} {sub : String} {v : Value} (hp : e.property? (pathOwner path) = some p)
    (hsub : pathInner? path = some sub) (h : ctx.embedded e p sub bean = .ok v) : AtRest ctx e mode path bean v
  | stamped {p : Property n} (hp : e.property? (pathOwner path) = some p) (hsub : pathInner? path = none)
    (h : p.IsStamped mode) (hbean : Fields.insert p.name (ctx.timeDocument p) bean = bean) :
    AtRest ctx e mode path bean (ctx.currentTime p)
  | kept {p : Property n} {v : Value} (hp : e.property? (pathOwner path) = some p)
    (hsub : pathInner? path = none) (h : ctx.held p (bean.read p.name) = .ok v)
    (hkept : ctx.IsKept mode p (bean.read p.name)) : AtRest ctx e mode path bean v

/-- Any cascade will do, since none is called. -/
theorem AtRest.yields (h : ctx.AtRest e mode path bean v) (cascade : Cascade n σ) (drawn : Nat)
    (outer : σ) :
    (ctx.bindPath cascade e mode path).Yields ⟨bean, drawn, outer⟩ v ⟨bean, drawn, outer⟩ := by
  rw [yields_bindPath]
  cases h with
  | inner hp hsub h => exact ⟨_, hp, .inl ⟨_, hsub, h, rfl⟩⟩
  | stamped hp hsub h hbean =>
    refine ⟨_, hp, .inr ⟨hsub, ?_⟩⟩
    have hstamp : (ctx.bindOwn cascade mode _).Yields ⟨bean, drawn, outer⟩ _ _ := yields_bindOwn_of_stamped h
    rw [hbean] at hstamp
    exact hstamp
  | kept hp hsub h hkept => exact ⟨_, hp, .inr ⟨hsub, yields_bindOwn_of_kept hkept h⟩⟩

/-- A write to another property leaves the path at rest. -/
theorem AtRest.insert {name : String} (h : ctx.AtRest e mode path bean v) (hname : name ≠ pathOwner path)
    (document : Json) : ctx.AtRest e mode path (Fields.insert name document bean) v := by
  have hread : ∀ {p : Property n}, e.property? (pathOwner path) = some p →
      Bean.read (Fields.insert name document bean) p.name = bean.read p.name := fun hp =>
    Bean.read_insert_of_ne (Entity.name_of_property? hp ▸ hname) bean document
  cases h with
  | inner hp hsub h => exact .inner hp hsub ((embedded_congr _ (hread hp)).trans h)
  | stamped hp hsub h hbean =>
    refine .stamped hp hsub h ?_
    rw [Fields.insert_comm (Entity.name_of_property? hp ▸ hname.symm), hbean]
  | kept hp hsub h hkept => exact .kept hp hsub (hread hp ▸ h) (hread hp ▸ hkept)

theorem OwnStep.atRest (hp : e.property? (pathOwner path) = some p) (hsub : pathInner? path = none)
    (h : ctx.OwnStep cascade mode p state v state') : ctx.AtRest e mode path state'.bean v := by
  cases h with
  | read h hkept => exact .kept hp hsub h hkept
  | stamped h => exact .stamped hp hsub h (Fields.insert_insert_self ..)
  | drawn hkind htype hnull =>
    -- the text of an identifier is read back as that identifier
    refine .kept hp hsub ?_ ?_ <;> rw [Bean.read_insert_self]
    · rw [held, hkind, htype]
      exact Value.ofJson_uuidText _
    · rw [IsKept, hkind]
      exact ⟨htype, rfl⟩
  | @persisted a object inner v hplain ha hforeign hcascades hobject hunset hinner hset h =>
    refine .kept hp hsub ?_ ?_ <;> rw [Bean.read_insert_self]
    · rw [held, hplain, ha]
      exact h
    · rw [IsKept, hplain]
      intro b hb
      obtain rfl := Option.some.inj (ha.symm.trans hb)
      refine ⟨hforeign, fun _ other hother => ?_⟩
      cases hother
      exact hset

/-- A path is at rest once it is bound. -/
theorem atRest_of_yields (h : (ctx.bindPath cascade e mode path).Yields state v state') :
    ctx.AtRest e mode path state'.bean v := by
  obtain ⟨p, hp, ⟨sub, hsub, hvalue, rfl⟩ | ⟨hsub, hown⟩⟩ := yields_bindPath.1 h
  · exact .inner hp hsub hvalue
  · exact (ownStep_of_yields hown).atRest hp hsub

theorem AtRest.bindPath {other : String} {w : Value} (h : ctx.AtRest e mode path state.bean v)
    (hother : other ≠ pathOwner path)
    (hrun : (ctx.bindPath cascade e mode other).Yields state w state') :
    ctx.AtRest e mode path state'.bean v := by
  rcases bean_of_yields hrun with hbean | ⟨document, hbean⟩
  · exact hbean ▸ h
  · exact hbean ▸ h.insert hother document

/-! ### Runs -/

variable {paths : List String} {values : List Value}

theorem AtRest.bind (h : ctx.AtRest e mode path state.bean v) (hpaths : ∀ other ∈ paths, other ≠ pathOwner path)
    (hrun : (ctx.bind cascade e mode paths).Yields state values state') :
    ctx.AtRest e mode path state'.bean v := by
  induction paths generalizing state values with
  | nil =>
    obtain ⟨-, rfl⟩ := yields_bind_nil.1 hrun
    exact h
  | cons other paths ih =>
    obtain ⟨w, between, rest, hfirst, hrest, -⟩ := yields_bind_cons.1 hrun
    obtain ⟨hother, hpaths⟩ := List.forall_mem_cons.1 hpaths
    exact ih (h.bindPath hother hfirst) hpaths hrest

/-- Once all paths are bound, they are all at rest. -/
theorem atRest_of_bind (hpaths : paths.Pairwise fun path other => other ≠ pathOwner path)
    (hrun : (ctx.bind cascade e mode paths).Yields state values state') :
    List.Forall₂ (fun path v => ctx.AtRest e mode path state'.bean v) paths values := by
  induction paths generalizing state values with
  | nil =>
    obtain ⟨rfl, -⟩ := yields_bind_nil.1 hrun
    exact .nil
  | cons path paths ih =>
    obtain ⟨v, between, rest, hfirst, hrest, rfl⟩ := yields_bind_cons.1 hrun
    obtain ⟨hpath, hpaths⟩ := List.pairwise_cons.1 hpaths
    exact .cons ((atRest_of_yields hfirst).bind hpath hrest) (ih hpaths hrest)

theorem yields_bind_of_atRest
    (h : List.Forall₂ (fun path v => ctx.AtRest e mode path bean v) paths values)
    (cascade : Cascade n σ) (drawn : Nat) (outer : σ) :
    (ctx.bind cascade e mode paths).Yields ⟨bean, drawn, outer⟩ values ⟨bean, drawn, outer⟩ := by
  induction h with
  | nil => exact yields_bind_nil.2 ⟨rfl, rfl⟩
  | cons hpath _ ih => exact yields_bind_cons.2 ⟨_, _, _, hpath.yields cascade drawn outer, ih, rfl⟩

end BindContext

namespace Schema
variable {s : Schema n} {e : Entity n} {t : Template}

/-- What a path of INSERT or UPDATE starts from is no path behind it. -/
theorem pairwise_paths (he : e.WellNamed) (h : s.insert e = .ok t ∨ s.update e = .ok t) :
    t.paths.Pairwise fun path other => other ≠ pathOwner path := by
  have hcolumns := pairwise_apart_columns (s := s) he
  rcases h with h | h
  · rw [eq_of_insert h]
    exact List.pairwise_map.2 ((hcolumns.filter _).imp And.right)
  · rw [eq_of_update h]
    refine List.pairwise_map.2 (List.Pairwise.imp And.right (List.pairwise_append.2
      ⟨hcolumns.filter _, hcolumns.filter _, fun c hc d hd => ?_⟩))
    -- a column that is set is none of the identity's
    obtain ⟨hc, hassigned⟩ := List.mem_filter.1 hc
    obtain ⟨hd, htested⟩ := List.mem_filter.1 hd
    refine hcolumns.forall hc hd ?_
    rintro rfl
    simp [htested] at hassigned

end Schema

namespace BindContext
variable {ctx : BindContext n} {cascade : Cascade n σ} {e : Entity n} {mode : BindMode}
  {state state' : BeanState σ} {values : List Value} {t : Template}

/-- Binding a bean that INSERT or UPDATE has bound gives the same values again and leaves everything as it is,
whatever the cascade does, so that it is not called. -/
theorem bind_again (he : e.WellNamed) (ht : ctx.schema.insert e = .ok t ∨ ctx.schema.update e = .ok t)
    (h : (ctx.bind cascade e mode t.paths).Yields state values state') :
    ∀ {τ : Type} (other : Cascade n τ) (drawn : Nat) (outer : τ),
      (ctx.bind other e mode t.paths).Yields ⟨state'.bean, drawn, outer⟩ values
        ⟨state'.bean, drawn, outer⟩ := by
  intro τ other drawn outer
  exact yields_bind_of_atRest (atRest_of_bind (Schema.pairwise_paths he ht) h) other drawn outer

/-- A parcel whose carrier was registered binds as before where no carrier can be registered. -/
theorem bind_parcel_again : ∃ (inserted : Template) (bound : BeanState Unit),
    Schema.shipments.insert (Schema.shipments.entity 0) = .ok inserted ∧
    (Schema.shipping.bind Schema.registerCarrier (Schema.shipments.entity 0) .insert inserted.paths).Yields
      ⟨Schema.parcel, 0, ()⟩
      [.int 12, .string "Elm Street", .null, .uuid ⟨0xaa⟩, .timestamp .newYear, .string "NO", .long 7]
      bound ∧
    (Schema.shipping.bind (fun _ => throw (.configuration (.malformedIn "")) : Cascade 4 Unit)
      (Schema.shipments.entity 0) .insert inserted.paths).Yields ⟨bound.bean, 0, ()⟩
      [.int 12, .string "Elm Street", .null, .uuid ⟨0xaa⟩, .timestamp .newYear, .string "NO", .long 7]
      ⟨bound.bean, 0, ()⟩ := by
  have hnamed : (Schema.shipments.entity 0).WellNamed := ⟨by decide +kernel, by decide +kernel⟩
  have hinserted : (Schema.shipments.insert (Schema.shipments.entity 0)).toOption.map (·.paths) =
      some ["weight", "address.street", "address.city", "carrier", "created", "key.country",
        "key.number"] := by
    decide +kernel
  obtain ⟨inserted, hi, hpaths⟩ := Option.map_eq_some_iff.1 hinserted
  have hi : Schema.shipping.schema.insert (Schema.shipments.entity 0) = .ok inserted :=
    Outcome.eq_ok_of_toOption hi
  obtain ⟨bound, hbound⟩ : ∃ bound,
      (Schema.shipping.bind Schema.registerCarrier (Schema.shipments.entity 0) .insert
        inserted.paths).Yields ⟨Schema.parcel, 0, ()⟩
        [.int 12, .string "Elm Street", .null, .uuid ⟨0xaa⟩, .timestamp .newYear, .string "NO", .long 7]
        bound := by
    rw [hpaths]
    exact ⟨_, rfl⟩
  exact ⟨inserted, bound, hi, hbound, bind_again hnamed (.inl hi) hbound _ 0 ()⟩

end BindContext

end EntitySql
