import EntitySql.Proofs.Bean.Steps
import EntitySql.Proofs.Statement.WrittenColumns

/-! # What an UPDATE leaves alone

Binding an UPDATE writes the properties that are filled with the time of it, the references that it persists
first, and identifiers that are generated and that the caller left out, even where the UPDATE finds its row by
them (`BindContext.update_drawsIdentity`). Every other property is as the caller supplied it, and is bound so
(`BindContext.update_leaves`). -/

namespace EntitySql
variable {n : Nat} {σ : Type}

namespace BindContext
variable {ctx : BindContext n} {cascade : Cascade n σ} {e : Entity n} {p : Property n}
  {state state' : BeanState σ} {v : Value} {path name : String} {bean before between after : Bean}

/-- What an UPDATE makes of what the bean holds for a property: the time, an identifier in place of none, or
the object that is referred to with the identity that it was persisted with. -/
inductive Reassigned (ctx : BindContext n) (p : Property n) (held : Json) : Json → Prop
  | updated (h : p.autoPopulated = some .updated) : Reassigned ctx p held (ctx.timeDocument p)
  | generated (h : p.autoPopulated = some .generated) (hnull : held.isNull = true) (k : Nat) :
    Reassigned ctx p held (.string (ctx.freshId k).text)
  | persisted {a : Association n} {object persisted : Bean} (hplain : p.autoPopulated = none)
    (ha : p.association? = some a) (hcascades : a.cascades = true) (hobject : held = .object object)
    (hunset : (ctx.schema.target a).isUnset object = true)
    (hset : (ctx.schema.target a).isUnset persisted = false) : Reassigned ctx p held (.object persisted)

/-- Only the time is written twice. -/
theorem Reassigned.trans {a b c : Json} (h : ctx.Reassigned p a b) (h' : ctx.Reassigned p b c) :
    ctx.Reassigned p a c := by
  cases h' with
  | updated hkind => exact .updated hkind
  | generated hkind hnull =>
    cases h with
    | updated hother => cases hkind.symm.trans hother
    | generated => cases hnull
    | persisted hplain => cases hkind.symm.trans hplain
  | persisted hplain ha _ hobject hunset =>
    cases h with
    | updated hkind => cases hkind.symm.trans hplain
    | generated hkind => cases hkind.symm.trans hplain
    | persisted _ ha' _ _ _ hset =>
      cases hobject
      obtain rfl := Option.some.inj (ha.symm.trans ha')
      cases hset.symm.trans hunset

/-- The name is of a property for which an UPDATE writes something. -/
def Rewrites (ctx : BindContext n) (e : Entity n) (before after : Bean) (name : String) : Prop :=
  ∃ p, e.property? name = some p ∧ ctx.Reassigned p (before.read name) (after.read name)

/-- The bean holds under the name what it held before, or what an UPDATE writes. -/
def UpdatesTo (ctx : BindContext n) (e : Entity n) (before after : Bean) (name : String) : Prop :=
  Fields.get? name after = Fields.get? name before ∨ ctx.Rewrites e before after name

theorem read_congr (h : Fields.get? name after = Fields.get? name before) :
    after.read name = before.read name := by
  rw [Bean.read, h, Bean.read]

theorem Rewrites.updatesTo (h : ctx.Rewrites e before between name)
    (h' : ctx.UpdatesTo e between after name) : ctx.Rewrites e before after name := by
  obtain ⟨p, hp, hfirst⟩ := h
  rcases h' with hsame | ⟨q, hq, hthen⟩
  · exact ⟨p, hp, read_congr hsame ▸ hfirst⟩
  · obtain rfl := Option.some.inj (hp.symm.trans hq)
    exact ⟨p, hp, hfirst.trans hthen⟩

theorem UpdatesTo.rewrites (h : ctx.UpdatesTo e before between name)
    (h' : ctx.Rewrites e between after name) : ctx.Rewrites e before after name := by
  rcases h with hsame | hfirst
  · obtain ⟨p, hp, hthen⟩ := h'
    exact ⟨p, hp, read_congr hsame ▸ hthen⟩
  · exact hfirst.updatesTo (.inr h')

theorem UpdatesTo.trans (h : ctx.UpdatesTo e before between name)
    (h' : ctx.UpdatesTo e between after name) : ctx.UpdatesTo e before after name := by
  rcases h' with hsame | hthen
  · rcases h with hbefore | hfirst
    · exact .inl (hsame.trans hbefore)
    · exact .inr (hfirst.updatesTo (.inl hsame))
  · exact .inr (h.rewrites hthen)

/-! ### Steps -/

/-- What a property is bound to is what the bean holds, unless an UPDATE writes it. -/
theorem OwnStep.reassigned (h : ctx.OwnStep cascade .update p state v state') :
    ctx.held p (state.bean.read p.name) = .ok v ∧ state'.bean = state.bean ∨ ∃ document,
      ctx.Reassigned p (state.bean.read p.name) document ∧
        state'.bean = Fields.insert p.name document state.bean := by
  cases h with
  | read h => exact .inl ⟨h, rfl⟩
  | stamped h =>
    rcases h with hkind | ⟨-, hmode⟩
    · exact .inr ⟨_, .updated hkind, rfl⟩
    · cases hmode
  | drawn hkind _ hnull => exact .inr ⟨_, .generated hkind hnull state.drawn, rfl⟩
  | persisted hplain ha _ hcascades hobject hunset _ hset =>
    exact .inr ⟨_, .persisted hplain ha hcascades hobject hunset hset, rfl⟩

theorem valueAt_congr (h : before.read (pathOwner path) = after.read (pathOwner path)) :
    ctx.valueAt e path before = ctx.valueAt e path after := by
  unfold valueAt
  cases hp : e.property? (pathOwner path) with
  | none => rfl
  | some p =>
    have hread : before.read p.name = after.read p.name := by rw [Entity.name_of_property? hp, h]
    cases pathInner? path with
    | none => exact congrArg (ctx.held p) hread
    | some sub => exact embedded_congr sub hread

/-- One path of an UPDATE. -/
theorem updatesTo_of_yields (h : (ctx.bindPath cascade e .update path).Yields state v state') :
    (∀ name, ctx.UpdatesTo e state.bean state'.bean name) ∧
      (ctx.valueAt e path state.bean = .ok v ∨
        ctx.Rewrites e state.bean state'.bean (pathOwner path)) := by
  obtain ⟨p, hp, ⟨sub, hsub, hvalue, rfl⟩ | ⟨hsub, hown⟩⟩ := yields_bindPath.1 h
  · exact ⟨fun name => .inl rfl, .inl (by rw [valueAt, hp, hsub]; exact hvalue)⟩
  obtain ⟨hvalue, hbean⟩ | ⟨document, hdocument, hbean⟩ := (ownStep_of_yields hown).reassigned
  · exact ⟨fun name => .inl (hbean ▸ rfl), .inl (by rw [valueAt, hp, hsub]; exact hvalue)⟩
  have hname := Entity.name_of_property? hp
  have hrewrites : ctx.Rewrites e state.bean state'.bean (pathOwner path) := by
    refine ⟨p, hp, ?_⟩
    rw [hbean, ← hname, Bean.read_insert_self]
    exact hdocument
  refine ⟨fun other => ?_, .inr hrewrites⟩
  by_cases hother : p.name = other
  · exact .inr (hother ▸ hname ▸ hrewrites)
  · left
    rw [hbean, Fields.get?_insert, if_neg hother]

/-! ### Runs -/

variable {paths : List String} {values : List Value} {mode : BindMode}

theorem get?_of_bind (h : (ctx.bind cascade e mode paths).Yields state values state')
    (hname : name ∉ paths) : Fields.get? name state'.bean = Fields.get? name state.bean := by
  induction paths generalizing state values with
  | nil => rw [(yields_bind_nil.1 h).2]
  | cons path paths ih =>
    obtain ⟨v, between, rest, hfirst, hrest, -⟩ := yields_bind_cons.1 h
    rw [List.mem_cons, not_or] at hname
    rw [ih hrest hname.2]
    rcases bean_of_yields hfirst with hbean | ⟨document, hbean⟩
    · rw [hbean]
    · rw [hbean, Fields.get?_insert, if_neg (Ne.symm hname.1)]

theorem updatesTo_of_bind (h : (ctx.bind cascade e .update paths).Yields state values state') :
    (∀ name, ctx.UpdatesTo e state.bean state'.bean name) ∧
      List.Forall₂ (fun path v => ctx.valueAt e path state.bean = .ok v ∨
        ctx.Rewrites e state.bean state'.bean (pathOwner path)) paths values := by
  induction paths generalizing state values with
  | nil =>
    obtain ⟨rfl, rfl⟩ := yields_bind_nil.1 h
    exact ⟨fun name => .inl rfl, .nil⟩
  | cons path paths ih =>
    obtain ⟨v, between, rest, hfirst, hrest, rfl⟩ := yields_bind_cons.1 h
    obtain ⟨hstep, hvalue⟩ := updatesTo_of_yields hfirst
    obtain ⟨hrun, hvalues⟩ := ih hrest
    refine ⟨fun name => (hstep name).trans (hrun name), .cons ?_ (hvalues.imp fun other w h => ?_)⟩
    · exact hvalue.imp_right fun h => h.updatesTo (hrun _)
    · -- a path behind this one reads what the caller supplied, or the path's property is written by now
      rcases h with hread | hrewrites
      · rcases hstep (pathOwner other) with hsame | hfirst
        · exact .inl ((valueAt_congr (read_congr hsame)).symm.trans hread)
        · exact .inr (hfirst.updatesTo (hrun _))
      · exact .inr ((hstep _).rewrites hrewrites)

/-- An UPDATE leaves every property as it was and binds to every column what the caller supplied for it,
except for properties that it is documented to write, and for generated identifiers that the caller left out. -/
theorem update_leaves {t : Template} (ht : ctx.schema.update e = .ok t)
    (h : (ctx.bind cascade e .update t.paths).Yields state values state') :
    (∀ name, Fields.get? name state'.bean = Fields.get? name state.bean ∨
      name ∈ t.paths ∧ ctx.Rewrites e state.bean state'.bean name) ∧
    List.Forall₂ (fun c v => ctx.valueAt e c.path state.bean = .ok v ∨
        ctx.Rewrites e state.bean state'.bean (pathOwner c.path))
      (ctx.schema.updatedColumns e ++ ctx.schema.identityColumns e) values := by
  obtain ⟨hrun, hvalues⟩ := updatesTo_of_bind h
  refine ⟨fun name => ?_, ?_⟩
  · by_cases hname : name ∈ t.paths
    · exact (hrun name).imp_right fun hrewrites => ⟨hname, hrewrites⟩
    · exact .inl (get?_of_bind h hname)
  · rw [Schema.eq_of_update ht] at hvalues
    exact List.forall₂_map_left_iff.1 hvalues

/-- The UPDATE of a parcel whose carrier is registered first. -/
theorem update_leaves_parcel : ∃ (updated : Template) (bound : BeanState Unit),
    Schema.shipping.schema.update (Schema.shipments.entity 0) = .ok updated ∧
    (Schema.shipping.bind Schema.registerCarrier (Schema.shipments.entity 0) .update updated.paths).Yields
      ⟨Schema.parcel, 0, ()⟩
      [.int 12, .string "Elm Street", .null, .uuid ⟨0xaa⟩, .string "NO", .long 7] bound ∧
    (∀ name, Fields.get? name bound.bean = Fields.get? name Schema.parcel ∨ name ∈ updated.paths ∧
      Schema.shipping.Rewrites (Schema.shipments.entity 0) Schema.parcel bound.bean name) ∧
    List.Forall₂ (fun c v =>
        Schema.shipping.valueAt (Schema.shipments.entity 0) c.path Schema.parcel = .ok v ∨
        Schema.shipping.Rewrites (Schema.shipments.entity 0) Schema.parcel bound.bean (pathOwner c.path))
      (Schema.shipments.updatedColumns (Schema.shipments.entity 0) ++
        Schema.shipments.identityColumns (Schema.shipments.entity 0))
      [.int 12, .string "Elm Street", .null, .uuid ⟨0xaa⟩, .string "NO", .long 7] := by
  have hupdated : (Schema.shipments.update (Schema.shipments.entity 0)).toOption.map (·.paths) =
      some ["weight", "address.street", "address.city", "carrier", "key.country", "key.number"] := by
    decide +kernel
  obtain ⟨updated, hu, hpaths⟩ := Option.map_eq_some_iff.1 hupdated
  have hu : Schema.shipping.schema.update (Schema.shipments.entity 0) = .ok updated :=
    Outcome.eq_ok_of_toOption hu
  obtain ⟨bound, hbound⟩ : ∃ bound,
      (Schema.shipping.bind Schema.registerCarrier (Schema.shipments.entity 0) .update
        updated.paths).Yields ⟨Schema.parcel, 0, ()⟩
        [.int 12, .string "Elm Street", .null, .uuid ⟨0xaa⟩, .string "NO", .long 7] bound := by
    rw [hpaths]
    exact ⟨_, rfl⟩
  obtain ⟨hleft, hvalues⟩ := update_leaves hu hbound
  exact ⟨updated, bound, hu, hbound, hleft, hvalues⟩

/-- Tokens with a generated identifier, for examples. -/
def tokens : Schema 1 where
  entity _ := {
    name := "Token"
    identity := some { name := "id", content := .scalar .uuid, autoPopulated := some .generated }
    properties := [{ name := "name", content := .scalar .string }] }

def signing : BindContext 1 where
  schema := tokens
  codec := .json
  now := .newYear
  freshId k := ⟨BitVec.ofNat 128 k⟩

/-- The UPDATE of a token without identifier makes one up, and looks for its row. -/
theorem update_drawsIdentity : ∃ (updated : Template) (identity : Property 1) (bound : BeanState Unit),
    tokens.update (tokens.entity 0) = .ok updated ∧ updated.text = "UPDATE token SET name=? WHERE id=?" ∧
    (tokens.entity 0).identity = some identity ∧ identity.autoPopulated ≠ some .updated ∧
    identity.association? = none ∧
    (signing.bind (fun _ => pure ()) (tokens.entity 0) .update updated.paths).Yields
      ⟨[("name", .string "renamed")], 0, ()⟩ [.string "renamed", .uuid ⟨0⟩] bound ∧
    Fields.get? "id" [("name", Json.string "renamed")] = none ∧
    Fields.get? "id" bound.bean = some (.string "00000000-0000-0000-0000-000000000000") := by
  have hupdated : (tokens.update (tokens.entity 0)).toOption.map (fun t => (t.text, t.paths)) =
      some ("UPDATE token SET name=? WHERE id=?", ["name", "id"]) := by
    decide +kernel
  obtain ⟨updated, hu, hboth⟩ := Option.map_eq_some_iff.1 hupdated
  obtain ⟨htext, hpaths⟩ := Prod.mk.inj hboth
  obtain ⟨bound, hbound, hid⟩ : ∃ bound : BeanState Unit,
      (signing.bind (fun _ => pure ()) (tokens.entity 0) .update updated.paths).Yields
        ⟨[("name", .string "renamed")], 0, ()⟩ [.string "renamed", .uuid ⟨0⟩] bound ∧
      Fields.get? "id" bound.bean = some (.string "00000000-0000-0000-0000-000000000000") := by
    rw [hpaths]
    exact ⟨⟨[("id", .string "00000000-0000-0000-0000-000000000000"), ("name", .string "renamed")], 1, ()⟩,
      rfl, rfl⟩
  exact ⟨updated, _, bound, Outcome.eq_ok_of_toOption hu, htext, rfl, by decide, rfl, hbound, rfl, hid⟩

end BindContext

end EntitySql
