import EntitySql.Proofs.Statement.Definitions
import Mathlib.Data.Fintype.Card
import Mathlib.Data.List.Chain
import Mathlib.Logic.Relation

/-! # Chains of identities

The column of a reference has the type of the identity that it refers to, and that may be a reference itself. So
the search for a type follows a chain of entities, each identified by the next one. As there are `n` entities,
a longer chain comes back to one of them (`Schema.circular_of_isChain`), and then it has no end, however many
steps are taken (`Schema.columnTypeWithin_of_endless`). Nothing else keeps the tables of an entity from being
defined or refused (`Schema.createStatements_ends`). -/

namespace EntitySql
variable {n : Nat} {s : Schema n} {e owner : Entity n} {p identity : Property n} {a : Association n} {i j : Fin n}
  {fuel : Nat} {error : Error}

/-- The entity whose identity gives a property its column type, if the property has none of its own. -/
def Property.referred? (p : Property n) : Option (Fin n) :=
  if p.definition.isSome then none else p.association?.map (·.target)

theorem Property.referred?_eq_some :
    p.referred? = some i ↔ p.definition = none ∧ ∃ a, p.content = .association a ∧ a.target = i := by
  unfold referred? association?
  cases p.definition <;> cases p.content <;> simp

namespace Schema

/-- The entity that an entity is identified by, if its identity is a reference. -/
def identifier? (s : Schema n) (i : Fin n) : Option (Fin n) := (s.entity i).identity.bind (·.referred?)

def IdentifiedBy (s : Schema n) (i j : Fin n) : Prop := s.identifier? i = some j

/-- The entity is identified by one that is identified by itself, directly or by way of others. -/
def Circular (s : Schema n) (i : Fin n) : Prop :=
  ∃ k, Relation.ReflTransGen s.IdentifiedBy i k ∧ Relation.TransGen s.IdentifiedBy k k

/-- The search for the column type of the property has no end. -/
def Endless (s : Schema n) (p : Property n) : Prop := ∃ i, p.referred? = some i ∧ s.Circular i

/-! ### Chains -/

theorem Circular.next (h : s.Circular i) : ∃ j, s.IdentifiedBy i j ∧ s.Circular j := by
  obtain ⟨k, hreach, hcycle⟩ := h
  rcases Relation.ReflTransGen.cases_head hreach with rfl | ⟨j, hfirst, hrest⟩
  · obtain ⟨j, hfirst, hrest⟩ := Relation.TransGen.head'_iff.1 hcycle
    exact ⟨j, hfirst, i, hrest, hcycle⟩
  · exact ⟨j, hfirst, k, hrest, hcycle⟩

theorem Circular.endless_identity (h : s.Circular i) :
    ∃ identity, (s.entity i).identity = some identity ∧ s.Endless identity := by
  obtain ⟨j, hij, hj⟩ := h.next
  obtain ⟨identity, hidentity, hreferred⟩ := Option.bind_eq_some_iff.1 hij
  exact ⟨identity, hidentity, j, hreferred, hj⟩

/-- A chain with more links than there are entities comes back to one of them. -/
theorem circular_of_isChain {chain : List (Fin n)} (h : (i :: chain).IsChain s.IdentifiedBy)
    (hlength : n ≤ chain.length) : s.Circular i := by
  by_contra hcircular
  have hsteps : (i :: chain).Pairwise (Relation.TransGen s.IdentifiedBy) :=
    (h.imp fun _ _ => Relation.TransGen.single).pairwise
  have hreach : ∀ k ∈ i :: chain, Relation.ReflTransGen s.IdentifiedBy i k := by
    intro k hk
    rcases List.mem_cons.1 hk with rfl | hk
    · exact .refl
    · exact ((List.pairwise_cons.1 hsteps).1 k hk).to_reflTransGen
  -- an entity that comes up twice would be identified by way of itself
  have hnodup : (i :: chain).Nodup := by
    refine hsteps.imp_of_mem fun hk _ hstep heq => hcircular ?_
    exact ⟨_, hreach _ hk, heq ▸ hstep⟩
  have hfit := hnodup.length_le_card
  rw [Fintype.card_fin, List.length_cons] at hfit
  omega

/-! ### The search for a type -/

theorem columnTypeWithin_of_reference (hp : p.referred? = some i) (hidentity : (s.entity i).identity = some identity) :
    s.columnTypeWithin (fuel + 1) owner p = s.columnTypeWithin fuel (s.entity i) identity := by
  obtain ⟨hdefinition, a, hcontent, rfl⟩ := Property.referred?_eq_some.1 hp
  have htarget : (s.target a).identity = some identity := hidentity
  rw [columnTypeWithin, hdefinition, sqlType?_of_reference hcontent]
  simp only [hcontent, htarget]
  rfl

/-- Where no identity is referred to, the search ends with the property. -/
theorem columnTypeWithin_of_plain (hp : ∀ i ∈ p.referred?, (s.entity i).identity = none) :
    (s.columnTypeWithin (fuel + 1) owner p).FailsOnly fun error => ∃ cause, error = .build cause := by
  unfold columnTypeWithin
  split
  · exact .ok
  next hdefinition =>
  split
  · exact .ok
  dsimp only
  split
  · next a hcontent =>
    have htarget : (s.target a).identity = none :=
      hp a.target (Property.referred?_eq_some.2 ⟨hdefinition, a, hcontent, rfl⟩)
    rw [htarget]
    rintro error ⟨⟩
    exact ⟨_, rfl⟩
  · rintro error ⟨⟩
    exact ⟨_, rfl⟩
  · split
    · exact .ok
    · rintro error ⟨⟩
      exact ⟨_, rfl⟩

/-- No number of steps is enough for a chain without an end. -/
theorem columnTypeWithin_of_endless (h : s.Endless p) (fuel : Nat) (owner : Entity n) :
    ∃ name, s.columnTypeWithin fuel owner p = .error (.endless (.identity name)) := by
  induction fuel generalizing owner p with
  | zero => exact ⟨owner.name, rfl⟩
  | succ fuel ih =>
    obtain ⟨i, hp, hi⟩ := h
    obtain ⟨identity, hidentity, hendless⟩ := hi.endless_identity
    rw [columnTypeWithin_of_reference hp hidentity]
    exact ih hendless _

/-- A search that does not end in the given steps has followed a chain of as many links. -/
theorem exists_chain (h : s.columnTypeWithin fuel owner p = .error error) :
    (∃ cause, error = .build cause) ∨ (∃ name, error = .endless (.identity name)) ∧
      ∃ chain : List (Fin n), chain.length = fuel ∧ chain.IsChain s.IdentifiedBy ∧
        ∀ i ∈ chain.head?, p.referred? = some i := by
  induction fuel generalizing owner p with
  | zero => exact .inr ⟨⟨owner.name, (Except.error.inj h).symm⟩, [], rfl, .nil, by simp⟩
  | succ fuel ih =>
    by_cases hplain : ∀ i ∈ p.referred?, (s.entity i).identity = none
    · exact .inl (columnTypeWithin_of_plain hplain error h)
    · simp only [not_forall, Option.mem_def, ← ne_eq, Option.ne_none_iff_exists'] at hplain
      obtain ⟨i, hp, identity, hidentity⟩ := hplain
      rw [columnTypeWithin_of_reference hp hidentity] at h
      -- the rest of the chain starts with the entity that the identity of `i` refers to
      refine (ih h).imp_right fun ⟨hname, chain, hlength, hchain, hhead⟩ => ?_
      refine ⟨hname, i :: chain, by rw [List.length_cons, hlength], ?_, ?_⟩
      · refine hchain.cons fun j hj => ?_
        exact Option.bind_eq_some_iff.2 ⟨identity, hidentity, hhead j hj⟩
      · intro j hj
        rw [← Option.some.inj hj]
        exact hp

/-- The search for a type fails with a refusal, or it has no end. -/
theorem columnType_eq_error (h : s.columnType owner p = .error error) :
    (∃ cause, error = .build cause) ∨ (∃ name, error = .endless (.identity name)) ∧ s.Endless p := by
  refine (exists_chain h).imp_right fun ⟨hname, chain, hlength, hchain, hhead⟩ => ⟨hname, ?_⟩
  cases chain with
  | nil => cases hlength
  | cons i chain =>
    refine ⟨i, hhead i rfl, circular_of_isChain hchain ?_⟩
    rw [List.length_cons] at hlength
    omega

/-! ### Tables -/

/-- The properties whose types the tables of an entity need: of its columns, and of the identities that its join
tables link. -/
inductive NeedsType (s : Schema n) (e : Entity n) : Property n → Prop
  | column {c : Column n} (hc : c ∈ s.columns e) : NeedsType s e c.property
  | owner {p identity : Property n} (hp : p ∈ e.joinTableProperties) (hidentity : e.identity = some identity) :
    NeedsType s e identity
  | target {p identity : Property n} {a : Association n} (hp : p ∈ e.joinTableProperties)
    (ha : p.association? = some a) (hidentity : (s.target a).identity = some identity) : NeedsType s e identity

/-- Why the tables of an entity are not defined: they are refused, or the search for some type has no end. -/
def Undefined (s : Schema n) (e : Entity n) (error : Error) : Prop :=
  (∃ cause, error = .build cause) ∨
    (∃ name, error = .endless (.identity name)) ∧ ∃ p, s.NeedsType e p ∧ s.Endless p

theorem undefined_of_columnType (hp : s.NeedsType e p) (h : s.columnType owner p = .error error) :
    s.Undefined e error :=
  (columnType_eq_error h).imp_right fun ⟨hname, hendless⟩ => ⟨hname, p, hp, hendless⟩

theorem linkedIdentity_eq_error (h : linkedIdentity e = .error error) : ∃ cause, error = .build cause := by
  unfold linkedIdentity at h
  split at h
  · cases h
  · exact ⟨_, (Except.error.inj h).symm⟩

theorem joinTableColumns_eq_error (h : s.joinTableColumns e p a = .error error) :
    ∃ cause, error = .build cause := by
  simp only [joinTableColumns, Outcome.bind_eq_error] at h
  rcases h with h | ⟨_, -, h | ⟨_, -, h⟩⟩
  · exact linkedIdentity_eq_error h
  · exact linkedIdentity_eq_error h
  · split at h
    · cases h
    · cases h
    · exact ⟨_, (Except.error.inj h).symm⟩

theorem joinTableDefinition_eq_error (hp : p ∈ e.joinTableProperties) (ha : p.association? = some a)
    (h : s.joinTableDefinition e p a = .error error) : s.Undefined e error := by
  simp only [joinTableDefinition, Outcome.bind_eq_error] at h
  rcases h with h | ⟨identity, hidentity, h | ⟨targetIdentity, htarget, h | ⟨columns, -, h⟩⟩⟩
  · exact .inl (linkedIdentity_eq_error h)
  · exact .inl (linkedIdentity_eq_error h)
  · exact .inl (joinTableColumns_eq_error h)
  · rcases h with h | ⟨_, -, h | ⟨_, -, h⟩⟩
    · exact undefined_of_columnType (.owner hp (linkedIdentity_eq_ok hidentity)) h
    · exact undefined_of_columnType (.target hp ha (linkedIdentity_eq_ok htarget)) h
    · cases h

theorem ownTableDefinition_eq_error (h : s.ownTableDefinition e = .error error) : s.Undefined e error := by
  simp only [ownTableDefinition, Outcome.bind_eq_error] at h
  rcases h with h | ⟨_, -, h⟩
  · obtain ⟨c, hc, h⟩ := Outcome.exists_of_mapM_eq_error h
    rcases Outcome.bind_eq_error.1 h with h | ⟨_, -, h⟩
    · exact undefined_of_columnType (.column hc) h
    · cases h
  · cases h

theorem createStatements_eq_error (h : s.createStatements e = .error error) : s.Undefined e error := by
  unfold createStatements at h
  cases htables : s.tableDefinitions e with
  | ok tables =>
    rw [htables] at h
    cases h
  | error error' =>
    rw [htables] at h
    obtain rfl := Except.error.inj h
    simp only [tableDefinitions, Outcome.bind_eq_error] at htables
    rcases htables with hlinks | ⟨_, -, hown | ⟨_, -, hdone⟩⟩
    · obtain ⟨⟨p, a⟩, hmem, hlink⟩ := Outcome.exists_of_mapM_eq_error hlinks
      obtain ⟨q, hq, hqa⟩ := List.mem_filterMap.1 hmem
      obtain ⟨a', ha', hpair⟩ := Option.map_eq_some_iff.1 hqa
      obtain ⟨rfl, rfl⟩ := Prod.mk.inj hpair
      exact joinTableDefinition_eq_error hq ha' hlink
    · exact ownTableDefinition_eq_error hown
    · cases hdone

/-- All types that the tables need are found when the tables are defined. -/
theorem exists_columnType {created : List String} (h : s.createStatements e = .ok created) (hp : s.NeedsType e p) :
    ∃ owner type, s.columnType owner p = .ok type := by
  obtain ⟨links, own, hown, hlinks, -⟩ := createStatements_eq_ok h
  have hlink : ∀ p ∈ e.joinTableProperties, ∃ a t, p.association? = some a ∧
      s.joinTableDefinition e p a = .ok t := by
    intro p hp
    obtain ⟨k, hk⟩ := List.getElem?_of_mem hp
    obtain ⟨t, -, a, ha, ht⟩ := getElem?_of_forall₂ hlinks hk
    exact ⟨a, t, ha, ht⟩
  cases hp with
  | @column c hc =>
    obtain ⟨k, hk⟩ := List.getElem?_of_mem hc
    obtain ⟨d, -, -, htype⟩ := getElem?_of_forall₂ (ownTableDefinition_columns hown) hk
    exact ⟨e, d.type, htype⟩
  | owner hp hidentity =>
    obtain ⟨a, t, -, ht⟩ := hlink _ hp
    obtain ⟨columns, identity, targetIdentity, type, targetType, -, hfound, htype, -⟩ :=
      joinTableDefinition_eq_ok ht
    obtain rfl := Option.some.inj (hidentity.symm.trans hfound)
    exact ⟨e, type, htype⟩
  | target hp ha hidentity =>
    obtain ⟨a, t, ha', ht⟩ := hlink _ hp
    obtain rfl := Option.some.inj (ha.symm.trans ha')
    obtain ⟨columns, identity, targetIdentity, type, targetType, -, -, -, hfound, htype, -⟩ :=
      joinTableDefinition_eq_ok ht
    obtain rfl := Option.some.inj (hidentity.symm.trans hfound)
    exact ⟨_, targetType, htype⟩

/-- The tables of an entity are defined, or they are refused, or some column of theirs refers to an entity that is
identified by way of itself. Then they are not defined, and no number of steps is enough for the search for the
column's type. -/
theorem createStatements_ends (s : Schema n) (e : Entity n) :
    ((∃ created, s.createStatements e = .ok created ∧ ∀ p, s.NeedsType e p → ¬ s.Endless p) ∨
      (∃ cause, s.createStatements e = .error (.build cause)) ∨
      ∃ name p, s.createStatements e = .error (.endless (.identity name)) ∧ s.NeedsType e p ∧ s.Endless p) ∧
    ∀ p, s.Endless p ↔
      ∀ fuel owner, ∃ name, s.columnTypeWithin fuel owner p = .error (.endless (.identity name)) := by
  refine ⟨?_, fun p => ⟨columnTypeWithin_of_endless, fun h => ?_⟩⟩
  · cases h : s.createStatements e with
    | ok created =>
      refine .inl ⟨created, rfl, fun p hp hendless => ?_⟩
      obtain ⟨owner, type, htype⟩ := exists_columnType h hp
      obtain ⟨name, hname⟩ := columnTypeWithin_of_endless hendless (n + 1) owner
      cases htype.symm.trans hname
    | error error =>
      rcases createStatements_eq_error h with ⟨cause, rfl⟩ | ⟨⟨name, rfl⟩, p, hp, hendless⟩
      · exact .inr (.inl ⟨cause, rfl⟩)
      · exact .inr (.inr ⟨name, p, rfl, hp, hendless⟩)
  · obtain ⟨name, hname⟩ := h (n + 1) e
    rcases columnType_eq_error hname with ⟨cause, hbuild⟩ | ⟨-, hendless⟩
    · cases hbuild
    · exact hendless

/-- Persons, who have parents and a spouse among them, and their passports, which their holders identify. -/
def passports : Schema 2 where
  entity
    | 0 => {
      name := "Passport"
      identity := some { name := "holder", content := .association { kind := .oneToOne, target := Fin.last 1 } }
      properties := [{ name := "number", content := .scalar .string }] }
    | 1 => {
      name := "Person"
      identity := some { name := "id", content := .scalar .long }
      properties := [
        { name := "spouse", content := .association { kind := .oneToOne, target := Fin.last 1 } },
        { name := "passport", content := .association { kind := .manyToOne, target := (Fin.last 1).rev } },
        { name := "parents", content := .association { kind := .manyToMany, target := Fin.last 1 } }] }

/-- Persons refer to each other and to their passports, but all these references end with the number of a person. -/
theorem createStatements_ends_passports :
    (∃ created, passports.createStatements (passports.entity 0) = .ok created ∧
      created = ["CREATE TABLE passport (number VARCHAR,holder_id BIGINT PRIMARY KEY);"]) ∧
    ∀ p, passports.NeedsType (passports.entity 1) p → ¬ passports.Endless p := by
  have hpassports : (passports.createStatements (passports.entity 0)).toOption =
      some ["CREATE TABLE passport (number VARCHAR,holder_id BIGINT PRIMARY KEY);"] := by decide +kernel
  have hpersons : (passports.createStatements (passports.entity 1)).toOption =
      some ["CREATE TABLE person_parents (person_id BIGINT,person_id BIGINT)",
        "CREATE TABLE person (spouse_id BIGINT,passport_id BIGINT,id BIGINT PRIMARY KEY);"] := by decide +kernel
  refine ⟨⟨_, Outcome.eq_ok_of_toOption hpassports, rfl⟩, ?_⟩
  have hok := Outcome.eq_ok_of_toOption hpersons
  rcases (createStatements_ends passports (passports.entity 1)).1 with ⟨_, -, hends⟩ | ⟨_, h⟩ | ⟨_, _, h, -⟩
  · exact hends
  · cases hok.symm.trans h
  · cases hok.symm.trans h

/-- Nodes, which their parents identify. -/
def parentedNodes : Schema 1 where
  entity _ := {
    name := "Node"
    identity := some { name := "parent", content := .association { kind := .manyToOne, target := Fin.last 0 } }
    properties := [{ name := "label", content := .scalar .string }] }

/-- The type of a node's parent is that of the parent's parent, and so on. -/
theorem createStatements_parentedNodes :
    (¬ ∃ created, parentedNodes.createStatements (parentedNodes.entity 0) = .ok created) ∧
    (¬ ∃ cause, parentedNodes.createStatements (parentedNodes.entity 0) = .error (.build cause)) ∧
    ∀ identity ∈ (parentedNodes.entity 0).identity, ∀ fuel owner, ∃ name,
      parentedNodes.columnTypeWithin fuel owner identity = .error (.endless (.identity name)) := by
  have hcreate : parentedNodes.createStatements (parentedNodes.entity 0) =
      .error (.endless (.identity "Node")) := rfl
  have hself : parentedNodes.IdentifiedBy 0 0 := rfl
  refine ⟨?_, ?_, ?_⟩
  · rintro ⟨created, h⟩
    cases hcreate.symm.trans h
  · rintro ⟨cause, h⟩
    cases hcreate.symm.trans h
  · rintro identity ⟨⟩
    exact columnTypeWithin_of_endless ⟨0, rfl, 0, .refl, .single hself⟩

end Schema

end EntitySql
