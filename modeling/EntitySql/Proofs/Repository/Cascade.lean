import EntitySql.Repository.Plan
import Mathlib.Data.List.Forall2

/-! # What persisting inserts

The objects that are inserted with an object, found by following its cascades in the document as it
was before (`Schema.inserted?`), and what the plan of a bean has to be in terms of them: a trace, in
which each statement is the row of an object or the link of an owner to an element
(`Schema.Traces`). -/

namespace EntitySql

/-- A step into an object: to the object that a property holds, or to an element of its array. -/
structure Step where
  property : String
  index : Option Nat
deriving DecidableEq, Repr

/-- The steps from the root to an object inside it. -/
abbrev ObjectPlace := List Step

namespace Bean

def child? (bean : Bean) (step : Step) : Option Bean :=
  match step.index, bean.read step.property with
  | none, document => document.fields?
  | some i, .array items => items[i]?.bind (·.fields?)
  | some _, _ => none

def at? : Bean → ObjectPlace → Option Bean
  | bean, [] => some bean
  | bean, step :: place => (bean.child? step).bind (·.at? place)

theorem fields?_eq_some {document : Json} {object : Bean} :
    document.fields? = some object ↔ document = .object object := by
  cases document <;> simp [Json.fields?]

theorem child?_reference {bean object : Bean} {name : String} :
    bean.child? ⟨name, none⟩ = some object ↔ bean.read name = .object object := by
  rw [child?]
  exact fields?_eq_some

/-- The document at the path of a column. -/
def document (bean : Bean) (path : String) : Json :=
  match Text.cutFirst '.' path.toList with
  | none => bean.read path
  | some (name, sub) =>
    match bean.read (String.ofList name) with
    | .object fields => Bean.read fields (String.ofList sub)
    | _ => .null

end Bean

namespace Entity
variable {n : Nat}

/-- Whether an instance has no identity. -/
def isUnset (e : Entity n) (bean : Bean) : Bool :=
  e.identity.all fun identity => (bean.read identity.name).isNull

/-- The value is the identity of an instance. -/
def IdentityIs (e : Entity n) (bean : Bean) (value : Value) : Prop :=
  ∃ identity, e.identity = some identity ∧
    Value.ofJson (bean.read identity.name) identity.type = .ok value

end Entity

/-- What a statement of a plan is for. -/
inductive PlanLabel where
  /-- The row of the object at a place. -/
  | row (place : ObjectPlace)
  /-- The link of an owner to an element of its array. -/
  | link (owner : ObjectPlace) (property : String) (index : Nat)
deriving DecidableEq, Repr

/-- A plan with what each of its statements is for. -/
abbrev Trace := List (PlanLabel × Statement)

namespace Schema
variable {n : Nat}

/-- The entity of the objects at a step, where the step is a reference that the INSERT binds or an
association by a join table, and cascades. -/
def cascadeTarget? (s : Schema n) (e : Entity n) (step : Step) : Option (Entity n) := do
  let p ← e.properties.find? (·.name = step.property)
  let a ← p.association?
  if a.cascades && (if step.index.isSome then a.isJoinTable else a.isToOne && !p.generated) then
    some (s.target a)
  else none

/-- The object at a place and its entity, if it is inserted with the object at the root: each object
on the way to it is reached by a cascade from the one before and has no identity. -/
def inserted? (s : Schema n) : Entity n → Bean → ObjectPlace → Option (Entity n × Bean)
  | e, bean, [] => some (e, bean)
  | e, bean, step :: place => do
    let target ← s.cascadeTarget? e step
    let child ← bean.child? step
    if target.isUnset child then s.inserted? target child place else none

/-- The value is the identity of the object that a reference holds; null if it holds none. -/
def ReferenceIs (target : Entity n) (document : Json) (value : Value) : Prop :=
  match document with
  | .object object => target.IdentityIs object value
  | _ => value = .null

/-- The value is what a column binds, where the column is a reference or the identity. -/
def ColumnIs (s : Schema n) (c : Column n) (bean : Bean) (value : Value) : Prop :=
  match c.property.association? with
  | some a => ReferenceIs (s.target a) (bean.document c.path) value
  | none => c.identity = true → Value.ofJson (bean.document c.path) c.property.type = .ok value

/-- The statement is the INSERT of an instance. -/
structure RowOf (s : Schema n) (e : Entity n) (bean : Bean) (statement : Statement) : Prop where
  sql : ∃ template, s.insert e = .ok template ∧ statement.sql = template.text
  args : List.Forall₂ (fun c value => s.ColumnIs c bean value) (s.insertedColumns e) statement.args

/-- The statement links an instance to an element of an array that it holds. -/
inductive LinkOf (s : Schema n) (e : Entity n) (bean : Bean) (property : String) (index : Nat) :
    Statement → Prop
  | link {p : Property n} {target : Entity n} {child : Bean} {template : Template}
    {ownerId childId : Value} (hproperty : e.property? property = some p)
    (hinsert : s.joinTableInsert e p = .ok template)
    (htarget : s.cascadeTarget? e ⟨property, some index⟩ = some target)
    (hchild : bean.child? ⟨property, some index⟩ = some child)
    (howner : e.IdentityIs bean ownerId) (hchildId : target.IdentityIs child childId) :
    LinkOf s e bean property index ⟨template.text, [ownerId, childId]⟩

/-- The trace of a plan that inserts an instance, which planning has changed from `initial` to
`final`: a row for each object that is inserted with it and a link for each element of these objects'
arrays, each of them once and as `final` has it, in an order in which what a statement refers to comes
before it. Objects that are not the root have an identity that their rows bind. -/
structure Traces (s : Schema n) (e : Entity n) (initial final : Bean) (trace : Trace) : Prop where
  nodup : (trace.map Prod.fst).Nodup
  row_iff : ∀ place, (∃ statement, (.row place, statement) ∈ trace) ↔
    (s.inserted? e initial place).isSome
  link_iff : ∀ place property index, (∃ statement, (.link place property index, statement) ∈ trace) ↔
    ∃ owner object target child, s.inserted? e initial place = some (owner, object) ∧
      s.cascadeTarget? owner ⟨property, some index⟩ = some target ∧
      object.child? ⟨property, some index⟩ = some child
  unset_of_generated : ∀ identity, e.identity = some identity → identity.generated = true →
    e.isUnset final = e.isUnset initial
  bound : ∀ place owner object, place ≠ [] → s.inserted? e initial place = some (owner, object) →
    ∃ identity, owner.identity = some identity ∧ identity.generated = false
  row_of : ∀ place statement, (.row place, statement) ∈ trace → ∃ owner object object',
    s.inserted? e initial place = some (owner, object) ∧ final.at? place = some object' ∧
      s.RowOf owner object' statement
  link_of : ∀ place property index statement, (.link place property index, statement) ∈ trace →
    ∃ owner object object', s.inserted? e initial place = some (owner, object) ∧
      final.at? place = some object' ∧ s.LinkOf owner object' property index statement
  reference_first : ∀ place name row reference, (.row place, row) ∈ trace →
    (.row (place ++ [⟨name, none⟩]), reference) ∈ trace →
    [(.row (place ++ [⟨name, none⟩]), reference), (.row place, row)].Sublist trace
  owner_first : ∀ place property index row link, (.row place, row) ∈ trace →
    (.link place property index, link) ∈ trace →
    [(.row place, row), (.link place property index, link)].Sublist trace
  child_first : ∀ place property index row link,
    (.row (place ++ [⟨property, some index⟩]), row) ∈ trace →
    (.link place property index, link) ∈ trace →
    [(.row (place ++ [⟨property, some index⟩]), row),
      (.link place property index, link)].Sublist trace

end Schema

end EntitySql
