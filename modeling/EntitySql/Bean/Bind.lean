import EntitySql.Bean.Basic
import EntitySql.Json.Codec
import EntitySql.Text.Split

/-! # Binding of beans

The values that a statement binds from a bean, one for each path. Binding fills the properties that
are populated automatically, and lets referenced objects without identity be persisted first. -/

namespace EntitySql

/-- The kind of statement that is bound. -/
inductive BindMode where
  | insert
  | update
deriving DecidableEq, Repr

/-- The surroundings of a bind. -/
structure BindContext (n : Nat) where
  schema : Schema n
  codec : Codec
  now : Timestamp
  /-- The fresh identifiers, in the order in which they are drawn. -/
  freshId : Nat → Uuid

/-- Persists the object it works on as an instance of the entity, and writes its identity into it. -/
abbrev Cascade (n : Nat) (σ : Type) := Entity n → BeanM σ Unit

namespace BindContext
variable {n : Nat} {σ : Type}

/-- The value of a property that is no reference. -/
def scalar (ctx : BindContext n) (p : Property n) (document : Json) : Outcome Value :=
  if p.type = .json then
    if document.isNull then .ok .null
    else match ctx.codec.encode document with
      | .ok text => .ok (.string text)
      | .error cause => .error (.conversion (.notEncoded p.name cause))
  else Value.ofJson document p.type

/-- The value of a property of an embedded entity; null where the bean has no object for it. -/
def embedded (ctx : BindContext n) (e : Entity n) (owner : Property n) (sub : String) (bean : Bean) :
    Outcome Value :=
  match owner.embedded? with
  | none => .error (.build (.notEmbedded owner.name e.name))
  | some a =>
    let embeddable := ctx.schema.target a
    match embeddable.property? sub with
    | none => .error (.build (.unknownEmbeddedProperty embeddable.name sub))
    | some p =>
      match bean.read owner.name with
      | .object fields =>
        match p.association? with
        | some inner => do
          let identity ← (ctx.schema.target inner).requiredIdentity
          match Bean.read fields p.name with
          | .object object => Value.ofJson (Bean.read object identity.name) identity.type
          | _ => return .null
        | none => ctx.scalar p (Bean.read fields p.name)
      | _ => .ok .null

/-- The current time, or date for a property of that type. -/
def currentTime (ctx : BindContext n) (p : Property n) : Value :=
  if p.type = .date then .date ctx.now.date else .timestamp ctx.now

/-- Fills a property with the current time. -/
def stamp (ctx : BindContext n) (p : Property n) : BeanM σ Value := do
  let value := ctx.currentTime p
  BeanM.write p.name (← value.toUntyped)
  return value

/-- The value of a property that is populated automatically. -/
def populate (ctx : BindContext n) (mode : BindMode) (p : Property n) : AutoPopulated → BeanM σ Value
  | .created =>
    match mode with
    | .insert => ctx.stamp p
    | .update => do liftM (Value.ofJson (← BeanM.read p.name) p.type)
  | .updated => ctx.stamp p
  | .generated => do
    if p.type ≠ .uuid then throw (.configuration (.generatedNotUuid p.name p.type))
    let current ← BeanM.read p.name
    if current.isNull then
      let id := ctx.freshId (← BeanM.draw)
      BeanM.write p.name (.string id.text)
      return .uuid id
    else liftM (Value.ofJson current .uuid)
  | .custom kind => throw (.configuration (.unknownAutoPopulation kind p.name))

/-- The identity of a referenced object. One that has none is persisted first, where the association
says so, and has to have one then. -/
def reference (ctx : BindContext n) (cascade : Cascade n σ) (p : Property n) (a : Association n) :
    BeanM σ Value := do
  if a.isForeignKey then throw (.build (.noColumnToBind p.name))
  let target := ctx.schema.target a
  let identity ← target.requiredIdentity
  match ← BeanM.read p.name with
  | .object object =>
    let object ←
      if (Bean.read object identity.name).isNull && a.cascades then do
        let object ← BeanM.within p.name object (cascade target)
        if (Bean.read object identity.name).isNull then
          throw (Error.build (.unsetReference target.name p.name))
        pure object
      else pure object
    liftM (Value.ofJson (Bean.read object identity.name) identity.type)
  | _ => return .null

/-- The value of one path: a property, or a property of an embedded entity behind a dot. -/
def bindPath (ctx : BindContext n) (cascade : Cascade n σ) (e : Entity n) (mode : BindMode)
    (path : String) : BeanM σ Value := do
  let (name, sub) := match Text.cutFirst '.' path.toList with
    | some (name, sub) => (String.ofList name, some (String.ofList sub))
    | none => (path, none)
  match e.property? name with
  | none => throw (.build (.unknownBoundProperty e.name name path))
  | some p =>
    match sub with
    | some sub => ctx.embedded e p sub (← get).bean
    | none =>
      match p.autoPopulated with
      | some kind => ctx.populate mode p kind
      | none =>
        match p.association? with
        | some a => ctx.reference cascade p a
        | none => ctx.scalar p (← BeanM.read p.name)

/-- One value for each path. -/
def bind (ctx : BindContext n) (cascade : Cascade n σ) (e : Entity n) (mode : BindMode)
    (paths : List String) : BeanM σ (List Value) :=
  paths.mapM (ctx.bindPath cascade e mode)

end BindContext

end EntitySql
