import EntitySql.Bean.Bind
import EntitySql.Repository.Basic

/-! # Plans

The statements that persist or update an entity with all that it refers to. A plan is made in full
before any statement runs: rows that are referred to come before the row that refers to them, rows of
join tables come behind their owner. -/

namespace EntitySql

/-- What planning keeps beside the bean. -/
structure PlanState where
  /-- The statements planned so far. -/
  plan : List Statement := []
  stored : StoredStatements := []

namespace BindContext
variable {n : Nat}

abbrev PlanM := BeanM PlanState

def addStatement (statement : Statement) : PlanM Unit :=
  BeanM.modifyOuter fun state => { state with plan := state.plan ++ [statement] }

/-- A kept statement; what was compiled for it is kept. -/
def useStored (find : StoredStatements → Outcome (Template × StoredStatements)) : PlanM Template := do
  let (template, stored) ← find (← get).outer.stored
  BeanM.modifyOuter fun state => { state with stored := stored }
  return template

/-- Plans the rows that link an owner to the elements of one association, and returns the elements as
they are then. Elements without identity are persisted first. -/
def planLinks (cascade : Cascade n PlanState) (owner : Entity n) (p : Property n) (target : Entity n)
    (targetIdentity : Property n) (ownerId : Value) (insert : Template) :
    List Json → PlanM (List Json)
  | [] => return []
  | .object child :: rest => do
    if ownerId.isNull then throw (.build (.unsetOwner owner.name p.name))
    let child ←
      if (Bean.read child targetIdentity.name).isNull then do
        let (result, child) ← BeanM.on child (cascade target)
        liftM result
        pure child
      else pure child
    let childId ← Value.ofJson (Bean.read child targetIdentity.name) targetIdentity.type
    if childId.isNull then throw (.build (.unsetReference target.name p.name))
    addStatement ⟨insert.text, [ownerId, childId]⟩
    let rest ← planLinks cascade owner p target targetIdentity ownerId insert rest
    return .object child :: rest
  | other :: rest => do
    return other :: (← planLinks cascade owner p target targetIdentity ownerId insert rest)

/-- Plans the rows that link an owner through one association. -/
def planAssociation (ctx : BindContext n) (cascade : Cascade n PlanState) (r : Repository)
    (owner : Entity n) (ownerId : Value) (p : Property n) (a : Association n) : PlanM Unit := do
  let target := ctx.schema.target a
  let targetIdentity ← target.requiredIdentity
  let insert ← useStored (ctx.schema.stored r owner (.joinTable p.name))
  match ← BeanM.read p.name with
  | .array children =>
    let children ← planLinks cascade owner p target targetIdentity ownerId insert children
    BeanM.write p.name (.array children)
  | _ => return ()

/-- Plans the rows that link an owner to the elements of all its associations that cascade. -/
def planJoinRows (ctx : BindContext n) (cascade : Cascade n PlanState) (r : Repository)
    (owner : Entity n) : PlanM Unit := do
  let cascading := owner.joinTableProperties.filterMap fun p =>
    (p.association?.filter (·.cascades)).map (p, ·)
  if cascading.isEmpty then return ()
  let identity ← owner.requiredIdentity
  let ownerId ← Value.ofJson (← BeanM.read identity.name) identity.type
  cascading.forM fun (p, a) => ctx.planAssociation cascade r owner ownerId p a

/-- Plans the INSERT of the bean, of what it refers to and of its links, where cascades are nested at
most `nesting` deep. -/
def planInsertWithin (ctx : BindContext n) (r : Repository) :
    (nesting : Nat) → (isRoot : Bool) → Cascade n PlanState
  | 0, _, e => throw (.endless (.cascade e.name))
  | nesting + 1, isRoot, e => do
    let insert ← useStored (ctx.schema.storedInsert r e isRoot)
    let cascade := ctx.planInsertWithin r nesting false
    let args ← ctx.bind cascade e .insert insert.paths
    addStatement ⟨insert.text, args⟩
    ctx.planJoinRows cascade r e

/-- Plans the INSERT of the bean. A cascade goes to an object inside the object it starts from, so
that cascades are nested no deeper than the bean's objects. -/
def planInsert (ctx : BindContext n) (r : Repository) (e : Entity n) : PlanM Unit := do
  ctx.planInsertWithin r (Json.object (← get).bean).depth true e

/-- Plans the UPDATE of the bean, behind the INSERTs of what it refers to. -/
def planUpdate (ctx : BindContext n) (r : Repository) (e : Entity n) (update : Template) :
    PlanM Unit := do
  let cascade := ctx.planInsertWithin r (Json.object (← get).bean).depth false
  let args ← ctx.bind cascade e .update update.paths
  addStatement ⟨update.text, args⟩

end BindContext

end EntitySql
