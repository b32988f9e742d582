import EntitySql.Metadata.Entity
import EntitySql.Value.Json

/-! # Beans

An entity's instance as the fields of a document, and work on it that may fail. What such work wrote
into the bean before it failed stays written. -/

namespace EntitySql

/-- An instance of an entity, one field for each property that it carries. -/
abbrev Bean := Fields Json

/-- The value of a property; null where the bean does not carry it. -/
def Bean.read (bean : Bean) (property : String) : Json := (Fields.get? property bean).getD .null

/-- What work on a bean can read and write. -/
structure BeanState (σ : Type) where
  bean : Bean
  /-- How many fresh identifiers were drawn. -/
  drawn : Nat
  /-- What the work keeps beside the bean. -/
  outer : σ

/-- Work on a bean that may fail. -/
abbrev BeanM (σ : Type) := ExceptT Error (StateM (BeanState σ))

namespace BeanM
variable {σ α : Type}

def read (property : String) : BeanM σ Json := do return (← get).bean.read property

def write (property : String) (document : Json) : BeanM σ Unit :=
  modify fun state => { state with bean := Fields.insert property document state.bean }

/-- The number of the next fresh identifier. -/
def draw : BeanM σ Nat := do
  let state ← get
  set { state with drawn := state.drawn + 1 }
  return state.drawn

/-- Changes what the work keeps beside the bean. -/
def modifyOuter (f : σ → σ) : BeanM σ Unit :=
  modify fun state => { state with outer := f state.outer }

/-- Works on another object, which is returned as the work left it, whether or not it failed. -/
def on (other : Bean) (work : BeanM σ α) : BeanM σ (Except Error α × Bean) := fun state =>
  let (result, inner) := work.run { state with bean := other }
  (.ok (result, inner.bean), { inner with bean := state.bean })

/-- Works on the object that the bean holds under a name, and returns it as it is then. -/
def within (property : String) (object : Bean) (work : BeanM σ Unit) : BeanM σ Bean := do
  let (result, object) ← on object work
  write property (.object object)
  liftM result
  return object

end BeanM

end EntitySql
