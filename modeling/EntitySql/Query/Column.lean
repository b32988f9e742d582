import EntitySql.Metadata.Entity
import EntitySql.Text.Split

/-! # Columns in queries

A query names properties by paths. A path of an entity is a property, a property of an embedded
entity behind a dot, or the identity of a to-one reference behind a dot. -/

namespace EntitySql

/-- A column of the table that a qualifier stands for. No qualifier is the empty text. -/
structure QualifiedColumn where
  qualifier : String
  name : String
deriving DecidableEq, Repr

def QualifiedColumn.text (c : QualifiedColumn) : String :=
  if c.qualifier = "" then c.name else c.qualifier ++ "." ++ c.name

/-- What a path stands for. -/
structure ResolvedPath where
  column : QualifiedColumn
  type : DataType
deriving DecidableEq, Repr

namespace Schema
variable {n : Nat}

/-- A path of one property, which has to have a column of its own. -/
def resolveProperty (s : Schema n) (e : Entity n) (qualifier : String) (path : String) :
    Outcome ResolvedPath :=
  match e.property? path with
  | none => .error (.build (.unknownPath e.name path))
  | some p =>
    if p.isForeignKey || p.embedded?.isSome then .error (.build (.noSingleColumn path e.name))
    else do
      let type ← match p.association? with
        | some a => (s.target a).requiredIdentity.map (·.type)
        | none => .ok p.type
      return ⟨⟨qualifier, e.quote (e.columnName p)⟩, type⟩

/-- A path of two parts: into an embedded entity, or to the identity of a reference. -/
def resolveInner (s : Schema n) (e : Entity n) (qualifier : String) (path owner sub : String) :
    Outcome ResolvedPath :=
  let unknown := Error.build (.unknownPath e.name path)
  match e.property? owner with
  | none => .error unknown
  | some p =>
    match p.association? with
    | none => .error unknown
    | some a =>
      if a.isEmbedded then
        match (s.target a).property? sub with
        | none => .error unknown
        | some inner =>
          .ok ⟨⟨qualifier, e.quote (e.embeddedColumnName p inner)⟩, inner.type⟩
      else do
        let identity ← (s.target a).requiredIdentity
        if !a.isForeignKey && identity.name = sub then
          return ⟨⟨qualifier, e.quote (e.columnName p)⟩, identity.type⟩
        else .error (.build (.joinRequired path e.name owner))

/-- The column that a path of the entity stands for. -/
def resolve (s : Schema n) (e : Entity n) (qualifier : String) (path : String) :
    Outcome ResolvedPath :=
  match Text.cutFirst '.' path.toList with
  | none => s.resolveProperty e qualifier path
  | some (owner, sub) =>
    s.resolveInner e qualifier path (String.ofList owner) (String.ofList sub)

end Schema

end EntitySql
