import EntitySql.Metadata.NamedEntity
import Mathlib.Data.List.Induction

/-! # What settings come to

Of each kind of setting the last one counts, and of the properties all in their order; how they are mixed makes
no difference, also to the names that are worked out on the way (`NamedEntity.declare_byLastSettings`). A step
brings every kept name up to date (`NamedEntity.set_ofLast`), so that at the end they are the names that the
declared entity has (`Entity.named_declare`). -/

namespace EntitySql
variable {n : Nat} {π ρ : Type}

namespace EntitySetting

def map (f : π → ρ) : EntitySetting π → EntitySetting ρ
  | .schema name => .schema name
  | .table name => .table name
  | .escape on => .escape on
  | .naming strategy => .naming strategy
  | .identity p => .identity (f p)
  | .property p => .property (f p)

@[simp] def schema? : EntitySetting π → Option String
  | .schema name => some name
  | _ => none

@[simp] def table? : EntitySetting π → Option String
  | .table name => some name
  | _ => none

@[simp] def escape? : EntitySetting π → Option Bool
  | .escape on => some on
  | _ => none

@[simp] def naming? : EntitySetting π → Option Naming
  | .naming strategy => some strategy
  | _ => none

@[simp] def identity? : EntitySetting π → Option π
  | .identity p => some p
  | _ => none

@[simp] def property? : EntitySetting π → Option π
  | .property p => some p
  | _ => none

end EntitySetting

/-- What the last setting of a kind says. -/
def lastSetting? {α : Type} (kind : EntitySetting π → Option α) (settings : List (EntitySetting π)) : Option α :=
  (settings.filterMap kind).getLast?

theorem lastSetting?_concat {α : Type} (kind : EntitySetting π → Option α) (settings : List (EntitySetting π))
    (setting : EntitySetting π) :
    lastSetting? kind (settings ++ [setting]) = (kind setting).or (lastSetting? kind settings) := by
  unfold lastSetting?
  rw [List.filterMap_append, List.getLast?_append]
  cases h : kind setting <;> simp [h]

def lastNaming (settings : List (EntitySetting π)) : Naming :=
  (lastSetting? EntitySetting.naming? settings).getD .raw

namespace NamedEntity

/-- What settings come to, however they are mixed: the last one of each kind, and all properties. -/
def ofLast (name : String) (settings : List (EntitySetting (NamedProperty n))) : NamedEntity n where
  name := name
  schema := lastSetting? EntitySetting.schema? settings
  table := lastSetting? EntitySetting.table? settings
  baseTable := (lastSetting? EntitySetting.table? settings).getD ((lastNaming settings).entityTable name)
  naming := lastNaming settings
  escape := (lastSetting? EntitySetting.escape? settings).getD false
  identity := (lastSetting? EntitySetting.identity? settings).map (·.property.named (lastNaming settings))
  properties := (settings.filterMap EntitySetting.property?).map (·.property.named (lastNaming settings))

theorem set_ofLast (name : String) (settings : List (EntitySetting (NamedProperty n)))
    (setting : EntitySetting (NamedProperty n)) :
    (ofLast name settings).set setting = ofLast name (settings ++ [setting]) := by
  cases setting with
  | schema _ | table _ | escape _ | identity _ | property _ =>
    simp [ofLast, set, lastNaming, lastSetting?_concat]
  | naming strategy =>
    -- every name is worked out again here, so that none follows an earlier strategy
    cases h : lastSetting? EntitySetting.table? settings <;>
      simp [ofLast, set, lastNaming, lastSetting?_concat, Function.comp_def, h]

theorem declare_eq_ofLast (name : String) (settings : List (EntitySetting (NamedProperty n))) :
    declare name settings = ofLast name settings := by
  induction settings using List.reverseRecOn with
  | nil => rfl
  | append_singleton settings setting ih =>
    rw [← set_ofLast, ← ih]
    simp [declare]

end NamedEntity

/-! ### Names of the finished entity -/

namespace Entity

theorem baseTable_set_naming (e : Entity n) (strategy : Naming) :
    (e.set (.naming strategy)).baseTable =
      if e.table.isNone then strategy.entityTable e.name else e.baseTable := by
  cases h : e.table <;> simp [set, baseTable, h]

theorem named_set (e : Entity n) (setting : EntitySetting (NamedProperty n)) :
    (e.set (setting.map (·.property))).named = e.named.set setting := by
  cases setting with
  | schema _ | table _ | escape _ => rfl
  | identity _ | property _ => simp [EntitySetting.map, set, named, NamedEntity.set, baseTable]
  | naming strategy =>
    refine NamedEntity.ext rfl rfl rfl (baseTable_set_naming e strategy) rfl rfl ?_ ?_
    · show e.identity.map (·.named strategy) = (e.identity.map (·.named e.naming)).map (·.rename strategy)
      simp [Function.comp_def]
    · show e.properties.map (·.named strategy) = (e.properties.map (·.named e.naming)).map (·.rename strategy)
      simp

theorem named_declare (name : String) (settings : List (EntitySetting (NamedProperty n))) :
    (declare name (settings.map (·.map (·.property)))).named = NamedEntity.declare name settings := by
  suffices h : ∀ e : Entity n, ((settings.map (·.map (·.property))).foldl set e).named =
      settings.foldl NamedEntity.set e.named from h { name }
  induction settings with
  | nil => exact fun e => rfl
  | cons setting settings ih =>
    intro e
    rw [List.map_cons, List.foldl_cons, List.foldl_cons, ih, named_set]

end Entity

/-- The last setting of each kind and the sequence of the properties make up the entity, with the names of its
table and of its columns, in whatever order the settings are given. -/
theorem NamedEntity.declare_byLastSettings (name : String) (settings : List (EntitySetting (NamedProperty n))) :
    NamedEntity.declare name settings = NamedEntity.ofLast name settings ∧
      NamedEntity.declare name settings = (Entity.declare name (settings.map (·.map (·.property)))).named := by
  constructor
  · exact NamedEntity.declare_eq_ofLast name settings
  · exact (Entity.named_declare name settings).symm

example : (NamedEntity.declare "Book"
    [.property (.ofProperty { name := "totalPages", content := .scalar .integer }), .naming .underscored,
      .property (.ofProperty { name := "isbn", content := .scalar .string, column := some "ISBN" }),
      .table "books", .naming .raw, .naming .underscored] : NamedEntity 0).properties.map (·.columnName) =
        ["total_pages", "ISBN"] := by
  decide +kernel

end EntitySql
