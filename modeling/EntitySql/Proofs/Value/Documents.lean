import EntitySql.Proofs.Storage.RoundTrip

/-! # Documents through values of no declared type

A document becomes a value for which no type is declared, and the value a document again: the same one, but
with floats for the integers past 64 bits (`Value.toUntyped_ofUntyped`). -/

namespace EntitySql

namespace Json

/-- All integers of the document have a signed 64-bit form. -/
inductive LongIntegers : Json → Prop
  | null : LongIntegers .null
  | bool (value : Bool) : LongIntegers (.bool value)
  | int {n : Int} (h : fitsLong n = true) : LongIntegers (.int n)
  | float (bits : UInt64) : LongIntegers (.float bits)
  | string (text : String) : LongIntegers (.string text)
  | array {items : List Json} (h : ∀ item ∈ items, LongIntegers item) : LongIntegers (.array items)
  | object {fields : Fields Json} (h : ∀ field ∈ fields, LongIntegers field.2) :
    LongIntegers (.object fields)

mutual

/-- The document with the nearest float for each integer past the signed 64-bit range. -/
def rounded : Json → Json
  | .null => .null
  | .bool value => .bool value
  | .int n =>
    if fitsLong n then .int n else .float (UInt64.ofNat (BinaryFormat.binary64.ofInt n))
  | .float bits => .float bits
  | .string text => .string text
  | .array items => .array (roundedItems items)
  | .object fields => .object (roundedFields fields)

def roundedItems : List Json → List Json
  | [] => []
  | item :: items => rounded item :: roundedItems items

def roundedFields : List (String × Json) → List (String × Json)
  | [] => []
  | (name, value) :: fields => (name, rounded value) :: roundedFields fields

end

mutual

theorem rounded_eq_iff : ∀ document : Json, document.rounded = document ↔ document.LongIntegers
  | .null => ⟨fun _ => .null, fun _ => rfl⟩
  | .bool value => ⟨fun _ => .bool value, fun _ => rfl⟩
  | .int n => by
    unfold rounded
    split
    · next h => exact ⟨fun _ => .int h, fun _ => rfl⟩
    · next h => exact ⟨nofun, fun | .int hfits => absurd hfits h⟩
  | .float bits => ⟨fun _ => .float bits, fun _ => rfl⟩
  | .string text => ⟨fun _ => .string text, fun _ => rfl⟩
  | .array items => by
    rw [rounded, Json.array.injEq, roundedItems_eq_iff items]
    exact ⟨.array, fun | .array h => h⟩
  | .object fields => by
    rw [rounded, Json.object.injEq, roundedFields_eq_iff fields]
    exact ⟨.object, fun | .object h => h⟩

theorem roundedItems_eq_iff :
    ∀ items : List Json, roundedItems items = items ↔ ∀ item ∈ items, item.LongIntegers
  | [] => by simp [roundedItems]
  | item :: items => by
    rw [roundedItems, List.cons.injEq, List.forall_mem_cons, rounded_eq_iff item,
      roundedItems_eq_iff items]

theorem roundedFields_eq_iff : ∀ fields : List (String × Json),
    roundedFields fields = fields ↔ ∀ field ∈ fields, field.2.LongIntegers
  | [] => by simp [roundedFields]
  | (name, value) :: fields => by
    rw [roundedFields, List.cons.injEq, List.forall_mem_cons, Prod.mk.injEq, rounded_eq_iff value,
      roundedFields_eq_iff fields]
    simp

end

end Json

namespace Value

/-- What values are built of: integers of their width, and fields in the order of their names. -/
inductive WellFormed : Value → Prop
  | null : WellFormed .null
  | boolean (value : Bool) : WellFormed (.boolean value)
  | int {n : Int} (h : fitsInt n = true) : WellFormed (.int n)
  | long {n : Int} (h : Json.fitsLong n = true) : WellFormed (.long n)
  | float (bits : UInt32) : WellFormed (.float bits)
  | double (bits : UInt64) : WellFormed (.double bits)
  | decimal (text : String) : WellFormed (.decimal text)
  | string (text : String) : WellFormed (.string text)
  | uuid (id : Uuid) : WellFormed (.uuid id)
  | timestamp (moment : Timestamp) : WellFormed (.timestamp moment)
  | date (day : Date) : WellFormed (.date day)
  | bytes (bytes : List UInt8) : WellFormed (.bytes bytes)
  | list {items : List Value} (h : ∀ item ∈ items, WellFormed item) : WellFormed (.list items)
  | object {fields : Fields Value} (sorted : fields.Sorted) (h : ∀ field ∈ fields, WellFormed field.2) :
    WellFormed (.object fields)

theorem names_ofUntypedFields :
    ∀ fields : List (String × Json), (ofUntypedFields fields).map Prod.fst = fields.map Prod.fst
  | [] => rfl
  | (name, value) :: fields => by
    rw [ofUntypedFields, List.map_cons, List.map_cons, names_ofUntypedFields fields]

mutual

theorem wellFormed_ofUntyped : ∀ {document : Json}, document.WellFormed → (ofUntyped document).WellFormed
  | .null, _ => .null
  | .bool value, _ => .boolean value
  | .int n, _ => by
    unfold ofUntyped
    split
    · next h => exact .long h
    · exact .double _
  | .float bits, _ => .double bits
  | .string text, _ => .string text
  | .array _, .array h => .list (wellFormed_ofUntypedItems h)
  | .object fields, .object sorted h => by
    -- the names stay as they are, and with them their order
    refine .object ?_ (wellFormed_ofUntypedFields h)
    rw [Fields.Sorted, names_ofUntypedFields fields]
    exact sorted

theorem wellFormed_ofUntypedItems : ∀ {items : List Json}, (∀ item ∈ items, item.WellFormed) →
    ∀ value ∈ ofUntypedItems items, value.WellFormed
  | [], _ => nofun
  | _ :: _, h =>
    have ⟨hfirst, hrest⟩ := List.forall_mem_cons.1 h
    List.forall_mem_cons.2 ⟨wellFormed_ofUntyped hfirst, wellFormed_ofUntypedItems hrest⟩

theorem wellFormed_ofUntypedFields :
    ∀ {fields : List (String × Json)}, (∀ field ∈ fields, field.2.WellFormed) →
      ∀ field ∈ ofUntypedFields fields, field.2.WellFormed
  | [], _ => nofun
  | (_, _) :: _, h =>
    have ⟨hfirst, hrest⟩ := List.forall_mem_cons.1 h
    List.forall_mem_cons.2 ⟨wellFormed_ofUntyped hfirst, wellFormed_ofUntypedFields hrest⟩

end

theorem floatJson_of_isFinite {bits : UInt64} (h : BinaryFormat.binary64.IsFinite bits.toNat) :
    floatJson bits = .ok (.float bits) := by
  obtain ⟨negative, significand, exponent, hdecode⟩ := h
  unfold floatJson
  rw [hdecode]

mutual

theorem toUntyped_rounded :
    ∀ {document : Json}, document.WellFormed → (ofUntyped document).toUntyped = .ok document.rounded
  | .null, _ => rfl
  | .bool _, _ => rfl
  | .int n, .int hn => by
    unfold ofUntyped Json.rounded
    split
    · rfl
    · exact floatJson_of_isFinite (BinaryFormat.ofInt_isFinite hn)
  | .float _, .float h => floatJson_of_isFinite h
  | .string _, _ => rfl
  | .array _, .array h => by
    rw [ofUntyped, toUntyped, toUntypedItems_rounded h]
    rfl
  | .object _, .object _ h => by
    rw [ofUntyped, toUntyped, toUntypedFields_rounded h]
    rfl

theorem toUntypedItems_rounded : ∀ {items : List Json}, (∀ item ∈ items, item.WellFormed) →
    toUntypedItems (ofUntypedItems items) = .ok (Json.roundedItems items)
  | [], _ => rfl
  | _ :: _, h => by
    obtain ⟨hfirst, hrest⟩ := List.forall_mem_cons.1 h
    rw [ofUntypedItems, toUntypedItems, toUntyped_rounded hfirst, toUntypedItems_rounded hrest]
    rfl

theorem toUntypedFields_rounded :
    ∀ {fields : List (String × Json)}, (∀ field ∈ fields, field.2.WellFormed) →
      toUntypedFields (ofUntypedFields fields) = .ok (Json.roundedFields fields)
  | [], _ => rfl
  | (_, _) :: _, h => by
    obtain ⟨hfirst, hrest⟩ := List.forall_mem_cons.1 h
    rw [ofUntypedFields, toUntypedFields, toUntyped_rounded hfirst, toUntypedFields_rounded hrest]
    rfl

end

/-- Every document comes back through a value, with its integers past 64 bits rounded; so a document comes
back unchanged when, and only when, all its integers fit. -/
theorem toUntyped_ofUntyped {document : Json} (h : document.WellFormed) :
    (ofUntyped document).WellFormed ∧ (ofUntyped document).toUntyped = .ok document.rounded ∧
      ((ofUntyped document).toUntyped = .ok document ↔ document.LongIntegers) := by
  have hrounded := toUntyped_rounded h
  refine ⟨wellFormed_ofUntyped h, hrounded, ?_⟩
  rw [hrounded, Except.ok.injEq]
  exact document.rounded_eq_iff

example : (ofUntyped (.array [.int 9223372036854775807, .int 9223372036854775808])).toUntyped =
    .ok (.array [.int 9223372036854775807, .float 0x43e0000000000000]) := rfl

end Value

/-- A document with the number one as an integer and as a float, and the least integer. -/
def Json.readings : Json :=
  .object [("counts", .array [.int 1, .float 0x3ff0000000000000, .int (-9223372036854775808)]),
    ("sensor", .object [("label", .string "1"), ("place", .null)])]

theorem Json.readings_wellFormed : Json.readings.WellFormed := by
  have hone : BinaryFormat.binary64.IsFinite (0x3ff0000000000000 : UInt64).toNat := ⟨_, _, _, rfl⟩
  refine .object (by unfold Fields.Sorted; decide) ?_
  simp only [List.forall_mem_cons, List.not_mem_nil, false_implies, implies_true, and_true]
  constructor
  · refine .array ?_
    simp only [List.forall_mem_cons, List.not_mem_nil, false_implies, implies_true, and_true]
    exact ⟨.int (by decide), .float hone, .int (by decide)⟩
  · refine .object (by unfold Fields.Sorted; decide) ?_
    simp only [List.forall_mem_cons, List.not_mem_nil, false_implies, implies_true, and_true]
    exact ⟨.string _, .null⟩

theorem Value.toUntyped_ofUntyped_readings :
    Json.readings.WellFormed ∧ (ofUntyped Json.readings).WellFormed ∧
      (ofUntyped Json.readings).toUntyped = .ok Json.readings ∧ Json.readings.LongIntegers := by
  obtain ⟨hvalue, hrounded, hsame⟩ := Value.toUntyped_ofUntyped Json.readings_wellFormed
  have hread : (ofUntyped Json.readings).toUntyped = .ok Json.readings := hrounded
  exact ⟨Json.readings_wellFormed, hvalue, hread, hsame.1 hread⟩

end EntitySql
