import EntitySql.Bean.Bind
import EntitySql.Proofs.Calendar.Texts
import EntitySql.Proofs.Number.Nearest
import EntitySql.Proofs.Outcome
import EntitySql.Result.Decoder
import EntitySql.Storage.Cell

/-! # What comes back from a cell

A value that was read from a document is stored in a cell, and the document of that cell is read as
the same value (`ofJson_stored`): true as the number one, an identifier, a date or a point in time as
its text. A column of documents gives back the very document that was bound. -/

namespace EntitySql

/-- What documents are built of: integers of 64 bits, with a sign or without, finite floats, and fields
in the order of their names. -/
inductive Json.WellFormed : Json → Prop
  | null : WellFormed .null
  | bool (value : Bool) : WellFormed (.bool value)
  | int {n : Int} (h : -9223372036854775808 ≤ n ∧ n < 18446744073709551616) : WellFormed (.int n)
  | float {bits : UInt64} (h : BinaryFormat.binary64.IsFinite bits.toNat) : WellFormed (.float bits)
  | string (text : String) : WellFormed (.string text)
  | array {items : List Json} (h : ∀ item ∈ items, WellFormed item) : WellFormed (.array items)
  | object {fields : Fields Json} (sorted : fields.Sorted) (h : ∀ field ∈ fields, WellFormed field.2) :
    WellFormed (.object fields)

/-- The types of the values that documents hold in one piece, or bytes in a list, but for floats of
single precision. -/
def DataType.plainTypes : List DataType :=
  [.string, .character, .long, .integer, .short, .byte, .boolean, .uuid, .timestamp, .date,
    .bigDecimal, .double, .byteArray]

namespace Value

/-- The value goes into a cell, and the cell is read as the value `back`. -/
def StoredAs (value back : Value) : Prop :=
  ∃ cell, Cell.ofValue value = .ok cell ∧ cell.value = .ok back

theorem storedAs_text {value : Value} {written : String}
    (h : Cell.ofValue value = .ok (Cell.ofText written)) : value.StoredAs (.string written) :=
  ⟨_, h, Cell.value_ofText written⟩

/-- The value goes into a cell, and the document of that cell is one of the value. -/
def ComesBack (type : DataType) (value : Value) : Prop :=
  ∃ back document, value.StoredAs back ∧ back.toJson type = .ok document ∧ document.WellFormed ∧
    ofJson document type = .ok value

theorem ofJson_of_present {type : DataType} {document : Json} {value : Value}
    (hnull : document.isNull = false) (h : ofPresent? type document = some value) :
    ofJson document type = .ok value := by
  rw [ofJson, hnull, h]
  rfl

theorem ofJson_eq_ok {type : DataType} {document : Json} {value : Value}
    (h : ofJson document type = .ok value) : value = .null ∨ ofPresent? type document = some value := by
  unfold ofJson at h
  split at h
  · exact .inl (Except.ok.inj h).symm
  · split at h
    · next value' hvalue => exact .inr (hvalue.trans (congrArg some (Except.ok.inj h)))
    · cases h

namespace ComesBack
variable {type : DataType}

theorem null (type : DataType) : ComesBack type .null := by
  refine ⟨.null, .null, ⟨.null, rfl, rfl⟩, ?_, .null, rfl⟩
  cases type <;> rfl

/-- A value that is kept as text comes back if the text is read as the value. -/
theorem text {value : Value} {written : String}
    (hcell : Cell.ofValue value = .ok (Cell.ofText written))
    (hread : ofPresent? type (.string written) = some value) : ComesBack type value := by
  refine ⟨.string written, .string written, storedAs_text hcell, ?_, .string written,
    ofJson_of_present rfl hread⟩
  cases type <;> rfl

theorem boolean (b : Bool) : ComesBack .boolean (.boolean b) := by
  refine ⟨.long (if b then 1 else 0), .bool b, ⟨_, rfl, rfl⟩, ?_, .bool b, rfl⟩
  cases b <;> rfl

theorem integer {k : Int} {value : Value} (hcell : Cell.ofValue value = .ok (.integer k))
    (htype : type ≠ .boolean) (hk : Json.fitsLong k = true)
    (hread : ofPresent? type (.int k) = some value) : ComesBack type value := by
  refine ⟨.long k, .int k, ⟨_, hcell, rfl⟩, ?_, .int ?_, ofJson_of_present rfl hread⟩
  · cases type <;> first | rfl | exact absurd rfl htype
  · simp only [Json.fitsLong, Bool.and_eq_true, decide_eq_true_eq] at hk
    omega

theorem int {k : Int} (htype : type ∈ [DataType.integer, .short, .byte]) (hk : Json.fitsLong k = true)
    (hfits : fitsInt k = true) : ComesBack type (.int k) := by
  have hasLong : (Json.int k).asLong? = some k := by simp [Json.asLong?, hk]
  simp only [List.mem_cons, List.not_mem_nil, or_false] at htype
  rcases htype with rfl | rfl | rfl <;>
    exact .integer rfl (by decide) hk (by simp [ofPresent?, hasLong, hfits])

theorem double {bits : UInt64} (h : BinaryFormat.binary64.IsFinite bits.toNat) :
    ComesBack .double (.double bits) := by
  obtain ⟨negative, significand, exponent, hdecode⟩ := h
  refine ⟨.double bits, .float bits, ⟨.real bits, ?_, rfl⟩, ?_, .float ⟨_, _, _, hdecode⟩, rfl⟩
  · simp [Cell.ofValue, Cell.ofDouble, hdecode]
  · simp [toJson, toUntyped, floatJson, hdecode]

theorem asByte?_toNat (b : UInt8) : (Json.int b.toNat).asByte? = some b := by
  have hb := b.toNat_lt
  simp only [Json.asByte?, Int.toNat_natCast, UInt8.ofNat_toNat]
  rw [if_pos (by omega)]

theorem bytes?_map (bs : List UInt8) :
    bytes? (.array (bs.map fun b => .int b.toNat)) = some bs := by
  unfold bytes?
  induction bs with
  | nil => rfl
  | cons b bs ih => simp only [List.map_cons, List.mapM_cons, asByte?_toNat, ih]; rfl

theorem bytes (bs : List UInt8) : ComesBack .byteArray (.bytes bs) := by
  refine ⟨.bytes bs, .array (bs.map fun b => .int b.toNat), ⟨.blob bs, rfl, rfl⟩, rfl, .array ?_, ?_⟩
  · intro item hitem
    obtain ⟨b, -, rfl⟩ := List.mem_map.1 hitem
    have hb := b.toNat_lt
    exact .int (by omega)
  · exact ofJson_of_present rfl (by rw [ofPresent?, bytes?_map]; rfl)

end ComesBack

theorem asLong?_eq_some {document : Json} {k : Int} (h : document.asLong? = some k) :
    Json.fitsLong k = true ∧ document = .int k := by
  cases document with
  | int n =>
    simp only [Json.asLong?, Option.ite_none_right_eq_some, Option.some.injEq] at h
    exact h.2 ▸ ⟨h.1, rfl⟩
  | _ => cases h

theorem asDouble?_isFinite {document : Json} (hdocument : document.WellFormed) {bits : UInt64}
    (h : document.asDouble? = some bits) : BinaryFormat.binary64.IsFinite bits.toNat := by
  cases hdocument with
  | int hn => exact Option.some.inj h ▸ BinaryFormat.ofInt_isFinite hn
  | float hbits => exact Option.some.inj h ▸ hbits
  | _ => cases h

/-- What the document holds for a plain type comes back, a point in time if its year has four
digits. -/
theorem comesBack_of_present {type : DataType} (htype : type ∈ DataType.plainTypes) {document : Json}
    (hdocument : document.WellFormed) {value : Value} (h : ofPresent? type document = some value)
    (hyear : ∀ moment, value = .timestamp moment →
      0 ≤ moment.date.year ∧ moment.date.year ≤ 9999) : ComesBack type value := by
  cases type with
  | string | character =>
    simp only [ofPresent?, Option.map_eq_some_iff] at h
    obtain ⟨written, -, rfl⟩ := h
    exact .text rfl rfl
  | long =>
    simp only [ofPresent?, Option.map_eq_some_iff] at h
    obtain ⟨k, hk, rfl⟩ := h
    obtain ⟨hlong, rfl⟩ := asLong?_eq_some hk
    exact .integer rfl (by decide) hlong (by simp [ofPresent?, hk])
  | integer | short | byte =>
    simp only [ofPresent?, Option.map_eq_some_iff, Option.filter_eq_some_iff] at h
    obtain ⟨k, ⟨hk, hfits⟩, rfl⟩ := h
    exact .int (by decide) (asLong?_eq_some hk).1 hfits
  | boolean =>
    simp only [ofPresent?, Option.map_eq_some_iff] at h
    obtain ⟨b, -, rfl⟩ := h
    exact .boolean b
  | uuid =>
    simp only [ofPresent?, Option.map_eq_some_iff] at h
    obtain ⟨id, -, rfl⟩ := h
    exact .text rfl (by simp [ofPresent?, Json.asText?, Uuid.parse?_text])
  | timestamp =>
    simp only [ofPresent?, Option.map_eq_some_iff] at h
    obtain ⟨moment, -, rfl⟩ := h
    have hread := Timestamp.parse?_textWithOffset moment (hyear moment rfl)
    exact .text rfl (by simp [ofPresent?, Json.asText?, hread])
  | date =>
    simp only [ofPresent?, Option.map_eq_some_iff] at h
    obtain ⟨day, -, rfl⟩ := h
    exact .text rfl (by simp [ofPresent?, Json.asText?, Date.parse?_text])
  | bigDecimal =>
    simp only [ofPresent?, Option.map_eq_some_iff] at h
    obtain ⟨written, -, rfl⟩ := h
    exact .text rfl rfl
  | double =>
    simp only [ofPresent?, Option.map_eq_some_iff] at h
    obtain ⟨bits, hbits, rfl⟩ := h
    exact .double (asDouble?_isFinite hdocument hbits)
  | byteArray =>
    simp only [ofPresent?, Option.map_eq_some_iff] at h
    obtain ⟨bs, -, rfl⟩ := h
    exact .bytes bs
  | float | json | entity | object => exact absurd htype (by decide)

end Value

/-- The codec reads the documents that it has written. -/
def Codec.Reads (codec : Codec) : Prop :=
  ∀ document text, document.WellFormed → codec.encode document = .ok text →
    codec.decode text = .ok document

/-- A document that is bound comes back as it is, and only null is kept as null. -/
theorem RowDecoder.cell_scalar {n : Nat} {ctx : BindContext n} (hcodec : ctx.codec.Reads)
    {p : Property n} (hp : p.type = .json) {field : DtoField} (hfield : field.type = .json)
    {document : Json} (hdocument : document.WellFormed) {value : Value}
    (h : ctx.scalar p document = .ok value) :
    (value.isNull ↔ document.isNull) ∧
      ∃ back, value.StoredAs back ∧ RowDecoder.cell ctx.codec field back = .ok document := by
  obtain ⟨name, index, type⟩ := field
  obtain rfl := hfield
  rw [BindContext.scalar, if_pos hp] at h
  cases hnull : document.isNull with
  | true =>
    rw [hnull] at h
    obtain rfl := Except.ok.inj h
    have hdoc : document = .null := by cases document <;> first | rfl | cases hnull
    refine ⟨by simp [Value.isNull], .null, ⟨.null, rfl, rfl⟩, ?_⟩
    rw [hdoc]
    rfl
  | false =>
    rw [hnull] at h
    cases hencode : ctx.codec.encode document with
    | error cause =>
      rw [hencode] at h
      cases h
    | ok text =>
      rw [hencode] at h
      obtain rfl := Except.ok.inj h
      refine ⟨by simp [Value.isNull], .string text, Value.storedAs_text rfl, ?_⟩
      show (ctx.codec.decode text).mapError _ = _
      rw [hcodec document text hdocument hencode]
      rfl

/-- A value of a plain type comes back from its cell, a point in time if its year has four digits; and
so does a document from a column of documents, whatever codec writes it there. -/
theorem Value.ofJson_stored :
    (∀ type ∈ DataType.plainTypes, ∀ document value, document.WellFormed →
      Value.ofJson document type = .ok value →
      (∀ moment, value = .timestamp moment → 0 ≤ moment.date.year ∧ moment.date.year ≤ 9999) →
      ∃ back document', value.StoredAs back ∧ back.toJson type = .ok document' ∧
        document'.WellFormed ∧ Value.ofJson document' type = .ok value) ∧
    (∀ {n : Nat} (ctx : BindContext n) (p : Property n) (field : DtoField) document value,
      ctx.codec.Reads → p.type = .json → field.type = .json → document.WellFormed →
      ctx.scalar p document = .ok value →
      (value.isNull ↔ document.isNull) ∧
        ∃ back, value.StoredAs back ∧ RowDecoder.cell ctx.codec field back = .ok document) := by
  constructor
  · intro type htype document value hdocument h hyear
    rcases Value.ofJson_eq_ok h with rfl | hpresent
    · exact Value.ComesBack.null type
    · exact Value.comesBack_of_present htype hdocument hpresent hyear
  · intro n ctx p field document value hcodec hp hfield hdocument h
    exact RowDecoder.cell_scalar hcodec hp hfield hdocument h

open Classical in
/-- JSON text for the documents that are read back from their text, and no others. -/
noncomputable def Codec.checked : Codec where
  encode document :=
    if Json.parse? document.print = some document then .ok document.print
    else .error "document changes in JSON text"
  decode := Codec.json.decode

theorem Codec.checked_encode {document : Json} (h : Json.parse? document.print = some document) :
    Codec.checked.encode document = .ok document.print := if_pos h

theorem Codec.checked_reads : Codec.checked.Reads := by
  intro document text _ hencode
  unfold Codec.checked at hencode
  dsimp only at hencode
  split at hencode
  · next hread =>
    obtain rfl := Except.ok.inj hencode
    show Codec.json.decode document.print = .ok document
    simp only [Codec.json, hread]
  · cases hencode

/-- A leap second ahead of universal time. -/
def Timestamp.leapSecond : Timestamp :=
  ⟨⟨2016, 12, 31, by decide⟩,
    ⟨18, 29, 59, 1500000000, by decide, by decide, by decide, by decide, by decide⟩⟩

/-- A document with nested parts and a quote in it. -/
def Json.sample : Json :=
  .object [("pages", .array [.int 12, .null]), ("title", .string "\"Ada\"")]

theorem Json.sample_wellFormed : Json.sample.WellFormed := by
  refine .object (by unfold Fields.Sorted; decide) fun field hfield => ?_
  simp only [List.mem_cons, List.not_mem_nil, or_false] at hfield
  rcases hfield with rfl | rfl
  · refine .array fun item hitem => ?_
    simp only [List.mem_cons, List.not_mem_nil, or_false] at hitem
    rcases hitem with rfl | rfl
    · exact .int (by decide)
    · exact .null
  · exact .string _

theorem Value.ofJson_stored_leapSecond :
    (∃ back document', (Value.timestamp .leapSecond).StoredAs back ∧
      back.toJson .timestamp = .ok document' ∧ document'.WellFormed ∧
      Value.ofJson document' .timestamp = .ok (.timestamp .leapSecond)) ∧
    (((Value.string Json.sample.print).isNull ↔ Json.sample.isNull) ∧
      ∃ back, (Value.string Json.sample.print).StoredAs back ∧
        RowDecoder.cell Codec.checked ⟨"details", 0, .json⟩ back = .ok Json.sample) := by
  constructor
  · have hread : Value.ofJson (.string "2016-12-31T23:59:60.5+05:30") .timestamp =
        .ok (.timestamp .leapSecond) := rfl
    refine Value.ofJson_stored.1 .timestamp (by decide) _ _ (.string _) hread ?_
    rintro moment ⟨⟩
    decide
  · have hprint : Json.parse? Json.sample.print = some Json.sample := rfl
    let ctx : BindContext 0 := ⟨⟨nofun⟩, Codec.checked, .leapSecond, fun _ => ⟨0⟩⟩
    refine Value.ofJson_stored.2 ctx { name := "details", content := .scalar .json } _ _ _
      Codec.checked_reads rfl rfl Json.sample_wellFormed ?_
    unfold BindContext.scalar
    dsimp only [ctx]
    rw [Codec.checked_encode hprint]
    rfl

end EntitySql
