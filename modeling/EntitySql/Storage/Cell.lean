import EntitySql.Value.Json

/-! # Stored cells

What a database keeps of a value: cells have five classes, and columns have none, so that a cell comes
back as it went in (`value_ofText` for texts). `Cell.ofValue` stores a value, `Cell.value` reads it. -/

namespace EntitySql

/-- Why a value is not stored, or a statement not run. -/
inductive StorageError where
  | unbindable (value : Value)
  | invalidText
  | notPrepared
  | notExecuted
  | notQueried
deriving Repr

def StorageError.message : StorageError → String
  | unbindable value => "cannot bind " ++ value.describe ++ " to a single SQLite parameter"
  | invalidText => "invalid UTF-8 in text value"
  | notPrepared => "failed to prepare statement"
  | notExecuted => "failed to execute statement"
  | notQueried => "failed to execute query"

/-- A stored value. Integers are 64 bits wide; the bytes of a text may be no UTF-8. -/
inductive Cell where
  | null
  | integer (value : Int)
  | real (bits : UInt64)
  | text (bytes : ByteArray)
  | blob (bytes : List UInt8)

namespace Cell

def ofText (written : String) : Cell := .text written.toUTF8

/-- A float as it is stored: what is no number becomes null. -/
def ofDouble (bits : UInt64) : Cell :=
  match BinaryFormat.binary64.decode bits.toNat with
  | .nan => .null
  | _ => .real bits

/-- The cell that a value is stored in. Collections have none. -/
def ofValue : Value → Except StorageError Cell
  | .null => .ok .null
  | .boolean b => .ok (.integer (if b then 1 else 0))
  | .int n => .ok (.integer n)
  | .long n => .ok (.integer n)
  | .float bits => .ok (ofDouble (Value.widen bits))
  | .double bits => .ok (ofDouble bits)
  | .decimal written => .ok (ofText written)
  | .string written => .ok (ofText written)
  | .uuid id => .ok (ofText id.text)
  | .timestamp moment => .ok (ofText moment.textWithOffset)
  | .date day => .ok (ofText day.text)
  | .bytes bytes => .ok (.blob bytes)
  | .list items => .error (.unbindable (.list items))
  | .object fields => .error (.unbindable (.object fields))

/-- The value that a cell is read as. -/
def value : Cell → Except StorageError Value
  | null => .ok .null
  | integer n => .ok (.long n)
  | real bits => .ok (.double bits)
  | text bytes =>
    match String.fromUTF8? bytes with
    | some written => .ok (.string written)
    | none => .error .invalidText
  | blob bytes => .ok (.bytes bytes)

theorem value_ofText (written : String) : (ofText written).value = .ok (.string written) := by
  simp [ofText, value, String.fromUTF8?, String.fromUTF8, written.isValidUTF8]

/-- The cell as text: numbers are written out, floats with their 15 leading digits, and bytes are taken
for what they encode. -/
def toText : Cell → Cell
  | null => .null
  | integer n => ofText (toString n)
  | real bits => ofText (NumberStyle.stored.format .binary64 bits.toNat)
  | text bytes => .text bytes
  | blob bytes => .text ⟨bytes.toArray⟩

end Cell

end EntitySql
