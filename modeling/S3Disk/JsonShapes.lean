import S3Disk.Library.Json
import S3Disk.Model

/-! The JSON of the local files, field by field. A type has a shape: the JSON value it is
written as, and how it is read from a value with Go's rules for a missing field. -/

namespace S3Disk

open Json (Value)

structure Shape (α : Type) where
  toValue : α → Value
  ofValue : Value → Option α

def readOr {α : Type} : Option α → Except Err α
  | some value => .ok value
  | none => .error (.plain ["invalid JSON"])

def Shape.json {α : Type} (shape : Shape α) : JSON α where
  marshal value := (shape.toValue value).encode
  unmarshal data := readOr ((Json.parse data).bind shape.ofValue)

def Shape.Returns {α : Type} (shape : Shape α) (value : α) : Prop :=
  shape.ofValue (shape.toValue value).coerce = some value

theorem Shape.unmarshal_marshal {α : Type} (shape : Shape α) (value : α) :
    shape.json.unmarshal (shape.json.marshal value) =
      readOr (shape.ofValue (shape.toValue value).coerce) := by
  simp only [json, Json.parse_encode, Option.bind_some]

theorem Shape.Returns.decode {α : Type} {shape : Shape α} {value : α} (returns : shape.Returns value)
    (small : (shape.json.marshal value).length ≤ maxMetadataObjectBytes) :
    decodeJSON shape.json (shape.json.marshal value) = .ok value := by
  have read := shape.unmarshal_marshal value
  rw [returns] at read
  simp [decodeJSON, Nat.not_lt.mpr small, read, readOr]

def fieldOf (name : String) (fields : List (Json.Text × Value)) : Option Value :=
  (fields.reverse.find? fun field => field.1 == ascii name).map Prod.snd

def readInt : Option Value → Option Int
  | none | some .null => some 0
  | some (.number value) => if -(maxInt64 : Int) - 1 ≤ value ∧ value ≤ maxInt64 then some value else none
  | _ => none

def readUint64 : Option Value → Option Nat
  | none | some .null => some 0
  | some (.number value) => if 0 ≤ value ∧ value ≤ maxUint64 then some value.toNat else none
  | _ => none

def readText : Option Value → Option Bytes
  | none | some .null => some []
  | some (.string text) => some text
  | _ => none

/-- A type with its own `UnmarshalJSON`, which a `null` reaches as the empty string. -/
def readParsed {α : Type} (zero : α) (parse : Bytes → Option α) : Option Value → Option α
  | none => some zero
  | some .null => parse []
  | some (.string text) => parse text
  | _ => none

def readDigest : Option Value → Option Digest := readParsed .zero parseDigest

def readRepositoryID : Option Value → Option RepositoryID := readParsed .zero parseRepositoryID

def readByteSlice : Option Value → Option Bytes
  | none | some .null => some []
  | some (.string text) => base64StandardDecode text
  | _ => none

def readPointer {α : Type} (read : Value → Option α) : Option Value → Option (Option α)
  | none | some .null => some none
  | some value => (read value).map some

/-- A struct keeps its zero value for a missing field and for `null`. -/
def readStruct {α : Type} (zero : α) (read : Value → Option α) : Option Value → Option α
  | none | some .null => some zero
  | some value => read value

def digestValue (digest : Digest) : Value := .string (hexEncode digest.bytes)

def repositoryIDValue (id : RepositoryID) : Value := .string (hexEncode id.bytes)

def byteSliceValue (bytes : Bytes) : Value := .string (base64Standard bytes)

def natValue (value : Nat) : Value := .number value

section

variable {fields : List (Json.Text × Value)} {value : Value} {name : String}

theorem coerceFields_eq (fields : List (Json.Text × Value)) :
    Json.coerceFields fields = fields.map fun field => (Json.coerce field.1, field.2.coerce) := by
  induction fields with
  | nil => rfl
  | cons field rest ih => simp [Json.coerceFields, ih]

def Named (fields : List (Json.Text × Value)) : Prop := ∀ field ∈ fields, validUTF8 field.1 = true

theorem Named.nil : Named [] := by
  intro field member
  cases member

theorem Named.cons (valid : validUTF8 (ascii name) = true) (rest : Named fields) :
    Named ((ascii name, value) :: fields) := by
  intro field member
  rcases List.mem_cons.mp member with rfl | inside
  · exact valid
  · exact rest field inside

theorem Named.append {others : List (Json.Text × Value)} (first : Named fields)
    (second : Named others) : Named (fields ++ others) := by
  intro field member
  rcases List.mem_append.mp member with inside | inside
  · exact first field inside
  · exact second field inside

theorem fieldOf_coerce (named : Named fields) :
    fieldOf name (Json.coerceFields fields) = (fieldOf name fields).map Value.coerce := by
  have renamed : Json.coerceFields fields = fields.map fun field => (field.1, field.2.coerce) := by
    rw [coerceFields_eq]
    refine List.map_congr_left fun field member => ?_
    rw [Json.coerce_of_valid (named field member)]
  rw [fieldOf, fieldOf, renamed, ← List.map_reverse, List.find?_map]
  simp [Option.map_map, Function.comp_def]

theorem coerce_text {text : Bytes} (valid : validUTF8 text = true) :
    (Value.string text).coerce = .string text := by
  rw [Value.coerce, Json.coerce_of_valid valid]

theorem coerce_digest (digest : Digest) : (digestValue digest).coerce = digestValue digest :=
  coerce_text (validUTF8_of_ascii fun _ => TextEncoding.hexEncode_small)

theorem coerce_repositoryID (id : RepositoryID) :
    (repositoryIDValue id).coerce = repositoryIDValue id :=
  coerce_text (validUTF8_of_ascii fun _ => TextEncoding.hexEncode_small)

theorem coerce_byteSlice (bytes : Bytes) : (byteSliceValue bytes).coerce = byteSliceValue bytes :=
  coerce_text (validUTF8_of_ascii fun _ => TextEncoding.base64Standard_small)

@[simp] theorem readDigest_value {digest : Digest} (sized : digest.bytes.length = 32) :
    readDigest (some (digestValue digest)) = some digest := by
  simp [readDigest, readParsed, digestValue, parseDigest, TextEncoding.hexDecode_hexEncode, sized]

@[simp] theorem readRepositoryID_value {id : RepositoryID} (sized : id.bytes.length = 32) :
    readRepositoryID (some (repositoryIDValue id)) = some id := by
  simp [readRepositoryID, readParsed, repositoryIDValue, parseRepositoryID,
    TextEncoding.hexDecode_hexEncode, sized]

@[simp] theorem readByteSlice_value (bytes : Bytes) :
    readByteSlice (some (byteSliceValue bytes)) = some bytes := by
  simp [readByteSlice, byteSliceValue, TextEncoding.base64StandardDecode_base64Standard]

theorem readPointer_value {α : Type} {read : Value → Option α} {toValue : α → Value}
    {pointer : Option α} (object : ∀ found, ∃ fields, (toValue found).coerce = .object fields)
    (back : ∀ found, pointer = some found → read (toValue found).coerce = some found) :
    readPointer read ((pointer.map toValue).map Value.coerce) = some pointer := by
  cases pointer with
  | none => rfl
  | some found =>
      have returned := back found rfl
      obtain ⟨fields, same⟩ := object found
      rw [same] at returned
      simp [readPointer, same, returned]

@[simp] theorem readUint64_value {value : Nat} (small : value ≤ maxUint64) :
    readUint64 (some (natValue value)) = some value := by
  simp only [readUint64, natValue]
  rw [if_pos (by omega)]
  simp

end

end S3Disk
