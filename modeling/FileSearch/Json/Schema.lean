import FileSearch.Json.Reader
import FileSearch.Json.Value
import FileSearch.Text.Truncate

/-!
# Records in JSON documents

A schema lists the fields of a record in order. The one list drives everything that is done with a
document of the record: reading an object by its keys, reading a list by position, writing, and
cutting texts to the limits of their fields.
-/

set_option autoImplicit false

namespace FileSearch.Json

/-- A kind of values: how they are read and written, and how a value is brought within limits. -/
structure Kind (β : Type) where
  read : Reader β
  write : β → Value
  limit : β → β

/-- A field of a record. A field that is not required keeps its default where a document does not
mention it. -/
structure Field (α : Type) where
  key : String
  Content : Type
  kind : Kind Content
  get : α → Content
  set : Content → α → α
  required : Bool

/-- The fields of a record, the name that messages use for it, and the record that a document
starts from. -/
structure Schema (α : Type) where
  name : String
  initial : α
  fields : List (Field α)

namespace Kind

/-- Truth values. -/
def flag : Kind Bool where
  read := readBoolean
  write := .boolean
  limit := id

/-- Texts of at most so many bytes. A longer one is read as it is. -/
def text (bytes : Nat) : Kind String where
  read := readText
  write := .text
  limit value := Text.truncate value bytes

end Kind

namespace Schema

variable {α : Type}

def field? (schema : Schema α) (key : String) : Option (Field α) :=
  schema.fields.find? fun field => field.key == key

/-- The first required field whose key is not among those that were seen. -/
def missing? (schema : Schema α) (seen : List String) : Option (Field α) :=
  schema.fields.find? fun field => field.required && !seen.contains field.key

/-- The rest of a text behind the colon of a member. -/
def skipColon (text : List Char) : Except Error (List Char) :=
  match dropSpaces text with
  | [] => .error .endInObject
  | ':' :: rest => .ok rest
  | _ => .error .colonExpected

/-- The member with a key: a field's value goes into the record, and a value that belongs to no
field is passed over. Gives the keys that were seen and the record. -/
def readMember (schema : Schema α) (key : String) (seen : List String) (record : α) :
    Reader (List String × α) := fun text =>
  match schema.field? key with
  | none => do
    let rest ← skipValue (← skipColon text)
    return ((seen, record), rest)
  | some field => do
    if seen.contains key then throw (.duplicateField key)
    let (value, rest) ← field.kind.read (← skipColon text)
    return ((key :: seen, field.set value record), rest)

/-- The record of an object that has been read to its end. -/
def endObject (schema : Schema α) (seen : List String) (record : α) : Reader α := fun rest =>
  match schema.missing? seen with
  | some field => .error (.missingField field.key)
  | none => .ok (record, rest)

/-- The members from a key on, up to the closing brace. Each member takes at least one character,
so `fuel` only has to be the length of the text. -/
def readMembers (schema : Schema α) : Nat → List String → α → Reader α
  | 0, _, _, _ => .error .endInObject
  | fuel + 1, seen, record, text =>
    match text with
    | '"' :: rest => do
      let (key, rest) ← readTextTail rest
      let ((seen, record), rest) ← schema.readMember (String.ofList key) seen record rest
      match dropSpaces rest with
      | [] => throw .endInObject
      | '}' :: rest => schema.endObject seen record rest
      | ',' :: rest =>
        match dropSpaces rest with
        | [] => throw .endInValue
        | '}' :: _ => throw .trailingComma
        | rest => schema.readMembers fuel seen record rest
      | _ => throw .memberEndExpected
    | _ => .error .keyNotText

/-- The record of a list whose last field has been read: nothing but the closing bracket may
follow. -/
def closeList (record : α) : Reader α := fun text =>
  match dropSpaces text with
  | [] => .error .endInList
  | ']' :: rest => .ok (record, rest)
  | ',' :: rest =>
    match dropSpaces rest with
    | ']' :: _ => .error .trailingComma
    | _ => .error .trailingCharacters
  | _ => .error .trailingCharacters

/-- The record of a list that ends after `count` elements and leaves the given fields out. -/
def endList (schema : Schema α) (fields : List (Field α)) (count : Nat) (record : α) : Reader α :=
  fun rest =>
    match (fields.zipIdx count).find? fun (field, _) => field.required with
    | some (_, position) => .error (.missingElement position schema.name schema.fields.length)
    | none => .ok (record, rest)

/-- The values of the given fields in order, after `count` elements. -/
def readPositions (schema : Schema α) : List (Field α) → Nat → α → Reader α
  | [], _, record, text => closeList record text
  | field :: fields, count, record, text =>
    let element (text : List Char) : Except Error (α × List Char) := do
      let (value, rest) ← field.kind.read text
      schema.readPositions fields (count + 1) (field.set value record) rest
    match dropSpaces text with
    | [] => .error .endInList
    | ']' :: rest => schema.endList (field :: fields) count record rest
    | ',' :: rest =>
      if count = 0 then element (',' :: rest)
      else match dropSpaces rest with
        | [] => .error .endInValue
        | ']' :: _ => .error .trailingComma
        | rest => element rest
    | rest => if count = 0 then element rest else .error .elementEndExpected

/-- A record, as an object or as a list of its fields' values. -/
def read (schema : Schema α) : Reader α := fun text =>
  match dropSpaces text with
  | '{' :: rest =>
    match dropSpaces rest with
    | [] => .error .endInObject
    | '}' :: rest => schema.endObject [] schema.initial rest
    | rest => schema.readMembers rest.length [] schema.initial rest
  | '[' :: rest => schema.readPositions schema.fields 0 schema.initial rest
  | rest => .error (refusal (.record schema.name) rest)

/-- The object of a record, with all fields in order. -/
def write (schema : Schema α) (record : α) : Value :=
  .object (schema.fields.map fun field => (field.key, field.kind.write (field.get record)))

/-- A record with every field brought within its limit. -/
def limit (schema : Schema α) (record : α) : α :=
  schema.fields.foldl (fun result field => field.set (field.kind.limit (field.get result)) result)
    record

/-- Records as values of fields. -/
def kind (schema : Schema α) : Kind α where
  read := schema.read
  write := schema.write
  limit := schema.limit

def readDocument (schema : Schema α) (document : String) : Except Error α :=
  Json.readDocument schema.read document

end Schema

namespace Field

variable {α β : Type}

def optional (key : String) (kind : Kind β) (get : α → β) (set : β → α → α) : Field α :=
  ⟨key, β, kind, get, set, false⟩

/-- A field that no document may leave out. -/
def mandatory (key : String) (kind : Kind β) (get : α → β) (set : β → α → α) : Field α :=
  ⟨key, β, kind, get, set, true⟩

/-- An optional truth value. -/
def flag (key : String) (get : α → Bool) (set : Bool → α → α) : Field α :=
  optional key Kind.flag get set

/-- An optional text of at most so many bytes. -/
def text (key : String) (bytes : Nat) (get : α → String) (set : String → α → α) : Field α :=
  optional key (Kind.text bytes) get set

/-- An optional record. -/
def group (key : String) (schema : Schema β) (get : α → β) (set : β → α → α) : Field α :=
  optional key schema.kind get set

end Field

end FileSearch.Json
