import ApiTypings.Json.Printer
import ApiTypings.Text.Quoted

/-!
# Reading records out of JSON values

A record is spelled as an object, or as a list of its fields in order. Fields are
read in the order of the document and the first error wins; unknown members are
skipped, and fields that are not there keep their defaults.
-/

namespace ApiTypings

inductive Expected where
  | string
  | path
  | bool
  | list
  | map
  | unit
  | stringOrMap
  | record (name : String)
deriving Repr, DecidableEq

inductive DecodeError where
  /-- A value of another kind. -/
  | wrongKind (found : Json) (expected : Expected)
  /-- A list with more items than the record has fields. -/
  | tooManyItems (count : Nat)
  /-- A list that ends before a field without default. -/
  | tooFewItems (count : Nat) (record : String) (fields : Nat)
  /-- An object without the member for a field that has no default. -/
  | missingField (field : String)
  /-- A choice that is none of those on offer. -/
  | unknownChoice (found : String) (choices : List String)
  /-- An object for a choice that does not have exactly one member. -/
  | notOneMember
deriving Repr

abbrev Decoded (α : Type) := Except DecodeError α

namespace Expected

def text : Expected → String
  | .string => "a string"
  | .path => "path string"
  | .bool => "a boolean"
  | .list => "a sequence"
  | .map => "a map"
  | .unit => "unit"
  | .stringOrMap => "string or map"
  | .record name => "struct " ++ name

end Expected

def Json.describe : Json → String
  | .null => "null"
  | .bool b => "boolean `" ++ (if b then "true" else "false") ++ "`"
  | .number (.integer n) => "integer `" ++ toString n ++ "`"
  | .number (.double x) => "floating point `" ++ x.text ++ "`"
  | .string s => "string " ++ quoted s
  | .array _ => "sequence"
  | .object _ => "map"

namespace DecodeError

def message : DecodeError → String
  | .wrongKind found expected =>
      "invalid type: " ++ found.describe ++ ", expected " ++ expected.text
  | .tooManyItems count =>
      "invalid length " ++ toString count ++ ", expected fewer elements in array"
  | .tooFewItems count record fields =>
      "invalid length " ++ toString count ++ ", expected struct " ++ record ++ " with " ++
        toString fields ++ " elements"
  | .missingField field => "missing field `" ++ field ++ "`"
  | .unknownChoice found choices =>
      "unknown variant `" ++ found ++ "`, expected one of " ++
        ", ".intercalate (choices.map fun choice => "`" ++ choice ++ "`")
  | .notOneMember => "invalid value: map, expected map with a single key"

end DecodeError

namespace Json

def decodeString : Json → Decoded String
  | .string s => .ok s
  | found => .error (.wrongKind found .string)

/-- A path is a string, but is asked for by its own name. -/
def decodePath : Json → Decoded String
  | .string s => .ok s
  | found => .error (.wrongKind found .path)

def decodeBool : Json → Decoded Bool
  | .bool b => .ok b
  | found => .error (.wrongKind found .bool)

/-- Null is absence. -/
def decodeOption (decode : Json → Decoded α) : Json → Decoded (Option α)
  | .null => .ok none
  | value => some <$> decode value

/-- Any value but null, which is absence. -/
def present? : Json → Option Json
  | .null => none
  | value => some value

def decodeList (decode : Json → Decoded α) : Json → Decoded (List α)
  | .array items => items.mapM decode
  | found => .error (.wrongKind found .list)

def decodeMap (decode : Json → Decoded α) : Json → Decoded (List (String × α))
  | .object members => members.mapM fun (name, value) => (name, ·) <$> decode value
  | found => .error (.wrongKind found .map)

end Json

/-- How a record is read: its name, its fields in the order of the list form, and what
the value of a field does to the record. Other names must leave the record alone. -/
structure RecordDecoder (σ : Type) where
  name : String
  fields : List String
  set : String → Json → σ → Decoded σ

namespace RecordDecoder

def ofMembers (r : RecordDecoder σ) : List (String × Json) → σ → Decoded σ
  | [], record => .ok record
  | (name, value) :: rest, record => do
      let record ← r.set name value record
      r.ofMembers rest record

/-- Reads the items of the list form against the fields that are left. -/
def ofItems (r : RecordDecoder σ) (count : Nat) : List String → List Json → σ → Decoded σ
  | _, [], record => .ok record
  | [], _ :: _, _ => .error (.tooManyItems count)
  | name :: names, value :: rest, record => do
      let record ← r.set name value record
      r.ofItems count names rest record

def decode (r : RecordDecoder σ) (defaults : σ) : Json → Decoded σ
  | .object members => r.ofMembers members defaults
  | .array items => r.ofItems items.length r.fields items defaults
  | found => .error (.wrongKind found (.record r.name))

/-- Checks that a field without default is there. -/
def requires (r : RecordDecoder σ) (field : String) : Json → Decoded Unit
  | .object members =>
      if members.any (·.1 == field) then .ok () else .error (.missingField field)
  | .array items =>
      let place := r.fields.idxOf field
      if place < items.length then .ok ()
      else .error (.tooFewItems place r.name r.fields.length)
  | _ => .ok ()

/-- Reads a record that has a field without default; what the defaults say about that
field does not matter. -/
def decodeWith (r : RecordDecoder σ) (field : String) (defaults : σ) (value : Json) :
    Decoded σ := do
  let record ← r.decode defaults value
  r.requires field value
  return record

end RecordDecoder

end ApiTypings
