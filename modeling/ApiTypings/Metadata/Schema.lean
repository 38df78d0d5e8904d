import ApiTypings.Json.Decode

/-!
# Schemas

A node of the schema tree of an API document. Every field is optional, so that
partial documents load; what kind of type a node stands for is decided by
`Schema.shape`.
-/

namespace ApiTypings

/-- Enumerated values with their titles, in order. -/
abbrev Titles := List (String × Option String)

structure Schema where
  kind : Option String := none
  properties : Option (List (String × Schema)) := none
  items : Option Schema := none
  titles : Option Titles := none
  description : Option String := none
  deprecated : Option Bool := none
  required : Option Bool := none
  sample : Option Json := none
  fallback : Option Json := none
deriving Inhabited

namespace Schema

/-- The fields of the list form, in order. -/
def fieldNames : List String :=
  ["type", "properties", "items", "enumValueTitles", "description", "deprecated",
    "required", "example", "default"]

/-- Puts the value of a field into a schema. `asSchema` and `asProperties` read the
value as one schema and as schemas by name, and are asked at most once. A
`deprecated` or `required` that is not a boolean reads as absent. -/
def setField (schema : Schema) (name : String) (value : Json)
    (asSchema : Unit → Decoded Schema)
    (asProperties : Unit → Decoded (List (String × Schema))) : Decoded Schema :=
  match name with
  | "type" => do
      return { schema with kind := ← value.decodeOption Json.decodeString }
  | "properties" => do
      return { schema with properties := ← value.decodeOption fun _ => asProperties () }
  | "items" => do
      return { schema with items := ← value.decodeOption fun _ => asSchema () }
  | "enumValueTitles" => do
      return { schema with
        titles := ← value.decodeOption (Json.decodeMap (Json.decodeOption Json.decodeString)) }
  | "description" => do
      return { schema with description := ← value.decodeOption Json.decodeString }
  | "deprecated" => .ok { schema with deprecated := value.bool? }
  | "required" => .ok { schema with required := value.bool? }
  | "example" => .ok { schema with sample := value.present? }
  | "default" => .ok { schema with fallback := value.present? }
  | _ => .ok schema

mutual
def decode : Json → Decoded Schema
  | .object members => decodeMembers members {}
  | .array items => decodeItems items.length fieldNames items {}
  | found => .error (.wrongKind found (.record "Schema"))

def decodeMembers : List (String × Json) → Schema → Decoded Schema
  | [], schema => .ok schema
  | (name, value) :: rest, schema => do
      let schema ← schema.setField name value
        (fun _ => decode value) (fun _ => decodeProperties value)
      decodeMembers rest schema

def decodeItems (count : Nat) : List String → List Json → Schema → Decoded Schema
  | _, [], schema => .ok schema
  | [], _ :: _, _ => .error (.tooManyItems count)
  | name :: names, value :: rest, schema => do
      let schema ← schema.setField name value
        (fun _ => decode value) (fun _ => decodeProperties value)
      decodeItems count names rest schema

def decodeProperties : Json → Decoded (List (String × Schema))
  | .object members => decodeNamed members
  | found => .error (.wrongKind found .map)

def decodeNamed : List (String × Json) → Decoded (List (String × Schema))
  | [] => .ok []
  | (name, value) :: rest => do
      let schema ← decode value
      let schemas ← decodeNamed rest
      return (name, schema) :: schemas
end

/-- Only an explicit `false` makes a property optional. -/
def isOptional (schema : Schema) : Bool :=
  schema.required == some false

/-- Only an explicit `true` makes a property deprecated. -/
def isDeprecated (schema : Schema) : Bool :=
  schema.deprecated == some true

/-- The example as text: a string as it is, unless it is empty, and any other value in
its JSON form. -/
def sampleText (schema : Schema) : Option String :=
  match schema.sample with
  | none => none
  | some .null => none
  | some (.string s) => if s.isEmpty then none else some s
  | some value => some value.compact

end Schema

end ApiTypings
