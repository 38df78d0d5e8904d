import ApiTypings.Metadata.Schema

/-!
# Shapes

What a schema says about types, with everything else left out: the five kinds of
nodes a declaration can tell apart. `Schema.shape` reads the shape off the schema,
all the way down.
-/

namespace ApiTypings

/-- The kinds that map straight to a type. -/
inductive Primitive where
  | string
  | integer
  | boolean
deriving Repr, DecidableEq

def Primitive.text : Primitive → String
  | .string => "string"
  | .integer => "number"
  | .boolean => "boolean"

structure Note where
  description : Option String := none
  deprecated : Bool := false
  sample : Option String := none
deriving Repr, DecidableEq

mutual
inductive Shape where
  | primitive (kind : Primitive)
  | enumeration (titles : Titles)
  | arrayOf (items : Shape)
  | objectWith (fields : List Field)
  | unknown

inductive Field where
  | mk (name : String) (optional : Bool) (note : Note) (shape : Shape)
end

namespace Field

def name : Field → String
  | .mk name _ _ _ => name

def optional : Field → Bool
  | .mk _ optional _ _ => optional

def note : Field → Note
  | .mk _ _ note _ => note

def shape : Field → Shape
  | .mk _ _ _ shape => shape

end Field

namespace Schema

def note (schema : Schema) : Note where
  description := schema.description
  deprecated := schema.isDeprecated
  sample := schema.sampleText

mutual
/-- A string with titles is an enumeration, even one without values; an array
without items is an array of something unknown; an object without properties is
unknown itself, and so is every other kind. -/
def shape : Schema → Shape
  | { kind, properties, items, titles, .. } =>
    match kind with
    | some "string" =>
        match titles with
        | some titles => .enumeration titles
        | none => .primitive .string
    | some "integer" => .primitive .integer
    | some "boolean" => .primitive .boolean
    | some "array" =>
        match items with
        | some items => .arrayOf items.shape
        | none => .arrayOf .unknown
    | some "object" =>
        match properties with
        | some properties => .objectWith (fieldsOf properties)
        | none => .unknown
    | _ => .unknown

def fieldsOf : List (String × Schema) → List Field
  | [] => []
  | (name, schema) :: rest =>
      .mk name schema.isOptional schema.note schema.shape :: fieldsOf rest
end

def toField (name : String) (schema : Schema) : Field :=
  .mk name schema.isOptional schema.note schema.shape

/-- Fields are made one by one. -/
theorem fieldsOf_eq_map (properties : List (String × Schema)) :
    fieldsOf properties = properties.map fun (name, schema) => schema.toField name := by
  induction properties with
  | nil => simp [fieldsOf]
  | cons head rest ih => simp [fieldsOf, toField, ih]

end Schema

end ApiTypings
