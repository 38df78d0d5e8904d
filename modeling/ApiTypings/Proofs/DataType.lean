import ApiTypings.Metadata.ApiInfo
import ApiTypings.Proofs.PropertyKeys
import Mathlib.Data.List.Nodup

/-!
# Data types

What a type says about data, with names and doc comments left out. There are two ways to
come by it. `Schema.dataType` reads it off a schema. `Denotes` reads it off a type
expression, where the name of an interface stands for what the declarations say of it.
Names that are declared once are read in one way only (`Denotes.unique`).
-/

namespace ApiTypings

structure RecordEntry (α : Type) where
  key : String
  optional : Bool
  type : α

def RecordEntry.sameKey {α : Type} (entry other : RecordEntry α) : Bool :=
  entry.key == other.key

/-- What a type says about data. A token is the name of a primitive type. -/
inductive DataType where
  | any
  | token (name : String)
  | union (values : List String)
  | array (element : DataType)
  | record (entries : List (RecordEntry DataType))

/-- The record of some entries: of those with one key, the first. -/
def DataType.recordOf (entries : List (RecordEntry DataType)) : DataType :=
  .record (entries.eraseDupsBy RecordEntry.sameKey)

/-- What a response of the given data type, if it has one, is declared as. Only a record
is kept in full: an alias gives any other type the name of a primitive one, and `any` if
there is none. -/
def DataType.declaredAs : Option DataType → DataType
  | some (.record entries) => .record entries
  | some (.token name) => .token name
  | some (.union _) => .token "string"
  | _ => .any

/-! ## The data type of a schema -/

mutual
def Schema.dataType (casing : KeyCasing) : Schema → DataType
  | { kind, properties, items, titles, .. } =>
    match kind with
    | some "string" =>
        match titles with
        | none | some [] => .token "string"
        | some titles => .union (titles.map Prod.fst)
    | some "integer" => .token "number"
    | some "boolean" => .token "boolean"
    | some "array" =>
        match items with
        | some items => .array (items.dataType casing)
        | none => .array .any
    | some "object" =>
        match properties with
        | some properties => .recordOf (Schema.entriesOf casing properties)
        | none => .any
    | _ => .any

def Schema.entriesOf (casing : KeyCasing) :
    List (String × Schema) → List (RecordEntry DataType)
  | [] => []
  | (name, schema) :: rest =>
      ⟨casing.apply name, schema.required == some false, schema.dataType casing⟩ ::
        Schema.entriesOf casing rest
end

namespace ApiInfo

def responseType (casing : KeyCasing) (info : ApiInfo) : DataType :=
  .declaredAs (info.successSchema.map (Schema.dataType casing))

/-- The data type of the parameters: a record with an entry for each, where one without
a schema can be anything. -/
def parametersType (casing : KeyCasing) (info : ApiInfo) : DataType :=
  .recordOf (Schema.entriesOf casing
    (info.parameters.map fun parameter => (parameter.name, parameter.schema.getD {})))

end ApiInfo

/-! ## The data type of a shape -/

mutual
def Shape.dataType (casing : KeyCasing) : Shape → DataType
  | .primitive kind => .token kind.text
  | .enumeration titles =>
      if titles.isEmpty then .token "string" else .union (titles.map Prod.fst)
  | .arrayOf items => .array (items.dataType casing)
  | .objectWith fields => .recordOf (Shape.entriesOf casing fields)
  | .unknown => .any

def Shape.entriesOf (casing : KeyCasing) : List Field → List (RecordEntry DataType)
  | [] => []
  | .mk name optional _ shape :: rest =>
      ⟨casing.apply name, optional, shape.dataType casing⟩ :: Shape.entriesOf casing rest
end

mutual
/-- A schema and its shape are of one data type. -/
theorem Schema.dataType_shape (casing : KeyCasing) : ∀ schema : Schema,
    schema.shape.dataType casing = schema.dataType casing
  | { kind, properties, items, titles, .. } => by
      rw [Schema.shape.eq_def, Schema.dataType.eq_def]
      simp only
      split
      · cases titles with
        | none => rfl
        | some titles => cases titles <;> rfl
      · rfl
      · rfl
      · cases items with
        | none => rfl
        | some items =>
            exact congrArg DataType.array (Schema.dataType_shape casing items)
      · cases properties with
        | none => rfl
        | some properties =>
            exact congrArg DataType.recordOf (Schema.entriesOf_fieldsOf casing properties)
      · simp only [Shape.dataType]
theorem Schema.entriesOf_fieldsOf (casing : KeyCasing) :
    ∀ properties : List (String × Schema),
    Shape.entriesOf casing (Schema.fieldsOf properties) = Schema.entriesOf casing properties
  | [] => rfl
  | (name, schema) :: rest => by
      rw [Schema.fieldsOf, Shape.entriesOf, Schema.entriesOf,
        Schema.dataType_shape casing schema, Schema.entriesOf_fieldsOf casing rest]
      rfl
end

/-! ## The data type of a type expression -/

mutual
/-- What a type expression stands for under the given declarations. A reference stands
for the record of an interface, or for what an alias stands for. -/
inductive Denotes (decls : List Declaration) : TypeExpr → DataType → Prop
  | any : Denotes decls .any .any
  | primitive (kind : Primitive) : Denotes decls (.primitive kind) (.token kind.text)
  | literals (values : List String) : Denotes decls (.literals values) (.union values)
  | array {element : TypeExpr} {data : DataType} (h : Denotes decls element data) :
      Denotes decls (.array element) (.array data)
  | record {name : String} {properties : List Property}
      {entries : List (RecordEntry DataType)}
      (hdecl : .interface name properties ∈ decls)
      (h : DenoteAll decls properties entries) :
      Denotes decls (.interface name) (.record entries)
  | synonym {name : String} {type : TypeExpr} {data : DataType}
      (hdecl : .alias name type ∈ decls) (h : Denotes decls type data) :
      Denotes decls (.interface name) data

/-- What properties stand for, one by one: the keys as they are written and the marks of
the optional ones are those of the entries. -/
inductive DenoteAll (decls : List Declaration) :
    List Property → List (RecordEntry DataType) → Prop
  | nil : DenoteAll decls [] []
  | cons {doc : Option DocBlock} {key : String} {optional : Bool} {type : TypeExpr}
      {data : DataType} {properties : List Property} {entries : List (RecordEntry DataType)}
      (h : Denotes decls type data) (hrest : DenoteAll decls properties entries) :
      DenoteAll decls (⟨doc, keyText key, optional, type⟩ :: properties)
        (⟨key, optional, data⟩ :: entries)
end

mutual
/-- **One reading.** If no name is declared twice, a type expression stands for one data
type at most. -/
theorem Denotes.unique {decls : List Declaration}
    (hnodup : (decls.map Declaration.name).Nodup) :
    ∀ {type : TypeExpr} {data data' : DataType},
    Denotes decls type data → Denotes decls type data' → data = data'
  | _, _, _, .any, h' => by
      cases h'
      rfl
  | _, _, _, .primitive _, h' => by
      cases h'
      rfl
  | _, _, _, .literals _, h' => by
      cases h'
      rfl
  | _, _, _, .array helement, h' => by
      cases h' with
      | array helement' =>
          exact congrArg DataType.array (Denotes.unique hnodup helement helement')
  | _, _, _, .record hdecl hall, h' => by
      cases h' with
      | record hdecl' hall' =>
          obtain ⟨-, rfl⟩ := Declaration.interface.inj
            (List.inj_on_of_nodup_map hnodup hdecl hdecl' rfl)
          exact congrArg DataType.record (DenoteAll.unique hnodup hall hall')
      | synonym hdecl' =>
          exact nomatch List.inj_on_of_nodup_map hnodup hdecl hdecl' rfl
  | _, _, _, .synonym hdecl htype, h' => by
      cases h' with
      | record hdecl' =>
          exact nomatch List.inj_on_of_nodup_map hnodup hdecl hdecl' rfl
      | synonym hdecl' htype' =>
          obtain ⟨-, rfl⟩ := Declaration.alias.inj
            (List.inj_on_of_nodup_map hnodup hdecl hdecl' rfl)
          exact Denotes.unique hnodup htype htype'
theorem DenoteAll.unique {decls : List Declaration}
    (hnodup : (decls.map Declaration.name).Nodup) :
    ∀ {properties : List Property} {entries entries' : List (RecordEntry DataType)},
    DenoteAll decls properties entries → DenoteAll decls properties entries' →
      entries = entries'
  | _, _, _, .nil, h' => by
      cases h'
      rfl
  | _, _, _, .cons htype hrest, h' => by
      -- the key is known by its text only, which says all about it
      generalize hkey : keyText _ = text at h'
      cases h' with
      | cons htype' hrest' =>
          have hdata := Denotes.unique hnodup htype htype'
          have hentries := DenoteAll.unique hnodup hrest hrest'
          rw [keyText_injective hkey, hdata, hentries]
end

end ApiTypings
