import ApiTypings.Declaration.Basic

/-!
# Texts in parts

The text of a declaration is made of parts: names of interfaces and aliases, keys of
properties, and what is neither. Two changes to a declaration touch one kind of part each.
To rename interfaces is to change the names among the parts of their texts
(`Declaration.parts_rename`); to write other keys is to change the keys among them
(`Declaration.parts_mapKeys`). All other parts stay.
-/

namespace ApiTypings

inductive TextPart where
  /-- The name of an interface or an alias, where it is declared or referred to. -/
  | name (name : String)
  /-- The key of a property, as it is written. -/
  | key (key : String)
  | verbatim (text : String)
deriving Repr, DecidableEq

namespace TextPart

def text : TextPart → String
  | name text | key text | verbatim text => text

def mapName (f : String → String) : TextPart → TextPart
  | name text => name (f text)
  | key text => key text
  | verbatim text => verbatim text

def mapKey (f : String → String) : TextPart → TextPart
  | name text => name text
  | key text => key (f text)
  | verbatim text => verbatim text

end TextPart

def partsText (parts : List TextPart) : String :=
  String.join (parts.map TextPart.text)

@[simp] theorem partsText_nil : partsText [] = "" := rfl

@[simp] theorem partsText_cons (part : TextPart) (rest : List TextPart) :
    partsText (part :: rest) = part.text ++ partsText rest := by
  simp [partsText]

@[simp] theorem partsText_append (parts others : List TextPart) :
    partsText (parts ++ others) = partsText parts ++ partsText others := by
  simp [partsText]

/-- Pieces joined at once make what they make when each group is joined first. -/
theorem join_map_flatMap {α β : Type} (text : β → String) (pieces : α → List β)
    (items : List α) :
    String.join ((items.flatMap pieces).map text) =
      String.join (items.map fun item => String.join ((pieces item).map text)) := by
  induction items with
  | nil => rfl
  | cons item rest ih => simp [ih]

theorem partsText_flatMap {α : Type} {parts : α → List TextPart} {text : α → String}
    (h : ∀ item, partsText (parts item) = text item) (items : List α) :
    partsText (items.flatMap parts) = String.join (items.map text) := by
  rw [partsText, join_map_flatMap]
  exact congrArg String.join (List.map_congr_left fun item _ => h item)

/-! ## The parts of a declaration -/

/-- The parts of a type: a reference to an interface, with the brackets behind it, or
nothing but text. -/
def TypeExpr.parts : TypeExpr → List TextPart
  | .interface name => [.name name]
  | .array (.literals values) => [.verbatim (TypeExpr.array (.literals values)).text]
  | .array element => element.parts ++ [.verbatim "[]"]
  | .any => [.verbatim TypeExpr.any.text]
  | .primitive kind => [.verbatim kind.text]
  | .literals values => [.verbatim (literalsText values)]
  | .enumeration name => [.verbatim (enumerationText name)]

def Property.parts (property : Property) : List TextPart :=
  .verbatim (DocBlock.optionalText "  " property.doc) :: .verbatim "  " :: .key property.key ::
    .verbatim (if property.optional then "?" else "") :: .verbatim ": " ::
    (property.type.parts ++ [.verbatim ";\n"])

/-- The parts of a declaration. An alias refers to no interface. -/
def Declaration.parts (exported : Bool) : Declaration → List TextPart
  | .interface name properties =>
      .verbatim (exportMarker exported ++ "interface ") :: .name name :: .verbatim " \x7b\n" ::
        (properties.flatMap Property.parts ++ [.verbatim "\x7d\n"])
  | .alias name type =>
      [.verbatim (exportMarker exported ++ "type "), .name name,
        .verbatim (" = " ++ type.text ++ ";\n")]

theorem TypeExpr.parts_array_array (inner : TypeExpr) :
    (TypeExpr.array (.array inner)).parts =
      (TypeExpr.array inner).parts ++ [.verbatim "[]"] := by
  rw [parts]
  exact nofun

theorem TypeExpr.text_parts : ∀ type : TypeExpr, partsText type.parts = type.text
  | .any | .primitive _ | .literals _ | .enumeration _ | .interface _ => by
      simp [parts, text, TextPart.text]
  | .array element => by
      cases element with
      | literals values => simp [parts, TextPart.text]
      | any | primitive | enumeration | interface => simp [parts, text, TextPart.text]
      | array inner =>
          have ih := text_parts (.array inner)
          rw [parts_array_array, partsText_append, ih]
          simp [text, TextPart.text]

theorem Property.text_parts (property : Property) :
    partsText property.parts = property.text := by
  simp [parts, text, line, TextPart.text, TypeExpr.text_parts, String.append_assoc]

/-- The parts of a declaration make its text. -/
theorem Declaration.text_parts (exported : Bool) (decl : Declaration) :
    partsText (decl.parts exported) = decl.text exported := by
  cases decl <;>
    simp [parts, text, TextPart.text, String.append_assoc, partsText_flatMap Property.text_parts]

/-- What is done to each property in its parts is done to the body. -/
theorem flatMap_parts {g : Property → Property} {h : TextPart → TextPart}
    (hparts : ∀ property, (g property).parts = property.parts.map h)
    (properties : List Property) :
    (properties.map g).flatMap Property.parts = (properties.flatMap Property.parts).map h := by
  rw [List.flatMap_map, List.map_flatMap]
  exact congrArg properties.flatMap (funext hparts)

/-! ## Other names -/

section Rename

variable (f : String → String)

def TypeExpr.rename : TypeExpr → TypeExpr
  | .interface name => .interface (f name)
  | .array element => .array element.rename
  | .any => .any
  | .primitive kind => .primitive kind
  | .literals values => .literals values
  | .enumeration name => .enumeration name

/-- The property with other names for interfaces: only its type can change. -/
def Property.rename (property : Property) : Property :=
  { property with type := property.type.rename f }

/-- The declaration with other names for interfaces and aliases, its own and those its
properties refer to. -/
def Declaration.rename : Declaration → Declaration
  | .interface name properties => .interface (f name) (properties.map (Property.rename f))
  | .alias name type => .alias (f name) type

@[simp] theorem Declaration.name_rename (decl : Declaration) :
    (decl.rename f).name = f decl.name := by
  cases decl <;> rfl

theorem TypeExpr.parts_rename : ∀ type : TypeExpr,
    (type.rename f).parts = type.parts.map (TextPart.mapName f)
  | .any | .primitive _ | .literals _ | .enumeration _ | .interface _ => rfl
  | .array element => by
      cases element with
      | literals | any | primitive | enumeration | interface => rfl
      | array inner =>
          have ih := parts_rename (.array inner)
          rw [rename, rename, parts_array_array, ← rename, ih, parts_array_array,
            List.map_append]
          rfl

theorem Property.parts_rename (property : Property) :
    (property.rename f).parts = property.parts.map (TextPart.mapName f) := by
  have htype := property.type.parts_rename f
  simp only [parts, List.map_cons, List.map_append, ← htype]
  rfl

/-- To rename interfaces is to change the names among the parts. -/
theorem Declaration.parts_rename (exported : Bool) : ∀ decl : Declaration,
    (decl.rename f).parts exported = (decl.parts exported).map (TextPart.mapName f)
  | .interface name properties => by
      have hbody := flatMap_parts (Property.parts_rename f) properties
      simp [parts, rename, TextPart.mapName, hbody]
  | .alias _ _ => rfl

end Rename

/-! ## Other keys -/

section Keys

variable (f : String → String)

def Property.mapKey (property : Property) : Property :=
  { property with key := f property.key }

def Declaration.mapKeys : Declaration → Declaration
  | .interface name properties => .interface name (properties.map (Property.mapKey f))
  | .alias name type => .alias name type

@[simp] theorem Declaration.name_mapKeys (decl : Declaration) :
    (decl.mapKeys f).name = decl.name := by
  cases decl <;> rfl

/-- There are no keys in a type. -/
theorem TypeExpr.parts_map_mapKey : ∀ type : TypeExpr,
    type.parts.map (TextPart.mapKey f) = type.parts
  | .any | .primitive _ | .literals _ | .enumeration _ | .interface _ => rfl
  | .array element => by
      cases element with
      | literals | any | primitive | enumeration | interface => rfl
      | array inner =>
          have ih := parts_map_mapKey (.array inner)
          rw [parts_array_array, List.map_append, ih]
          rfl

theorem Property.parts_mapKey (property : Property) :
    (property.mapKey f).parts = property.parts.map (TextPart.mapKey f) := by
  have htype := property.type.parts_map_mapKey f
  simp only [parts, List.map_cons, List.map_append, htype]
  rfl

/-- To write other keys is to change the keys among the parts. -/
theorem Declaration.parts_mapKeys (exported : Bool) : ∀ decl : Declaration,
    (decl.mapKeys f).parts exported = (decl.parts exported).map (TextPart.mapKey f)
  | .interface name properties => by
      have hbody := flatMap_parts (Property.parts_mapKey f) properties
      simp [parts, mapKeys, TextPart.mapKey, hbody]
  | .alias _ _ => rfl

end Keys

end ApiTypings
