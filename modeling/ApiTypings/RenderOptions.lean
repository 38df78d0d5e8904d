import ApiTypings.Json.Decode

/-!
# Options of the rendering
-/

namespace ApiTypings

/-- The casing of property keys: as they are, or with the first letter changed. -/
inductive KeyCasing where
  | auto
  | lowerFirst
  | upperFirst
deriving Repr, DecidableEq, Inhabited

structure CommentOptions where
  disabled : Bool := false
  insertExample : Bool := false
deriving Repr, DecidableEq, Inhabited

structure RenderOptions where
  useExport : Bool := true
  keyCasing : KeyCasing := .auto
  comments : CommentOptions := {}
  interfacePrefix : String := ""
  unionToEnum : Bool := true
deriving Repr, DecidableEq, Inhabited

namespace KeyCasing

def text : KeyCasing → String
  | .auto => "auto"
  | .lowerFirst => "lowerFirst"
  | .upperFirst => "upperFirst"

def all : List KeyCasing := [.auto, .lowerFirst, .upperFirst]

def ofText? (name : String) : Option KeyCasing :=
  all.find? (·.text == name)

def ofName (name : String) : Decoded KeyCasing :=
  match ofText? name with
  | some casing => .ok casing
  | none => .error (.unknownChoice name (all.map text))

/-- Reads a casing: its name, or an object with the name as its only member and
null as its value. -/
def decode : Json → Decoded KeyCasing
  | .string name => ofName name
  | .object [(name, value)] => do
      let casing ← ofName name
      match value with
      | .null => .ok casing
      | found => .error (.wrongKind found .unit)
  | .object _ => .error .notOneMember
  | found => .error (.wrongKind found .stringOrMap)

end KeyCasing

namespace CommentOptions

def decoder : RecordDecoder CommentOptions where
  name := "CommentOptions"
  fields := ["disabled", "insertExample"]
  set := fun name value options =>
    match name with
    | "disabled" => do return { options with disabled := ← value.decodeBool }
    | "insertExample" => do return { options with insertExample := ← value.decodeBool }
    | _ => .ok options

def decode : Json → Decoded CommentOptions := decoder.decode {}

end CommentOptions

namespace RenderOptions

def decoder : RecordDecoder RenderOptions where
  name := "RenderOptions"
  fields := ["useExport", "propertyFormat", "comments", "interfaceNamePrefix", "unionToEnum"]
  set := fun name value options =>
    match name with
    | "useExport" => do return { options with useExport := ← value.decodeBool }
    | "propertyFormat" => do return { options with keyCasing := ← KeyCasing.decode value }
    | "comments" => do return { options with comments := ← CommentOptions.decode value }
    | "interfaceNamePrefix" => do
        return { options with interfacePrefix := ← value.decodeString }
    | "unionToEnum" => do return { options with unionToEnum := ← value.decodeBool }
    | _ => .ok options

def decode : Json → Decoded RenderOptions := decoder.decode {}

end RenderOptions

end ApiTypings
