import ApiTypings.Config.Basic
import ApiTypings.Failure
import ApiTypings.Files.Tree
import ApiTypings.Yaml.Scalar

/-!
# Configuration files

A configuration file is YAML. Texts keep the spelling of their scalars, whatever kind
that has; a name that a record knows may stand in it once.
-/

namespace ApiTypings

namespace Yaml.Node

/-- Whether a value that may be absent is absent: a word for null, or nothing at all. -/
def isAbsent : Node → Bool
  | .scalar true none text => text.isEmpty || isNullWord text
  | .scalar true (some (.core "null")) text => isNullWord text
  | _ => false

def option? (read : Node → Option α) (node : Node) : Option (Option α) :=
  if node.isAbsent then some none else (read node).map some

def bool? : Node → Option Bool
  | .scalar true _ text => boolOfWord? text
  | _ => none

/-- The texts of a sequence of scalars; nothing at all counts as no items. -/
def texts? : Node → Option (List String)
  | .sequence _ items => items.mapM scalarText?
  | .scalar true _ "" => some []
  | _ => none

/-- Reads the entries of a record, where `seen` are the names that have been read. -/
def setFields (fields : List String) (set : String → Node → σ → Option σ) :
    List String → List (Node × Node) → σ → Option σ
  | _, [], record => some record
  | seen, (key, value) :: rest, record => do
      let name ← key.scalarText?
      if fields.contains name then
        if seen.contains name then none
        else
          let record ← set name value record
          setFields fields set (name :: seen) rest record
      else setFields fields set seen rest record

/-- Reads a mapping as a record, starting from its defaults; nothing at all counts as no
entries. -/
def record? (fields : List String) (set : String → Node → σ → Option σ) (defaults : σ) :
    Node → Option σ
  | .mapping _ entries => setFields fields set [] entries defaults
  | .scalar true _ "" => some defaults
  | _ => none

def hasEntry (name : String) : Node → Bool
  | .mapping _ entries => entries.any fun (key, _) => key.scalarText? == some name
  | _ => false

end Yaml.Node

open Yaml (Node)

/-- The input of a node. Its source has to be there. -/
def InputConfig.ofNode? (node : Node) : Option InputConfig :=
  if node.hasEntry "source" then
    node.record? decoder.fields (fun name value input =>
      match name with
      | "format" => do return { input with format := ← value.option? Node.scalarText? }
      | "source" => do return { input with source := ← value.scalarText? }
      | "api" => do return { input with api := ← value.option? Node.scalarText? }
      | _ => some input) { source := "" }
  else none

def Hooks.ofNode? : Node → Option Hooks :=
  Node.record? decoder.fields (fun name value hooks =>
    match name with
    | "beforeGenerate" => do return { hooks with before := ← value.texts? }
    | "afterGenerate" => do return { hooks with after := ← value.texts? }
    | _ => some hooks) {}

def KeyCasing.ofNode? : Node → Option KeyCasing
  | .scalar _ (some (.custom _)) _ => none
  | .scalar _ _ name => ofText? name
  | _ => none

def CommentOptions.ofNode? : Node → Option CommentOptions :=
  Node.record? decoder.fields (fun name value options =>
    match name with
    | "disabled" => do return { options with disabled := ← value.bool? }
    | "insertExample" => do return { options with insertExample := ← value.bool? }
    | _ => some options) {}

def RenderOptions.ofNode? : Node → Option RenderOptions :=
  Node.record? decoder.fields (fun name value options =>
    match name with
    | "useExport" => do return { options with useExport := ← value.bool? }
    | "propertyFormat" => do return { options with keyCasing := ← KeyCasing.ofNode? value }
    | "comments" => do return { options with comments := ← CommentOptions.ofNode? value }
    | "interfaceNamePrefix" => do return { options with interfacePrefix := ← value.scalarText? }
    | "unionToEnum" => do return { options with unionToEnum := ← value.bool? }
    | _ => some options) {}

namespace Config

/-- The configuration of a node. Its version has to be there. -/
def ofNode? (node : Node) : Option Config :=
  if node.hasEntry "version" then
    node.record? decoder.fields (fun name value config =>
      match name with
      | "version" => do return { config with version := ← value.scalarText? }
      | "input" => do return { config with input := ← value.option? InputConfig.ofNode? }
      | "output" => do return { config with output := ← value.option? Node.scalarText? }
      | "template" => do return { config with template := ← value.option? Node.scalarText? }
      | "render" => do return { config with render := ← RenderOptions.ofNode? value }
      | "hooks" => do return { config with hooks := ← Hooks.ofNode? value }
      | _ => some config) { version := "" }
  else none

def parse? (text : String) : Option Config := do
  ofNode? (← Node.parse? text)

/-- Where the configuration is when no other file is named. -/
def defaultPath : String := "./.config/schema2ts.yaml"

def read (path : String) : FileNode → Except Failure Config
  | .file (.text content) =>
      match parse? content with
      | some config => .ok config
      | none => .error (.configRefused path)
  | _ => .error (.configUnreadable path)

/-- The configuration in the named file, or in the default file. Only the latter may be
absent. -/
def load (tree : FileTree) (path : Option String) : Except Failure Config :=
  let place := path.getD defaultPath
  match tree.find? place with
  | some node => read place node
  | none => if path.isSome then .error (.configNotFound place) else .ok builtIn

end Config

end ApiTypings
