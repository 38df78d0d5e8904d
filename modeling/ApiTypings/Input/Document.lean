import ApiTypings.Failure
import ApiTypings.Files.Tree
import ApiTypings.Json.Reader
import ApiTypings.Yaml.Scalar

/-!
# Input documents

A document is read from a file, as YAML if the extension says so and as JSON
otherwise.
-/

namespace ApiTypings

def isYamlPath (path : String) : Bool :=
  match Path.extension? path with
  | some extension => extension == "yaml" || extension == "yml"
  | none => false

def parseDocument (path content : String) : Except Failure Json :=
  if isYamlPath path then
    match Yaml.parseJson? content with
    | some document => .ok document
    | none => .error (.inputNotYaml path)
  else
    match Json.parse? content with
    | some document => .ok document
    | none => .error (.inputNotJson path)

def readDocument (tree : FileTree) (path : String) : Except Failure Json :=
  match tree.find? path with
  | none => .error (.inputNotFound path)
  | some (.file (.text content)) => parseDocument path content
  | some _ => .error (.inputUnreadable path)

end ApiTypings
