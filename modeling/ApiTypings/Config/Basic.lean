import ApiTypings.RenderOptions

/-!
# Configuration

Where the metadata comes from, where the declarations go, how they are rendered, and
which commands run before and after.
-/

namespace ApiTypings

/-- The input: a file, its format unless that is to be detected, and one API of it
unless all are wanted. -/
structure InputConfig where
  format : Option String := none
  source : String
  api : Option String := none
deriving Repr, DecidableEq

/-- Commands that run before the first file is written and after the last. -/
structure Hooks where
  before : List String := []
  after : List String := []
deriving Repr, DecidableEq

structure Config where
  version : String
  input : Option InputConfig := none
  output : Option String := none
  template : Option String := none
  render : RenderOptions := {}
  hooks : Hooks := {}
deriving Repr, DecidableEq

/-- The directory that files go to when no other is given. -/
def defaultOutput : String := "generated"

namespace InputConfig

def decoder : RecordDecoder InputConfig where
  name := "InputConfig"
  fields := ["format", "source", "api"]
  set := fun name value input =>
    match name with
    | "format" => do return { input with format := ← value.decodeOption Json.decodeString }
    | "source" => do return { input with source := ← value.decodePath }
    | "api" => do return { input with api := ← value.decodeOption Json.decodeString }
    | _ => .ok input

def decode : Json → Decoded InputConfig := decoder.decodeWith "source" { source := "" }

end InputConfig

namespace Hooks

def decoder : RecordDecoder Hooks where
  name := "HooksConfig"
  fields := ["beforeGenerate", "afterGenerate"]
  set := fun name value hooks =>
    match name with
    | "beforeGenerate" => do return { hooks with before := ← value.decodeList Json.decodeString }
    | "afterGenerate" => do return { hooks with after := ← value.decodeList Json.decodeString }
    | _ => .ok hooks

def decode : Json → Decoded Hooks := decoder.decode {}

end Hooks

namespace Config

/-- The configuration when there is no file for it. -/
def builtIn : Config where
  version := "1.0"
  output := some defaultOutput

def decoder : RecordDecoder Config where
  name := "Config"
  fields := ["version", "input", "output", "template", "render", "hooks"]
  set := fun name value config =>
    match name with
    | "version" => do return { config with version := ← value.decodeString }
    | "input" => do return { config with input := ← value.decodeOption InputConfig.decode }
    | "output" => do return { config with output := ← value.decodeOption Json.decodePath }
    | "template" => do return { config with template := ← value.decodeOption Json.decodePath }
    | "render" => do return { config with render := ← RenderOptions.decode value }
    | "hooks" => do return { config with hooks := ← Hooks.decode value }
    | _ => .ok config

def decode : Json → Decoded Config := decoder.decodeWith "version" { version := "" }

end Config

end ApiTypings
