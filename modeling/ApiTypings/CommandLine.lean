import ApiTypings.Config.File
import ApiTypings.Config.Overrides
import ApiTypings.Run

/-!
# The command line

Options with a value are given as `--name value`, `--name=value`, `-n value`, `-nvalue`
or `-n=value`, switches as `--name` or `-n`, and short switches may be joined. Nothing
may be given twice, and nothing else may be given.
-/

namespace ApiTypings

inductive ValueOption where
  | spec
  | output
  | config
  | format
  | api
  | template
  | interfacePrefix
  | propertyFormat
deriving Repr, DecidableEq

inductive Switch where
  | noExport
  | noComments
  | insertExample
  | noEnum
  | stdout
  | verbose
deriving Repr, DecidableEq

namespace ValueOption

def all : List ValueOption :=
  [spec, output, config, format, api, template, interfacePrefix, propertyFormat]

/-- The name behind two hyphens. -/
def name : ValueOption → String
  | spec => "spec"
  | output => "output"
  | config => "config"
  | format => "format"
  | api => "api"
  | template => "template"
  | interfacePrefix => "prefix"
  | propertyFormat => "property-format"

/-- The letter behind one hyphen. -/
def letter? : ValueOption → Option Char
  | spec => some 's'
  | output => some 'o'
  | config => some 'c'
  | api => some 'a'
  | _ => none

/-- Whether an option takes a value. Paths are not empty, and casings have names. -/
def takes (option : ValueOption) (value : String) : Bool :=
  match option with
  | spec | output | config | template => !value.isEmpty
  | propertyFormat => (KeyCasing.ofText? value).isSome
  | format | api | interfacePrefix => true

end ValueOption

namespace Switch

def all : List Switch := [noExport, noComments, insertExample, noEnum, stdout, verbose]

def name : Switch → String
  | noExport => "no-export"
  | noComments => "no-comments"
  | insertExample => "insert-example"
  | noEnum => "no-enum"
  | stdout => "stdout"
  | verbose => "verbose"

def letter? : Switch → Option Char
  | verbose => some 'v'
  | _ => none

end Switch

/-! ## Arguments -/

structure Arguments where
  values : List (ValueOption × String) := []
  switches : List Switch := []
deriving Repr, DecidableEq

namespace Arguments

def value? (arguments : Arguments) (option : ValueOption) : Option String :=
  arguments.values.lookup option

def isOn (arguments : Arguments) (switch : Switch) : Bool :=
  arguments.switches.contains switch

/-- Gives a value to an option that has none. -/
def set? (arguments : Arguments) (option : ValueOption) (value : String) : Option Arguments :=
  if (arguments.value? option).isSome || !option.takes value then none
  else some { arguments with values := (option, value) :: arguments.values }

def turnOn? (arguments : Arguments) (switch : Switch) : Option Arguments :=
  if arguments.isOn switch then none
  else some { arguments with switches := switch :: arguments.switches }

def overrides (arguments : Arguments) : Overrides where
  source := arguments.value? .spec
  output := arguments.value? .output
  format := arguments.value? .format
  api := arguments.value? .api
  template := arguments.value? .template
  interfacePrefix := arguments.value? .interfacePrefix
  keyCasing := (arguments.value? .propertyFormat).bind KeyCasing.ofText?
  noExport := arguments.isOn .noExport
  noComments := arguments.isOn .noComments
  insertExample := arguments.isOn .insertExample
  noEnum := arguments.isOn .noEnum

end Arguments

/-- What one argument amounts to: it is complete, or an option waits for its value. -/
inductive Reading where
  | complete (arguments : Arguments)
  | awaits (option : ValueOption) (arguments : Arguments)

/-- Reads what stands behind two hyphens. -/
def readLong (text : List Char) (arguments : Arguments) : Option Reading :=
  let name := String.ofList (text.takeWhile (· != '='))
  match Switch.all.find? (·.name == name), ValueOption.all.find? (·.name == name),
      text.dropWhile (· != '=') with
  | some switch, _, [] => (arguments.turnOn? switch).map .complete
  | none, some option, [] => some (.awaits option arguments)
  | none, some option, _ :: value => (arguments.set? option (String.ofList value)).map .complete
  | _, _, _ => none

/-- Reads what stands behind one hyphen: switches, and perhaps an option with its
value. -/
def readShort : List Char → Arguments → Option Reading
  | [], arguments => some (.complete arguments)
  | c :: rest, arguments =>
      match Switch.all.find? (·.letter? == some c) with
      | some switch => do readShort rest (← arguments.turnOn? switch)
      | none => do
          let option ← ValueOption.all.find? (·.letter? == some c)
          match rest with
          | [] => some (.awaits option arguments)
          | '=' :: value => (arguments.set? option (String.ofList value)).map .complete
          | value => (arguments.set? option (String.ofList value)).map .complete

def readArgument (text : String) (arguments : Arguments) : Option Reading :=
  match text.toList with
  | '-' :: '-' :: long => readLong long arguments
  | '-' :: c :: short => readShort (c :: short) arguments
  | _ => none

/-- Whether an argument can be the value of the option in front of it. -/
def isValue (text : String) : Bool :=
  match text.toList with
  | '-' :: _ :: _ => false
  | _ => true

/-- Reads all arguments. Nothing may follow two hyphens that stand alone. -/
def readArguments : List String → Arguments → Option Arguments
  | [], arguments => some arguments
  | text :: rest, arguments =>
      if text == "--" then (if rest.isEmpty then some arguments else none)
      else
        match readArgument text arguments with
        | none => none
        | some (.complete arguments) => readArguments rest arguments
        | some (.awaits option arguments) =>
            match rest with
            | [] => none
            | value :: rest =>
                if isValue value then
                  match arguments.set? option value with
                  | none => none
                  | some arguments => readArguments rest arguments
                else none

/-! ## The program -/

structure CommandResult where
  exit : Nat
  failure : Option Failure := none
  world : World

def destinationOf (arguments : Arguments) (config : Config) : Destination :=
  if arguments.isOn .stdout then .standardOutput
  else .directory (config.output.getD defaultOutput)

def configOf (arguments : Arguments) (tree : FileTree) : Except Failure Config :=
  (Config.load tree (arguments.value? .config)).map arguments.overrides.apply

/-- Calls the program. Arguments that are refused end it with status 2, failures with
status 1. -/
def runCommandLine (hook : Hook.Runner) (args : List String) (tree : FileTree) :
    CommandResult :=
  match readArguments args {} with
  | none => { exit := 2, world := { tree } }
  | some arguments =>
      match configOf arguments tree with
      | .error failure => { exit := 1, failure, world := { tree } }
      | .ok config =>
          match (run hook config (destinationOf arguments config)).run.run { tree } with
          | (.ok _, world) => { exit := 0, world }
          | (.error failure, world) => { exit := 1, failure, world }

end ApiTypings
