import ApiTypings.Input.Format

/-!
# Failures

Everything that can end a run, with the message shown for it and with what lies
under it.
-/

namespace ApiTypings

/-- What lies under a failure: a message of its own, or a fault of a kind. -/
inductive Cause where
  | said (message : String)
  | json
  | yaml
  | files
  | template
deriving Repr, DecidableEq

inductive Failure where
  | configNotFound (path : String)
  | configUnreadable (path : String)
  | configRefused (path : String)
  | noInput
  | inputNotFound (path : String)
  | inputUnreadable (path : String)
  | inputNotJson (path : String)
  | inputNotYaml (path : String)
  | formatNotDetected (path : String)
  | unknownFormat (name : String)
  | inputRefused (format : InputFormat) (cause : InputError)
  | templateRefused (path : String)
  | directoryNotCreated (path : String)
  | hookFailed (command complaint : String)
  | templateNotRendered (api : String)
  /-- No file for an API, for a reason that can be said on its own. -/
  | notGenerated (api : String) (reason : Failure)
  | fileNotWritten (path : String)
deriving Repr

namespace Failure

def message : Failure → String
  | configNotFound path => "Config file not found: " ++ quoted path
  | configUnreadable path => "Failed to read config file: " ++ quoted path
  | configRefused path => "Failed to parse config file: " ++ quoted path
  | noInput => "No input source specified. Use --spec or configure input in config file"
  | inputNotFound path => "Input file not found: " ++ quoted path
  | inputUnreadable path => "Failed to read input file: " ++ quoted path
  | inputNotJson path => "Failed to parse JSON input: " ++ quoted path
  | inputNotYaml path => "Failed to parse YAML input: " ++ quoted path
  | formatNotDetected path => "Could not detect input format of " ++ quoted path
  | unknownFormat name =>
      "Unknown input format: " ++ name ++ " (available: " ++
        ", ".intercalate (InputFormat.all.map InputFormat.name) ++ ")"
  | inputRefused format _ => "Failed to parse " ++ format.name ++ " input"
  | templateRefused path => "Failed to load template: " ++ quoted path
  | directoryNotCreated path => "Failed to create output directory: " ++ quoted path
  | hookFailed command complaint => "Hook failed: " ++ command ++ "\nStderr: " ++ complaint
  | templateNotRendered api => "Failed to render template for " ++ api
  | notGenerated api _ => "Failed to generate " ++ api
  | fileNotWritten path => "Failed to write output file: " ++ quoted path

/-- What lies under a failure, the nearest first. -/
def causes : Failure → List Cause
  | configNotFound _ | noInput | inputNotFound _ | formatNotDetected _ | unknownFormat _
  | hookFailed _ _ => []
  | configUnreadable _ | inputUnreadable _ | directoryNotCreated _ | fileNotWritten _ => [.files]
  | configRefused _ | inputNotYaml _ => [.yaml]
  | inputNotJson _ => [.json]
  | inputRefused _ cause => cause.messages.map .said
  | templateRefused _ | templateNotRendered _ => [.template]
  | notGenerated _ reason => .said reason.message :: reason.causes

end Failure

end ApiTypings
