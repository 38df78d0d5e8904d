import ApiTypings.Config.Basic
import ApiTypings.Hook
import ApiTypings.Input.Document
import ApiTypings.OutputFile
import ApiTypings.Template.Reader

/-!
# Runs

A run first finds out what there is to do, without any effect. Then it creates the
directory, runs the hooks before, writes one file for each API, and runs the hooks
after. What was done before a failure stays done.
-/

namespace ApiTypings

/-- Where the files go: into a directory, or all to the standard output. -/
inductive Destination where
  | directory (path : String)
  | standardOutput
deriving Repr, DecidableEq

/-! ## Preparing -/

structure Job where
  apis : List NamedApi
  template : Option Template

/-- The format of a document: the named one, else the one it looks like. -/
def chooseFormat (input : InputConfig) (document : Json) : Except Failure InputFormat :=
  match input.format with
  | some name =>
      match InputFormat.ofName? name with
      | some format => .ok format
      | none => .error (.unknownFormat name)
  | none =>
      match InputFormat.detect document with
      | some format => .ok format
      | none => .error (.formatNotDetected input.source)

def readApis (tree : FileTree) (input : InputConfig) : Except Failure (List NamedApi) := do
  let document ← readDocument tree input.source
  let format ← chooseFormat input document
  (format.parse input.source document input.api).mapError (.inputRefused format)

def readTemplate (tree : FileTree) (path : String) : Except Failure Template :=
  match tree.find? path with
  | some (.file (.text content)) =>
      match Template.parse? content with
      | some template => .ok template
      | none => .error (.templateRefused path)
  | _ => .error (.templateRefused path)

def prepare (config : Config) (tree : FileTree) : Except Failure Job := do
  match config.input with
  | none => .error .noInput
  | some input =>
      let apis ← readApis tree input
      match config.template with
      | none => .ok { apis, template := none }
      | some path => .ok { apis, template := some (← readTemplate tree path) }

/-! ## Running -/

/-- Something a run does besides creating directories. -/
inductive Effect where
  | ranHook (command : String)
  | wrote (path content : String)
  | printed (content : String)
deriving Repr, DecidableEq

/-- What a run changes: the files, and the trace of what it has done, in order. -/
structure World where
  tree : FileTree
  trace : List Effect := []

namespace World

def did (world : World) (effect : Effect) : World :=
  { world with trace := world.trace ++ [effect] }

def printed (world : World) : String :=
  String.join (world.trace.filterMap fun
    | .printed content => some content
    | _ => none)

end World

/-- A step of a run. If it fails, the changes so far stay. -/
abbrev Step (α : Type) := ExceptT Failure (StateM World) α

def Step.ofExcept : Except Failure α → Step α
  | .ok value => pure value
  | .error failure => throw failure

def openDestination : Destination → Step Unit
  | .standardOutput => pure ()
  | .directory path => do
      match (← get).tree.createDirectories path with
      | .ok tree => modify fun world => { world with tree }
      | .error tree =>
          modify fun world => { world with tree }
          throw (.directoryNotCreated path)

/-- Runs a hook, which has to succeed. What it changes stays either way. -/
def runHook (hook : Hook.Runner) (command : String) : Step Unit := do
  let (result, tree) := hook (← get).tree command
  modify fun world => { world with tree }.did (.ranHook command)
  if result.status ≠ 0 then throw (.hookFailed command result.complaint)

def emit (destination : Destination) (name content : String) : Step Unit :=
  match destination with
  | .standardOutput => modify (·.did (.printed content))
  | .directory directory => do
      let path := Path.join directory name
      match (← get).tree.write? path content with
      | some tree => modify fun world => { world with tree }.did (.wrote path content)
      | none => throw (.fileNotWritten path)

def renderFile (options : RenderOptions) (template : Option Template) (api : NamedApi) :
    Except Failure String :=
  match fileContent? options template api with
  | some content => .ok content
  | none => .error (.templateNotRendered api.name)

def writeApi (config : Config) (template : Option Template) (destination : Destination)
    (api : NamedApi) : Step Unit := do
  let content ← Step.ofExcept
    ((renderFile config.render template api).mapError (.notGenerated api.name))
  emit destination (fileNameOf api) content

/-- Does what there is to do, and counts the files. -/
def Job.run (hook : Hook.Runner) (job : Job) (config : Config) (destination : Destination) :
    Step Nat := do
  openDestination destination
  config.hooks.before.forM (runHook hook)
  job.apis.forM (writeApi config job.template destination)
  config.hooks.after.forM (runHook hook)
  return job.apis.length

def run (hook : Hook.Runner) (config : Config) (destination : Destination) : Step Nat := do
  let job ← Step.ofExcept (prepare config (← get).tree)
  job.run hook config destination

end ApiTypings
