import ApiTypings.CommandLine

/-!
# The program

Reads the files that a call names, does the call on them, and brings back what it
changed.
-/

namespace ApiTypings

/-- What is found under a path: nothing, a file, or something that cannot be read as
one. -/
def snapshotEntry (tree : FileTree) (path : String) : IO FileTree := do
  let present ← try discard (IO.FS.realPath path); pure true catch _ => pure false
  if !present then return tree
  try
    let bytes ← IO.FS.readBinFile path
    match String.fromUTF8? bytes with
    | some text => return tree.addFile path (.text text)
    | none => return tree.addFile path (.binary bytes.toList)
  catch _ => return tree.addDirectory path

/-- The files below the directory at hand that a list of paths leads to, with the
directories on the way. -/
def snapshot (paths : List String) (tree : FileTree) : IO FileTree :=
  paths.foldlM snapshotEntry tree

/-- A path and the paths of the directories on the way to it, the outermost first. -/
def pathsTo (path : String) : List String :=
  let segments := Path.segments path
  ((List.range segments.length).map fun n => "/".intercalate (segments.take (n + 1))).filter
    (!·.isEmpty)

def hookPaths (hooks : Hooks) : List String :=
  (hooks.before ++ hooks.after).flatMap fun line =>
    (Hook.commands line).filterMap fun
      | ["test", _, path] => some path
      | _ => none

def namedPaths (config : Config) (destination : Destination) (job : Except Failure Job) :
    List String :=
  let inputs := (config.input.map InputConfig.source).toList ++ config.template.toList ++
    hookPaths config.hooks
  let outputs :=
    match destination, job with
    | .directory directory, .ok job =>
        pathsTo directory ++ job.apis.map fun api => Path.join directory (fileNameOf api)
    | _, _ => []
  inputs ++ outputs

def snapshotFor (args : List String) : IO FileTree := do
  match readArguments args {} with
  | none => return {}
  | some arguments =>
      let tree ← snapshot [(arguments.value? .config).getD Config.defaultPath] {}
      match configOf arguments tree with
      | .error _ => return tree
      | .ok config =>
          let destination := destinationOf arguments config
          let tree ← snapshot (namedPaths config destination (.error .noInput)) tree
          snapshot (namedPaths config destination (prepare config tree)) tree

def perform : Effect → IO Unit
  | .printed content => IO.print content
  | .wrote path content => IO.FS.writeFile path content
  | .ranHook _ => pure ()

def report (failure : Failure) : String :=
  let causes := failure.causes.map fun
    | .said message => message
    | .json => "malformed JSON"
    | .yaml => "malformed YAML"
    | .files => "the file system refused"
    | .template => "malformed template"
  "\n".intercalate (("Error: " ++ failure.message) :: causes.map ("    " ++ ·))

end ApiTypings

open ApiTypings in
def main (args : List String) : IO UInt32 := do
  let tree ← snapshotFor args
  let result := runCommandLine Hook.run args tree
  for path in tree.newDirectories result.world.tree do
    IO.FS.createDirAll path
  result.world.trace.forM perform
  if result.exit = 2 then IO.eprintln "error: unexpected arguments"
  if let some failure := result.failure then IO.eprintln (report failure)
  return result.exit.toUInt32
