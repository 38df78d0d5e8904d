import ApiTypings.Files.Tree

/-!
# Hooks

A hook is a line for the shell. It finds the files as the run has left them up to there, and
it may change them (`Runner`); many hooks only look at them (`Reader`).

The lines that are understood here have semicolons between their commands, and only look. The
commands are `true`, `false`, `echo`, `exit`, and `test` for what is under a path; what `echo`
says goes to the standard output, which nobody reads, unless `>&2` sends it to the complaints.
-/

namespace ApiTypings.Hook

/-- What a hook leaves: its status, zero for success, and its complaints. -/
structure Result where
  status : Nat := 0
  complaint : String := ""
deriving Repr, DecidableEq

/-- A way to run hooks: in some files, a line comes to a result and leaves files. -/
abbrev Runner := FileTree → String → Result × FileTree

/-- A way to run hooks that change no file. -/
abbrev Reader := FileTree → String → Result

def Reader.runner (hook : Reader) : Runner :=
  fun tree line => (hook tree line, tree)

structure Progress where
  result : Result := {}
  exited : Bool := false
deriving Repr, DecidableEq

def words (text : List Char) : List String :=
  ((splitWhen (fun c => c == ' ' || c == '\t' || c == '\n') text).filter
    (!·.isEmpty)).map String.ofList

/-- The commands of a line, each as its words. -/
def commands (line : String) : List (List String) :=
  ((splitWhen (· == ';') line.toList).map words).filter (!·.isEmpty)

namespace Progress

def finish (progress : Progress) (status : Nat) : Progress :=
  { progress with result := { progress.result with status } }

def complain (progress : Progress) (status : Nat) (complaint : String) : Progress :=
  { progress with result := { status, complaint := progress.result.complaint ++ complaint } }

/-- Says some words; they are complaints if one of them is the mark for that. -/
def echo (progress : Progress) (said : List String) : Progress :=
  let toErrors := said.any fun word => word == ">&2" || word == "1>&2"
  let text := " ".intercalate (said.filter fun word => word != ">&2" && word != "1>&2") ++ "\n"
  if toErrors then progress.complain 0 text else progress.finish 0

/-- Ends the line, with the last status unless one is given. A status has eight bits. -/
def exit (progress : Progress) (status : Option String) : Progress :=
  let progress :=
    match status with
    | none => progress
    | some text =>
        match text.toNat? with
        | some status => progress.finish (status % 256)
        | none => progress.complain 2 ("sh: 1: exit: Illegal number: " ++ text ++ "\n")
  { progress with exited := true }

def test (progress : Progress) (condition : Bool) : Progress :=
  progress.finish (if condition then 0 else 1)

/-- Runs a command among some files, unless the line has ended. -/
def step (tree : FileTree) (progress : Progress) (command : List String) : Progress :=
  if progress.exited then progress
  else
    match command with
    | [] => progress
    | "true" :: _ => progress.finish 0
    | "false" :: _ => progress.finish 1
    | "echo" :: said => progress.echo said
    | "exit" :: arguments => progress.exit arguments.head?
    | ["test", "-e", path] => progress.test (tree.find? path).isSome
    | ["test", "-d", path] => progress.test (tree.find? path == some .directory)
    | ["test", "-f", path] => progress.test ((tree.find? path).any (· != .directory))
    | name :: _ => progress.complain 127 ("sh: 1: " ++ name ++ ": not found\n")

end Progress

/-- What a line comes to among some files. -/
def shell : Reader := fun tree line =>
  ((commands line).foldl (Progress.step tree) {}).result

def run : Runner := shell.runner

end ApiTypings.Hook
