import ApiTypings.Text.Lines

/-!
# Paths

A path is text: segments between slashes, where `.` and the empty segment stay in
the directory at hand and `..` leaves it.
-/

namespace ApiTypings.Path

/-- The segments of a path, empty ones included. -/
def segments (path : String) : List String :=
  (splitWhen (· == '/') path.toList).map String.ofList

def isAbsolute (path : String) : Bool :=
  path.toList.head? == some '/'

/-- The last segment of a path that is not `.` or empty, unless it is `..`. -/
def fileName? (path : String) : Option String :=
  match ((segments path).filter fun s => s != "" && s != ".").getLast? with
  | some ".." => none
  | name => name

/-- A file name cut at its last dot; a dot in front does not count. -/
def splitExtension (name : String) : String × Option String :=
  let chars := name.toList
  let after := (chars.reverse.takeWhile (· != '.')).reverse
  let before := chars.take (chars.length - after.length - 1)
  if after.length = chars.length ∨ before.isEmpty then (name, none)
  else (String.ofList before, some (String.ofList after))

def fileStem? (path : String) : Option String :=
  (fileName? path).map fun name => (splitExtension name).1

def extension? (path : String) : Option String :=
  (fileName? path).bind fun name => (splitExtension name).2

/-- A path taken from a directory: an absolute path stays what it is. -/
def join (directory path : String) : String :=
  if isAbsolute path || directory.isEmpty then path
  else if directory.toList.getLast? == some '/' then directory ++ path
  else directory ++ "/" ++ path

end ApiTypings.Path
