import ApiTypings.Files.Path

/-!
# File trees

Directories and files as a run finds them and leaves them. A place in the tree is
the list of names that lead to it from the working directory; places above that
start with `..` or `/`. Nothing is known about the files up there, but the
directories on the way exist.
-/

namespace ApiTypings

/-- What a file holds: text, or bytes that are not UTF-8. -/
inductive FileContent where
  | text (content : String)
  | binary (bytes : List UInt8)
deriving Repr, DecidableEq

inductive FileNode where
  | directory
  | file (content : FileContent)
deriving Repr, DecidableEq

/-- The names that lead to a place from the working directory. -/
abbrev Place := List String

/-- The directories and files below the working directory, by place. -/
structure FileTree where
  nodes : List (Place × FileNode) := []
deriving Repr, DecidableEq, Inhabited

namespace FileTree

/-- Whether a place is the working directory or one above it, or the root. -/
def isAbove (place : Place) : Bool :=
  place.all (· == "..") || place == ["/"]

/-- The node at a place. The working directory and those above it are directories. -/
def nodeAt? (tree : FileTree) (place : Place) : Option FileNode :=
  if isAbove place then some .directory else tree.nodes.lookup place

def isDirectory (tree : FileTree) (place : Place) : Bool :=
  tree.nodeAt? place == some .directory

/-- Sets the node of a place among nodes: where it is, or at the end. -/
def setNode (place : Place) (node : FileNode) :
    List (Place × FileNode) → List (Place × FileNode)
  | [] => [(place, node)]
  | (p, n) :: rest =>
      if p == place then (place, node) :: rest else (p, n) :: setNode place node rest

def put (tree : FileTree) (place : Place) (node : FileNode) : FileTree :=
  { tree with nodes := setNode place node tree.nodes }

theorem lookup_setNode (place other : Place) (node : FileNode) (nodes : List (Place × FileNode)) :
    (setNode place node nodes).lookup other =
      if other = place then some node else nodes.lookup other := by
  induction nodes with
  | nil =>
    by_cases h : other = place
    · simp [setNode, h]
    · simp [setNode, List.lookup_cons, h, beq_false_of_ne h]
  | cons head rest ih =>
    obtain ⟨p, n⟩ := head
    by_cases hp : p = place
    · subst hp
      by_cases h : other = p
      · simp [setNode, h]
      · simp [setNode, List.lookup_cons, h, beq_false_of_ne h]
    · by_cases h : other = p
      · subst h
        simp [setNode, hp]
      · simp [setNode, List.lookup_cons, hp, beq_false_of_ne h, ih]

/-- Putting a node changes what is found at its place, and nothing else. -/
theorem nodeAt?_put (tree : FileTree) (place other : Place) (node : FileNode)
    (h : isAbove place = false) :
    (tree.put place node).nodeAt? other =
      if other = place then some node else tree.nodeAt? other := by
  by_cases ho : other = place
  · subst ho
    simp [nodeAt?, put, h, lookup_setNode]
  · simp [nodeAt?, put, ho, lookup_setNode]

def parent (place : Place) : Place :=
  if place == ["/"] then place
  else if isAbove place then ".." :: place
  else place.dropLast

/-- Whether a name can be that of a file: it has no NUL and at most 255 bytes. -/
def isFileName (name : String) : Bool :=
  !name.toList.any (·.toNat == 0) && name.utf8ByteSize ≤ 255

def step (tree : FileTree) (place : Place) (segment : String) : Option Place :=
  if !tree.isDirectory place || !isFileName segment then none
  else if segment == "" || segment == "." then some place
  else if segment == ".." then some (parent place)
  else some (place ++ [segment])

def start (path : String) : Place :=
  if Path.isAbsolute path then ["/"] else []

/-- The place a path leads to. Every segment but the last has to lead to a directory;
the empty path leads nowhere. -/
def resolve (tree : FileTree) (path : String) : Option Place :=
  if path.isEmpty then none
  else (Path.segments path).foldlM tree.step (start path)

def find? (tree : FileTree) (path : String) : Option FileNode := do
  tree.nodeAt? (← tree.resolve path)

/-- Creates the directory a segment leads to, unless there is one. -/
def enter (state : FileTree × Place) (segment : String) : Except FileTree (FileTree × Place) :=
  let (tree, place) := state
  match tree.step place segment with
  | none => .error tree
  | some next =>
      match tree.nodeAt? next with
      | some .directory => .ok (tree, next)
      | some (.file _) => .error tree
      | none => .ok (tree.put next .directory, next)

/-- The segments of a path that ends in `.`, up to the directory that the `.` stands in,
without that directory. -/
def aboveDot? (path : String) : Option (List String) :=
  let reversed := (Path.segments path).reverse
  if (reversed.dropWhile (· == "")).head? == some "." then
    some ((reversed.dropWhile fun s => s == "" || s == ".").drop 1).reverse
  else none

/-- Creates the directory under a path, with those on the way to it. Directories
created before the path turns out to be blocked stay. A directory that is not there
cannot be created under the name `.` inside it. -/
def createDirectories (tree : FileTree) (path : String) : Except FileTree FileTree :=
  if path.isEmpty || tree.find? path == some .directory then .ok tree
  else
    match aboveDot? path with
    | none => Prod.fst <$> (Path.segments path).foldlM enter (tree, start path)
    | some segments =>
        match segments.foldlM enter (tree, start path) with
        | .ok (tree, _) | .error tree => .error tree

/-- Writes a file under a path, in a directory that exists; none if that fails. -/
def write? (tree : FileTree) (path content : String) : Option FileTree := do
  let place ← tree.resolve path
  match tree.nodeAt? place with
  | some .directory => none
  | _ =>
      -- a slash or a dot at the end asks for a directory
      if (Path.segments path).getLast? == place.getLast? then
        some (tree.put place (.file (.text content)))
      else none

/-! ## Building -/

def addFile (tree : FileTree) (path : String) (content : FileContent) : FileTree :=
  match (Path.segments path).dropLast.foldlM enter (tree, start path) with
  | .error tree => tree
  | .ok (tree, place) =>
      match tree.step place ((Path.segments path).getLastD "") with
      | some place => tree.put place (.file content)
      | none => tree

def addDirectory (tree : FileTree) (path : String) : FileTree :=
  match tree.createDirectories path with
  | .ok tree | .error tree => tree

/-! ## Changes -/

def placeText (place : Place) : String :=
  "/".intercalate place

def newDirectories (before after : FileTree) : List String :=
  (after.nodes.filter fun (place, node) =>
    node == .directory && before.nodeAt? place != some node).map fun (place, _) => placeText place

def isBelow (place : Place) : Bool :=
  match place with
  | [] | ".." :: _ | "/" :: _ => false
  | _ => true

/-- What is new in `after` or has another content, sorted by path: directories, with a
slash at the end, and files with their text. -/
def changes (before after : FileTree) : List (String × Option FileContent) :=
  let changed := after.nodes.filter fun (place, node) =>
    isBelow place && before.nodeAt? place != some node
  let shown := changed.map fun (place, node) =>
    match node with
    | .directory => (placeText place ++ "/", none)
    | .file content => (placeText place, some content)
  shown.mergeSort fun a b => decide (a.1 ≤ b.1)

end FileTree

end ApiTypings
