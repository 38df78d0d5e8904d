import ApiTypings.Yaml.Token

/-!
# Nodes of a YAML document

A document is a tree of scalars, sequences and mappings. An alias stands for the whole
node of its anchor, so the tree has no aliases left. A node that contains itself is no
tree and is refused, and so is a document in which aliases are followed far more often
than it has nodes.
-/

namespace ApiTypings.Yaml

/-- A tag of a node: one of the YAML repository, such as `!!int`, or a private one. -/
inductive Tag where
  | core (name : String)
  | custom (name : String)
deriving Repr, DecidableEq

inductive Node where
  /-- A scalar; only a plain one can stand for something else than a string. -/
  | scalar (plain : Bool) (tag : Option Tag) (text : String)
  | sequence (tag : Option Tag) (items : List Node)
  | mapping (tag : Option Tag) (entries : List (Node × Node))
deriving Repr, Inhabited

namespace Tag

/-- What tags of the YAML repository start with when they are written in full. -/
def repository : String := "tag:yaml.org,2002:"

def ofUri (uri : String) : Tag :=
  if uri.startsWith repository then .core (uri.drop repository.length).toString
  else if uri.startsWith "!" then .custom uri
  else .core uri

/-- The tag of a text: `!!name`, `!<uri>` or `!name`. Handles other than these two have
to be declared and are not known. -/
def ofText? (text : String) : Option Tag :=
  match text.toList with
  | '!' :: '!' :: name => if name.isEmpty then none else some (.core (String.ofList name))
  | '!' :: '<' :: uri =>
      if uri.getLast? == some '>' then some (ofUri (String.ofList uri.dropLast)) else none
  | '!' :: name => if name.contains '!' then none else some (.custom text)
  | _ => none

end Tag

namespace Node

def empty : Node := .scalar true none ""

/-- The scalar of a token. The tag `!` alone has it read as if it were plain text. -/
def ofScalar (plain : Bool) (tag : Option Tag) (text : String) : Node :=
  .scalar plain (if tag == some (.custom "!") then none else tag) text

end Node

/-! ## Composing -/

/-- The node of an anchor, and how many aliases are followed inside it. -/
structure Anchored where
  node : Node
  repeats : Nat
deriving Repr

/-- What is left of the tokens, and what has been seen. -/
structure Composing where
  tokens : List Token
  /-- The anchors so far; one that is still open has no node. -/
  anchors : List (String × Option Anchored) := []
  /-- How many scalars, aliases, and starts and ends of collections there are. -/
  size : Nat := 0
  /-- How often aliases are followed, inside repeated nodes as well. -/
  repeats : Nat := 0

abbrev Composer (α : Type) := StateT Composing Option α

namespace Composer

def peek : Composer (Option Token) :=
  fun state => some (state.tokens.head?, state)

def advance : Composer Unit :=
  modify fun state => { state with tokens := state.tokens.tail }

/-- Passes over the next token if it is a given one, and says whether it was. -/
def accept (token : Token) : Composer Bool := do
  if (← peek) == some token then
    advance
    return true
  else return false

/-- Passes over the separator of a flow collection, which stands in front of every part
but the first. -/
def separate (first : Bool) : Composer Unit := do
  if !first then
    if !(← accept .flowEntry) then failure

def grow (count : Nat) : Composer Unit :=
  modify fun state => { state with size := state.size + count }

/-- Takes the anchor and the tag in front of a node, in either order. -/
def properties : Composer (Option String × Option String) := fun state =>
  match state.tokens with
  | .anchor anchor :: .tag tag :: tokens => some ((some anchor, some tag), { state with tokens })
  | .tag tag :: .anchor anchor :: tokens => some ((some anchor, some tag), { state with tokens })
  | .anchor anchor :: tokens => some ((some anchor, none), { state with tokens })
  | .tag tag :: tokens => some ((none, some tag), { state with tokens })
  | _ => some ((none, none), state)

def follow (name : String) : Composer Node := fun state =>
  match state.anchors.lookup name with
  | some (some found) =>
      some (found.node, { state with
        size := state.size + 1
        repeats := state.repeats + found.repeats + 1 })
  | _ => none

/-- Notes an anchor as open, or with its node; `before` is how often aliases had been
followed in front of the node. -/
def note (anchor : Option String) (node : Option Node) (before : Nat) : Composer Unit :=
  match anchor with
  | none => pure ()
  | some name => modify fun state =>
      let found := node.map fun node => ⟨node, state.repeats - before⟩
      { state with anchors := (name, found) :: state.anchors }

mutual
/-- A node. In a block it may be a block collection, and `indentless` lets a sequence
start without indentation of its own. -/
def node (fuel : Nat) (block indentless : Bool) : Composer Node :=
  match fuel with
  | 0 => failure
  | fuel + 1 => do
    match ← peek with
    | some (.alias name) =>
        advance
        follow name
    | _ =>
        let (anchor, tagText) ← properties
        let tag ← (match tagText with
          | none => pure none
          | some text => fun state => (Tag.ofText? text).map fun tag => (some tag, state))
        let before := (← get).repeats
        note anchor none before
        let node ← content fuel block indentless (anchor.isSome || tag.isSome) tag
        note anchor (some node) before
        return node

/-- What a node is after its anchor and tag; `marked` says whether it has one of them
and may be left out. -/
def content (fuel : Nat) (block indentless marked : Bool) (tag : Option Tag) : Composer Node :=
  match fuel with
  | 0 => failure
  | fuel + 1 => do
    match ← peek with
    | some (.scalar plain text) =>
        advance
        grow 1
        return .ofScalar plain tag text
    | some .flowSequenceStart =>
        advance
        grow 2
        return .sequence tag (← flowItems fuel true)
    | some .flowMappingStart =>
        advance
        grow 2
        return .mapping tag (← flowEntries fuel true)
    | next =>
        if next == some .blockEntry && indentless then
          grow 2
          return .sequence tag (← looseItems fuel)
        else if next == some .sequenceStart && block then
          advance
          grow 2
          return .sequence tag (← blockItems fuel)
        else if next == some .mappingStart && block then
          advance
          grow 2
          return .mapping tag (← blockEntries fuel)
        else if marked then
          grow 1
          return .scalar true tag ""
        else failure

/-- A node, or the empty scalar in front of tokens that no node starts with. -/
def nodeUnless (fuel : Nat) (stops : List Token) (block indentless : Bool) : Composer Node :=
  match fuel with
  | 0 => failure
  | fuel + 1 => do
    if (← peek).any stops.contains then
      grow 1
      return .empty
    else node fuel block indentless

def blockItems (fuel : Nat) : Composer (List Node) :=
  match fuel with
  | 0 => failure
  | fuel + 1 => do
    if ← accept .blockEntry then
      let item ← nodeUnless fuel [.blockEntry, .blockEnd] true false
      return item :: (← blockItems fuel)
    else if ← accept .blockEnd then return []
    else failure

/-- The items of a sequence without indentation of its own. -/
def looseItems (fuel : Nat) : Composer (List Node) :=
  match fuel with
  | 0 => failure
  | fuel + 1 => do
    if ← accept .blockEntry then
      let item ← nodeUnless fuel [.blockEntry, .key, .value, .blockEnd] true false
      return item :: (← looseItems fuel)
    else return []

def blockEntries (fuel : Nat) : Composer (List (Node × Node)) :=
  match fuel with
  | 0 => failure
  | fuel + 1 => do
    if ← accept .key then
      let key ← nodeUnless fuel [.key, .value, .blockEnd] true true
      let value ← valueUnless fuel [.key, .value, .blockEnd] true
      return (key, value) :: (← blockEntries fuel)
    else if ← accept .blockEnd then return []
    else failure

/-- The value of an entry; it may be left out together with its colon. -/
def valueUnless (fuel : Nat) (stops : List Token) (block : Bool) : Composer Node :=
  match fuel with
  | 0 => failure
  | fuel + 1 => do
    if ← accept .value then nodeUnless fuel stops block block
    else
      grow 1
      return .empty

/-- The items of a flow sequence, to its end. An item that is a key stands for a
mapping of one entry. -/
def flowItems (fuel : Nat) (first : Bool) : Composer (List Node) :=
  match fuel with
  | 0 => failure
  | fuel + 1 => do
    if ← accept .flowSequenceEnd then return []
    separate first
    if ← accept .flowSequenceEnd then return []
    else if ← accept .key then
      let stops := [.value, .flowEntry, .flowSequenceEnd]
      grow 2
      let leftOut := (← peek).any stops.contains
      let key ← nodeUnless fuel stops false false
      -- a key that is left out takes the token behind it along
      if leftOut then advance
      let value ← valueUnless fuel [.flowEntry, .flowSequenceEnd] false
      return .mapping none [(key, value)] :: (← flowItems fuel false)
    else
      let item ← node fuel false false
      return item :: (← flowItems fuel false)

/-- The entries of a flow mapping, to its end. One without a colon has no value. -/
def flowEntries (fuel : Nat) (first : Bool) : Composer (List (Node × Node)) :=
  match fuel with
  | 0 => failure
  | fuel + 1 => do
    if ← accept .flowMappingEnd then return []
    separate first
    if ← accept .flowMappingEnd then return []
    else if ← accept .key then
      let key ← nodeUnless fuel [.value, .flowEntry, .flowMappingEnd] false false
      let value ← valueUnless fuel [.flowEntry, .flowMappingEnd] false
      return (key, value) :: (← flowEntries fuel false)
    else
      let key ← node fuel false false
      grow 1
      return (key, .empty) :: (← flowEntries fuel false)
end

/-! ## Documents -/

def explicitDocument (fuel : Nat) : Composer Node := do
  match ← peek with
  | none => return .empty
  | some next =>
      if [.directive, .documentStart, .documentEnd].contains next then return .empty
      else node fuel true false

/-- The node of the document a stream starts with. A stream without tokens counts as an
empty scalar, and a directive asks for the mark of a document behind it. -/
def document (fuel : Nat) : Composer Node := do
  if (← peek) == none then return .empty
  else if ← accept .documentStart then explicitDocument fuel
  else if ← accept .directive then
    if ← accept .documentStart then explicitDocument fuel else failure
  else node fuel true false

end Composer

namespace Node

/-- How often aliases may be followed for each part of a document. -/
def repeatLimit : Nat := 100

/-- The node of the only document of a stream. Of four steps in a row, at least one
takes a token. -/
def ofTokens? (tokens : List Token) : Option Node := do
  let (node, state) ← Composer.document (4 * tokens.length + 4) { tokens }
  let rest := state.tokens.dropWhile (· == .documentEnd)
  if rest.isEmpty && state.repeats ≤ repeatLimit * state.size then some node else none

def parse? (text : String) : Option Node := do
  ofTokens? (← tokens? text)

end Node

end ApiTypings.Yaml
