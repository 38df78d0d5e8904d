import ApiTypings.Template.Basic
import ApiTypings.Text.Lines

/-!
# Reading templates

A template is cut into text and tags, and the tags are matched up with a stack of
the conditions and loops that are open. A tag that is not closed, not known or not
matched makes the whole template unreadable.
-/

namespace ApiTypings.Template

/-- A part of a template before conditions and loops are matched up. -/
inductive Tag where
  | text (content : String)
  | output (expr : TemplateExpr)
  | openIf (expr : TemplateExpr)
  | openFor (binder : String) (expr : TemplateExpr)
  | otherwise
  | endIf
  | endFor
  | includeOther
deriving Repr, DecidableEq

/-! ## Expressions -/

def isNameStart (c : Char) : Bool := c.isAlpha || c == '_'

def isNamePart (c : Char) : Bool := c.isAlphanum || c == '_'

def skipSpace : List Char → List Char :=
  List.dropWhile fun c => c == ' ' || c == '\t' || c == '\n' || c == '\r'

def readName? : List Char → Option (String × List Char)
  | c :: rest =>
      if isNameStart c then
        some (String.ofList (c :: rest.takeWhile isNamePart), rest.dropWhile isNamePart)
      else none
  | [] => none

def readPath? : Nat → List Char → Option (List String × List Char)
  | fuel + 1, '.' :: rest => do
      let (name, rest) ← readName? rest
      let (names, rest) ← readPath? fuel rest
      return (name :: names, rest)
  | _, rest => some ([], rest)

def readFilters? : Nat → List Char → Option (List String × List Char)
  | 0, rest => some ([], rest)
  | fuel + 1, text =>
      match skipSpace text with
      | '|' :: rest => do
          let (name, rest) ← readName? (skipSpace rest)
          let (names, rest) ← readFilters? fuel rest
          return (name :: names, rest)
      | _ => some ([], text)

def readExpr? (text : List Char) : Option (TemplateExpr × List Char) := do
  let (name, rest) ← readName? (skipSpace text)
  let (names, rest) ← readPath? rest.length rest
  let (filters, rest) ← readFilters? rest.length rest
  return (⟨name :: names, filters⟩, skipSpace rest)

def readLiteral? : List Char → Option (List Char)
  | '\'' :: rest => (rest.dropWhile (· != '\'')).tail?
  | '"' :: rest => (rest.dropWhile (· != '"')).tail?
  | _ => none

/-! ## Tags -/

/-- The inside of a statement, up to the mark that ends it. -/
def readStatement? (text : List Char) : Option (Tag × List Char) := do
  let (word, rest) ← readName? (skipSpace text)
  match word with
  | "if" => do
      let (expr, rest) ← readExpr? rest
      return (.openIf expr, rest)
  | "for" => do
      let (binder, rest) ← readName? (skipSpace rest)
      let (word, rest) ← readName? (skipSpace rest)
      if word != "in" then none
      let (expr, rest) ← readExpr? rest
      return (.openFor binder expr, rest)
  | "else" => some (.otherwise, skipSpace rest)
  | "endif" => some (.endIf, skipSpace rest)
  | "endfor" => some (.endFor, skipSpace rest)
  | "include" => do
      let rest ← readLiteral? (skipSpace rest)
      return (.includeOther, skipSpace rest)
  | _ => none

/-- A hyphen inside a tag takes away the blanks of the text on its side. -/
def readHyphen : List Char → Bool × List Char
  | '-' :: rest => (true, rest)
  | rest => (false, rest)

/-- The rest of a text behind a mark of two characters, with a hyphen or without. -/
def readClose? (first second : Char) (text : List Char) : Option (Bool × List Char) :=
  let (trims, rest) := readHyphen text
  match rest with
  | a :: b :: rest => if a = first ∧ b = second then some (trims, rest) else none
  | _ => none

def skipComment? : List Char → Option (Bool × List Char)
  | [] => none
  | '-' :: '#' :: '\x7d' :: rest => some (true, rest)
  | '#' :: '\x7d' :: rest => some (false, rest)
  | _ :: rest => skipComment? rest

/-- A tag at the start of a text: whether it trims before and after, what it is
(nothing for a comment), and the rest. None if the text is no tag, and an inner none
if the tag is malformed. -/
def readTag? (text : List Char) : Option (Option (Bool × Bool × Option Tag × List Char)) :=
  match text with
  | '\x7b' :: '\x7b' :: rest => some do
      let (before, rest) := readHyphen rest
      let (expr, rest) ← readExpr? rest
      let (after, rest) ← readClose? '\x7d' '\x7d' rest
      return (before, after, some (.output expr), rest)
  | '\x7b' :: '%' :: rest => some do
      let (before, rest) := readHyphen rest
      let (tag, rest) ← readStatement? rest
      let (after, rest) ← readClose? '%' '\x7d' rest
      return (before, after, some tag, rest)
  | '\x7b' :: '#' :: rest => some do
      let (before, rest) := readHyphen rest
      let (after, rest) ← skipComment? rest
      return (before, after, none, rest)
  | _ => none

/-- A text part, without the blanks that the tags next to it take away; nothing if it
is empty. -/
def textTag (trimStart trimEnd : Bool) (reversed : List Char) : List Tag :=
  let reversed := if trimEnd then reversed.dropWhile isBlank else reversed
  let chars := if trimStart then reversed.reverse.dropWhile isBlank else reversed.reverse
  if chars.isEmpty then [] else [.text (String.ofList chars)]

/-- The tags of a text, where `read` holds the characters since the last tag in
reverse and `trims` says whether that tag trims them. Every step drops a character, so
the length is fuel enough. -/
def tagsOf? (fuel : Nat) (trims : Bool) (read : List Char) (text : List Char) :
    Option (List Tag) :=
  match fuel with
  | 0 => none
  | fuel + 1 =>
    match text with
    | [] => some (textTag trims false read)
    | c :: rest =>
      match readTag? text with
      | none => tagsOf? fuel trims (c :: read) rest
      | some none => none
      | some (some (before, after, tag, rest)) => do
          let tags ← tagsOf? fuel after [] rest
          return textTag trims before read ++ tag.toList ++ tags

/-! ## Nesting -/

inductive Frame where
  | body (expr : TemplateExpr)
  | otherwise (expr : TemplateExpr) (body : List TemplateNode)
  | loop (binder : String) (expr : TemplateExpr)
deriving Repr

/-- The pieces read at the present level in reverse, and the open levels around it,
each with the pieces before it in reverse. -/
structure Nesting where
  nodes : List TemplateNode := []
  frames : List (Frame × List TemplateNode) := []

def Nesting.add? (nesting : Nesting) (tag : Tag) : Option Nesting :=
  match tag, nesting.frames with
  | .text content, _ => some { nesting with nodes := .text content :: nesting.nodes }
  | .output expr, _ => some { nesting with nodes := .output expr :: nesting.nodes }
  | .includeOther, _ => some { nesting with nodes := .includeOther :: nesting.nodes }
  | .openIf expr, frames => some ⟨[], (.body expr, nesting.nodes) :: frames⟩
  | .openFor binder expr, frames => some ⟨[], (.loop binder expr, nesting.nodes) :: frames⟩
  | .otherwise, (.body expr, before) :: frames =>
      some ⟨[], (.otherwise expr nesting.nodes.reverse, before) :: frames⟩
  | .endIf, (.body expr, before) :: frames =>
      some ⟨.condition expr nesting.nodes.reverse [] :: before, frames⟩
  | .endIf, (.otherwise expr body, before) :: frames =>
      some ⟨.condition expr body nesting.nodes.reverse :: before, frames⟩
  | .endFor, (.loop binder expr, before) :: frames =>
      some ⟨.loop binder expr nesting.nodes.reverse :: before, frames⟩
  | _, _ => none

def parse? (text : String) : Option Template := do
  let chars := text.toList
  let tags ← tagsOf? (chars.length + 1) false [] chars
  let nesting ← tags.foldlM Nesting.add? {}
  if nesting.frames.isEmpty then some nesting.nodes.reverse else none

end ApiTypings.Template
