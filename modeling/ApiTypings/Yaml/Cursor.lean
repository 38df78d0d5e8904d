/-!
# Reading positions in YAML

The characters a stream may hold, and a position in it that counts lines and columns.
-/

namespace ApiTypings.Yaml

/-! ## Characters -/

def isBreak (c : Char) : Bool :=
  c == '\n' || c == '\r' || c.toNat == 0x85 || c.toNat == 0x2028 || c.toNat == 0x2029

def isSpace (c : Char) : Bool := c == ' ' || c == '\t'

/-- Whether a text is at its end or at the end of a line. -/
def atBreak : List Char → Bool
  | [] => true
  | c :: _ => isBreak c

/-- Whether a text is at its end or at a blank or at the end of a line. -/
def atBlank : List Char → Bool
  | [] => true
  | c :: _ => isSpace c || isBreak c

def isAllowed (c : Char) : Bool :=
  let n := c.toNat
  n == 0x9 || n == 0xA || n == 0xD || (0x20 ≤ n && n ≤ 0x7E) || n == 0x85 ||
    (0xA0 ≤ n && n ≤ 0xD7FF) || (0xE000 ≤ n && n ≤ 0xFFFD && n != 0xFEFF) || 0x10000 ≤ n

/-! ## The reading position -/

/-- What is left of the text, and where it starts. -/
structure Cursor where
  rest : List Char
  line : Nat := 0
  column : Nat := 0
  index : Nat := 0
deriving Repr, DecidableEq

namespace Cursor

def skip (cursor : Cursor) : Cursor :=
  match cursor.rest with
  | [] => cursor
  | _ :: rest =>
      { cursor with rest, column := cursor.column + 1, index := cursor.index + 1 }

def skipMany (cursor : Cursor) : Nat → Cursor
  | 0 => cursor
  | n + 1 => cursor.skip.skipMany n

/-- Passes over the characters of the line for which a test holds, and gives them. -/
def takeWhile (cursor : Cursor) (test : Char → Bool) : List Char × Cursor :=
  let taken := cursor.rest.takeWhile test
  (taken, { cursor with
    rest := cursor.rest.dropWhile test
    column := cursor.column + taken.length
    index := cursor.index + taken.length })

/-- Passes over the end of a line, and gives it as it counts in a scalar. -/
def readBreak (cursor : Cursor) : List Char × Cursor :=
  match cursor.rest with
  | '\r' :: '\n' :: rest =>
      (['\n'], { rest, line := cursor.line + 1, column := 0, index := cursor.index + 2 })
  | c :: rest =>
      let text := if c.toNat == 0x2028 || c.toNat == 0x2029 then [c] else ['\n']
      (text, { rest, line := cursor.line + 1, column := 0, index := cursor.index + 1 })
  | [] => ([], cursor)

def atDocumentMark (cursor : Cursor) : Bool :=
  cursor.column == 0 &&
    match cursor.rest with
    | '-' :: '-' :: '-' :: rest => atBlank rest
    | '.' :: '.' :: '.' :: rest => atBlank rest
    | _ => false

end Cursor

end ApiTypings.Yaml
