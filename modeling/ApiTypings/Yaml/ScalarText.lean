import ApiTypings.Yaml.Cursor

/-!
# The text of YAML scalars

Scalars may go over several lines. In plain and quoted ones the line ends are folded:
one counts as a space, and of several the first is left out. Block scalars keep their
line ends, or fold those between lines that do not start with a blank.
-/

namespace ApiTypings.Yaml

/-! ## Scalars that go over several lines -/

/-- The blanks and line ends between two words of a scalar: the blanks, the first line
end, and those after it. -/
structure Gap where
  blanks : List Char := []
  firstBreak : List Char := []
  otherBreaks : List Char := []
  broken : Bool := false
deriving Repr, DecidableEq

namespace Gap

/-- What a gap counts for: a single line feed is a space, and of several the first is
left out. -/
def text (gap : Gap) : List Char :=
  if gap.broken then
    if gap.firstBreak.head? == some '\n' then
      if gap.otherBreaks.isEmpty then [' '] else gap.otherBreaks
    else gap.firstBreak ++ gap.otherBreaks
  else gap.blanks

def addBreak (gap : Gap) (text : List Char) : Gap :=
  if gap.broken then { gap with otherBreaks := gap.otherBreaks ++ text }
  else { gap with blanks := [], firstBreak := text, broken := true }

end Gap

/-- Reads a gap. In a plain scalar of a block, a tab may not stand for indentation,
which `indent` says; every step drops a character. -/
def readGap (indent : Option Nat) : Nat → Gap → Cursor → Option (Gap × Cursor)
  | 0, gap, cursor => some (gap, cursor)
  | fuel + 1, gap, cursor =>
      match cursor.rest with
      | [] => some (gap, cursor)
      | c :: _ =>
          if isSpace c then
            if gap.broken && c == '\t' && indent.any (cursor.column < ·) then none
            else
              let gap := if gap.broken then gap else { gap with blanks := gap.blanks ++ [c] }
              readGap indent fuel gap cursor.skip
          else if isBreak c then
            let (text, cursor) := cursor.readBreak
            readGap indent fuel (gap.addBreak text) cursor
          else some (gap, cursor)

/-! ## Quoted scalars -/

def hexValue? (c : Char) : Option Nat :=
  if c.isDigit then some (c.toNat - '0'.toNat)
  else if 'a' ≤ c ∧ c ≤ 'f' then some (c.toNat - 'a'.toNat + 10)
  else if 'A' ≤ c ∧ c ≤ 'F' then some (c.toNat - 'A'.toNat + 10)
  else none

def codePoint? (digits : List Char) (count : Nat) : Option Char := do
  let digits := digits.take count
  if digits.length ≠ count then none
  let n ← digits.foldlM (fun n c => do return n * 16 + (← hexValue? c)) 0
  if n.isValidChar then some (Char.ofNat n) else none

/-- The character of an escape after the backslash, and how many characters spell it. -/
def escape? : List Char → Option (Char × Nat)
  | '0' :: _ => some (Char.ofNat 0, 1)
  | 'a' :: _ => some ('\x07', 1)
  | 'b' :: _ => some ('\x08', 1)
  | 't' :: _ => some ('\t', 1)
  | '\t' :: _ => some ('\t', 1)
  | 'n' :: _ => some ('\n', 1)
  | 'v' :: _ => some ('\x0b', 1)
  | 'f' :: _ => some ('\x0c', 1)
  | 'r' :: _ => some ('\r', 1)
  | 'e' :: _ => some ('\x1b', 1)
  | ' ' :: _ => some (' ', 1)
  | '"' :: _ => some ('"', 1)
  | '/' :: _ => some ('/', 1)
  | '\\' :: _ => some ('\\', 1)
  | 'N' :: _ => some (Char.ofNat 0x85, 1)
  | '_' :: _ => some (Char.ofNat 0xA0, 1)
  | 'L' :: _ => some (Char.ofNat 0x2028, 1)
  | 'P' :: _ => some (Char.ofNat 0x2029, 1)
  | 'x' :: rest => (codePoint? rest 2).map (·, 3)
  | 'u' :: rest => (codePoint? rest 4).map (·, 5)
  | 'U' :: rest => (codePoint? rest 8).map (·, 9)
  | _ => none

/-- The rest of a quoted scalar, where `read` holds its text so far in reverse. -/
def readQuoted (single : Bool) : Nat → List Char → Cursor → Option (List Char × Cursor)
  | 0, _, _ => none
  | fuel + 1, read, cursor =>
      if cursor.atDocumentMark then none
      else
        match cursor.rest with
        | [] => none
        | c :: rest =>
            if isSpace c || isBreak c then do
              let (gap, cursor) ← readGap none fuel {} cursor
              readQuoted single fuel (gap.text.reverse ++ read) cursor
            else if single then
              if c == '\'' then
                if rest.head? == some '\'' then
                  readQuoted single fuel ('\'' :: read) (cursor.skipMany 2)
                else some (read.reverse, cursor.skip)
              else readQuoted single fuel (c :: read) cursor.skip
            else if c == '"' then some (read.reverse, cursor.skip)
            else if c == '\\' then
              match rest with
              | [] => none
              | d :: _ =>
                  if isBreak d then do
                    -- an escaped line end counts for nothing
                    let (_, cursor) := cursor.skip.readBreak
                    let (gap, cursor) ← readGap none fuel { broken := true } cursor
                    readQuoted single fuel (gap.otherBreaks.reverse ++ read) cursor
                  else do
                    let (d, length) ← escape? rest
                    readQuoted single fuel (d :: read) (cursor.skipMany (length + 1))
            else readQuoted single fuel (c :: read) cursor.skip

/-! ## Plain scalars -/

def isFlowMark (c : Char) : Bool :=
  c == ',' || c == '[' || c == ']' || c == '\x7b' || c == '\x7d'

def endsPlain (flow : Bool) : List Char → Bool
  | [] => true
  | ':' :: rest => atBlank rest
  | c :: _ => isSpace c || isBreak c || (flow && isFlowMark c)

/-- Whether a colon stands where it can neither end a plain scalar nor be part of it. -/
def isStrayColon (flow : Bool) : List Char → Bool
  | ':' :: c :: _ => flow && (isFlowMark c || c == '?')
  | _ => false

/-- The characters of a plain scalar up to the next blank, in reverse. -/
def readWord (flow : Bool) : Nat → List Char → Cursor → Option (List Char × Cursor)
  | 0, read, cursor => some (read, cursor)
  | fuel + 1, read, cursor =>
      if isStrayColon flow cursor.rest then none
      else if endsPlain flow cursor.rest then some (read, cursor)
      else
        match cursor.rest with
        | [] => some (read, cursor)
        | c :: _ => readWord flow fuel (c :: read) cursor.skip

/-- The words of a plain scalar, where `read` holds its text so far in reverse and
`gap` what stands between it and the next word. Also tells whether the scalar is
followed by the end of a line. -/
def readPlain (flow : Bool) (indent : Nat) :
    Nat → List Char → Gap → Cursor → Option (List Char × Bool × Cursor)
  | 0, _, _, _ => none
  | fuel + 1, read, gap, cursor =>
      if cursor.atDocumentMark || cursor.rest.head? == some '#' then
        some (read.reverse, gap.broken, cursor)
      else do
        let (word, cursor) ← readWord flow fuel [] cursor
        let (read, gap) :=
          if word.isEmpty then (read, gap) else (word ++ gap.text.reverse ++ read, {})
        if atBlank cursor.rest && !cursor.rest.isEmpty then
          let (gap, cursor) ← readGap (some indent) fuel gap cursor
          if !flow && cursor.column < indent then some (read.reverse, gap.broken, cursor)
          else readPlain flow indent fuel read gap cursor
        else some (read.reverse, gap.broken, cursor)

/-! ## Block scalars -/

/-- What becomes of the line ends at the end of a block scalar. -/
inductive Chomping where
  | strip
  | clip
  | keep
deriving Repr, DecidableEq

def readChomping : List Char → Option Chomping × List Char
  | '+' :: rest => (some .keep, rest)
  | '-' :: rest => (some .strip, rest)
  | rest => (none, rest)

/-- The digit of an indentation, if there is one; zero is not allowed. -/
def readIncrement? : List Char → Option (Option Nat × List Char)
  | [] => some (none, [])
  | c :: rest =>
      if c == '0' then none
      else if c.isDigit then some (some (c.toNat - '0'.toNat), rest)
      else some (none, c :: rest)

/-- The header of a block scalar: its chomping and its indentation, in either order and
each of them optional, and what follows. -/
def blockHeader? (text : List Char) : Option (Chomping × Option Nat × List Char) := do
  match readChomping text with
  | (some chomping, rest) =>
      let (increment, rest) ← readIncrement? rest
      return (chomping, increment, rest)
  | (none, _) =>
      let (increment, rest) ← readIncrement? text
      if increment.isSome then
        let (chomping, rest) := readChomping rest
        return (chomping.getD .clip, increment, rest)
      else return (.clip, none, text)

/-- The empty lines in front of a line of a block scalar: their line ends, and the
greatest column seen. With an indentation of zero, that is still to be found out. -/
def readEmptyLines (indent : Nat) :
    Nat → List Char → Nat → Cursor → Option (List Char × Nat × Cursor)
  | 0, breaks, widest, cursor => some (breaks, widest, cursor)
  | fuel + 1, breaks, widest, cursor =>
      let margin :=
        if indent = 0 then cursor.rest else cursor.rest.take (indent - cursor.column)
      let spaces := (margin.takeWhile (· == ' ')).length
      let cursor := cursor.skipMany spaces
      let widest := max widest cursor.column
      match cursor.rest with
      | [] => some (breaks, widest, cursor)
      | c :: _ =>
          if (indent = 0 || cursor.column < indent) && c == '\t' then none
          else if isBreak c then
            let (text, cursor) := cursor.readBreak
            readEmptyLines indent fuel (breaks ++ text) widest cursor
          else some (breaks, widest, cursor)

/-- The lines of a block scalar. `read` holds its text so far in reverse, `lead` the end
of the last line and `trail` the ends of the empty lines after it; `wasBlank` says
whether the last line started with a blank, so that its end is kept as it is. -/
def readBlockLines (literal : Bool) (indent : Nat) :
    Nat → List Char → List Char → List Char → Bool → Cursor →
      Option (List Char × List Char × List Char × Cursor)
  | 0, read, lead, trail, _, cursor => some (read, lead, trail, cursor)
  | fuel + 1, read, lead, trail, wasBlank, cursor =>
      match cursor.rest with
      | [] => some (read, lead, trail, cursor)
      | c :: _ =>
          if cursor.column ≠ indent then some (read, lead, trail, cursor)
          else do
            let isBlank := isSpace c
            let folds := !literal && lead.head? == some '\n' && !wasBlank && !isBlank
            let joint :=
              if folds then (if trail.isEmpty then [' '] else trail) else lead ++ trail
            let (line, cursor) := cursor.takeWhile (!isBreak ·)
            let (lead, cursor) := cursor.readBreak
            let (trail, _, cursor) ← readEmptyLines indent fuel [] 0 cursor
            readBlockLines literal indent fuel (line.reverse ++ joint.reverse ++ read)
              lead trail isBlank cursor

/-- A block scalar after its mark; `outer` is the indentation around it, none outside of
all blocks. -/
def readBlock (fuel : Nat) (literal : Bool) (outer : Option Nat) (cursor : Cursor) :
    Option (List Char × Cursor) := do
  let (chomping, increment, rest) ← blockHeader? cursor.rest
  let cursor := cursor.skipMany (cursor.rest.length - rest.length)
  let (_, cursor) := cursor.takeWhile isSpace
  let cursor :=
    if cursor.rest.head? == some '#' then (cursor.takeWhile (!isBreak ·)).2 else cursor
  if !atBreak cursor.rest then none
  let (_, cursor) := cursor.readBreak
  let given := (increment.map (outer.getD 0 + ·)).getD 0
  let (trail, widest, cursor) ← readEmptyLines given fuel [] 0 cursor
  let least := max 1 ((outer.map (· + 1)).getD 0)
  let indent := if given = 0 then max widest least else given
  let (read, lead, trail, cursor) ←
    readBlockLines literal indent fuel [] [] trail false cursor
  let tail :=
    match chomping with
    | .strip => []
    | .clip => lead
    | .keep => lead ++ trail
  return (read.reverse ++ tail, cursor)

end ApiTypings.Yaml
