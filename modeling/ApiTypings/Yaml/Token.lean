import ApiTypings.Text.Lines
import ApiTypings.Yaml.ScalarText

/-!
# Tokens of a YAML stream

Block structure is made explicit: where the indentation grows, a token opens a
sequence or a mapping, and where it shrinks, tokens close them. What may turn out to
be a key is remembered until the colon behind it, and the token that marks it is then
put in front of it. A key without a question mark is at most 1024 characters long and
stays on one line.
-/

namespace ApiTypings.Yaml

inductive Token where
  | directive
  | documentStart
  | documentEnd
  | sequenceStart
  | mappingStart
  | blockEnd
  | flowSequenceStart
  | flowSequenceEnd
  | flowMappingStart
  | flowMappingEnd
  | blockEntry
  | flowEntry
  | key
  | value
  | alias (name : String)
  | anchor (name : String)
  | tag (name : String)
  /-- A scalar; only a plain one can stand for something else than a string. -/
  | scalar (plain : Bool) (text : String)
deriving Repr, DecidableEq

/-! ## Scanning -/

/-- A token that may turn out to be a key, with its number and where it starts. -/
structure KeyCandidate where
  required : Bool
  number : Nat
  line : Nat
  column : Nat
  index : Nat
deriving Repr, DecidableEq

structure Scan where
  cursor : Cursor
  /-- The indentation of the innermost block, none outside of all blocks. -/
  indent : Option Nat := none
  /-- The indentations of the blocks around it. -/
  outer : List (Option Nat) := []
  /-- How many flow collections are open. -/
  flow : Nat := 0
  /-- Whether a key may start here. -/
  keyAllowed : Bool := true
  /-- The candidate for a key at this level of flow collections. -/
  candidate : Option KeyCandidate := none
  /-- The candidates at the levels around it. -/
  candidates : List (Option KeyCandidate) := []
  /-- The tokens so far, the last first. -/
  tokens : List Token := []
  /-- How many there are. -/
  count : Nat := 0
deriving Repr

namespace Scan

def push (scan : Scan) (token : Token) : Scan :=
  { scan with tokens := token :: scan.tokens, count := scan.count + 1 }

def insert (scan : Scan) (number : Nat) (token : Token) : Scan :=
  let behind := scan.count - number
  { scan with
    tokens := scan.tokens.take behind ++ token :: scan.tokens.drop behind
    count := scan.count + 1 }

def isDeeper (scan : Scan) (column : Nat) : Bool :=
  match scan.indent with
  | none => true
  | some indent => indent < column

/-- Opens a block at a column that lies deeper than the innermost one, with its token in
front of the one with a given number. Flow collections have no blocks inside. -/
def openBlock (scan : Scan) (column number : Nat) (token : Token) : Scan :=
  if scan.flow = 0 && scan.isDeeper column then
    { scan with indent := some column, outer := scan.indent :: scan.outer }.insert number token
  else scan

/-- Closes the blocks that lie deeper than a column, or all blocks. -/
def closeBlocks (scan : Scan) (column : Option Nat) : Scan :=
  if scan.flow = 0 then go (scan.outer.length + 1) scan else scan
where
  go : Nat → Scan → Scan
  | 0, scan => scan
  | fuel + 1, scan =>
      match scan.indent with
      | none => scan
      | some indent =>
          if column.all (· < indent) then
            go fuel ({ scan with
              indent := scan.outer.headD none
              outer := scan.outer.tail }.push .blockEnd)
          else scan

/-- Gives up on the candidate for a key; one that is required has to become a key. -/
def dropCandidate (scan : Scan) : Option Scan :=
  match scan.candidate with
  | some candidate => if candidate.required then none else some { scan with candidate := none }
  | none => some scan

/-- Remembers that the next token may be a key. It has to be one if it starts at the
indentation of the block it is in. -/
def saveCandidate (scan : Scan) : Option Scan :=
  if scan.keyAllowed then do
    let scan ← scan.dropCandidate
    let cursor := scan.cursor
    return { scan with candidate := some {
      required := scan.flow = 0 && scan.indent == some cursor.column
      number := scan.count
      line := cursor.line
      column := cursor.column
      index := cursor.index } }
  else some scan

/-- Gives up on candidates that are on an earlier line or too long. -/
def dropStale (scan : Scan) : Option Scan := do
  let cursor := scan.cursor
  let check (candidate : Option KeyCandidate) : Option (Option KeyCandidate) :=
    match candidate with
    | none => some none
    | some c =>
        if c.line < cursor.line || c.index + 1024 < cursor.index then
          if c.required then none else some none
        else some (some c)
  let candidate ← check scan.candidate
  let candidates ← scan.candidates.mapM check
  return { scan with candidate, candidates }

def skipToToken : Nat → Scan → Scan
  | 0, scan => scan
  | fuel + 1, scan =>
      match scan.cursor.rest with
      | [] => scan
      | c :: _ =>
          if c == ' ' || (c == '\t' && (scan.flow ≠ 0 || !scan.keyAllowed)) then
            skipToToken fuel { scan with cursor := scan.cursor.skip }
          else if c == '#' then
            skipToToken fuel { scan with cursor := (scan.cursor.takeWhile (!isBreak ·)).2 }
          else if isBreak c then
            skipToToken fuel { scan with
              cursor := scan.cursor.readBreak.2
              keyAllowed := scan.keyAllowed || scan.flow = 0 }
          else scan

/-- Takes a token of some characters that ends any candidate for a key. -/
def mark (scan : Scan) (length : Nat) (token : Token) (keyAllowed : Bool) : Option Scan := do
  let scan ← scan.dropCandidate
  return { scan with cursor := scan.cursor.skipMany length, keyAllowed }.push token

def openFlow (scan : Scan) (token : Token) : Option Scan := do
  let scan ← scan.saveCandidate
  return { scan with
    cursor := scan.cursor.skip
    flow := scan.flow + 1
    candidate := none
    candidates := scan.candidate :: scan.candidates
    keyAllowed := true }.push token

def closeFlow (scan : Scan) (token : Token) : Option Scan := do
  let scan ← scan.dropCandidate
  let scan :=
    if scan.flow = 0 then scan
    else { scan with
      flow := scan.flow - 1
      candidate := scan.candidates.headD none
      candidates := scan.candidates.tail }
  return { scan with cursor := scan.cursor.skip, keyAllowed := false }.push token

def blockEntry (scan : Scan) : Option Scan :=
  if scan.flow = 0 && !scan.keyAllowed then none
  else
    (scan.openBlock scan.cursor.column scan.count .sequenceStart).mark 1 .blockEntry true

def keyMark (scan : Scan) : Option Scan :=
  if scan.flow = 0 && !scan.keyAllowed then none
  else
    (scan.openBlock scan.cursor.column scan.count .mappingStart).mark 1 .key
      (scan.flow = 0)

/-- The colon of a value. The candidate, if there is one, becomes the key. -/
def valueMark (scan : Scan) : Option Scan :=
  match scan.candidate with
  | some key =>
      let scan := (scan.insert key.number .key).openBlock key.column key.number .mappingStart
      some ({ scan with
        cursor := scan.cursor.skip
        candidate := none
        keyAllowed := false }.push .value)
  | none =>
      if scan.flow = 0 && !scan.keyAllowed then none
      else
        let scan := scan.openBlock scan.cursor.column scan.count .mappingStart
        some ({ scan with
          cursor := scan.cursor.skip
          keyAllowed := scan.flow = 0 }.push .value)

def isAnchorChar (c : Char) : Bool :=
  c.isAlphanum || c == '_' || c == '-'

def anchorOrAlias (scan : Scan) (make : String → Token) : Option Scan := do
  let scan ← scan.saveCandidate
  let (name, cursor) := scan.cursor.skip.takeWhile isAnchorChar
  let ends := atBlank cursor.rest || cursor.rest.head?.any ("?:,]\x7d%@`".toList.contains ·)
  if name.isEmpty || !ends then none
  else some ({ scan with cursor, keyAllowed := false }.push (make (String.ofList name)))

def tagMark (scan : Scan) : Option Scan := do
  let scan ← scan.saveCandidate
  let (name, cursor) :=
    scan.cursor.takeWhile fun c => !isSpace c && !isBreak c && !(scan.flow ≠ 0 && isFlowMark c)
  if atBlank cursor.rest || cursor.rest.head? == some ',' then
    some ({ scan with cursor, keyAllowed := false }.push (.tag (String.ofList name)))
  else none

def quotedScalar (fuel : Nat) (scan : Scan) (single : Bool) : Option Scan := do
  let scan ← scan.saveCandidate
  let cursor := scan.cursor.skip
  let (text, cursor) ← readQuoted single fuel [] cursor
  return { scan with cursor, keyAllowed := false }.push (.scalar false (String.ofList text))

def blockScalar (fuel : Nat) (scan : Scan) (literal : Bool) : Option Scan := do
  let scan ← scan.dropCandidate
  let (text, cursor) ← readBlock fuel literal scan.indent scan.cursor.skip
  return { scan with cursor, keyAllowed := true }.push (.scalar false (String.ofList text))

/-- A plain scalar. A key may start behind it if it ends with its line. -/
def plainScalar (fuel : Nat) (scan : Scan) : Option Scan := do
  let scan ← scan.saveCandidate
  let indent := (scan.indent.map (· + 1)).getD 0
  let (text, broken, cursor) ←
    readPlain (scan.flow ≠ 0) indent fuel [] {} scan.cursor
  return { scan with cursor, keyAllowed := broken }.push (.scalar true (String.ofList text))

def isIndicator (c : Char) : Bool :=
  "-?:,[]\x7b\x7d#&*!|>'\"%@`".toList.contains c

/-- Whether a plain scalar starts with a text: a hyphen, a question mark or a colon may
stand in front if no blank follows. -/
def startsPlain (flow : Bool) : List Char → Bool
  | [] => false
  | c :: rest =>
      (!isIndicator c && !isSpace c) || (c == '-' && !(rest.head?.any isSpace)) ||
        (!flow && (c == '?' || c == ':') && !atBlank rest)

/-- A directive, perhaps with a comment behind it; only that of the version is known. -/
def directive (scan : Scan) : Option Scan := do
  let scan ← (scan.closeBlocks none).dropCandidate
  let (line, cursor) := scan.cursor.takeWhile (!isBreak ·)
  let words := ((splitWhen isSpace line).map String.ofList).filter (!·.isEmpty)
  let words := words.takeWhile (!·.startsWith "#")
  if words == ["%YAML", "1.1"] || words == ["%YAML", "1.2"] then
    some ({ scan with cursor, keyAllowed := false }.push .directive)
  else none

def takeToken (fuel : Nat) (scan : Scan) (c : Char) (rest : List Char) : Option Scan :=
  let inFlow : Bool := scan.flow ≠ 0
  if scan.cursor.column == 0 && c == '%' then scan.directive
  else if scan.cursor.atDocumentMark then
    (scan.closeBlocks none).mark 3 (if c == '-' then .documentStart else .documentEnd) false
  else if c == '[' then scan.openFlow .flowSequenceStart
  else if c == '\x7b' then scan.openFlow .flowMappingStart
  else if c == ']' then scan.closeFlow .flowSequenceEnd
  else if c == '\x7d' then scan.closeFlow .flowMappingEnd
  else if c == ',' then scan.mark 1 .flowEntry true
  else if c == '-' && atBlank rest then scan.blockEntry
  else if c == '?' && (inFlow || atBlank rest) then scan.keyMark
  else if c == ':' && (inFlow || atBlank rest) then scan.valueMark
  else if c == '*' then scan.anchorOrAlias .alias
  else if c == '&' then scan.anchorOrAlias .anchor
  else if c == '!' then scan.tagMark
  else if c == '|' && !inFlow then scan.blockScalar fuel true
  else if c == '>' && !inFlow then scan.blockScalar fuel false
  else if c == '\'' then scan.quotedScalar fuel true
  else if c == '"' then scan.quotedScalar fuel false
  else if startsPlain inFlow (c :: rest) then scan.plainScalar fuel
  else none

/-- The tokens up to the end of the stream. Every step here and in the readers takes at
least one character, so fuel above the length of the text never runs out. -/
def run : Nat → Scan → Option (List Token)
  | 0, _ => none
  | fuel + 1, scan => do
      let scan ← (skipToToken (fuel + 1) scan).dropStale
      match scan.cursor.rest with
      | [] =>
          let scan ← (scan.closeBlocks none).dropCandidate
          return scan.tokens.reverse
      | c :: rest =>
          let scan := scan.closeBlocks (some scan.cursor.column)
          run fuel (← scan.takeToken (fuel + 1) c rest)

end Scan

def dropByteOrderMark : List Char → List Char
  | c :: rest => if c.toNat == 0xFEFF then rest else c :: rest
  | [] => []

def tokens? (text : String) : Option (List Token) :=
  let chars := dropByteOrderMark text.toList
  if chars.all isAllowed then Scan.run (chars.length + 1) { cursor := { rest := chars } }
  else none

end ApiTypings.Yaml
