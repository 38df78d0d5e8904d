import ApiTypings.Json.Basic

/-!
# Reading JSON

The grammar of RFC 8259 and nothing more: no byte order mark, no trailing text, no
raw control characters or lone surrogates in strings, at most 127 containers inside
one another, and no number that is too large for a double.

An integer that fits 64 bits stays one. Any other number is read with a significand
of at most 64 bits: the digits that fit are taken, and those that do not only shift
the exponent.
-/

namespace ApiTypings.Json.Reader

def skipBlanks : List Char → List Char :=
  List.dropWhile fun c => c == ' ' || c == '\n' || c == '\t' || c == '\r'

/-! ## Numbers -/

def digitValue (c : Char) : Nat := c.toNat - '0'.toNat

/-- The significand with as many of the digits appended as fit 64 bits, and the digits
that are left over. -/
def takeDigits (significand : Nat) : List Char → Nat × List Char
  | [] => (significand, [])
  | c :: rest =>
      let next := significand * 10 + digitValue c
      if next < twoPow 64 then takeDigits next rest else (significand, c :: rest)

/-- An optional exponent; none if there is an `e` without digits. -/
def readExponent (text : List Char) : Option (Int × List Char) :=
  match text with
  | 'e' :: rest | 'E' :: rest =>
      let (negative, rest) :=
        match rest with
        | '+' :: rest => (false, rest)
        | '-' :: rest => (true, rest)
        | rest => (false, rest)
      let digits := rest.takeWhile Char.isDigit
      if digits.isEmpty then none
      else
        let value : Int := digits.foldl (fun n c => n * 10 + digitValue c) 0
        some (if negative then -value else value, rest.dropWhile Char.isDigit)
  | rest => some (0, rest)

def signedInteger (negative : Bool) (magnitude : Nat) : JsonNumber :=
  if negative then
    if magnitude = 0 ∨ magnitude > twoPow 63 then
      .double ((Double.ofRatio? true magnitude 1).getD (Double.zero true))
    else .integer (-magnitude)
  else .integer magnitude

def readNumber (text : List Char) : Option (JsonNumber × List Char) :=
  let (negative, text) :=
    match text with
    | '-' :: rest => (true, rest)
    | rest => (false, rest)
  let whole := text.takeWhile Char.isDigit
  let rest := text.dropWhile Char.isDigit
  if whole.isEmpty || (whole.head? == some '0' && 1 < whole.length) then none
  else
    let (significand, dropped) := takeDigits 0 whole
    let double (significand : Nat) (shift : Int) (rest : List Char) := do
      let (exponent, rest) ← readExponent rest
      let x ← Double.scaled? significand (shift + exponent)
      some (.double (if negative then x.neg else x), rest)
    match rest with
    | '.' :: rest =>
        let fraction := rest.takeWhile Char.isDigit
        if fraction.isEmpty then none
        else
          let (significand, ignored) := takeDigits significand fraction
          let shift : Int := dropped.length - (fraction.length - ignored.length : Nat)
          double significand shift (rest.dropWhile Char.isDigit)
    | 'e' :: _ | 'E' :: _ => double significand dropped.length rest
    | rest =>
        if dropped.isEmpty then some (signedInteger negative significand, rest)
        else double significand dropped.length rest

/-! ## Strings -/

def readHex4 : List Char → Option (Nat × List Char)
  | a :: b :: c :: d :: rest => do
      let digit (c : Char) : Option Nat :=
        if c.isDigit then some (digitValue c)
        else if 'a' ≤ c ∧ c ≤ 'f' then some (c.toNat - 'a'.toNat + 10)
        else if 'A' ≤ c ∧ c ≤ 'F' then some (c.toNat - 'A'.toNat + 10)
        else none
      let a ← digit a
      let b ← digit b
      let c ← digit c
      let d ← digit d
      some (((a * 16 + b) * 16 + c) * 16 + d, rest)
  | _ => none

/-- The character of a `\u` escape, after the `u`. A high surrogate needs a low one
in an escape right behind it. -/
def readUnicodeEscape (text : List Char) : Option (Char × List Char) := do
  let (high, rest) ← readHex4 text
  if 0xD800 ≤ high ∧ high ≤ 0xDBFF then
    match rest with
    | '\\' :: 'u' :: rest =>
        let (low, rest) ← readHex4 rest
        if 0xDC00 ≤ low ∧ low ≤ 0xDFFF then
          some (Char.ofNat (0x10000 + (high - 0xD800) * 0x400 + (low - 0xDC00)), rest)
        else none
    | _ => none
  else if 0xDC00 ≤ high ∧ high ≤ 0xDFFF then none
  else some (Char.ofNat high, rest)

def readEscape : List Char → Option (Char × List Char)
  | '"' :: rest => some ('"', rest)
  | '\\' :: rest => some ('\\', rest)
  | '/' :: rest => some ('/', rest)
  | 'b' :: rest => some ('\x08', rest)
  | 'f' :: rest => some ('\x0c', rest)
  | 'n' :: rest => some ('\n', rest)
  | 'r' :: rest => some ('\r', rest)
  | 't' :: rest => some ('\t', rest)
  | 'u' :: rest => readUnicodeEscape rest
  | _ => none

/-- The characters up to the closing quote, where `read` holds those so far in
reverse. Every step drops a character of the text, so its length is fuel enough. -/
def readString : Nat → List Char → List Char → Option (List Char × List Char)
  | 0, _, _ => none
  | fuel + 1, read, text =>
      match text with
      | [] => none
      | '"' :: rest => some (read.reverse, rest)
      | '\\' :: rest => do
          let (c, rest) ← readEscape rest
          readString fuel (c :: read) rest
      | c :: rest => if c.toNat < 0x20 then none else readString fuel (c :: read) rest

def readQuoted (text : List Char) : Option (String × List Char) := do
  let (chars, rest) ← readString (text.length + 1) [] text
  some (String.ofList chars, rest)

/-! ## Values -/

mutual
/-- A value with at most `depth` containers inside one another. -/
def readValue (fuel depth : Nat) (text : List Char) : Option (Json × List Char) :=
  match fuel with
  | 0 => none
  | fuel + 1 =>
    match skipBlanks text with
    | 'n' :: 'u' :: 'l' :: 'l' :: rest => some (.null, rest)
    | 't' :: 'r' :: 'u' :: 'e' :: rest => some (.bool true, rest)
    | 'f' :: 'a' :: 'l' :: 's' :: 'e' :: rest => some (.bool false, rest)
    | '"' :: rest => do
        let (s, rest) ← readQuoted rest
        some (.string s, rest)
    | '[' :: rest =>
        if depth = 0 then none
        else
          match skipBlanks rest with
          | ']' :: rest => some (.array [], rest)
          | rest => do
              let (items, rest) ← readItems fuel (depth - 1) rest
              some (.array items, rest)
    | '\x7b' :: rest =>
        if depth = 0 then none
        else
          match skipBlanks rest with
          | '\x7d' :: rest => some (.object [], rest)
          | rest => do
              let (members, rest) ← readMembers fuel (depth - 1) rest
              some (.object (mergeEntries members), rest)
    | text => do
        let (n, rest) ← readNumber text
        some (.number n, rest)

def readItems (fuel depth : Nat) (text : List Char) : Option (List Json × List Char) :=
  match fuel with
  | 0 => none
  | fuel + 1 => do
    let (item, rest) ← readValue fuel depth text
    match skipBlanks rest with
    | ',' :: rest =>
        let (items, rest) ← readItems fuel depth rest
        some (item :: items, rest)
    | ']' :: rest => some ([item], rest)
    | _ => none

def readMembers (fuel depth : Nat) (text : List Char) :
    Option (List (String × Json) × List Char) :=
  match fuel with
  | 0 => none
  | fuel + 1 =>
    match skipBlanks text with
    | '"' :: rest => do
        let (name, rest) ← readQuoted rest
        match skipBlanks rest with
        | ':' :: rest =>
            let (value, rest) ← readValue fuel depth rest
            match skipBlanks rest with
            | ',' :: rest =>
                let (members, rest) ← readMembers fuel depth rest
                some ((name, value) :: members, rest)
            | '\x7d' :: rest => some ([(name, value)], rest)
            | _ => none
        | _ => none
    | _ => none
end

end ApiTypings.Json.Reader

namespace ApiTypings.Json

/-- The value a text spells. Each call of the reader drops a character, or is made on
the same text by another reader at most once. -/
def parse? (text : String) : Option Json := do
  let chars := text.toList
  let (value, rest) ← Reader.readValue (2 * chars.length + 2) 127 chars
  if (Reader.skipBlanks rest).isEmpty then some value else none

end ApiTypings.Json
