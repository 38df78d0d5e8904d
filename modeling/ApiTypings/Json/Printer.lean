import ApiTypings.Json.Basic
import ApiTypings.Number.Shortest

/-!
# Writing JSON

The compact form: no spaces, members in order, and strings with nothing escaped
that need not be. Doubles always show that they are doubles, by a fraction or by an
exponent.
-/

namespace ApiTypings

def hexDigit (n : Nat) : Char := Nat.digitChar n

def jsonChar (c : Char) : List Char :=
  if c = '"' then ['\\', '"']
  else if c = '\\' then ['\\', '\\']
  else if c = '\n' then ['\\', 'n']
  else if c = '\r' then ['\\', 'r']
  else if c = '\t' then ['\\', 't']
  else if c = '\x08' then ['\\', 'b']
  else if c = '\x0c' then ['\\', 'f']
  else if c.toNat < 0x20 then
    ['\\', 'u', '0', '0', hexDigit (c.toNat / 16), hexDigit (c.toNat % 16)]
  else [c]

def jsonString (text : String) : String :=
  String.ofList ('"' :: (text.toList.flatMap jsonChar ++ ['"']))

/-- A double: plain when the exponent of its first digit is between -5 and 15, in
scientific notation otherwise. -/
def Double.text (x : Double) : String :=
  let sign := if x.negative then "-" else ""
  let d := x.shortest
  let digits := Nat.toDigits 10 d.digits
  let e : Int := d.exponent + (digits.length - 1 : Nat)
  let body : List Char :=
    if x.significand = 0 then ['0', '.', '0']
    else if -5 ≤ e ∧ e < 0 then
      ['0', '.'] ++ List.replicate (-e - 1).toNat '0' ++ digits
    else if 0 ≤ e ∧ e ≤ 15 then
      let whole := digits.take (e.toNat + 1)
      let fraction := digits.drop (e.toNat + 1)
      whole ++ List.replicate (e.toNat + 1 - whole.length) '0' ++ ['.'] ++
        (if fraction.isEmpty then ['0'] else fraction)
    else
      let fraction := digits.drop 1
      digits.take 1 ++ (if fraction.isEmpty then [] else '.' :: fraction) ++ ['e'] ++
        (if e < 0 then ['-'] else ['+']) ++ Nat.toDigits 10 e.natAbs
  sign ++ String.ofList body

def JsonNumber.text : JsonNumber → String
  | .integer n => toString n
  | .double x => x.text

namespace Json

mutual
def compact : Json → String
  | .null => "null"
  | .bool b => if b then "true" else "false"
  | .number n => n.text
  | .string s => jsonString s
  | .array items => "[" ++ ",".intercalate (compactItems items) ++ "]"
  | .object members => "\x7b" ++ ",".intercalate (compactMembers members) ++ "\x7d"

def compactItems : List Json → List String
  | [] => []
  | item :: rest => item.compact :: compactItems rest

def compactMembers : List (String × Json) → List String
  | [] => []
  | (name, value) :: rest => (jsonString name ++ ":" ++ value.compact) :: compactMembers rest
end

end Json

end ApiTypings
