import ApiTypings.Text.Unprintable

/-!
# Quoted text

Two ways to put a text between quotes: double quotes with every unprintable
character escaped, for paths and names in messages, and single quotes with only the
quote and the backslash escaped, for literals in declarations.
-/

namespace ApiTypings

/-- The number in hexadecimal, small letters, no padding. -/
def hexText (n : Nat) : String :=
  String.ofList (Nat.toDigits 16 n)

def quotedChar (c : Char) : String :=
  if c = '"' then "\\\""
  else if c = '\\' then "\\\\"
  else if c = '\n' then "\\n"
  else if c = '\r' then "\\r"
  else if c = '\t' then "\\t"
  else if c.toNat = 0 then "\\0"
  else if isUnprintable c then "\\u\x7b" ++ hexText c.toNat ++ "\x7d"
  else c.toString

def quoted (text : String) : String :=
  "\"" ++ String.join (text.toList.map quotedChar) ++ "\""

/-- Backslashes and single quotes escaped by a backslash. -/
def escapeSingle (text : List Char) : List Char :=
  text.flatMap fun c => if c = '\\' ∨ c = '\'' then ['\\', c] else [c]

def singleQuoted (text : String) : String :=
  String.ofList ('\'' :: (escapeSingle text.toList ++ ['\'']))

end ApiTypings
