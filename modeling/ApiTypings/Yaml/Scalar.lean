import ApiTypings.Json.Basic
import ApiTypings.Yaml.Node

/-!
# What scalars stand for

A plain scalar without a tag is null, a boolean, an integer or a double if it is spelled
like one, and a string otherwise. Quoted and block scalars are strings. A tag of the
YAML repository asks for one kind, whatever the style.
-/

namespace ApiTypings.Yaml

/-! ## Null and booleans -/

def isNullWord (text : String) : Bool :=
  ["null", "Null", "NULL", "~"].contains text

def boolOfWord? (text : String) : Option Bool :=
  if ["true", "True", "TRUE"].contains text then some true
  else if ["false", "False", "FALSE"].contains text then some false
  else none

/-! ## Integers -/

/-- The number that digits spell in a base of at most 16. There has to be a digit. -/
def ofDigits? (base : Nat) (digits : List Char) : Option Nat :=
  if digits.isEmpty then none
  else digits.foldlM (fun n c => do
    let digit ← hexValue? c
    if digit < base then some (n * base + digit) else none) 0

/-- Whether a text consists of digits with a needless zero in front. That is a string,
such as the number of a house or a file mode. -/
def isPadded (digits : List Char) : Bool :=
  digits.head? == some '0' && 1 < digits.length && digits.all Char.isDigit

/-- The size of an integer: decimal, or with a base in front. -/
def magnitude? : List Char → Option Nat
  | '0' :: 'x' :: digits => ofDigits? 16 digits
  | '0' :: 'o' :: digits => ofDigits? 8 digits
  | '0' :: 'b' :: digits => ofDigits? 2 digits
  | digits => if isPadded digits then none else ofDigits? 10 digits

def splitSign : List Char → Bool × List Char
  | '-' :: rest => (true, rest)
  | '+' :: rest => (false, rest)
  | rest => (false, rest)

def integerOf? (text : String) : Option Int :=
  match splitSign text.toList with
  | (true, rest) => (magnitude? rest).map fun n => -(n : Int)
  | (false, rest) => (magnitude? rest).map fun n => (n : Int)

/-! ## Doubles -/

def exponentOf? : List Char → Option Int
  | [] => some 0
  | 'e' :: rest | 'E' :: rest =>
      match splitSign rest with
      | (true, digits) => (ofDigits? 10 digits).map fun n => -(n : Int)
      | (false, digits) => (ofDigits? 10 digits).map fun n => (n : Int)
  | _ => none

/-- The double that decimal text spells: digits with a point among them, before them or
after them, and perhaps an exponent. -/
def decimalOf? (negative : Bool) (text : List Char) : Option Double := do
  let whole := text.takeWhile Char.isDigit
  let rest := text.dropWhile Char.isDigit
  let (fraction, rest) :=
    match rest with
    | '.' :: rest => (rest.takeWhile Char.isDigit, rest.dropWhile Char.isDigit)
    | rest => ([], rest)
  let digits ← ofDigits? 10 (whole ++ fraction)
  let exponent ← exponentOf? rest
  Double.ofDecimal? negative digits (exponent - fraction.length)

def isNonFinite (text : String) : Bool :=
  [".inf", ".Inf", ".INF", "+.inf", "+.Inf", "+.INF", "-.inf", "-.Inf", "-.INF",
    ".nan", ".NaN", ".NAN"].contains text

/-- The number a text spells when a double is asked for. JSON has no numbers that are
not finite, so they become null. -/
def doubleOf? (text : String) : Option Json :=
  if isNonFinite text then some .null
  else
    let (negative, rest) := splitSign text.toList
    (decimalOf? negative rest).map fun x => .number (.double x)

/-! ## Scalars -/

/-- The value of an integer. One that fits no 64 bits but 128 is refused. -/
def integerValue? (n : Int) : Option Json :=
  if -twoPow 63 ≤ n ∧ n < twoPow 64 then some (.number (.integer n)) else none

def isIntegerSize (n : Int) : Bool :=
  -twoPow 127 ≤ n && n < twoPow 128

def sizedInteger? (text : String) : Option Int :=
  (integerOf? text).filter isIntegerSize

def plainValue? (text : String) : Option Json :=
  if text.isEmpty || isNullWord text then some .null
  else
    match boolOfWord? text with
    | some b => some (.bool b)
    | none =>
        match sizedInteger? text with
        | some n => integerValue? n
        | none =>
            if isPadded (splitSign text.toList).2 then some (.string text)
            else some ((doubleOf? text).getD (.string text))

def scalarValue? (plain : Bool) (tag : Option Tag) (text : String) : Option Json :=
  match tag with
  | some (.core "bool") => (boolOfWord? text).map .bool
  | some (.core "int") => do integerValue? (← sizedInteger? text)
  | some (.core "float") => doubleOf? text
  | some (.core "null") => if isNullWord text then some .null else none
  | some (.core _) => some (.string text)
  | some (.custom _) => none
  | none => if plain then plainValue? text else some (.string text)

/-! ## Documents -/

namespace Node

/-- The text of a scalar, as keys of mappings and plain strings need it. -/
def scalarText? : Node → Option String
  | .scalar _ _ text => some text
  | _ => none

def isUntyped : Option Tag → Bool
  | some (.custom _) => false
  | _ => true

mutual
/-- The JSON value of a node with collections at most `depth` deep. Keys keep the text
of their scalars. -/
def toJson? (depth : Nat) : Node → Option Json
  | .scalar plain tag text => scalarValue? plain tag text
  | .sequence tag items =>
      if depth = 0 || !isUntyped tag then none
      else (itemsToJson? (depth - 1) items).map .array
  | .mapping tag entries =>
      if depth = 0 || !isUntyped tag then none
      else (entriesToJson? (depth - 1) entries).map fun entries => .object (mergeEntries entries)

def itemsToJson? (depth : Nat) : List Node → Option (List Json)
  | [] => some []
  | item :: rest => do
      let value ← item.toJson? depth
      let values ← itemsToJson? depth rest
      return value :: values

def entriesToJson? (depth : Nat) : List (Node × Node) → Option (List (String × Json))
  | [] => some []
  | (key, value) :: rest => do
      let name ← key.scalarText?
      let value ← value.toJson? depth
      let members ← entriesToJson? depth rest
      return (name, value) :: members
end

end Node

/-- How deep collections may lie inside one another. -/
def maxDepth : Nat := 128

def parseJson? (text : String) : Option Json := do
  (← Node.parse? text).toJson? maxDepth

end ApiTypings.Yaml
