import ApiTypings.Json.Printer
import ApiTypings.Metadata.Shape

/-!
# Type expressions
-/

namespace ApiTypings

inductive TypeExpr where
  | any
  | primitive (kind : Primitive)
  /-- The union of string literals. -/
  | literals (values : List String)
  /-- The strings an enum has as its values. -/
  | enumeration (name : String)
  | interface (name : String)
  | array (element : TypeExpr)
deriving Repr, DecidableEq, Inhabited

namespace TypeExpr

/-- The union of literals, each quoted as in JSON. -/
def literalsText (values : List String) : String :=
  " | ".intercalate (values.map jsonString)

/-- The members of an enum where a plain string is expected. -/
def enumerationText (name : String) : String :=
  "`$\x7b" ++ name ++ "\x7d`"

def hasBar : List Char → Bool
  | ' ' :: '|' :: ' ' :: _ => true
  | _ :: rest => hasBar rest
  | [] => false

/-- The text of a type. Brackets bind tighter than the bar of a union, so a union
stands in parentheses before them; one literal does so too if the separator occurs
in its value. -/
def text : TypeExpr → String
  | any => "any"
  | primitive kind => kind.text
  | literals values => literalsText values
  | enumeration name => enumerationText name
  | interface name => name
  | array (literals values) =>
      let element := literalsText values
      if hasBar element.toList then "(" ++ element ++ ")[]" else element ++ "[]"
  | array element => element.text ++ "[]"

end TypeExpr

end ApiTypings
