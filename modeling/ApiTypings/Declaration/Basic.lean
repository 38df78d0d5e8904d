import ApiTypings.Declaration.DocBlock
import ApiTypings.Declaration.TypeExpr
import ApiTypings.Text.Alphanumeric
import ApiTypings.Text.CaseMap
import ApiTypings.Text.Quoted

/-!
# Declarations

Enums, interfaces and type aliases as data, and their texts. A file lists the enums
first, then the interfaces and aliases, one blank line apart.
-/

namespace ApiTypings

structure EnumMember where
  doc : Option DocBlock
  name : String
  value : String
deriving Repr, DecidableEq

structure EnumDecl where
  doc : Option DocBlock
  name : String
  members : List EnumMember
deriving Repr, DecidableEq

/-- A property of an interface, under its key as it is written. -/
structure Property where
  doc : Option DocBlock
  key : String
  optional : Bool
  type : TypeExpr
deriving Repr, DecidableEq

inductive Declaration where
  | interface (name : String) (properties : List Property)
  | alias (name : String) (type : TypeExpr)
deriving Repr, DecidableEq

structure Declarations where
  enums : List EnumDecl := []
  interfaces : List Declaration := []
deriving Repr, DecidableEq

/-- What stands before a declaration that is exported. -/
def exportMarker (exported : Bool) : String :=
  if exported then "export " else ""

namespace EnumMember

def text (member : EnumMember) : String :=
  DocBlock.optionalText "  " member.doc ++
    "  " ++ member.name ++ " = " ++ singleQuoted member.value ++ ",\n"

end EnumMember

namespace EnumDecl

def text (exported : Bool) (decl : EnumDecl) : String :=
  DocBlock.optionalText "" decl.doc ++ exportMarker exported ++ "enum " ++ decl.name ++
    " \x7b\n" ++ String.join (decl.members.map EnumMember.text) ++ "\x7d\n"

end EnumDecl

namespace Property

def line (property : Property) : String :=
  "  " ++ property.key ++ (if property.optional then "?" else "") ++ ": " ++
    property.type.text ++ ";\n"

def text (property : Property) : String :=
  DocBlock.optionalText "  " property.doc ++ property.line

end Property

namespace Declaration

def name : Declaration → String
  | .interface name _ => name
  | .alias name _ => name

def text (exported : Bool) : Declaration → String
  | .interface name properties =>
      exportMarker exported ++ "interface " ++ name ++ " \x7b\n" ++
        String.join (properties.map Property.text) ++ "\x7d\n"
  | .alias name type =>
      exportMarker exported ++ "type " ++ name ++ " = " ++ type.text ++ ";\n"

end Declaration

/-- Texts of declarations, one blank line apart: each ends with a line feed of its
own. -/
def assemble (enums interfaces : List String) : String :=
  "\n".intercalate (enums ++ interfaces)

namespace Declarations

def enumTexts (exported : Bool) (decls : Declarations) : List String :=
  decls.enums.map (EnumDecl.text exported)

def interfaceTexts (exported : Bool) (decls : Declarations) : List String :=
  decls.interfaces.map (Declaration.text exported)

def text (exported : Bool) (decls : Declarations) : String :=
  assemble (decls.enumTexts exported) (decls.interfaceTexts exported)

end Declarations

/-! ## Keys -/

def KeyCasing.apply (casing : KeyCasing) (name : String) : String :=
  match casing with
  | .auto => name
  | .lowerFirst => ApiTypings.lowerFirst name
  | .upperFirst => ApiTypings.upperFirst name

/-- The key of a property: its cased name, in quotes unless it is an identifier. -/
def propertyKey (casing : KeyCasing) (name : String) : String :=
  let key := casing.apply name
  if isIdentifier key then key else singleQuoted key

end ApiTypings
