import ApiTypings.Declaration.Basic
import ApiTypings.Declaration.Names
import ApiTypings.Text.Words

/-!
# Enumerated strings

The first request for an enum declares it; every request gets a reference. Names of
enums are registered in the registry that the names of interfaces come from.
-/

namespace ApiTypings

/-! ## Members -/

/-- The member name of a value before it is made unique: upper snake case, with an
underscore in front of a digit, or alone when there is no word. -/
def memberName (value : String) : String :=
  let name := upperSnake value
  match name.toList with
  | [] => "_"
  | c :: _ => if c.isDigit then "_" ++ name else name

/-- A member name with a number behind it: nothing the first time, `_2` and so on
after that. -/
def numberedMember (name : String) : Nat → String
  | 0 => name
  | n + 1 => name ++ "_" ++ toString (n + 2)

def freeMember (taken : List String) (name : String) : String :=
  (((List.range (taken.length + 1)).map (numberedMember name)).find?
    (!taken.contains ·)).getD name

/-- The members of an enum, where `taken` are the names of those before. -/
def enumMembers (options : CommentOptions) : List String → Titles → List EnumMember
  | _, [] => []
  | taken, (value, title) :: rest =>
      let name := freeMember taken (memberName value)
      ⟨DocBlock.ofText options title, name, value⟩ :: enumMembers options (name :: taken) rest

def EnumDecl.ofTitles (options : CommentOptions) (name : String) (titles : Titles)
    (description : Option String) : EnumDecl :=
  ⟨DocBlock.ofText options description, name, enumMembers options [] titles⟩

/-! ## Requests -/

/-- The names given out in one generation, and the enums declared so far. -/
structure Registry where
  names : Names := {}
  enums : List EnumDecl := []
deriving Repr, DecidableEq

namespace Registry

def empty (options : RenderOptions) : Registry where
  names := { interfacePrefix := options.interfacePrefix }

def allocate (registry : Registry) (base : String) : String × Registry :=
  let (name, names) := registry.names.allocate base
  (name, { registry with names })

/-- The type of an enumerated string. Without values it is any string, and as a
union of literals it needs no declaration; otherwise it refers to the enum of the
given name, which is declared if the name is still free. -/
def requestEnum (options : RenderOptions) (registry : Registry) (name : String)
    (titles : Titles) (description : Option String) : TypeExpr × Registry :=
  if titles.isEmpty then (.primitive .string, registry)
  else if !options.unionToEnum then (.literals (titles.map Prod.fst), registry)
  else
    let (isNew, names) := registry.names.register name
    let enums :=
      if isNew then
        registry.enums ++ [EnumDecl.ofTitles options.comments name titles description]
      else registry.enums
    (.enumeration name, { names, enums })

end Registry

end ApiTypings
