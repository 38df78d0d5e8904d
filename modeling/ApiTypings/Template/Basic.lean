import ApiTypings.Text.CaseMap

/-!
# Templates

Text with tags: values to print, conditions and loops. Rendering fails where a name
is not defined, where a filter does not apply, and where another template is asked
for, as there is none.
-/

namespace ApiTypings

inductive TemplateValue where
  | null
  | number (value : Nat)
  | text (value : String)
  | list (items : List String)
deriving Repr, DecidableEq

/-- A name, or names joined by dots, with filters applied from left to right. -/
structure TemplateExpr where
  path : List String
  filters : List String
deriving Repr, DecidableEq

inductive TemplateNode where
  | text (content : String)
  | output (expr : TemplateExpr)
  | condition (expr : TemplateExpr) (body otherwise : List TemplateNode)
  | loop (binder : String) (expr : TemplateExpr) (body : List TemplateNode)
  | includeOther
deriving Repr

abbrev Template := List TemplateNode

/-- The meaning of names; later bindings stand in front. The names of a loop are
joined by a dot. -/
abbrev TemplateScope := List (List String × TemplateValue)

namespace TemplateValue

def print : TemplateValue → String
  | null => ""
  | number value => toString value
  | text value => value
  | list items => "[" ++ ", ".intercalate items ++ "]"

def holds : TemplateValue → Bool
  | null => false
  | number value => value != 0
  | text value => !value.isEmpty
  | list items => !items.isEmpty

def items? : TemplateValue → Option (List String)
  | list items => some items
  | text value => some (value.toList.map fun c => c.toString)
  | _ => none

def filter? (value : TemplateValue) (name : String) : Option TemplateValue :=
  match name, value with
  | "length", list items => some (number items.length)
  | "length", text value => some (number value.length)
  | "upper", text value => some (text (String.ofList (value.toList.flatMap upperChars)))
  | "lower", text value => some (text (String.ofList (value.toList.flatMap lowerChars)))
  | _, _ => none

end TemplateValue

/-- The value of an expression; none if a name is not defined or a filter does not
apply. -/
def TemplateExpr.eval? (scope : TemplateScope) (expr : TemplateExpr) : Option TemplateValue := do
  let value ← scope.lookup expr.path
  expr.filters.foldlM TemplateValue.filter? value

/-- Whether a condition holds. A name that is not defined counts as false, unless a
filter is applied to it. -/
def TemplateExpr.test? (scope : TemplateScope) (expr : TemplateExpr) : Option Bool :=
  match expr.eval? scope with
  | some value => some value.holds
  | none => if expr.filters.isEmpty then some false else none

def loopScope (binder item : String) (index : Nat) (scope : TemplateScope) : TemplateScope :=
  ([binder], .text item) :: (["loop", "index"], .number (index + 1)) ::
    (["loop", "index0"], .number index) :: scope

mutual
def TemplateNode.render? (scope : TemplateScope) : TemplateNode → Option String
  | .text content => some content
  | .output expr => do
      let value ← expr.eval? scope
      return value.print
  | .condition expr body otherwise => do
      if ← expr.test? scope then renderAll? scope body else renderAll? scope otherwise
  | .loop binder expr body => do
      let items ← (← expr.eval? scope).items?
      let turns ← items.zipIdx.mapM fun (item, index) =>
        renderAll? (loopScope binder item index scope) body
      return String.join turns
  | .includeOther => none

def renderAll? (scope : TemplateScope) : List TemplateNode → Option String
  | [] => some ""
  | node :: rest => do
      let first ← node.render? scope
      let others ← renderAll? scope rest
      return first ++ others
end

def Template.render? (template : Template) (scope : TemplateScope) : Option String :=
  renderAll? scope template

end ApiTypings
