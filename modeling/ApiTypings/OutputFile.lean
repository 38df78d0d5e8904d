import ApiTypings.Declaration.Generation
import ApiTypings.Template.Basic

/-!
# Output files

The declarations of an API under a header that repeats its title and summary as line
comments, or inside a template.
-/

namespace ApiTypings

/-- A text without the blanks at its ends; none if nothing is left. -/
def nonBlank? (text : Option String) : Option String :=
  match text with
  | none => none
  | some text =>
      let trimmed := trim text
      if trimmed.isEmpty then none else some trimmed

def headerLines (api : NamedApi) : List String :=
  let summary := nonBlank? api.info.summary
  let first :=
    match nonBlank? api.info.title with
    | some title => ["// " ++ api.name ++ ": " ++ title]
    | none => if summary.isSome then ["// " ++ api.name] else []
  let rest :=
    match summary with
    | some summary => (textLines summary).map fun line => "// " ++ trimEnd line
    | none => []
  first ++ rest

/-- The header with a blank line after it; nothing if it has no lines. -/
def headerText (api : NamedApi) : String :=
  match headerLines api with
  | [] => ""
  | lines => "\n".intercalate lines ++ "\n\n"

def TemplateValue.ofOption : Option String → TemplateValue
  | none => .null
  | some value => .text value

def templateScope (options : RenderOptions) (api : NamedApi) (decls : Declarations) :
    TemplateScope :=
  [(["api"], .text api.name),
    (["title"], .ofOption api.info.title),
    (["summary"], .ofOption api.info.summary),
    (["declarations"], .text (decls.text options.useExport)),
    (["enums"], .list (decls.enumTexts options.useExport)),
    (["interfaces"], .list (decls.interfaceTexts options.useExport))]

/-- The content of a file with the given declarations: under the header, or as the template
has it; none if the template cannot be rendered. -/
def fileText? (options : RenderOptions) (template : Option Template) (api : NamedApi)
    (decls : Declarations) : Option String :=
  match template with
  | none => some (headerText api ++ decls.text options.useExport)
  | some template => template.render? (templateScope options api decls)

def fileContent? (options : RenderOptions) (template : Option Template) (api : NamedApi) :
    Option String :=
  fileText? options template api (generate api.name options api.info)

def fileNameOf (api : NamedApi) : String :=
  api.name ++ ".ts"

end ApiTypings
