import ApiTypings.Config.Basic

/-!
# Overrides

What the command line says instead of the configuration.
-/

namespace ApiTypings

/-- Values that replace those of a configuration, and switches that change it. -/
structure Overrides where
  source : Option String := none
  output : Option String := none
  format : Option String := none
  api : Option String := none
  template : Option String := none
  interfacePrefix : Option String := none
  keyCasing : Option KeyCasing := none
  noExport : Bool := false
  noComments : Bool := false
  insertExample : Bool := false
  noEnum : Bool := false
deriving Repr, DecidableEq, Inhabited

namespace Overrides

/-- The input with another source; there is an input afterwards. -/
def inputFrom (source : String) : Option InputConfig → InputConfig
  | some input => { input with source }
  | none => { source }

/-- The input of a configuration with overrides. A format or an API alone does not make
an input. -/
def applyToInput (overrides : Overrides) (input : Option InputConfig) : Option InputConfig :=
  let input :=
    match overrides.source with
    | some source => some (inputFrom source input)
    | none => input
  input.map fun input => { input with
    format := overrides.format.or input.format
    api := overrides.api.or input.api }

def applyToRender (overrides : Overrides) (render : RenderOptions) : RenderOptions where
  useExport := render.useExport && !overrides.noExport
  keyCasing := overrides.keyCasing.getD render.keyCasing
  comments := {
    disabled := render.comments.disabled || overrides.noComments
    insertExample := render.comments.insertExample || overrides.insertExample }
  interfacePrefix := overrides.interfacePrefix.getD render.interfacePrefix
  unionToEnum := render.unionToEnum && !overrides.noEnum

def apply (overrides : Overrides) (config : Config) : Config :=
  { config with
    input := overrides.applyToInput config.input
    output := overrides.output.or config.output
    template := overrides.template.or config.template
    render := overrides.applyToRender config.render }

/-- Without overrides a configuration stays as it is. -/
theorem apply_empty (config : Config) : ({} : Overrides).apply config = config := by
  cases config with
  | mk _ input =>
    cases input <;> simp [apply, applyToInput, applyToRender]

end Overrides

end ApiTypings
