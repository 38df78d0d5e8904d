import ApiTypings.Config.Overrides

/-!
# Overrides one after the other

Overrides are put together by letting the later ones win (`andThen`). To apply the two together
is to apply them one after the other, with one exception: a format or an API for an input that
is not there yet is not kept for the input that later overrides make (`Loses`). Together they
would give it to that input; one after the other, it is lost unless the later overrides say it
again (`applyToInput_andThen_iff`). Everything else of a configuration is overridden field by
field, so that no order is lost there (`applyToRender_andThen`).
-/

namespace ApiTypings

namespace Overrides

/-! ## Composition -/

/-- The overrides of both, where the later values win and the switches add up. -/
def andThen (first later : Overrides) : Overrides where
  source := later.source.or first.source
  output := later.output.or first.output
  format := later.format.or first.format
  api := later.api.or first.api
  template := later.template.or first.template
  interfacePrefix := later.interfacePrefix.or first.interfacePrefix
  keyCasing := later.keyCasing.or first.keyCasing
  noExport := first.noExport || later.noExport
  noComments := first.noComments || later.noComments
  insertExample := first.insertExample || later.insertExample
  noEnum := first.noEnum || later.noEnum

theorem andThen_self (overrides : Overrides) : overrides.andThen overrides = overrides := by
  cases overrides
  simp [andThen]

/-- What the first overrides say about an input is lost: there is none and they make none, the
later ones make one, and say less about it. -/
structure Loses (first later : Overrides) (input : Option InputConfig) : Prop where
  absent : input = none
  notMade : first.source = none
  madeLater : later.source.isSome
  unsaid : first.format.isSome ∧ later.format = none ∨ first.api.isSome ∧ later.api = none

/-! ## Inputs -/

theorem applyToInput_some (overrides : Overrides) (input : InputConfig) :
    overrides.applyToInput (some input) = some {
      format := overrides.format.or input.format
      source := overrides.source.getD input.source
      api := overrides.api.or input.api } := by
  cases hsource : overrides.source <;> simp [applyToInput, inputFrom, hsource]

/-- Without an input, a source makes one, which has the format and the API that are given. -/
theorem applyToInput_none (overrides : Overrides) :
    overrides.applyToInput none = overrides.source.map fun source =>
      { format := overrides.format, source, api := overrides.api } := by
  cases hsource : overrides.source <;> simp [applyToInput, inputFrom, hsource]

section Input

variable (overrides : Overrides) (input : Option InputConfig)

theorem isSome_applyToInput :
    (overrides.applyToInput input).isSome ↔ input.isSome ∨ overrides.source.isSome := by
  cases input <;> simp [applyToInput_none, applyToInput_some]

theorem source_applyToInput :
    (overrides.applyToInput input).map InputConfig.source =
      overrides.source.or (input.map InputConfig.source) := by
  cases input <;> cases hsource : overrides.source <;>
    simp [applyToInput_none, applyToInput_some, hsource]

theorem format_applyToInput :
    (overrides.applyToInput input).bind InputConfig.format =
      if (overrides.applyToInput input).isSome then
        overrides.format.or (input.bind InputConfig.format)
      else none := by
  cases input <;> cases hsource : overrides.source <;>
    simp [applyToInput_none, applyToInput_some, hsource]

theorem api_applyToInput :
    (overrides.applyToInput input).bind InputConfig.api =
      if (overrides.applyToInput input).isSome then
        overrides.api.or (input.bind InputConfig.api)
      else none := by
  cases input <;> cases hsource : overrides.source <;>
    simp [applyToInput_none, applyToInput_some, hsource]

end Input

section Apply

variable (first later : Overrides)

theorem eq_or_iff {α : Type} (late early : Option α) :
    late = late.or early ↔ ¬ (early.isSome ∧ late = none) := by
  cases late <;> cases early <;> simp

/-- An input takes overrides in any grouping, unless what the first say about it is lost. -/
theorem applyToInput_andThen_iff (input : Option InputConfig) :
    later.applyToInput (first.applyToInput input) = (first.andThen later).applyToInput input ↔
      ¬ first.Loses later input := by
  cases input with
  | some input =>
      refine iff_of_true ?_ fun hloses => nomatch hloses.absent
      simp [applyToInput_some, andThen, Option.or_assoc, Option.getD_or]
  | none =>
      cases hfirst : first.source with
      | some source =>
          refine iff_of_true ?_ fun hloses => ?_
          · simp [applyToInput_none, applyToInput_some, andThen, hfirst]
          · have hmade := hloses.notMade
            rw [hfirst] at hmade
            cases hmade
      | none =>
          cases hlater : later.source with
          | none =>
              refine iff_of_true ?_ fun hloses => ?_
              · simp [applyToInput_none, andThen, hfirst, hlater]
              · have hmade := hloses.madeLater
                rw [hlater] at hmade
                cases hmade
          | some source =>
              -- both make an input, and only together they know what the first say about it
              have hequal : later.applyToInput (first.applyToInput none) =
                    (first.andThen later).applyToInput none ↔
                  later.format = later.format.or first.format ∧
                    later.api = later.api.or first.api := by
                simp [applyToInput_none, andThen, hfirst, hlater]
              rw [hequal, eq_or_iff, eq_or_iff, ← not_or]
              refine not_congr ⟨fun hunsaid => ?_, fun hloses => hloses.unsaid⟩
              exact ⟨rfl, hfirst, by rw [hlater]; rfl, hunsaid⟩

/-! ## Configurations -/

/-- The rendering takes overrides in any grouping. -/
theorem applyToRender_andThen (render : RenderOptions) :
    later.applyToRender (first.applyToRender render) =
      (first.andThen later).applyToRender render := by
  simp only [applyToRender, andThen, Option.getD_or, Bool.or_assoc, Bool.and_assoc, Bool.not_or]

/-- Configurations take overrides in any grouping exactly if their inputs do. -/
theorem apply_andThen_iff (config : Config) :
    later.apply (first.apply config) = (first.andThen later).apply config ↔
      ¬ first.Loses later config.input := by
  have houtput : later.output.or (first.output.or config.output) =
      (first.andThen later).output.or config.output := (Option.or_assoc ..).symm
  have htemplate : later.template.or (first.template.or config.template) =
      (first.andThen later).template.or config.template := (Option.or_assoc ..).symm
  rw [← applyToInput_andThen_iff]
  simp [apply, houtput, htemplate, applyToRender_andThen]

/-- The same overrides twice are the same as once. -/
theorem apply_apply_self (overrides : Overrides) (config : Config) :
    overrides.apply (overrides.apply config) = overrides.apply config := by
  have hkept : ¬ overrides.Loses overrides config.input := by
    intro hloses
    have hmade := hloses.madeLater
    rw [hloses.notMade] at hmade
    cases hmade
  rw [(apply_andThen_iff overrides overrides config).mpr hkept, andThen_self]

end Apply

/-! ## What a configuration becomes -/

/-- What overrides make of a configuration: a value that is given takes the place of the one
that was there, a switch that is on turns its field, and all else stays. There is an input
afterwards if there was one or a source is given; a format and an API need one. -/
structure Governs (overrides : Overrides) (config merged : Config) : Prop where
  version : merged.version = config.version
  hooks : merged.hooks = config.hooks
  output : merged.output = overrides.output.or config.output
  template : merged.template = overrides.template.or config.template
  interfacePrefix : merged.render.interfacePrefix =
    overrides.interfacePrefix.getD config.render.interfacePrefix
  keyCasing : merged.render.keyCasing = overrides.keyCasing.getD config.render.keyCasing
  useExport : merged.render.useExport =
    if overrides.noExport then false else config.render.useExport
  unionToEnum : merged.render.unionToEnum =
    if overrides.noEnum then false else config.render.unionToEnum
  commentsDisabled : merged.render.comments.disabled =
    if overrides.noComments then true else config.render.comments.disabled
  insertExample : merged.render.comments.insertExample =
    if overrides.insertExample then true else config.render.comments.insertExample
  isSome_input : merged.input.isSome ↔ config.input.isSome ∨ overrides.source.isSome
  source : merged.input.map InputConfig.source =
    overrides.source.or (config.input.map InputConfig.source)
  format : merged.input.bind InputConfig.format =
    if merged.input.isSome then overrides.format.or (config.input.bind InputConfig.format)
    else none
  api : merged.input.bind InputConfig.api =
    if merged.input.isSome then overrides.api.or (config.input.bind InputConfig.api) else none

theorem governs_apply (overrides : Overrides) (config : Config) :
    overrides.Governs config (overrides.apply config) where
  version := rfl
  hooks := rfl
  output := rfl
  template := rfl
  interfacePrefix := rfl
  keyCasing := rfl
  useExport := by cases h : overrides.noExport <;> simp [apply, applyToRender, h]
  unionToEnum := by cases h : overrides.noEnum <;> simp [apply, applyToRender, h]
  commentsDisabled := by cases h : overrides.noComments <;> simp [apply, applyToRender, h]
  insertExample := by cases h : overrides.insertExample <;> simp [apply, applyToRender, h]
  isSome_input := overrides.isSome_applyToInput config.input
  source := overrides.source_applyToInput config.input
  format := overrides.format_applyToInput config.input
  api := overrides.api_applyToInput config.input

/-- **Overrides compose.** No overrides change nothing. Two after each other are the two put
together, except where the first say something about an input that only the later ones make, and
that these do not say; so the same twice are the same once. And every field of the configuration
is governed by what is given for it. -/
theorem overrides_compose (config : Config) (first later : Overrides) :
    ({} : Overrides).apply config = config ∧
      (later.apply (first.apply config) = (first.andThen later).apply config ↔
        ¬ first.Loses later config.input) ∧
      first.apply (first.apply config) = first.apply config ∧
      first.Governs config (first.apply config) := by
  refine ⟨apply_empty config, ?_, ?_, ?_⟩
  · exact apply_andThen_iff first later config
  · exact apply_apply_self first config
  · exact governs_apply first config

/-- A format that comes before the source is lost. -/
example : (({ source := some "api.yaml" } : Overrides).apply
      (({ format := some "api-docs" } : Overrides).apply Config.builtIn)).input =
    some { source := "api.yaml" } := rfl

end Overrides

end ApiTypings
