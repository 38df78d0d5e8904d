import ApiTypings.Proofs.AlikeTrees
import ApiTypings.Proofs.OutputPlaces

/-!
# Detected formats

No document looks like two formats, so it makes no difference in which order the formats are
tried. A bundle is an object with an object of APIs, all other objects are single APIs, and
what is not an object has no format. A run that detects its format goes as the run that is
told that format (`format_detected_in_any_order`).
-/

namespace ApiTypings

/-! ## What a document looks like -/

/-- Whether the members of an object hold APIs by name. -/
def HoldsApis (members : List (String × Json)) : Prop :=
  ∃ apis, valueAt? "apis" members = some (.object apis)

theorem isBundle_object_iff (members : List (String × Json)) :
    isBundle (.object members) ↔ HoldsApis members := by
  rw [isBundle, Json.member?, HoldsApis]
  cases valueAt? "apis" members with
  | none => simp
  | some apis => cases apis <;> simp [Json.isObject]

namespace InputFormat

variable {document : Json}

theorem accepts_apiDocs_iff :
    apiDocs.accepts document ↔ ∃ members, document = .object members ∧ HoldsApis members := by
  constructor
  · intro h
    cases document with
    | object members => exact ⟨members, rfl, (isBundle_object_iff members).mp h⟩
    | null | bool | number | string | array => cases h
  · rintro ⟨members, rfl, hapis⟩
    exact (isBundle_object_iff members).mpr hapis

theorem accepts_api_iff :
    api.accepts document ↔ ∃ members, document = .object members ∧ ¬ HoldsApis members := by
  constructor
  · intro h
    cases document with
    | object members =>
        have hother : ¬ isBundle (.object members) := by simpa [accepts, Json.isObject] using h
        exact ⟨members, rfl, mt (isBundle_object_iff members).mpr hother⟩
    | null | bool | number | string | array => cases h
  · rintro ⟨members, rfl, hapis⟩
    have hother : ¬ isBundle (.object members) := mt (isBundle_object_iff members).mp hapis
    simpa [accepts, Json.isObject] using hother

/-- No document looks like two formats. -/
theorem eq_of_accepts {first second : InputFormat} (hfirst : first.accepts document)
    (hsecond : second.accepts document) : first = second := by
  have hnotBoth : ¬ (api.accepts document ∧ apiDocs.accepts document) := by
    rintro ⟨hapi, hdocs⟩
    obtain ⟨members, rfl, hother⟩ := accepts_api_iff.mp hapi
    obtain ⟨_, heq, hapis⟩ := accepts_apiDocs_iff.mp hdocs
    cases heq
    exact hother hapis
  cases first <;> cases second
  · rfl
  · exact absurd ⟨hfirst, hsecond⟩ hnotBoth
  · exact absurd ⟨hsecond, hfirst⟩ hnotBoth
  · rfl

theorem exists_accepts_iff :
    (∃ format : InputFormat, format.accepts document) ↔ ∃ members, document = .object members := by
  constructor
  · rintro ⟨format, h⟩
    cases format with
    | api =>
        obtain ⟨members, hdocument, -⟩ := accepts_api_iff.mp h
        exact ⟨members, hdocument⟩
    | apiDocs =>
        obtain ⟨members, hdocument, -⟩ := accepts_apiDocs_iff.mp h
        exact ⟨members, hdocument⟩
  · rintro ⟨members, rfl⟩
    by_cases hapis : HoldsApis members
    · exact ⟨apiDocs, accepts_apiDocs_iff.mpr ⟨members, rfl, hapis⟩⟩
    · exact ⟨api, accepts_api_iff.mpr ⟨members, rfl, hapis⟩⟩

/-! ## Detection -/

section Visited

variable {visited : List InputFormat} (hvisited : visited.Perm all)

include hvisited

theorem mem_visited (format : InputFormat) : format ∈ visited := by
  have hall : format ∈ all := by cases format <;> simp [all]
  exact hvisited.mem_iff.mpr hall

/-- In any order, the first format that a document looks like is the one that it looks like. -/
theorem detectIn_eq_some_iff {format : InputFormat} :
    detectIn visited document = some format ↔ format.accepts document := by
  constructor
  · exact List.find?_some
  · intro haccepts
    cases hdetected : detectIn visited document with
    | none =>
        have hnone := List.find?_eq_none.mp hdetected format (mem_visited hvisited format)
        exact absurd haccepts hnone
    | some found =>
        have hfind : visited.find? (·.accepts document) = some found := hdetected
        have hfound := List.find?_some hfind
        rw [eq_of_accepts hfound haccepts]

theorem detectIn_eq_none_iff :
    detectIn visited document = none ↔ ∀ members, document ≠ .object members := by
  rw [← not_exists, ← exists_accepts_iff, Option.eq_none_iff_forall_ne_some, not_exists]
  exact forall_congr' fun format => not_congr (detectIn_eq_some_iff hvisited)

theorem detectIn_eq_detect : detectIn visited document = detect document := by
  refine Option.ext fun format => ?_
  rw [detectIn_eq_some_iff hvisited]
  exact (detectIn_eq_some_iff (List.Perm.refl all)).symm

end Visited

theorem ofName?_name (format : InputFormat) : ofName? format.name = some format := by
  cases format <;> decide

end InputFormat

/-! ## Runs that are told the format -/

def Config.naming (config : Config) (format : InputFormat) : Config :=
  { config with
    input := config.input.map fun input => { input with format := some format.name } }

section Runs

variable {config : Config} {input : InputConfig} {document : Json} {format : InputFormat}

theorem chooseFormat_named (hformat : input.format = none)
    (hdetected : InputFormat.detect document = some format) :
    chooseFormat { input with format := some format.name } document =
      chooseFormat input document := by
  simp only [chooseFormat, hformat, hdetected, InputFormat.ofName?_name]

theorem prepare_naming {tree : FileTree} (hinput : config.input = some input)
    (hformat : input.format = none) (hread : readDocument tree input.source = .ok document)
    (hdetected : InputFormat.detect document = some format) :
    prepare (config.naming format) tree = prepare config tree := by
  have happis : readApis tree { input with format := some format.name } =
      readApis tree input := by
    simp only [readApis, hread]
    change (chooseFormat { input with format := some format.name } document >>= _) =
      (chooseFormat input document >>= _)
    rw [chooseFormat_named hformat hdetected]
  simp only [prepare, Config.naming, hinput, Option.map_some, happis]

/-- **A detected format is as good as a named one.** -/
theorem run_naming {hook : Hook.Runner} {destination : Destination} {before : World}
    (hinput : config.input = some input) (hformat : input.format = none)
    (hread : readDocument before.tree input.source = .ok document)
    (hdetected : InputFormat.detect document = some format) :
    ((run hook config destination).run.run before).run =
      ((run hook (config.naming format) destination).run.run before).run := by
  rw [run, run, Step.run_get_bind, Step.run_get_bind,
    prepare_naming hinput hformat hread hdetected]
  rfl

end Runs

/-- **Formats in any order.** A document looks like one format at most. In whatever order the
formats are tried, what is found is a bundle exactly for an object with an object of APIs, a
single API exactly for any other object, and nothing exactly for what is no object. And a run
that is not told the format of its document goes as the run that is told the format found. -/
theorem format_detected_in_any_order (document : Json) :
    (∀ first second : InputFormat, first.accepts document → second.accepts document →
      first = second) ∧
    ∀ visited, visited.Perm InputFormat.all →
      (InputFormat.detectIn visited document = some .apiDocs ↔
        ∃ members, document = .object members ∧ HoldsApis members) ∧
      (InputFormat.detectIn visited document = some .api ↔
        ∃ members, document = .object members ∧ ¬ HoldsApis members) ∧
      (InputFormat.detectIn visited document = none ↔ ∀ members, document ≠ .object members) ∧
      ∀ hook config destination before input format, config.input = some input →
        input.format = none → readDocument before.tree input.source = .ok document →
        InputFormat.detectIn visited document = some format →
          ((run hook config destination).run.run before).run =
            ((run hook (config.naming format) destination).run.run before).run := by
  refine ⟨fun first second => InputFormat.eq_of_accepts, fun visited hvisited => ?_⟩
  refine ⟨?_, ?_, InputFormat.detectIn_eq_none_iff hvisited, ?_⟩
  · rw [InputFormat.detectIn_eq_some_iff hvisited]
    exact InputFormat.accepts_apiDocs_iff
  · rw [InputFormat.detectIn_eq_some_iff hvisited]
    exact InputFormat.accepts_api_iff
  · intro hook config destination before input format hinput hformat hread hdetected
    rw [InputFormat.detectIn_eq_detect hvisited] at hdetected
    exact run_naming hinput hformat hread hdetected

/-- With the formats tried from last to first, the bundle is found to be one, and its run is
that of a bundle. -/
theorem format_detected_in_any_order_bundle :
    ∃ document, readDocument (bundleTree plainBundle) "api-docs.json" = .ok document ∧
      [InputFormat.apiDocs, .api].Perm InputFormat.all ∧
      InputFormat.detectIn [.apiDocs, .api] document = some .apiDocs ∧
      bundleRun plainBundle =
        ((run Hook.run (bundleConfig.naming .apiDocs) (.directory "out")).run.run
          { tree := bundleTree plainBundle }).run := by
  have hperm : [InputFormat.apiDocs, .api].Perm InputFormat.all := by decide
  have hread : (readDocument (bundleTree plainBundle) "api-docs.json").toOption.bind
      (InputFormat.detectIn [.apiDocs, .api]) = some .apiDocs := by
    decide +kernel
  obtain ⟨document, hdocument, hdetected⟩ := Option.bind_eq_some_iff.mp hread
  have hbundle := toOption_eq_some_iff.mp hdocument
  obtain ⟨-, hvisited⟩ := format_detected_in_any_order document
  obtain ⟨-, -, -, hrun⟩ := hvisited _ hperm
  exact ⟨document, hbundle, hperm, hdetected,
    hrun Hook.run bundleConfig (.directory "out") _ _ _ rfl rfl hbundle hdetected⟩

end ApiTypings
