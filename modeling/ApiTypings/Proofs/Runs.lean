import ApiTypings.Run
import ApiTypings.Proofs.Decoding
import ApiTypings.Proofs.FileChanges

/-!
# Runs that succeed

What each step of a run leaves if it succeeds (`Step.Succeeds`), put together for the
whole run. The job is found without any effect (`run_succeeds_iff`). It is done exactly if the
destination can be opened, all hooks succeed, every API has a file, and the files can be put
into the destination one after the other, each in the files that the one before has left; the
trace says what was done, in order (`job_done_iff`). Hooks that change no file see the
destination as it was opened, or with all its files (`job_done_reading_iff`). In a directory, to
put a file is to write it (`job_succeeds_iff`).
-/

namespace ApiTypings

/-! ## Steps -/

/-- From a world, a step brings a value and leaves a world. -/
def Step.Succeeds {α : Type} (step : Step α) (before : World) (value : α) (after : World) : Prop :=
  (step.run.run before).run = (.ok value, after)

namespace Step

variable {α β : Type} {before after : World}

theorem run_bind (first : Step α) (next : α → Step β) (before : World) :
    ((first >>= next).run.run before).run =
      match (first.run.run before).run with
      | (.ok value, middle) => ((next value).run.run middle).run
      | (.error failure, middle) => (.error failure, middle) := by
  change (match (first.run.run before).run with
    | (value, middle) => ((ExceptT.bindCont next value).run middle).run) = _
  rcases (first.run.run before).run with ⟨_ | value, middle⟩ <;> rfl

theorem run_get_bind (next : World → Step β) (before : World) :
    ((get >>= next).run.run before).run = ((next before).run.run before).run :=
  rfl

theorem succeeds_pure {value value' : α} :
    (pure value : Step α).Succeeds before value' after ↔ value' = value ∧ after = before := by
  change (Except.ok value, before) = (Except.ok value', after) ↔ _
  simp [eq_comm]

theorem succeeds_bind {first : Step α} {next : α → Step β} {value : β} :
    (first >>= next).Succeeds before value after ↔
      ∃ between middle, first.Succeeds before between middle ∧
        (next between).Succeeds middle value after := by
  rw [Succeeds, run_bind]
  simp only [Succeeds]
  rcases (first.run.run before).run with ⟨_ | between, middle⟩
  · simp
  · simp [and_assoc]

theorem succeeds_throw {failure : Failure} {value : α} :
    ¬ (throw failure : Step α).Succeeds before value after := by
  intro h
  cases h

theorem succeeds_ofExcept {result : Except Failure α} {value : α} :
    (Step.ofExcept result).Succeeds before value after ↔ result = .ok value ∧ after = before := by
  cases result with
  | error failure => simp [Step.ofExcept, succeeds_throw]
  | ok result => simp [Step.ofExcept, succeeds_pure, eq_comm]

theorem succeeds_get_bind {next : World → Step β} {value : β} :
    (get >>= next).Succeeds before value after ↔ (next before).Succeeds before value after :=
  Iff.rfl

theorem succeeds_modify {change : World → World} {value : Unit} :
    (modify change : Step Unit).Succeeds before value after ↔ after = change before := by
  change (Except.ok (), change before) = (Except.ok value, after) ↔ _
  simp [eq_comm]

/-- A step that is carried out to a value succeeds with what it leaves. -/
theorem succeeds_of_toOption {step : Step α} {value : α}
    (h : (step.run.run before).run.1.toOption = some value) :
    step.Succeeds before value (step.run.run before).run.2 := by
  rw [Succeeds]
  generalize (step.run.run before).run = outcome at h ⊢
  obtain ⟨failure | result, after⟩ := outcome
  · cases h
  · cases h
    rfl

theorem succeeds_forM_nil {step : α → Step Unit} {value : Unit} :
    (([] : List α).forM step).Succeeds before value after ↔ after = before := by
  change (pure () : Step Unit).Succeeds _ _ _ ↔ _
  simp [succeeds_pure]

theorem succeeds_forM_cons {step : α → Step Unit} {first : α} {rest : List α} {value : Unit} :
    ((first :: rest).forM step).Succeeds before value after ↔
      ∃ middle, (step first).Succeeds before () middle ∧
        (rest.forM step).Succeeds middle () after := by
  change (step first >>= fun _ => rest.forM step).Succeeds _ _ _ ↔ _
  rw [succeeds_bind]
  constructor
  · rintro ⟨⟨⟩, middle, hfirst, hrest⟩
    exact ⟨middle, hfirst, hrest⟩
  · rintro ⟨middle, hfirst, hrest⟩
    exact ⟨(), middle, hfirst, hrest⟩

end Step

/-! ## Destinations -/

namespace Destination

/-- The tree with the destination in it; none if it cannot be created. -/
def opened? : Destination → FileTree → Option FileTree
  | .standardOutput, tree => some tree
  | .directory path, tree => (tree.createDirectories path).toOption

def put? : Destination → FileTree → String × String → Option FileTree
  | .standardOutput, tree, _ => some tree
  | .directory path, tree, (name, content) => tree.write? (Path.join path name) content

def effect : Destination → String × String → Effect
  | .standardOutput, (_, content) => .printed content
  | .directory path, (name, content) => .wrote (Path.join path name) content

def putAll? (destination : Destination) (tree : FileTree) (files : List (String × String)) :
    Option FileTree :=
  files.foldlM destination.put? tree

theorem putAll?_cons {destination : Destination} {tree : FileTree} {file : String × String}
    {files : List (String × String)} :
    destination.putAll? tree (file :: files) =
      (destination.put? tree file).bind (destination.putAll? · files) :=
  List.foldlM_cons

theorem putAll?_directory (path : String) (tree : FileTree) (files : List (String × String)) :
    (directory path).putAll? tree files =
      tree.writeAll? (files.map fun file => (Path.join path file.1, file.2)) := by
  rw [FileTree.writeAll?, List.foldlM_map]
  rfl

end Destination

/-! ## Hooks -/

namespace Hook

/-- The files after a hook; none if it fails. -/
def Runner.ran? (hook : Runner) (tree : FileTree) (command : String) : Option FileTree :=
  if (hook tree command).1.status = 0 then some (hook tree command).2 else none

def Runner.ranAll? (hook : Runner) (tree : FileTree) (commands : List String) : Option FileTree :=
  commands.foldlM hook.ran? tree

theorem Runner.ranAll?_cons {hook : Runner} {tree : FileTree} {command : String}
    {commands : List String} :
    hook.ranAll? tree (command :: commands) =
      (hook.ran? tree command).bind (hook.ranAll? · commands) :=
  List.foldlM_cons

/-- Hooks that change no file all see the same files. -/
theorem Reader.ranAll?_eq_some_iff {hook : Reader} {tree after : FileTree}
    {commands : List String} :
    hook.runner.ranAll? tree commands = some after ↔
      (∀ command ∈ commands, (hook tree command).status = 0) ∧ after = tree := by
  induction commands with
  | nil =>
      change some tree = some after ↔ _
      simp [eq_comm]
  | cons command rest ih =>
      have hran : hook.runner.ran? tree command =
          if (hook tree command).status = 0 then some tree else none := rfl
      rw [Runner.ranAll?_cons, hran, List.forall_mem_cons]
      by_cases hstatus : (hook tree command).status = 0
      · rw [if_pos hstatus, Option.bind_some, ih]
        simp [hstatus]
      · simp [hstatus]

end Hook

/-! ## The parts of a run -/

section Parts

variable {hook : Hook.Runner} {config : Config} {destination : Destination}
  {before after : World} {value : Unit}

theorem openDestination_succeeds_iff :
    (openDestination destination).Succeeds before value after ↔
      ∃ tree, destination.opened? before.tree = some tree ∧ after = { before with tree } := by
  cases destination with
  | standardOutput => simp [openDestination, Destination.opened?, Step.succeeds_pure]
  | directory path =>
      rw [openDestination, Step.succeeds_get_bind, Destination.opened?]
      cases before.tree.createDirectories path with
      | error tree => simp [Step.succeeds_bind, Step.succeeds_throw, Except.toOption]
      | ok tree => simp [Step.succeeds_modify, Except.toOption]

theorem runHook_succeeds_iff {command : String} :
    (runHook hook command).Succeeds before value after ↔
      ∃ tree, hook.ran? before.tree command = some tree ∧
        after = { before with tree }.did (.ranHook command) := by
  rw [runHook, Step.succeeds_get_bind, Hook.Runner.ran?]
  by_cases hstatus : (hook before.tree command).1.status = 0
  · simp [hstatus, Step.succeeds_modify]
  · simp [hstatus, Step.succeeds_bind, Step.succeeds_throw]

/-- All hooks run one after the other. -/
theorem hooks_succeed_iff {commands : List String} :
    (commands.forM (runHook hook)).Succeeds before value after ↔
      ∃ tree, hook.ranAll? before.tree commands = some tree ∧
        after = { tree, trace := before.trace ++ commands.map .ranHook } := by
  induction commands generalizing before with
  | nil =>
      rw [Step.succeeds_forM_nil]
      constructor
      · rintro rfl
        exact ⟨after.tree, rfl, by simp⟩
      · rintro ⟨tree, hran, rfl⟩
        cases hran
        simp
  | cons command rest ih =>
      rw [Step.succeeds_forM_cons]
      simp only [runHook_succeeds_iff, ih, Hook.Runner.ranAll?_cons, Option.bind_eq_some_iff]
      constructor
      · rintro ⟨middle, ⟨first, hfirst, rfl⟩, tree, htree, rfl⟩
        exact ⟨tree, ⟨first, hfirst, htree⟩, by simp [World.did]⟩
      · rintro ⟨tree, ⟨first, hfirst, htree⟩, rfl⟩
        exact ⟨_, ⟨first, hfirst, rfl⟩, tree, htree, by simp [World.did]⟩

theorem emit_succeeds_iff (file : String × String) :
    (emit destination file.1 file.2).Succeeds before value after ↔
      ∃ tree, destination.put? before.tree file = some tree ∧
        after = { before with tree }.did (destination.effect file) := by
  cases destination with
  | standardOutput => simp [emit, Destination.put?, Destination.effect, Step.succeeds_modify]
  | directory path =>
      rw [emit, Step.succeeds_get_bind, Destination.put?, Destination.effect]
      cases before.tree.write? (Path.join path file.1) file.2 with
      | none => simp [Step.succeeds_throw]
      | some tree => simp [Step.succeeds_modify]

def apiFile (config : Config) (template : Option Template) (api : NamedApi) :
    Except Failure (String × String) :=
  (fileNameOf api, ·) <$>
    (renderFile config.render template api).mapError (Failure.notGenerated api.name)

theorem writeApi_succeeds_iff {template : Option Template} {api : NamedApi} :
    (writeApi config template destination api).Succeeds before value after ↔
      ∃ file tree, apiFile config template api = .ok file ∧
        destination.put? before.tree file = some tree ∧
        after = { before with tree }.did (destination.effect file) := by
  rw [writeApi, Step.succeeds_bind]
  simp only [Step.succeeds_ofExcept]
  constructor
  · rintro ⟨content, middle, ⟨hcontent, rfl⟩, hemit⟩
    obtain ⟨tree, hput, rfl⟩ := (emit_succeeds_iff (fileNameOf api, content)).mp hemit
    exact ⟨_, tree, map_eq_ok_iff.mpr ⟨content, hcontent, rfl⟩, hput, rfl⟩
  · rintro ⟨file, tree, hfile, hput, rfl⟩
    obtain ⟨content, hcontent, rfl⟩ := map_eq_ok_iff.mp hfile
    refine ⟨content, before, ⟨hcontent, rfl⟩, ?_⟩
    exact (emit_succeeds_iff (fileNameOf api, content)).mpr ⟨tree, hput, rfl⟩

/-- The files of all APIs are put out one after the other. -/
theorem outputs_succeed_iff {template : Option Template} {apis : List NamedApi} :
    (apis.forM (writeApi config template destination)).Succeeds before value after ↔
      ∃ files tree, apis.mapM (apiFile config template) = .ok files ∧
        destination.putAll? before.tree files = some tree ∧
        after = { tree, trace := before.trace ++ files.map destination.effect } := by
  induction apis generalizing before with
  | nil =>
      rw [Step.succeeds_forM_nil]
      constructor
      · rintro rfl
        exact ⟨[], after.tree, rfl, rfl, by simp⟩
      · rintro ⟨files, tree, hfiles, hputs, rfl⟩
        cases hfiles
        cases hputs
        simp
  | cons api rest ih =>
      rw [Step.succeeds_forM_cons]
      simp only [writeApi_succeeds_iff, ih]
      constructor
      · rintro ⟨middle, ⟨file, first, hfile, hput, rfl⟩, files, tree, hfiles, hputs, rfl⟩
        refine ⟨file :: files, tree, ?_, ?_, ?_⟩
        · rw [List.mapM_cons, hfile, hfiles]
          rfl
        · rw [Destination.putAll?_cons, hput]
          exact hputs
        · simp [World.did]
      · rintro ⟨files, tree, hfiles, hputs, rfl⟩
        rw [List.mapM_cons] at hfiles
        obtain ⟨file, hfile, hfiles⟩ := bind_eq_ok_iff.mp hfiles
        obtain ⟨others, hothers, hfiles⟩ := bind_eq_ok_iff.mp hfiles
        cases hfiles
        rw [Destination.putAll?_cons] at hputs
        obtain ⟨first, hput, hputs⟩ := Option.bind_eq_some_iff.mp hputs
        refine ⟨_, ⟨file, first, hfile, hput, rfl⟩, others, tree, hothers, hputs, ?_⟩
        simp [World.did]

/-- What a job with some files leaves in the trace. -/
def jobTrace (config : Config) (destination : Destination) (files : List (String × String)) :
    List Effect :=
  config.hooks.before.map .ranHook ++ files.map destination.effect ++
    config.hooks.after.map .ranHook

/-- What is kept of a trace, without the hooks, is kept of what happens between them. -/
theorem filterMap_between_hooks {β : Type} {keep : Effect → Option β}
    (hkeep : ∀ command, keep (.ranHook command) = none) (first last : List String)
    (effects : List Effect) :
    (first.map Effect.ranHook ++ effects ++ last.map Effect.ranHook).filterMap keep =
      effects.filterMap keep := by
  have hhooks (commands : List String) : (commands.map Effect.ranHook).filterMap keep = [] := by
    rw [List.filterMap_map, List.filterMap_eq_nil_iff]
    intro command _
    exact hkeep command
  rw [List.filterMap_append, List.filterMap_append, hhooks, hhooks, List.nil_append,
    List.append_nil]

/-- **A job that is done.** Everything in it succeeds, one after the other, and nothing but its
files and its hooks makes a difference. -/
theorem job_done_iff {job : Job} {count : Nat} :
    (job.run hook config destination).Succeeds before count after ↔
      ∃ opened started files written tree, destination.opened? before.tree = some opened ∧
        hook.ranAll? opened config.hooks.before = some started ∧
        job.apis.mapM (apiFile config job.template) = .ok files ∧
        destination.putAll? started files = some written ∧
        hook.ranAll? written config.hooks.after = some tree ∧
        count = job.apis.length ∧
        after = { tree, trace := before.trace ++ jobTrace config destination files } := by
  rw [Job.run]
  constructor
  · intro h
    obtain ⟨⟨⟩, _, h₁, h⟩ := Step.succeeds_bind.mp h
    obtain ⟨⟨⟩, _, h₂, h⟩ := Step.succeeds_bind.mp h
    obtain ⟨⟨⟩, _, h₃, h⟩ := Step.succeeds_bind.mp h
    obtain ⟨⟨⟩, _, h₄, h⟩ := Step.succeeds_bind.mp h
    obtain ⟨rfl, rfl⟩ := Step.succeeds_pure.mp h
    obtain ⟨opened, hopen, rfl⟩ := openDestination_succeeds_iff.mp h₁
    obtain ⟨started, hbefore, rfl⟩ := hooks_succeed_iff.mp h₂
    obtain ⟨files, written, hfiles, hputs, rfl⟩ := outputs_succeed_iff.mp h₃
    obtain ⟨tree, hafter, rfl⟩ := hooks_succeed_iff.mp h₄
    refine ⟨opened, started, files, written, tree, hopen, hbefore, hfiles, hputs, hafter, rfl, ?_⟩
    simp [jobTrace]
  · rintro ⟨opened, started, files, written, tree, hopen, hbefore, hfiles, hputs, hafter, rfl, rfl⟩
    rw [jobTrace, ← List.append_assoc, ← List.append_assoc]
    refine Step.succeeds_bind.mpr ⟨(), _, openDestination_succeeds_iff.mpr ⟨_, hopen, rfl⟩, ?_⟩
    refine Step.succeeds_bind.mpr ⟨(), _, hooks_succeed_iff.mpr ⟨started, hbefore, rfl⟩, ?_⟩
    refine Step.succeeds_bind.mpr
      ⟨(), _, outputs_succeed_iff.mpr ⟨files, written, hfiles, hputs, rfl⟩, ?_⟩
    refine Step.succeeds_bind.mpr ⟨(), _, hooks_succeed_iff.mpr ⟨tree, hafter, rfl⟩, ?_⟩
    exact Step.succeeds_pure.mpr ⟨rfl, rfl⟩

/-- Hooks that change no file see the destination as it was opened, or with all its files. -/
theorem job_done_reading_iff {reader : Hook.Reader} {job : Job} {count : Nat} :
    (job.run reader.runner config destination).Succeeds before count after ↔
      ∃ opened files tree, destination.opened? before.tree = some opened ∧
        (∀ command ∈ config.hooks.before, (reader opened command).status = 0) ∧
        job.apis.mapM (apiFile config job.template) = .ok files ∧
        destination.putAll? opened files = some tree ∧
        (∀ command ∈ config.hooks.after, (reader tree command).status = 0) ∧
        count = job.apis.length ∧
        after = { tree, trace := before.trace ++ jobTrace config destination files } := by
  rw [job_done_iff]
  simp only [Hook.Reader.ranAll?_eq_some_iff]
  constructor
  · rintro ⟨opened, _, files, tree, _, hopen, ⟨hbefore, rfl⟩, hfiles, hputs, ⟨hafter, rfl⟩,
      hcount, rfl⟩
    exact ⟨_, files, _, hopen, hbefore, hfiles, hputs, hafter, hcount, rfl⟩
  · rintro ⟨opened, files, tree, hopen, hbefore, hfiles, hputs, hafter, hcount, rfl⟩
    exact ⟨opened, opened, files, tree, tree, hopen, ⟨hbefore, rfl⟩, hfiles, hputs, ⟨hafter, rfl⟩,
      hcount, rfl⟩

/-- A run finds its job, without any effect, and does it. -/
theorem run_succeeds_iff {count : Nat} :
    (run hook config destination).Succeeds before count after ↔
      ∃ job, prepare config before.tree = .ok job ∧
        (job.run hook config destination).Succeeds before count after := by
  rw [run, Step.succeeds_get_bind, Step.succeeds_bind]
  simp only [Step.succeeds_ofExcept]
  constructor
  · rintro ⟨job, middle, ⟨hjob, rfl⟩, h⟩
    exact ⟨job, hjob, h⟩
  · rintro ⟨job, hjob, h⟩
    exact ⟨job, before, ⟨hjob, rfl⟩, h⟩

end Parts

/-! ## Into a directory -/

section Directory

variable {hook : Hook.Reader} {config : Config} {directory : String} {before after : World}

theorem opened?_directory {tree opened : FileTree} :
    (Destination.directory directory).opened? tree = some opened ↔
      tree.createDirectories directory = .ok opened :=
  toOption_eq_some_iff

def outputFile (config : Config) (template : Option Template) (directory : String)
    (api : NamedApi) : Except Failure (String × String) :=
  (Path.join directory (fileNameOf api), ·) <$>
    (renderFile config.render template api).mapError (Failure.notGenerated api.name)

theorem outputFile_eq {template : Option Template} (api : NamedApi) :
    outputFile config template directory api =
      (fun file => (Path.join directory file.1, file.2)) <$> apiFile config template api := by
  rw [outputFile, apiFile]
  cases renderFile config.render template api <;> rfl

theorem mapM_outputFile_eq_ok_iff {template : Option Template} {apis : List NamedApi}
    {outputs : List (String × String)} :
    apis.mapM (outputFile config template directory) = .ok outputs ↔
      ∃ files, apis.mapM (apiFile config template) = .ok files ∧
        files.map (fun file => (Path.join directory file.1, file.2)) = outputs := by
  induction apis generalizing outputs with
  | nil => simp [pure, Except.pure]
  | cons api rest ih =>
      simp only [List.mapM_cons, bind_eq_ok_iff, ih, outputFile_eq, map_eq_ok_iff]
      constructor
      · rintro ⟨_, ⟨file, hfile, rfl⟩, _, ⟨files, hfiles, rfl⟩, h⟩
        cases h
        exact ⟨file :: files, ⟨file, hfile, files, hfiles, rfl⟩, rfl⟩
      · rintro ⟨_, ⟨file, hfile, files, hfiles, h⟩, rfl⟩
        cases h
        exact ⟨_, ⟨file, hfile, rfl⟩, _, ⟨files, hfiles, rfl⟩, rfl⟩

/-- The files of all APIs are written one after the other. -/
theorem writes_succeed_iff {template : Option Template} {apis : List NamedApi} {value : Unit} :
    (apis.forM (writeApi config template (.directory directory))).Succeeds before value after ↔
      ∃ files tree, apis.mapM (outputFile config template directory) = .ok files ∧
        before.tree.writeAll? files = some tree ∧
        after = { tree, trace := before.trace ++ files.map fun file => .wrote file.1 file.2 } := by
  rw [outputs_succeed_iff]
  simp only [mapM_outputFile_eq_ok_iff, Destination.putAll?_directory]
  constructor
  · rintro ⟨files, tree, hfiles, hwrites, rfl⟩
    refine ⟨_, tree, ⟨files, hfiles, rfl⟩, hwrites, ?_⟩
    rw [List.map_map]
    rfl
  · rintro ⟨_, tree, ⟨files, hfiles, rfl⟩, hwrites, rfl⟩
    refine ⟨files, tree, hfiles, hwrites, ?_⟩
    rw [List.map_map]
    rfl

/-- A job that is done into a directory, with hooks that change no file. -/
theorem job_succeeds_iff {job : Job} {count : Nat} :
    (job.run hook.runner config (.directory directory)).Succeeds before count after ↔
      ∃ opened files tree, before.tree.createDirectories directory = .ok opened ∧
        (∀ command ∈ config.hooks.before, (hook opened command).status = 0) ∧
        job.apis.mapM (outputFile config job.template directory) = .ok files ∧
        opened.writeAll? files = some tree ∧
        (∀ command ∈ config.hooks.after, (hook tree command).status = 0) ∧
        count = job.apis.length ∧
        after = { tree, trace := before.trace ++ config.hooks.before.map .ranHook ++
          (files.map fun file => .wrote file.1 file.2) ++ config.hooks.after.map .ranHook } := by
  rw [job_done_reading_iff]
  simp only [mapM_outputFile_eq_ok_iff, Destination.putAll?_directory, opened?_directory]
  constructor
  · rintro ⟨opened, files, tree, hopen, hbefore, hfiles, hwrites, hafter, hcount, rfl⟩
    refine ⟨opened, _, tree, hopen, hbefore, ⟨files, hfiles, rfl⟩, hwrites, hafter, hcount, ?_⟩
    simp [jobTrace, Destination.effect]
  · rintro ⟨opened, _, tree, hopen, hbefore, ⟨files, hfiles, rfl⟩, hwrites, hafter, hcount, rfl⟩
    refine ⟨opened, files, tree, hopen, hbefore, hfiles, hwrites, hafter, hcount, ?_⟩
    simp [jobTrace, Destination.effect]

end Directory

end ApiTypings
