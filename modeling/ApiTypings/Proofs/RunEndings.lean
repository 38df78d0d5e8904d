import ApiTypings.Proofs.FileEffects
import ApiTypings.Proofs.Runs

/-!
# Where a run ends

A run goes through its stages in a fixed order: it finds out what there is to do, creates the
directory, runs the hooks before, writes the files, and runs the hooks after. It ends with the
first thing that fails, or with a count, and leaves what has been done up to there. `RunEnds`
lists the places where a run into a directory can end, each with its result and with all that
has changed, and `run_ends_iff` says that these are the runs.
-/

namespace ApiTypings

/-! ## Steps that fail -/

/-- From a world, a step fails and leaves a world. -/
def Step.Fails {α : Type} (step : Step α) (before : World) (failure : Failure) (after : World) :
    Prop :=
  (step.run.run before).run = (.error failure, after)

namespace Step

variable {α β : Type} {before after : World} {failure : Failure}

theorem fails_pure {value : α} : ¬ (pure value : Step α).Fails before failure after := by
  intro h
  cases h

theorem fails_modify {change : World → World} :
    ¬ (modify change : Step Unit).Fails before failure after := by
  intro h
  cases h

theorem fails_throw {thrown : Failure} :
    (throw thrown : Step α).Fails before failure after ↔ failure = thrown ∧ after = before := by
  change (Except.error thrown, before) = (Except.error failure, after) ↔ _
  simp [eq_comm]

/-- A step fails in its first part, or in the second part after the first has succeeded. -/
theorem fails_bind {first : Step α} {next : α → Step β} :
    (first >>= next).Fails before failure after ↔
      first.Fails before failure after ∨ ∃ between middle, first.Succeeds before between middle ∧
        (next between).Fails middle failure after := by
  rw [Fails, run_bind]
  simp only [Fails, Succeeds]
  rcases (first.run.run before).run with ⟨_ | between, middle⟩
  · simp
  · simp [and_assoc]

theorem fails_ofExcept {result : Except Failure α} :
    (Step.ofExcept result).Fails before failure after ↔
      result = .error failure ∧ after = before := by
  cases result with
  | error failure => simp [Step.ofExcept, fails_throw, eq_comm]
  | ok value => simp [Step.ofExcept, fails_pure]

theorem fails_get_bind {next : World → Step β} :
    (get >>= next).Fails before failure after ↔ (next before).Fails before failure after :=
  Iff.rfl

/-- A loop fails in one of its items, after it has gone through those in front. -/
theorem fails_forM {step : α → Step Unit} {items : List α} :
    (items.forM step).Fails before failure after ↔
      ∃ done item rest middle, items = done ++ item :: rest ∧
        (done.forM step).Succeeds before () middle ∧ (step item).Fails middle failure after := by
  induction items generalizing before with
  | nil =>
      constructor
      · intro h
        exact absurd h fails_pure
      · rintro ⟨done, item, rest, middle, hitems, -⟩
        simp at hitems
  | cons first others ih =>
      change (step first >>= fun _ => others.forM step).Fails _ _ _ ↔ _
      rw [fails_bind]
      constructor
      · rintro (hfirst | ⟨⟨⟩, between, hfirst, hothers⟩)
        · exact ⟨[], first, others, before, rfl, succeeds_forM_nil.mpr rfl, hfirst⟩
        · obtain ⟨done, item, rest, middle, rfl, hdone, hitem⟩ := ih.mp hothers
          exact ⟨first :: done, item, rest, middle, rfl,
            succeeds_forM_cons.mpr ⟨between, hfirst, hdone⟩, hitem⟩
      · rintro ⟨done, item, rest, middle, hitems, hdone, hitem⟩
        cases done with
        | nil =>
            cases hitems
            rw [succeeds_forM_nil.mp hdone] at hitem
            exact Or.inl hitem
        | cons head done =>
            cases hitems
            obtain ⟨between, hfirst, hdone⟩ := succeeds_forM_cons.mp hdone
            exact Or.inr ⟨(), between, hfirst, ih.mpr ⟨done, item, rest, middle, rfl, hdone, hitem⟩⟩

end Step

/-! ## The parts of a run -/

/-- Whether a failure says that it cannot be found out what there is to do. -/
def Failure.isOfPreparation : Failure → Bool
  | noInput | inputNotFound _ | inputUnreadable _ | inputNotJson _ | inputNotYaml _
  | formatNotDetected _ | unknownFormat _ | inputRefused _ _ | templateRefused _ => true
  | _ => false

section Preparation

variable {config : Config} {tree : FileTree} {input : InputConfig} {failure : Failure}

theorem readDocument_error {path : String} (h : readDocument tree path = .error failure) :
    failure.isOfPreparation := by
  rw [readDocument] at h
  split at h
  · cases h
    rfl
  · rw [parseDocument] at h
    split at h
    · split at h <;> cases h
      rfl
    · split at h <;> cases h
      rfl
  · cases h
    rfl

theorem chooseFormat_error {document : Json} (h : chooseFormat input document = .error failure) :
    failure.isOfPreparation := by
  rw [chooseFormat] at h
  split at h
  · split at h <;> cases h
    rfl
  · split at h <;> cases h
    rfl

theorem readApis_error (h : readApis tree input = .error failure) : failure.isOfPreparation := by
  rw [readApis] at h
  rcases bind_eq_error_iff.mp h with h | ⟨document, -, h⟩
  · exact readDocument_error h
  · rcases bind_eq_error_iff.mp h with h | ⟨format, -, h⟩
    · exact chooseFormat_error h
    · cases hparse : format.parse input.source document input.api with
      | error cause =>
          rw [hparse] at h
          cases h
          rfl
      | ok apis =>
          rw [hparse] at h
          cases h

theorem readTemplate_error {path : String} (h : readTemplate tree path = .error failure) :
    failure.isOfPreparation := by
  rw [readTemplate] at h
  split at h
  · split at h <;> cases h
    rfl
  · cases h
    rfl

theorem prepare_error (h : prepare config tree = .error failure) : failure.isOfPreparation := by
  rw [prepare] at h
  split at h
  · cases h
    rfl
  · rcases bind_eq_error_iff.mp h with h | ⟨apis, -, h⟩
    · exact readApis_error h
    · split at h
      · cases h
      · rcases bind_eq_error_iff.mp h with h | ⟨template, -, h⟩
        · exact readTemplate_error h
        · cases h

end Preparation

section Parts

variable {hook : Hook.Reader} {config : Config} {before after : World} {failure : Failure}

theorem openDestination_fails_iff {directory : String} :
    (openDestination (.directory directory)).Fails before failure after ↔
      ∃ tree, before.tree.createDirectories directory = .error tree ∧
        failure = .directoryNotCreated directory ∧ after = { before with tree } := by
  rw [openDestination, Step.fails_get_bind]
  cases before.tree.createDirectories directory with
  | error tree => simp [Step.fails_bind, Step.succeeds_modify, Step.fails_modify, Step.fails_throw]
  | ok tree => simp [Step.fails_modify]

theorem runHook_fails_iff {runner : Hook.Runner} {command : String} :
    (runHook runner command).Fails before failure after ↔
      (runner before.tree command).1.status ≠ 0 ∧
        failure = .hookFailed command (runner before.tree command).1.complaint ∧
        after = { before with tree := (runner before.tree command).2 }.did (.ranHook command) := by
  rw [runHook, Step.fails_get_bind]
  by_cases hstatus : (runner before.tree command).1.status = 0
  · simp [hstatus, Step.fails_modify]
  · simp [hstatus, Step.fails_bind, Step.fails_modify, Step.succeeds_modify, Step.fails_throw]

theorem emit_fails_iff {directory name content : String} :
    (emit (.directory directory) name content).Fails before failure after ↔
      before.tree.write? (Path.join directory name) content = none ∧
        failure = .fileNotWritten (Path.join directory name) ∧ after = before := by
  rw [emit, Step.fails_get_bind]
  cases before.tree.write? (Path.join directory name) content with
  | none => simp [Step.fails_throw]
  | some tree => simp [Step.fails_modify]

/-- There is no file for an API: its content cannot be rendered, or not be written. -/
inductive FileFails (config : Config) (template : Option Template) (directory : String)
    (tree : FileTree) (api : NamedApi) : Failure → Prop
  | notRendered {reason : Failure}
      (hcontent : renderFile config.render template api = .error reason) :
      FileFails config template directory tree api (.notGenerated api.name reason)
  | notWritten {content : String} (hcontent : renderFile config.render template api = .ok content)
      (hwrite : tree.write? (Path.join directory (fileNameOf api)) content = none) :
      FileFails config template directory tree api
        (.fileNotWritten (Path.join directory (fileNameOf api)))

theorem writeApi_fails_iff {template : Option Template} {directory : String} {api : NamedApi} :
    (writeApi config template (.directory directory) api).Fails before failure after ↔
      FileFails config template directory before.tree api failure ∧ after = before := by
  rw [writeApi, Step.fails_bind]
  simp only [Step.fails_ofExcept, Step.succeeds_ofExcept, emit_fails_iff]
  cases hcontent : renderFile config.render template api with
  | error reason =>
      constructor
      · rintro (⟨hfailure, rfl⟩ | ⟨content, middle, ⟨hok, -⟩, -⟩)
        · cases hfailure
          exact ⟨.notRendered hcontent, rfl⟩
        · cases hok
      · rintro ⟨hfails, rfl⟩
        cases hfails with
        | notRendered h =>
            rw [hcontent] at h
            cases h
            exact Or.inl ⟨rfl, rfl⟩
        | notWritten h =>
            rw [hcontent] at h
            cases h
  | ok content =>
      constructor
      · rintro (⟨hfailure, -⟩ | ⟨content', middle, ⟨hok, rfl⟩, hwrite, rfl, rfl⟩)
        · cases hfailure
        · cases hok
          exact ⟨.notWritten hcontent hwrite, rfl⟩
      · rintro ⟨hfails, rfl⟩
        cases hfails with
        | notRendered h =>
            rw [hcontent] at h
            cases h
        | notWritten h hwrite =>
            rw [hcontent] at h
            cases h
            exact Or.inr ⟨content, after, ⟨rfl, rfl⟩, hwrite, rfl, rfl⟩

theorem readers_succeed_iff {commands : List String} {value : Unit} :
    (commands.forM (runHook hook.runner)).Succeeds before value after ↔
      (∀ command ∈ commands, (hook before.tree command).status = 0) ∧
        after = { before with trace := before.trace ++ commands.map .ranHook } := by
  rw [hooks_succeed_iff]
  simp only [Hook.Reader.ranAll?_eq_some_iff]
  constructor
  · rintro ⟨_, ⟨hstatus, rfl⟩, rfl⟩
    exact ⟨hstatus, rfl⟩
  · rintro ⟨hstatus, rfl⟩
    exact ⟨_, ⟨hstatus, rfl⟩, rfl⟩

/-- The hooks in front of the one that fails have run. -/
theorem hooks_fail_iff {commands : List String} :
    (commands.forM (runHook hook.runner)).Fails before failure after ↔
      ∃ done command rest, commands = done ++ command :: rest ∧
        (∀ command ∈ done, (hook before.tree command).status = 0) ∧
        (hook before.tree command).status ≠ 0 ∧
        failure = .hookFailed command (hook before.tree command).complaint ∧
        after = { before with trace := before.trace ++ (done ++ [command]).map .ranHook } := by
  rw [Step.fails_forM]
  simp only [readers_succeed_iff, runHook_fails_iff, Hook.Reader.runner]
  constructor
  · rintro ⟨done, command, rest, middle, hcommands, ⟨hdone, rfl⟩, hstatus, hfailure, rfl⟩
    exact ⟨done, command, rest, hcommands, hdone, hstatus, hfailure, by simp [World.did]⟩
  · rintro ⟨done, command, rest, hcommands, hdone, hstatus, hfailure, rfl⟩
    exact ⟨done, command, rest, _, hcommands, ⟨hdone, rfl⟩, hstatus, hfailure, by simp [World.did]⟩

/-- The files of the APIs in front of the one that fails are written. -/
theorem writes_fail_iff {template : Option Template} {directory : String} {apis : List NamedApi} :
    (apis.forM (writeApi config template (.directory directory))).Fails before failure after ↔
      ∃ done api rest files tree, apis = done ++ api :: rest ∧
        done.mapM (outputFile config template directory) = .ok files ∧
        before.tree.writeAll? files = some tree ∧
        FileFails config template directory tree api failure ∧
        after = { tree, trace := before.trace ++ files.map fun file => .wrote file.1 file.2 } := by
  rw [Step.fails_forM]
  simp only [writes_succeed_iff, writeApi_fails_iff]
  constructor
  · rintro ⟨done, api, rest, middle, hapis, ⟨files, tree, hfiles, hwrites, rfl⟩, hfails, rfl⟩
    exact ⟨done, api, rest, files, tree, hapis, hfiles, hwrites, hfails, rfl⟩
  · rintro ⟨done, api, rest, files, tree, hapis, hfiles, hwrites, hfails, rfl⟩
    exact ⟨done, api, rest, _, hapis, ⟨files, tree, hfiles, hwrites, rfl⟩, hfails, rfl⟩

end Parts

/-! ## The places where a run ends -/

/-- The job is found and the directory is there, with nothing else changed. -/
structure Opened (config : Config) (directory : String) (tree : FileTree) (job : Job)
    (opened : FileTree) : Prop where
  found : prepare config tree = .ok job
  created : tree.createDirectories directory = .ok opened
  new : FileTree.NewOnTheWay directory tree opened
  there : ∃ place, opened.directoryAt? directory = some place ∧ opened.isDirectory place

/-- The files of some APIs are written in order, with nothing else changed. -/
structure FilesWritten (config : Config) (template : Option Template) (directory : String)
    (apis : List NamedApi) (opened : FileTree) (files : List (String × String))
    (after : FileTree) : Prop where
  contents : apis.mapM (outputFile config template directory) = .ok files
  writes : opened.writeAll? files = some after
  written : FileTree.Written opened files after

def writesOf (files : List (String × String)) : List Effect :=
  files.map fun file => .wrote file.1 file.2

/-- Where a run into a directory ends: the result, and all that has changed. The hooks before see
the directory as it was created, and the hooks after see it with all files. -/
inductive RunEnds (hook : Hook.Reader) (config : Config) (directory : String) (tree : FileTree) :
    Except Failure Nat → World → Prop
  /-- What there is to do cannot be found out. Nothing has changed, and no hook has run. -/
  | unprepared {failure : Failure} (cause : prepare config tree = .error failure)
      (kind : failure.isOfPreparation) :
      RunEnds hook config directory tree (.error failure) { tree }
  /-- The directory cannot be created. Directories on the way to it may be new. -/
  | blocked {job : Job} {after : FileTree} (found : prepare config tree = .ok job)
      (cause : tree.createDirectories directory = .error after)
      (new : FileTree.NewOnTheWay directory tree after) :
      RunEnds hook config directory tree (.error (.directoryNotCreated directory)) { tree := after }
  /-- A hook before the files fails. The directory is there, and no later hook has run. -/
  | hookBefore {job : Job} {opened : FileTree} {done : List String} {command : String}
      {rest : List String} (opens : Opened config directory tree job opened)
      (order : config.hooks.before = done ++ command :: rest)
      (passed : ∀ command ∈ done, (hook opened command).status = 0)
      (cause : (hook opened command).status ≠ 0) :
      RunEnds hook config directory tree
        (.error (.hookFailed command (hook opened command).complaint))
        { tree := opened, trace := (done ++ [command]).map .ranHook }
  /-- An API has no file. Those in front of it have theirs, and no hook after has run. -/
  | file {job : Job} {opened after : FileTree} {done : List NamedApi} {api : NamedApi}
      {rest : List NamedApi} {files : List (String × String)} {failure : Failure}
      (opens : Opened config directory tree job opened)
      (passed : ∀ command ∈ config.hooks.before, (hook opened command).status = 0)
      (order : job.apis = done ++ api :: rest)
      (writes : FilesWritten config job.template directory done opened files after)
      (cause : FileFails config job.template directory after api failure) :
      RunEnds hook config directory tree (.error failure)
        { tree := after, trace := config.hooks.before.map .ranHook ++ writesOf files }
  /-- A hook after the files fails. All APIs have their files, and no later hook has run. -/
  | hookAfter {job : Job} {opened after : FileTree} {files : List (String × String)}
      {done : List String} {command : String} {rest : List String}
      (opens : Opened config directory tree job opened)
      (passed : ∀ command ∈ config.hooks.before, (hook opened command).status = 0)
      (writes : FilesWritten config job.template directory job.apis opened files after)
      (order : config.hooks.after = done ++ command :: rest)
      (passedAfter : ∀ command ∈ done, (hook after command).status = 0)
      (cause : (hook after command).status ≠ 0) :
      RunEnds hook config directory tree
        (.error (.hookFailed command (hook after command).complaint))
        { tree := after
          trace := config.hooks.before.map .ranHook ++ writesOf files ++
            (done ++ [command]).map .ranHook }
  /-- Everything is done. The count is that of the APIs. -/
  | finished {job : Job} {opened after : FileTree} {files : List (String × String)}
      (opens : Opened config directory tree job opened)
      (passed : ∀ command ∈ config.hooks.before, (hook opened command).status = 0)
      (writes : FilesWritten config job.template directory job.apis opened files after)
      (passedAfter : ∀ command ∈ config.hooks.after, (hook after command).status = 0) :
      RunEnds hook config directory tree (.ok job.apis.length)
        { tree := after
          trace := config.hooks.before.map .ranHook ++ writesOf files ++
            config.hooks.after.map .ranHook }

section Endings

variable {hook : Hook.Reader} {config : Config} {directory : String} {tree opened : FileTree}
  {job : Job} {failure : Failure} {after : World}

theorem Opened.of_created (found : prepare config tree = .ok job)
    (created : tree.createDirectories directory = .ok opened) :
    Opened config directory tree job opened := by
  have hnew := FileTree.createDirectories_newOnTheWay tree directory
  rw [created] at hnew
  exact ⟨found, created, hnew, (FileTree.createDirectories_ok created).2⟩

theorem FilesWritten.of_writes {template : Option Template} {apis : List NamedApi}
    {files : List (String × String)} {after : FileTree}
    (contents : apis.mapM (outputFile config template directory) = .ok files)
    (writes : opened.writeAll? files = some after) :
    FilesWritten config template directory apis opened files after :=
  ⟨contents, writes, FileTree.writeAll?_written writes⟩

/-- A job that fails does so in one of its four stages. -/
theorem runEnds_of_job_fails (found : prepare config tree = .ok job)
    (h : (job.run hook.runner config (.directory directory)).Fails { tree } failure after) :
    RunEnds hook config directory tree (.error failure) after := by
  rw [Job.run] at h
  rcases Step.fails_bind.mp h with h | ⟨⟨⟩, _, h₁, h⟩
  · obtain ⟨blocked, hblocked, rfl, rfl⟩ := openDestination_fails_iff.mp h
    have hnew := FileTree.createDirectories_newOnTheWay tree directory
    rw [hblocked] at hnew
    exact .blocked found hblocked hnew
  obtain ⟨opened, hopened, rfl⟩ := openDestination_succeeds_iff.mp h₁
  have hopen := opened?_directory.mp hopened
  have opens := Opened.of_created found hopen
  rcases Step.fails_bind.mp h with h | ⟨⟨⟩, _, h₂, h⟩
  · obtain ⟨done, command, rest, order, passed, cause, rfl, rfl⟩ := hooks_fail_iff.mp h
    exact .hookBefore opens order passed cause
  obtain ⟨passed, rfl⟩ := readers_succeed_iff.mp h₂
  rcases Step.fails_bind.mp h with h | ⟨⟨⟩, _, h₃, h⟩
  · obtain ⟨done, api, rest, files, written, order, contents, writes, cause, rfl⟩ :=
      writes_fail_iff.mp h
    exact .file opens passed order (.of_writes contents writes) cause
  obtain ⟨files, written, contents, writes, rfl⟩ := writes_succeed_iff.mp h₃
  rcases Step.fails_bind.mp h with h | ⟨⟨⟩, _, h₄, h⟩
  · obtain ⟨done, command, rest, order, passedAfter, cause, rfl, rfl⟩ := hooks_fail_iff.mp h
    exact .hookAfter opens passed (.of_writes contents writes) order passedAfter cause
  · exact absurd h Step.fails_pure

theorem run_fails_iff {runner : Hook.Runner} {destination : Destination} {before : World} :
    (run runner config destination).Fails before failure after ↔
      prepare config before.tree = .error failure ∧ after = before ∨
        ∃ job, prepare config before.tree = .ok job ∧
          (job.run runner config destination).Fails before failure after := by
  rw [run, Step.fails_get_bind, Step.fails_bind]
  simp only [Step.fails_ofExcept, Step.succeeds_ofExcept]
  constructor
  · rintro (h | ⟨job, middle, ⟨hjob, rfl⟩, h⟩)
    · exact Or.inl h
    · exact Or.inr ⟨job, hjob, h⟩
  · rintro (h | ⟨job, hjob, h⟩)
    · exact Or.inl h
    · exact Or.inr ⟨job, before, ⟨hjob, rfl⟩, h⟩

/-- Behind the directory, the job goes on with hooks and files. -/
theorem Opened.job_fails (opens : Opened config directory tree job opened)
    (h : (config.hooks.before.forM (runHook hook.runner) >>= fun _ =>
      job.apis.forM (writeApi config job.template (.directory directory)) >>= fun _ =>
        config.hooks.after.forM (runHook hook.runner) >>= fun _ =>
          pure job.apis.length).Fails { tree := opened } failure after) :
    (run hook.runner config (.directory directory)).Fails { tree } failure after := by
  refine run_fails_iff.mpr (Or.inr ⟨job, opens.found, ?_⟩)
  exact Step.fails_bind.mpr (Or.inr ⟨(), _, openDestination_succeeds_iff.mpr
    ⟨_, opened?_directory.mpr opens.created, rfl⟩, h⟩)

/-- What a run comes to is determined by the place where it ends. -/
theorem run_of_ends {result : Except Failure Nat} {world : World}
    (h : RunEnds hook config directory tree result world) :
    ((run hook.runner config (.directory directory)).run.run { tree }).run = (result, world) := by
  cases h with
  | unprepared cause kind => exact run_fails_iff.mpr (Or.inl ⟨cause, rfl⟩)
  | blocked found cause new =>
      refine run_fails_iff.mpr (Or.inr ⟨_, found, ?_⟩)
      exact Step.fails_bind.mpr (Or.inl (openDestination_fails_iff.mpr ⟨_, cause, rfl, rfl⟩))
  | hookBefore opens order passed cause =>
      refine opens.job_fails (Step.fails_bind.mpr (Or.inl ?_))
      exact hooks_fail_iff.mpr ⟨_, _, _, order, passed, cause, rfl, rfl⟩
  | file opens passed order writes cause =>
      refine opens.job_fails (Step.fails_bind.mpr (Or.inr ?_))
      refine ⟨(), _, readers_succeed_iff.mpr ⟨passed, rfl⟩, Step.fails_bind.mpr (Or.inl ?_)⟩
      exact writes_fail_iff.mpr
        ⟨_, _, _, _, _, order, writes.contents, writes.writes, cause, rfl⟩
  | hookAfter opens passed writes order passedAfter cause =>
      refine opens.job_fails (Step.fails_bind.mpr (Or.inr ?_))
      refine ⟨(), _, readers_succeed_iff.mpr ⟨passed, rfl⟩, Step.fails_bind.mpr (Or.inr ?_)⟩
      refine ⟨(), _, writes_succeed_iff.mpr ⟨_, _, writes.contents, writes.writes, rfl⟩, ?_⟩
      refine Step.fails_bind.mpr (Or.inl ?_)
      exact hooks_fail_iff.mpr ⟨_, _, _, order, passedAfter, cause, rfl, rfl⟩
  | finished opens passed writes passedAfter =>
      refine run_succeeds_iff.mpr ⟨_, opens.found, job_succeeds_iff.mpr ?_⟩
      exact ⟨_, _, _, opens.created, passed, writes.contents, writes.writes, passedAfter, rfl, rfl⟩

/-- **Where a run ends.** A run into a directory comes to a result and a world exactly if it
ends there: what it could not find out has changed nothing, and what fails later leaves the
effects of the stages in front of it, in order, and no others. -/
theorem run_ends_iff (hook : Hook.Reader) (config : Config) (directory : String) (tree : FileTree)
    (result : Except Failure Nat) (world : World) :
    ((run hook.runner config (.directory directory)).run.run { tree }).run = (result, world) ↔
      RunEnds hook config directory tree result world := by
  constructor
  · intro h
    cases result with
    | error failure =>
        rcases run_fails_iff.mp h with ⟨cause, rfl⟩ | ⟨job, found, h⟩
        · exact .unprepared cause (prepare_error cause)
        · exact runEnds_of_job_fails found h
    | ok count =>
        obtain ⟨job, found, h⟩ := run_succeeds_iff.mp h
        obtain ⟨opened, files, after, created, passed, contents, writes, passedAfter, rfl, rfl⟩ :=
          job_succeeds_iff.mp h
        exact .finished (.of_created found created) passed (.of_writes contents writes) passedAfter
  · exact run_of_ends

end Endings

end ApiTypings
