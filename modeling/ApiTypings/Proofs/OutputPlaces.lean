import ApiTypings.Proofs.DistinctNames
import ApiTypings.Proofs.Runs

/-!
# One file for each API

The name of an API comes from a document, a configuration or a command line, and the name of
its file is made of it as it is. A run into a directory writes one file for each API, right
inside the directory and under the name of the API, and changes nothing else, exactly if no
name of an API has a slash in it (`run_one_file_each_iff`). Names with slashes lead elsewhere,
and several of them may lead to one file (`job_is_written_twice`).
-/

namespace ApiTypings

/-! ## The APIs of a run -/

theorem readApis_names_nodup {tree : FileTree} {input : InputConfig} {apis : List NamedApi}
    (h : readApis tree input = .ok apis) : (apis.map NamedApi.name).Nodup := by
  rw [readApis] at h
  obtain ⟨document, hdocument, h⟩ := bind_eq_ok_iff.mp h
  obtain ⟨format, -, h⟩ := bind_eq_ok_iff.mp h
  cases hparse : format.parse input.source document input.api with
  | error cause =>
      rw [hparse] at h
      cases h
  | ok parsed =>
      rw [hparse] at h
      cases h
      exact parse_names_nodup (readDocument_namesDistinct hdocument) hparse

theorem prepare_names_nodup {config : Config} {tree : FileTree} {job : Job}
    (h : prepare config tree = .ok job) : (job.apis.map NamedApi.name).Nodup := by
  rw [prepare] at h
  split at h
  · cases h
  · obtain ⟨apis, hapis, h⟩ := bind_eq_ok_iff.mp h
    split at h
    · cases h
      exact readApis_names_nodup hapis
    · obtain ⟨template, -, h⟩ := bind_eq_ok_iff.mp h
      cases h
      exact readApis_names_nodup hapis

/-! ## The names of files -/

section FileNames

variable {tree : FileTree} {directory : String} {place target : Place} {api : NamedApi}

theorem slash_mem_fileNameOf : '/' ∈ (fileNameOf api).toList ↔ '/' ∈ api.name.toList := by
  simp [fileNameOf]

/-- The name of a file is longer than the special names. -/
theorem fileNameOf_ne {name : String} (h : name.toList.length ≤ 2) : fileNameOf api ≠ name := by
  rintro rfl
  simp [fileNameOf] at h

/-- The file of an API is right inside the directory and has its name exactly if the name has
no slash. -/
theorem resolve_fileNameOf (hdirectory : tree.directoryAt? directory = some place)
    (h : tree.resolve (Path.join directory (fileNameOf api)) = some target) :
    target = place ++ [fileNameOf api] ↔ '/' ∉ api.name.toList := by
  constructor
  · rintro rfl hslash
    have hlast := FileTree.plainNames_resolve h (fileNameOf api) (by simp)
    rcases hlast with hroot | hplain
    · exact fileNameOf_ne (by decide) hroot
    · exact hplain (slash_mem_fileNameOf.mpr hslash)
  · intro hplain
    rw [FileTree.resolve_join (slash_mem_fileNameOf.not.mpr hplain)
      (fileNameOf_ne (by decide)) hdirectory] at h
    obtain ⟨-, ⟨hempty | hdot, -⟩ | ⟨hup, -⟩ | ⟨-, -, -, hlast⟩⟩ := FileTree.step_eq_some h
    · exact absurd hempty (fileNameOf_ne (by decide))
    · exact absurd hdot (fileNameOf_ne (by decide))
    · exact absurd hup (fileNameOf_ne (by decide))
    · exact hlast

end FileNames

/-! ## The files of a run -/

def Effect.writtenPath? : Effect → Option String
  | .wrote path _ => some path
  | .ranHook _ | .printed _ => none

namespace World

def writtenPaths (world : World) : List String :=
  world.trace.filterMap Effect.writtenPath?

def writtenPlaces (world : World) : List (Option Place) :=
  world.writtenPaths.map world.tree.resolve

end World

/-- A run has written one file for each API of a job, and nothing else. -/
structure OneFileEach (config : Config) (job : Job) (place : Place) (before : FileTree)
    (world : World) : Prop where
  /-- Each file is right inside the directory, under the name of its API. -/
  children : world.writtenPlaces = job.apis.map fun api => some (place ++ [fileNameOf api])
  distinct : world.writtenPlaces.Nodup
  contents : ∀ api ∈ job.apis, ∃ content,
    renderFile config.render job.template api = .ok content ∧
      world.tree.nodeAt? (place ++ [fileNameOf api]) = some (.file (.text content))
  /-- All other places are as before, except for new directories. -/
  elsewhere : ∀ other, (∀ api ∈ job.apis, other ≠ place ++ [fileNameOf api]) →
    world.tree.nodeAt? other = before.nodeAt? other ∨
      before.nodeAt? other = none ∧ world.tree.nodeAt? other = some .directory

section Files

variable {config : Config} {template : Option Template} {directory : String}
  {apis : List NamedApi} {files : List (String × String)}

theorem outputFile_eq_ok {api : NamedApi} {file : String × String}
    (h : outputFile config template directory api = .ok file) :
    file.1 = Path.join directory (fileNameOf api) ∧
      renderFile config.render template api = .ok file.2 := by
  obtain ⟨content, hcontent, rfl⟩ := map_eq_ok_iff.mp h
  refine ⟨rfl, ?_⟩
  cases hrender : renderFile config.render template api with
  | error failure =>
      rw [hrender] at hcontent
      cases hcontent
  | ok rendered =>
      rw [hrender] at hcontent
      cases hcontent
      rfl

theorem outputFiles_paths
    (h : apis.mapM (outputFile config template directory) = .ok files) :
    files.map Prod.fst = apis.map fun api => Path.join directory (fileNameOf api) := by
  replace h := forall₂_of_mapM h
  induction h with
  | nil => rfl
  | cons hfile _ ih => rw [List.map_cons, List.map_cons, ih, (outputFile_eq_ok hfile).1]

theorem exists_outputFile {api : NamedApi}
    (h : apis.mapM (outputFile config template directory) = .ok files) (hapi : api ∈ apis) :
    ∃ file ∈ files, outputFile config template directory api = .ok file :=
  exists_mem_of_mapM h hapi

/-- Hooks write no files. -/
theorem writtenPaths_of_trace {world : World} {first last : List String}
    (h : world.trace = first.map .ranHook ++ (files.map fun file => .wrote file.1 file.2) ++
      last.map .ranHook) :
    world.writtenPaths = files.map Prod.fst := by
  rw [World.writtenPaths, h, filterMap_between_hooks (fun _ => rfl), List.filterMap_map,
    ← List.filterMap_eq_map]
  rfl

end Files

section Run

variable {config : Config} {job : Job} {directory : String} {place : Place}
  {tree opened : FileTree} {world : World} {files : List (String × String)}

/-- With plain names, each path leads to the place right inside the directory that its API
gives its name to, and these places are different. -/
theorem oneFileEach_of_plain (hnames : (job.apis.map NamedApi.name).Nodup)
    (honly : FileTree.OnlyAddsDirectories tree opened)
    (hplace : world.tree.directoryAt? directory = some place)
    (hfiles : job.apis.mapM (outputFile config job.template directory) = .ok files)
    (hwrites : opened.writeAll? files = some world.tree)
    (hpaths : world.writtenPaths = files.map Prod.fst)
    (hplain : ∀ api ∈ job.apis, '/' ∉ api.name.toList) :
    OneFileEach config job place tree world := by
  have hresolve : ∀ api ∈ job.apis,
      world.tree.resolve (Path.join directory (fileNameOf api)) =
        some (place ++ [fileNameOf api]) := by
    intro api hapi
    obtain ⟨file, hfile, hout⟩ := exists_outputFile hfiles hapi
    obtain ⟨target, htarget⟩ := FileTree.writeAll?_resolve hwrites file hfile
    rw [(outputFile_eq_ok hout).1] at htarget
    rw [htarget, (resolve_fileNameOf hplace htarget).mpr (hplain api hapi)]
  have hchildren :
      world.writtenPlaces = job.apis.map fun api => some (place ++ [fileNameOf api]) := by
    rw [World.writtenPlaces, hpaths, outputFiles_paths hfiles, List.map_map]
    exact List.map_congr_left hresolve
  have hdistinct : world.writtenPlaces.Nodup := by
    have hinjective : Function.Injective fun name : String => some (place ++ [name ++ ".ts"]) := by
      intro name name' heq
      simpa using heq
    rw [hchildren]
    have hmapped := hnames.map hinjective
    rwa [List.map_map] at hmapped
  refine ⟨hchildren, hdistinct, ?_, ?_⟩
  · intro api hapi
    obtain ⟨file, hfile, hout⟩ := exists_outputFile hfiles hapi
    obtain ⟨hpath, hcontent⟩ := outputFile_eq_ok hout
    refine ⟨file.2, hcontent, ?_⟩
    rw [World.writtenPlaces, hpaths, List.map_map] at hdistinct
    exact FileTree.writeAll?_content hwrites hdistinct file hfile _ (hpath ▸ hresolve api hapi)
  · intro other hother
    have hframe : world.tree.nodeAt? other = opened.nodeAt? other := by
      apply FileTree.writeAll?_frame hwrites
      intro file hfile hsame
      have hmem : world.tree.resolve file.1 ∈ world.writtenPlaces := by
        rw [World.writtenPlaces, hpaths]
        exact List.mem_map_of_mem (List.mem_map_of_mem hfile)
      rw [hchildren, hsame] at hmem
      obtain ⟨api, hapi, heq⟩ := List.mem_map.mp hmem
      exact hother api hapi (Option.some.inj heq).symm
    rw [hframe]
    exact honly other

theorem plain_of_oneFileEach (hplace : world.tree.directoryAt? directory = some place)
    (hpaths : world.writtenPaths =
      job.apis.map fun api => Path.join directory (fileNameOf api))
    (h : OneFileEach config job place tree world) :
    ∀ api ∈ job.apis, '/' ∉ api.name.toList := by
  intro api hapi
  have hchildren := h.children
  rw [World.writtenPlaces, hpaths, List.map_map, List.map_inj_left] at hchildren
  exact (resolve_fileNameOf hplace (hchildren api hapi)).mp rfl

/-- **One file for each API.** A run into a directory that succeeds has a job whose APIs have
different names, and it has written as many times as it says, under the path of each API in
the directory. These are files of their own right inside the directory, and nothing else has
changed, exactly if no name has a slash. The hooks are to change no file. -/
theorem run_one_file_each_iff {hook : Hook.Reader} {count : Nat}
    (h : (run hook.runner config (.directory directory)).Succeeds { tree } count world) :
    ∃ job place, prepare config tree = .ok job ∧ (job.apis.map NamedApi.name).Nodup ∧
      count = job.apis.length ∧
      world.writtenPaths = (job.apis.map fun api => Path.join directory (fileNameOf api)) ∧
      world.tree.directoryAt? directory = some place ∧ world.tree.isDirectory place ∧
      (OneFileEach config job place tree world ↔ ∀ api ∈ job.apis, '/' ∉ api.name.toList) := by
  obtain ⟨job, hjob, h⟩ := run_succeeds_iff.mp h
  obtain ⟨opened, files, after, hopen, -, hfiles, hwrites, -, hcount, hworld⟩ :=
    job_succeeds_iff.mp h
  have hafter : world.tree = after := by rw [hworld]
  have hwritten : world.writtenPaths = files.map Prod.fst :=
    writtenPaths_of_trace (by rw [hworld]; rfl)
  have hpaths := hwritten.trans (outputFiles_paths hfiles)
  rw [← hafter] at hwrites
  obtain ⟨honly, place, hplace, hdirectory⟩ := FileTree.createDirectories_ok hopen
  have hkeeps := FileTree.keepsDirectories_writeAll? hwrites
  have hplace' := hkeeps.directoryAt? hplace
  have hnames := prepare_names_nodup hjob
  refine ⟨job, place, hjob, hnames, hcount, hpaths, hplace', hkeeps place hdirectory, ?_⟩
  constructor
  · exact plain_of_oneFileEach hplace' hpaths
  · exact oneFileEach_of_plain hnames honly hplace' hfiles hwrites hwritten

end Run

/-! ### Bundles with and without slashes -/

def bundleConfig : Config where
  version := "1"
  input := some { source := "api-docs.json" }

def bundleTree (bundle : String) : FileTree where
  nodes := [(["api-docs.json"], .file (.text bundle))]

def plainBundle : String := "\x7b\"apis\":\x7b\"Job\":\x7b\x7d,\"Task\":\x7b\x7d\x7d\x7d"

def slashBundle : String :=
  "\x7b\"apis\":\x7b\"Job\":\x7b\x7d,\"./Job\":\x7b\x7d,\"../Job\":\x7b\x7d\x7d\x7d"

def bundleRun (bundle : String) : Except Failure Nat × World :=
  ((run Hook.run bundleConfig (.directory "out")).run.run { tree := bundleTree bundle }).run

/-- Plain names give a file for each API. -/
theorem job_and_task_have_files :
    ∃ job place, prepare bundleConfig (bundleTree plainBundle) = .ok job ∧
      OneFileEach bundleConfig job place (bundleTree plainBundle) (bundleRun plainBundle).2 := by
  have hrun : (run Hook.run bundleConfig (.directory "out")).Succeeds
      { tree := bundleTree plainBundle } 2 (bundleRun plainBundle).2 :=
    Step.succeeds_of_toOption (by decide +kernel)
  obtain ⟨job, place, hjob, -, -, -, -, -, hiff⟩ := run_one_file_each_iff hrun
  refine ⟨job, place, hjob, hiff.mpr ?_⟩
  have hplain : (prepare bundleConfig (bundleTree plainBundle)).toOption.map
      (fun job => decide (∀ api ∈ job.apis, '/' ∉ api.name.toList)) = some true := by
    decide +kernel
  rw [hjob] at hplain
  exact of_decide_eq_true (Option.some.inj hplain)

/-- **Slashes in names.** Three APIs are written, two of them to one file, and the third to a
file outside of the directory. -/
theorem job_is_written_twice :
    (bundleRun slashBundle).1.toOption = some 3 ∧
      (bundleRun slashBundle).2.tree.directoryAt? "out" = some ["out"] ∧
      (bundleRun slashBundle).2.writtenPlaces =
        [some ["out", "Job.ts"], some ["out", "Job.ts"], some ["Job.ts"]] ∧
      ((bundleTree slashBundle).nodeAt? ["Job.ts"]).isNone ∧
      ((bundleRun slashBundle).2.tree.nodeAt? ["Job.ts"]).isSome := by
  decide +kernel

end ApiTypings
