import ApiTypings.Proofs.FilePlaces

/-!
# What the steps of a run do to files

Creating directories adds directories and changes nothing else (`createDirectories_ok`);
writing a file changes its own place only (`write?_eq_some`). Both keep all directories, so a
path that leads to a place leads there ever after. After a sequence of writes, every place
that is not that of one of the files is as before, and every file whose place is not that of
another one has its content (`writeAll?_frame`, `writeAll?_content`).
-/

namespace ApiTypings

namespace FileTree

variable {tree tree' : FileTree} {path : String} {place : Place}

/-! ## Directories that stay -/

def KeepsDirectories (before after : FileTree) : Prop :=
  ∀ place, before.isDirectory place → after.isDirectory place

theorem KeepsDirectories.refl (tree : FileTree) : KeepsDirectories tree tree :=
  fun _ h => h

theorem KeepsDirectories.trans {first second third : FileTree}
    (h : KeepsDirectories first second) (h' : KeepsDirectories second third) :
    KeepsDirectories first third :=
  fun place hplace => h' place (h place hplace)

theorem KeepsDirectories.step (h : KeepsDirectories tree tree') {segment : String} {next : Place}
    (hstep : tree.step place segment = some next) : tree'.step place segment = some next := by
  have hdirectory := (step_eq_some hstep).1
  rw [FileTree.step, hdirectory] at hstep
  rw [FileTree.step, h place hdirectory]
  exact hstep

theorem KeepsDirectories.foldlM_step (h : KeepsDirectories tree tree') {segments : List String}
    {next : Place} (hsteps : segments.foldlM tree.step place = some next) :
    segments.foldlM tree'.step place = some next := by
  induction segments generalizing place with
  | nil => exact hsteps
  | cons segment rest ih =>
      rw [List.foldlM_cons] at hsteps ⊢
      obtain ⟨middle, hstep, hrest⟩ := Option.bind_eq_some_iff.mp hsteps
      exact Option.bind_eq_some_iff.mpr ⟨middle, h.step hstep, ih hrest⟩

theorem KeepsDirectories.resolve (h : KeepsDirectories tree tree')
    (hresolve : tree.resolve path = some place) : tree'.resolve path = some place := by
  rw [FileTree.resolve] at hresolve ⊢
  split at hresolve
  · cases hresolve
  · rename_i hne
    rw [if_neg hne]
    exact h.foldlM_step hresolve

theorem KeepsDirectories.directoryAt? (h : KeepsDirectories tree tree')
    (hplace : tree.directoryAt? path = some place) : tree'.directoryAt? path = some place := by
  rw [FileTree.directoryAt?] at hplace ⊢
  split at hplace
  · rename_i hempty
    rwa [if_pos hempty]
  · rename_i hne
    rw [if_neg hne]
    exact h.resolve hplace

/-! ## New directories -/

/-- Directories may be new, and nothing else changes. -/
def OnlyAddsDirectories (before after : FileTree) : Prop :=
  ∀ place, after.nodeAt? place = before.nodeAt? place ∨
    before.nodeAt? place = none ∧ after.nodeAt? place = some .directory

theorem OnlyAddsDirectories.refl (tree : FileTree) : OnlyAddsDirectories tree tree :=
  fun _ => Or.inl rfl

theorem OnlyAddsDirectories.trans {first second third : FileTree}
    (h : OnlyAddsDirectories first second) (h' : OnlyAddsDirectories second third) :
    OnlyAddsDirectories first third := by
  intro place
  rcases h place with hsame | ⟨hnone, hnew⟩
  · rw [← hsame]
    exact h' place
  · rcases h' place with hsame' | ⟨hnone', -⟩
    · exact Or.inr ⟨hnone, hsame'.trans hnew⟩
    · rw [hnew] at hnone'
      cases hnone'

theorem OnlyAddsDirectories.keepsDirectories (h : OnlyAddsDirectories tree tree') :
    KeepsDirectories tree tree' := by
  intro place hplace
  rcases h place with hsame | ⟨-, hnew⟩
  · rwa [isDirectory, hsame]
  · rw [isDirectory, hnew]
    rfl

theorem isDirectory_iff : tree.isDirectory place ↔ tree.nodeAt? place = some .directory :=
  beq_iff_eq

/-- Only what is not a directory can be elsewhere than at hand or above. -/
theorem isAbove_eq_false {node : Option FileNode} (h : tree.nodeAt? place = node)
    (hnode : node ≠ some .directory) : isAbove place = false := by
  rw [← Bool.not_eq_true]
  intro habove
  rw [nodeAt?, if_pos habove] at h
  exact hnode h.symm

theorem onlyAddsDirectories_put (h : tree.nodeAt? place = none) :
    OnlyAddsDirectories tree (tree.put place .directory) := by
  have habove := isAbove_eq_false h (by simp)
  intro other
  rw [nodeAt?_put tree place other .directory habove]
  split
  · rename_i hother
    exact Or.inr ⟨hother ▸ h, rfl⟩
  · exact Or.inl rfl

/-- One level: what entering a directory does that is there or can be created. -/
theorem enter_ok {segment : String} {next : Place}
    (h : enter (tree, place) segment = .ok (tree', next)) :
    OnlyAddsDirectories tree tree' ∧ tree'.isDirectory next ∧
      tree.step place segment = some next := by
  rw [enter] at h
  split at h
  · cases h
  · rename_i hstep
    split at h
    · rename_i hnode
      cases h
      exact ⟨.refl tree, isDirectory_iff.mpr hnode, hstep⟩
    · cases h
    · rename_i hnode
      cases h
      have habove := isAbove_eq_false hnode (by simp)
      refine ⟨onlyAddsDirectories_put hnode, ?_, hstep⟩
      rw [isDirectory_iff, nodeAt?_put tree next next .directory habove, if_pos rfl]

theorem foldlM_enter_ok {segments : List String} {next : Place}
    (hplace : tree.isDirectory place)
    (h : segments.foldlM enter (tree, place) = .ok (tree', next)) :
    OnlyAddsDirectories tree tree' ∧ tree'.isDirectory next ∧
      segments.foldlM tree'.step place = some next := by
  induction segments generalizing tree place with
  | nil =>
      cases h
      exact ⟨.refl _, hplace, rfl⟩
  | cons segment rest ih =>
      rw [List.foldlM_cons] at h
      cases hfirst : enter (tree, place) segment with
      | error blocked =>
          rw [hfirst] at h
          cases h
      | ok state =>
          obtain ⟨middle, entered⟩ := state
          rw [hfirst] at h
          obtain ⟨honly, hentered, hstep⟩ := enter_ok hfirst
          obtain ⟨honly', hnext, hsteps⟩ := ih hentered h
          refine ⟨honly.trans honly', hnext, ?_⟩
          rw [List.foldlM_cons, (honly.trans honly').keepsDirectories.step hstep]
          exact hsteps

theorem isDirectory_start (tree : FileTree) (path : String) : tree.isDirectory (start path) := by
  rw [isDirectory_iff, nodeAt?, if_pos]
  rw [start]
  split <;> rfl

/-- **Creating a directory.** If it succeeds, the path leads to a directory, and there is
nothing new but directories. -/
theorem createDirectories_ok (h : tree.createDirectories path = .ok tree') :
    OnlyAddsDirectories tree tree' ∧
      ∃ place, tree'.directoryAt? path = some place ∧ tree'.isDirectory place := by
  rw [createDirectories] at h
  split at h
  · rename_i hthere
    cases h
    refine ⟨.refl tree, ?_⟩
    rw [directoryAt?]
    split
    · exact ⟨[], rfl, isDirectory_start tree ""⟩
    · rename_i hne
      have hfind : tree.find? path = some .directory := by simpa [hne] using hthere
      obtain ⟨place, hplace, hnode⟩ := Option.bind_eq_some_iff.mp hfind
      exact ⟨place, hplace, isDirectory_iff.mpr hnode⟩
  · rename_i hmissing
    have hne : ¬ path.isEmpty := fun hempty => hmissing (by simp [hempty])
    split at h
    · cases hentered : (Path.segments path).foldlM enter (tree, start path) with
      | error blocked =>
          rw [hentered] at h
          cases h
      | ok state =>
          obtain ⟨after, place⟩ := state
          rw [hentered] at h
          cases h
          obtain ⟨honly, hplace, hsteps⟩ := foldlM_enter_ok (isDirectory_start tree path) hentered
          refine ⟨honly, place, ?_, hplace⟩
          rw [directoryAt?, if_neg hne, resolve, if_neg hne]
          exact hsteps
    · split at h <;> cases h

/-! ## Files -/

/-- **Writing a file.** The path leads to a place that is no directory, and only that place
changes. -/
theorem write?_eq_some {content : String} (h : tree.write? path content = some tree') :
    ∃ place, tree.resolve path = some place ∧ tree.isDirectory place = false ∧
      ∀ other, tree'.nodeAt? other =
        if other = place then some (.file (.text content)) else tree.nodeAt? other := by
  rw [write?] at h
  obtain ⟨place, hplace, h⟩ := Option.bind_eq_some_iff.mp h
  split at h
  · cases h
  · rename_i hnode
    split at h
    · cases h
      have hfile : tree.nodeAt? place ≠ some .directory := hnode
      refine ⟨place, hplace, ?_, fun other => nodeAt?_put _ _ _ _ (isAbove_eq_false rfl hfile)⟩
      rw [isDirectory, beq_eq_false_iff_ne]
      exact hfile
    · cases h

theorem keepsDirectories_write? {content : String} (h : tree.write? path content = some tree') :
    KeepsDirectories tree tree' := by
  obtain ⟨place, -, hfile, hnode⟩ := write?_eq_some h
  intro other hother
  have hne : other ≠ place := by
    rintro rfl
    rw [hfile] at hother
    cases hother
  rwa [isDirectory, hnode, if_neg hne]

def writeAll? (tree : FileTree) (files : List (String × String)) : Option FileTree :=
  files.foldlM (fun tree (path, content) => tree.write? path content) tree

section WriteAll

variable {files : List (String × String)}

theorem writeAll?_cons {content : String} :
    tree.writeAll? ((path, content) :: files) =
      (tree.write? path content).bind (·.writeAll? files) :=
  List.foldlM_cons

theorem keepsDirectories_writeAll? (h : tree.writeAll? files = some tree') :
    KeepsDirectories tree tree' := by
  induction files generalizing tree with
  | nil =>
      cases h
      exact .refl _
  | cons file rest ih =>
      obtain ⟨path, content⟩ := file
      rw [writeAll?_cons] at h
      obtain ⟨middle, hwrite, hrest⟩ := Option.bind_eq_some_iff.mp h
      exact (keepsDirectories_write? hwrite).trans (ih hrest)

/-- The first file is written, at a place that its path leads to ever after, and then the
others are. -/
theorem writeAll?_cons_eq_some {file : String × String}
    (h : tree.writeAll? (file :: files) = some tree') :
    ∃ (middle : FileTree) (place : Place), middle.writeAll? files = some tree' ∧
      tree'.resolve file.1 = some place ∧
      ∀ other, middle.nodeAt? other =
        if other = place then some (.file (.text file.2)) else tree.nodeAt? other := by
  obtain ⟨path, content⟩ := file
  rw [writeAll?_cons] at h
  obtain ⟨middle, hwrite, hrest⟩ := Option.bind_eq_some_iff.mp h
  obtain ⟨place, hplace, -, hnode⟩ := write?_eq_some hwrite
  have hkeeps := (keepsDirectories_write? hwrite).trans (keepsDirectories_writeAll? hrest)
  exact ⟨middle, place, hrest, hkeeps.resolve hplace, hnode⟩

/-- The path of every file leads somewhere. -/
theorem writeAll?_resolve (h : tree.writeAll? files = some tree') :
    ∀ file ∈ files, ∃ place, tree'.resolve file.1 = some place := by
  induction files generalizing tree with
  | nil => exact List.forall_mem_nil _
  | cons file rest ih =>
      obtain ⟨middle, place, hrest, hplace, -⟩ := writeAll?_cons_eq_some h
      exact List.forall_mem_cons.mpr ⟨⟨place, hplace⟩, ih hrest⟩

/-- A place that is not that of one of the files is as it was. -/
theorem writeAll?_frame (h : tree.writeAll? files = some tree') {other : Place}
    (hother : ∀ file ∈ files, tree'.resolve file.1 ≠ some other) :
    tree'.nodeAt? other = tree.nodeAt? other := by
  induction files generalizing tree with
  | nil =>
      cases h
      rfl
  | cons file rest ih =>
      obtain ⟨middle, place, hrest, hplace, hnode⟩ := writeAll?_cons_eq_some h
      obtain ⟨hfirst, hothers⟩ := List.forall_mem_cons.mp hother
      have hne : other ≠ place := by
        rintro rfl
        exact hfirst hplace
      rw [ih hrest hothers, hnode, if_neg hne]

/-- A file whose place is not that of another one has its content. -/
theorem writeAll?_content (h : tree.writeAll? files = some tree')
    (hnodup : (files.map fun file => tree'.resolve file.1).Nodup) :
    ∀ file ∈ files, ∀ place, tree'.resolve file.1 = some place →
      tree'.nodeAt? place = some (.file (.text file.2)) := by
  induction files generalizing tree with
  | nil => exact List.forall_mem_nil _
  | cons file rest ih =>
      obtain ⟨middle, written, hrest, hwritten, hnode⟩ := writeAll?_cons_eq_some h
      obtain ⟨hfirst, hnodup⟩ := List.nodup_cons.mp hnodup
      refine List.forall_mem_cons.mpr ⟨?_, ih hrest hnodup⟩
      intro place hplace
      obtain rfl : written = place := Option.some.inj (hwritten.symm.trans hplace)
      -- the files after it are elsewhere
      have hothers : ∀ file ∈ rest, tree'.resolve file.1 ≠ some written := by
        intro file hfile hsame
        exact hfirst (List.mem_map.mpr ⟨file, hfile, hsame.trans hplace.symm⟩)
      rw [writeAll?_frame hrest hothers, hnode, if_pos rfl]

end WriteAll

end FileTree

end ApiTypings
