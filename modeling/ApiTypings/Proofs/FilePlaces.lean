import ApiTypings.Files.Tree

/-!
# Where a file in a directory is

The path of a file in a directory is the path of the directory with the name behind it. If
the name has no slash, the file is one step from the directory (`resolve_join`), wherever the
path of the directory leads. A name with a slash is never among those of a place
(`plainNames_resolve`), so that a file with such a name is somewhere else.
-/

namespace ApiTypings

namespace Path

theorem segments_of_not_mem {name : String} (h : '/' ∉ name.toList) : segments name = [name] := by
  have hstop : ∀ c ∈ name.toList, (c == '/') = false := by
    intro c hc
    rw [beq_eq_false_iff_ne]
    rintro rfl
    exact h hc
  rw [segments, splitWhen_of_forall_not hstop, List.map_singleton, String.ofList_toList]

theorem segments_append_slash (directory rest : String) :
    segments (directory ++ "/" ++ rest) = segments directory ++ segments rest := by
  have htext : (directory ++ "/" ++ rest).toList = directory.toList ++ '/' :: rest.toList := by
    simp
  rw [segments, htext, splitWhen_append_cons _ (by decide), List.map_append]
  rfl

theorem slash_not_mem_of_mem_segments {path segment : String} (h : segment ∈ segments path) :
    '/' ∉ segment.toList := by
  obtain ⟨piece, hpiece, rfl⟩ := List.mem_map.mp h
  rw [String.toList_ofList]
  intro hmem
  exact absurd (stop_of_mem_splitWhen hpiece '/' hmem) (by decide)

theorem not_isAbsolute_of_not_mem {name : String} (h : '/' ∉ name.toList) :
    isAbsolute name = false := by
  rw [isAbsolute, beq_eq_false_iff_ne]
  intro hhead
  exact h (List.mem_of_mem_head? hhead)

section Join

variable {directory name : String}

theorem join_of_not_mem (hname : '/' ∉ name.toList) (hdirectory : directory ≠ "") :
    join directory name =
      if directory.toList.getLast? = some '/' then directory ++ name
      else directory ++ "/" ++ name := by
  simp [join, not_isAbsolute_of_not_mem hname, hdirectory]

theorem isAbsolute_join (hname : '/' ∉ name.toList) (hdirectory : directory ≠ "") :
    isAbsolute (join directory name) = isAbsolute directory := by
  have hne : directory.toList ≠ [] := fun h => hdirectory (String.toList_eq_nil_iff.mp h)
  obtain ⟨c, rest, htext⟩ := List.exists_cons_of_ne_nil hne
  rw [join_of_not_mem hname hdirectory]
  split <;> simp [isAbsolute, htext]

/-- The name follows the segments of the directory. It takes the place of the empty segment
behind a slash at the end. -/
theorem segments_join (hname : '/' ∉ name.toList) (hdirectory : directory ≠ "") :
    segments (join directory name) = segments directory ++ [name] ∨
      ∃ front, segments directory = front ++ [""] ∧
        segments (join directory name) = front ++ [name] := by
  rw [join_of_not_mem hname hdirectory]
  split
  · rename_i hslash
    obtain ⟨front, hfront⟩ := List.getLast?_eq_some_iff.mp hslash
    have htext : directory = String.ofList front ++ "/" := by
      rw [← String.toList_inj, hfront]
      simp
    refine Or.inr ⟨segments (String.ofList front), ?_, ?_⟩
    · have hempty := segments_append_slash (String.ofList front) ""
      rwa [String.append_empty, ← htext] at hempty
    · rw [htext, segments_append_slash, segments_of_not_mem hname]
  · rw [segments_append_slash, segments_of_not_mem hname]
    exact Or.inl rfl

end Join

end Path

namespace FileTree

/-! ## Steps -/

section Steps

variable {tree : FileTree} {place next : Place} {segment : String}

/-- A step starts in a directory, and a name that is none of the special ones is the last
one of the place it leads to. -/
theorem step_eq_some (h : tree.step place segment = some next) :
    tree.isDirectory place ∧
      ((segment = "" ∨ segment = ".") ∧ next = place ∨ segment = ".." ∧ next = parent place ∨
        segment ≠ "" ∧ segment ≠ "." ∧ segment ≠ ".." ∧ next = place ++ [segment]) := by
  rw [step] at h
  split at h
  · cases h
  · rename_i hdirectory
    refine ⟨by simp_all, ?_⟩
    split at h
    · rename_i hstay
      cases h
      exact Or.inl ⟨by simpa using hstay, rfl⟩
    · rename_i hstay
      split at h
      · rename_i hup
        cases h
        exact Or.inr (Or.inl ⟨by simpa using hup, rfl⟩)
      · rename_i hup
        cases h
        simp only [beq_iff_eq, Bool.or_eq_true, not_or] at hstay hup
        exact Or.inr (Or.inr ⟨hstay.1, hstay.2, hup, rfl⟩)

/-- The names of a place have no slashes, except for that of the root. -/
def PlainNames (place : Place) : Prop :=
  ∀ name ∈ place, name = "/" ∨ '/' ∉ name.toList

theorem plainNames_parent (h : PlainNames place) : PlainNames (parent place) := by
  rw [parent]
  split
  · exact h
  · split
    · exact List.forall_mem_cons.mpr ⟨Or.inr (by decide), h⟩
    · exact fun name hname => h name ((List.dropLast_sublist _).subset hname)

theorem plainNames_step (hplace : PlainNames place) (hsegment : '/' ∉ segment.toList)
    (h : tree.step place segment = some next) : PlainNames next := by
  obtain ⟨-, ⟨-, rfl⟩ | ⟨-, rfl⟩ | ⟨-, -, -, rfl⟩⟩ := step_eq_some h
  · exact hplace
  · exact plainNames_parent hplace
  · intro name hname
    rcases List.mem_append.mp hname with hname | hname
    · exact hplace name hname
    · rw [List.mem_singleton.mp hname]
      exact Or.inr hsegment

theorem plainNames_foldlM {segments : List String} (hplace : PlainNames place)
    (hsegments : ∀ segment ∈ segments, '/' ∉ segment.toList)
    (h : segments.foldlM tree.step place = some next) : PlainNames next := by
  induction segments generalizing place with
  | nil =>
      cases h
      exact hplace
  | cons segment rest ih =>
      rw [List.foldlM_cons] at h
      obtain ⟨middle, hstep, h⟩ := Option.bind_eq_some_iff.mp h
      obtain ⟨hsegment, hrest⟩ := List.forall_mem_cons.mp hsegments
      exact ih (plainNames_step hplace hsegment hstep) hrest h

theorem plainNames_resolve {path : String} (h : tree.resolve path = some place) :
    PlainNames place := by
  rw [resolve] at h
  split at h
  · cases h
  · refine plainNames_foldlM ?_ (fun _ => Path.slash_not_mem_of_mem_segments) h
    rw [start]
    split
    · exact List.forall_mem_singleton.mpr (Or.inl rfl)
    · exact List.forall_mem_nil _

end Steps

/-! ## A file in a directory -/

/-- The place of the directory under a path; the empty path stays in the one at hand. -/
def directoryAt? (tree : FileTree) (path : String) : Option Place :=
  if path.isEmpty then some [] else tree.resolve path

section Join

variable {tree : FileTree} {directory name : String} {place : Place}

/-- A name without slashes is one more step from the directory. -/
theorem resolve_join (hname : '/' ∉ name.toList) (hne : name ≠ "")
    (hdirectory : tree.directoryAt? directory = some place) :
    tree.resolve (Path.join directory name) = tree.step place name := by
  rw [directoryAt?] at hdirectory
  split at hdirectory
  · rename_i hempty
    cases hdirectory
    have hjoin : Path.join directory name = name := by
      rw [Path.join, hempty, Bool.or_true]
      rfl
    rw [hjoin, resolve, start, Path.not_isAbsolute_of_not_mem hname, Path.segments_of_not_mem hname]
    simp [hne]
  · rename_i hempty
    have hdirectory' : directory ≠ "" := by simpa using hempty
    rw [resolve, if_neg hempty] at hdirectory
    have hjoin : Path.join directory name ≠ "" := by
      rw [Path.join_of_not_mem hname hdirectory']
      split <;> simp [hne]
    have hstart : start (Path.join directory name) = start directory := by
      rw [start, start, Path.isAbsolute_join hname hdirectory']
    rw [resolve, if_neg (by simpa using hjoin), hstart]
    rcases Path.segments_join hname hdirectory' with hsegments | ⟨front, hfront, hsegments⟩
    · rw [hsegments, List.foldlM_append, hdirectory]
      simp
    · rw [hfront, List.foldlM_append] at hdirectory
      obtain ⟨middle, hmiddle, hlast⟩ := Option.bind_eq_some_iff.mp hdirectory
      rw [List.foldlM_cons] at hlast
      obtain ⟨last, hstep, hlast⟩ := Option.bind_eq_some_iff.mp hlast
      cases hlast
      -- the empty segment stays where it is
      obtain ⟨-, ⟨-, rfl⟩ | ⟨hup, -⟩ | ⟨hplain, -⟩⟩ := step_eq_some hstep
      · rw [hsegments, List.foldlM_append, hmiddle]
        simp
      · exact absurd hup (by decide)
      · exact absurd rfl hplain

end Join

end FileTree

end ApiTypings
