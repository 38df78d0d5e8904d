import ApiTypings.Proofs.FileChanges

/-!
# What is new, place by place

Creating a directory, whether it succeeds or is blocked, brings in nothing but directories on
the way of its path (`createDirectories_newOnTheWay`). After a sequence of writes, each place
has the content of the last file whose path leads there, and what it had before if there is
none (`writeAll?_written`).
-/

namespace ApiTypings

namespace FileTree

variable {tree tree' : FileTree} {path : String} {place : Place}

/-! ## Directories on the way -/

/-- From a place, the first of some segments lead to another place. -/
def LeadsThrough (tree : FileTree) (place : Place) (segments : List String) (other : Place) :
    Prop :=
  ∃ first, first <+: segments ∧ first.foldlM tree.step place = some other

/-- Nothing is new but directories that a path leads through. -/
def NewOnTheWay (path : String) (before after : FileTree) : Prop :=
  ∀ other, after.nodeAt? other = before.nodeAt? other ∨
    before.nodeAt? other = none ∧ after.nodeAt? other = some .directory ∧
      after.LeadsThrough (start path) (Path.segments path) other

def leftTree : Except FileTree (FileTree × Place) → FileTree
  | .ok (tree, _) => tree
  | .error tree => tree

def createdTree : Except FileTree FileTree → FileTree
  | .ok tree => tree
  | .error tree => tree

theorem enter_error {segment : String} (h : enter (tree, place) segment = .error tree') :
    tree' = tree := by
  rw [enter] at h
  split at h
  · cases h
    rfl
  · split at h
    · cases h
    · cases h
      rfl
    · cases h

/-- A segment makes no other place new than the one it leads to. -/
theorem enter_new {segment : String} {next : Place}
    (h : enter (tree, place) segment = .ok (tree', next)) (other : Place) :
    tree'.nodeAt? other = tree.nodeAt? other ∨
      tree.nodeAt? other = none ∧ tree'.nodeAt? other = some .directory ∧ other = next := by
  rw [enter] at h
  split at h
  · cases h
  · split at h
    · cases h
      exact Or.inl rfl
    · cases h
    · rename_i hnode
      cases h
      have habove := isAbove_eq_false hnode (by simp)
      rw [nodeAt?_put tree next other .directory habove]
      split
      · rename_i hother
        exact Or.inr ⟨hother ▸ hnode, rfl, hother⟩
      · exact Or.inl rfl

theorem foldlM_enter_new (segments : List String) (hplace : tree.isDirectory place)
    (other : Place) :
    (leftTree (segments.foldlM enter (tree, place))).nodeAt? other = tree.nodeAt? other ∨
      tree.nodeAt? other = none ∧
        (leftTree (segments.foldlM enter (tree, place))).nodeAt? other = some .directory ∧
        (leftTree (segments.foldlM enter (tree, place))).LeadsThrough place segments other := by
  induction segments generalizing tree place other with
  | nil => exact Or.inl rfl
  | cons segment rest ih =>
      rw [List.foldlM_cons]
      cases hfirst : enter (tree, place) segment with
      | error blocked =>
          rw [enter_error hfirst]
          exact Or.inl rfl
      | ok state =>
          obtain ⟨middle, entered⟩ := state
          obtain ⟨honly, hentered, hstep⟩ := enter_ok hfirst
          show (leftTree (rest.foldlM enter (middle, entered))).nodeAt? other = _ ∨ _ ∧
            (leftTree (rest.foldlM enter (middle, entered))).nodeAt? other = _ ∧
            (leftTree (rest.foldlM enter (middle, entered))).LeadsThrough _ _ other
          replace ih := fun other => ih hentered other
          generalize leftTree (rest.foldlM enter (middle, entered)) = after at ih ⊢
          have honly' : OnlyAddsDirectories middle after := by
            intro other
            rcases ih other with hsame | ⟨hnone, hnew, -⟩
            · exact Or.inl hsame
            · exact Or.inr ⟨hnone, hnew⟩
          have hstep' : after.step place segment = some entered :=
            (honly.trans honly').keepsDirectories.step hstep
          rcases ih other with hsame | ⟨hnone, hnew, first, hprefix, hleads⟩
          · rcases enter_new hfirst other with hsame' | ⟨hnone, hnew, rfl⟩
            · exact Or.inl (hsame.trans hsame')
            · refine Or.inr ⟨hnone, hsame.trans hnew, [segment], ?_, ?_⟩
              · exact List.cons_prefix_cons.mpr ⟨rfl, List.nil_prefix⟩
              · rw [List.foldlM_cons, hstep']
                rfl
          · have hnone' : tree.nodeAt? other = none := by
              rcases enter_new hfirst other with hsame' | ⟨hnone', -⟩
              · rw [← hsame', hnone]
              · exact hnone'
            refine Or.inr ⟨hnone', hnew, segment :: first, ?_, ?_⟩
            · exact List.cons_prefix_cons.mpr ⟨rfl, hprefix⟩
            · rw [List.foldlM_cons, hstep']
              exact hleads

theorem aboveDot?_prefix {segments : List String} (h : aboveDot? path = some segments) :
    segments <+: Path.segments path := by
  rw [aboveDot?] at h
  split at h
  · cases h
    rw [← List.reverse_suffix, List.reverse_reverse]
    exact (List.drop_suffix _ _).trans (List.dropWhile_suffix _)
  · cases h

/-- Directories are entered one by one, all of them or the first few. -/
theorem createdTree_eq (tree : FileTree) (path : String) :
    createdTree (tree.createDirectories path) = tree ∨
      ∃ segments, segments <+: Path.segments path ∧
        createdTree (tree.createDirectories path) =
          leftTree (segments.foldlM enter (tree, start path)) := by
  rw [createDirectories]
  split
  · exact Or.inl rfl
  · refine Or.inr ?_
    split
    · refine ⟨Path.segments path, List.prefix_rfl, ?_⟩
      cases (Path.segments path).foldlM enter (tree, start path) <;> rfl
    · rename_i segments habove
      refine ⟨segments, aboveDot?_prefix habove, ?_⟩
      cases segments.foldlM enter (tree, start path) <;> rfl

/-- **New directories.** Creating a directory makes no more than directories on the way of its
path, also if it ends before the last one. -/
theorem createDirectories_newOnTheWay (tree : FileTree) (path : String) :
    NewOnTheWay path tree (createdTree (tree.createDirectories path)) := by
  intro other
  rcases createdTree_eq tree path with hsame | ⟨segments, hsegments, hleft⟩
  · exact Or.inl (by rw [hsame])
  · rw [hleft]
    rcases foldlM_enter_new segments (isDirectory_start tree path) other with
      hsame | ⟨hnone, hnew, first, hprefix, hleads⟩
    · exact Or.inl hsame
    · exact Or.inr ⟨hnone, hnew, first, hprefix.trans hsegments, hleads⟩

/-! ## Files one after the other -/

/-- What is at a place when files have been written: the last one whose path leads there, and
what was there if there is none. -/
def nodeAfter (tree : FileTree) (place : Place) (files : List (String × String))
    (node : Option FileNode) : Option FileNode :=
  files.foldl (fun node file =>
    if tree.resolve file.1 = some place then some (.file (.text file.2)) else node) node

/-- Files have been written in order, and nothing else has changed. -/
structure Written (before : FileTree) (files : List (String × String)) (after : FileTree) :
    Prop where
  leads : ∀ file ∈ files, ∃ place, after.resolve file.1 = some place
  nodes : ∀ place, after.nodeAt? place = after.nodeAfter place files (before.nodeAt? place)

theorem writeAll?_written {files : List (String × String)}
    (h : tree.writeAll? files = some tree') : Written tree files tree' := by
  refine ⟨writeAll?_resolve h, ?_⟩
  intro place
  induction files generalizing tree with
  | nil =>
      cases h
      rfl
  | cons file rest ih =>
      obtain ⟨middle, written, hrest, hwritten, hnode⟩ := writeAll?_cons_eq_some h
      rw [ih hrest, hnode, nodeAfter, nodeAfter, List.foldl_cons, hwritten]
      simp only [Option.some.injEq, eq_comm]

end FileTree

end ApiTypings
