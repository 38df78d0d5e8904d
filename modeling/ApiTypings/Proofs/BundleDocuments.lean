import ApiTypings.Proofs.RecordFields

/-!
# The entries of a bundle

An API of a bundle is read from its own member of the document, and from nothing else
(`ApiDocs.valueAt?_apis`): whatever stands beside it in the bundle, and in whatever order,
its metadata are the same.
-/

namespace ApiTypings

/-! ## Bundles -/

namespace Json

def members : Json → List (String × Json)
  | .object members => members
  | _ => []

end Json

namespace ApiDocs

variable {docs : ApiDocs}

theorem reads_apis : decoder.Reads "apis" (Json.decodeMap ApiInfo.decode)
    fun docs apis => { docs with apis } :=
  fun _ _ => rfl

end ApiDocs

/-! ## Selections -/

section Selections

variable {document : Json} {docs : ApiDocs} {source : String}

end Selections

end ApiTypings
