import ApiTypings.Text.CaseMap

/-!
# Names that are given once

The registry of the type names of one generation. A base is given as it is if it is
free, else with the least number from 1 on that makes it free; a name can also be
registered as it stands.
-/

namespace ApiTypings

/-- The names taken so far, latest first, and the prefix of every allocated name. -/
structure Names where
  interfacePrefix : String := ""
  taken : List String := []
deriving Repr, DecidableEq, Inhabited

namespace Names

/-- A base with a number behind it; nothing for zero. -/
def numbered (base : String) : Nat → String
  | 0 => base
  | n + 1 => base ++ toString (n + 1)

/-- The first of `base`, `base1`, `base2`, … that is not in a list. One of the first
`taken.length + 1` of these is free, as they are all different. -/
def firstFree (taken : List String) (base : String) : String :=
  (((List.range (taken.length + 1)).map (numbered base)).find? (!taken.contains ·)).getD base

/-- The name of a base before any number is put behind it. -/
def stem (names : Names) (base : String) : String :=
  names.interfacePrefix ++ upperFirst base

def allocate (names : Names) (base : String) : String × Names :=
  let name := firstFree names.taken (names.stem base)
  (name, { names with taken := name :: names.taken })

/-- Takes a name as it stands; true if it was free. -/
def register (names : Names) (name : String) : Bool × Names :=
  if names.taken.contains name then (false, names)
  else (true, { names with taken := name :: names.taken })

end Names

end ApiTypings
