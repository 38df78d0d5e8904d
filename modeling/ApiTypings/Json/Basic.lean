import ApiTypings.Number.Double

/-!
# JSON values

Objects keep the order of their members. `setMember` is how a repeated name is
read: it keeps its first place and takes the last value.
-/

namespace ApiTypings

/-- A number is an integer of 64 bits, signed or unsigned, or a double. -/
inductive JsonNumber where
  | integer (value : Int)
  | double (value : Double)
deriving Repr, DecidableEq

inductive Json where
  | null
  | bool (value : Bool)
  | number (value : JsonNumber)
  | string (value : String)
  | array (items : List Json)
  | object (members : List (String × Json))
deriving Repr, Inhabited

/-- The value of the first entry under a key. -/
def valueAt? (key : String) : List (String × α) → Option α
  | [] => none
  | (k, v) :: rest => if k = key then some v else valueAt? key rest

/-- Sets the value of a key: in its place if it is there, at the end if not. -/
def setEntry (key : String) (value : α) : List (String × α) → List (String × α)
  | [] => [(key, value)]
  | (k, v) :: rest => if k = key then (k, value) :: rest else (k, v) :: setEntry key value rest

/-- The entries with repeated keys merged, from first to last. -/
def mergeEntries (entries : List (String × α)) : List (String × α) :=
  entries.foldl (fun merged (key, value) => setEntry key value merged) []

/-- Setting a key keeps the order of the keys that are there. -/
theorem keys_setEntry (key : String) (value : α) (entries : List (String × α)) :
    (setEntry key value entries).map Prod.fst =
      if key ∈ entries.map Prod.fst then entries.map Prod.fst
      else entries.map Prod.fst ++ [key] := by
  induction entries with
  | nil => simp [setEntry]
  | cons head rest ih => grind [setEntry]

namespace Json

def bool? : Json → Option Bool
  | .bool b => some b
  | _ => none

def isObject : Json → Bool
  | .object _ => true
  | _ => false

def member? (name : String) : Json → Option Json
  | .object members => valueAt? name members
  | _ => none

end Json

end ApiTypings
