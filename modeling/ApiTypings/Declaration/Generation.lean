import ApiTypings.Declaration.Enumeration
import ApiTypings.Metadata.ApiInfo

/-!
# Declarations of an API

Every API has two entry declarations: its response, an interface or an alias, and
the interface of its parameters. Objects inside them get interfaces of their own. The
place of an interface in the output is taken when the walk reaches it, before its
properties are visited, so an interface stands before those it refers to.
-/

namespace ApiTypings

/-- The part of a type name that a property contributes: the property with a capital
in front if all its characters can stand in a name, else its camel case. -/
def typeSegment (property : String) : String :=
  if property.toList.all isIdentifierPart then upperFirst property
  else
    let segment := upperCamel property
    match segment.toList with
    | [] => "_"
    | c :: _ => if c.isDigit then "_" ++ segment else segment

def enumName (property : String) : String :=
  typeSegment property ++ "Enum"

/-- The state of a generation: what has been given out, and the places taken in the
list of interfaces, empty until the interface is complete. -/
structure Session where
  registry : Registry
  slots : List (Option Declaration) := []
deriving Repr, DecidableEq

namespace Session

def allocate (session : Session) (base : String) : String × Session :=
  let (name, registry) := session.registry.allocate base
  (name, { session with registry })

def reserve (session : Session) : Nat × Session :=
  (session.slots.length, { session with slots := session.slots ++ [none] })

def fill (session : Session) (slot : Nat) (decl : Declaration) : Session :=
  { session with slots := session.slots.set slot (some decl) }

def push (session : Session) (decl : Declaration) : Session :=
  { session with slots := session.slots ++ [some decl] }

def requestEnum (options : RenderOptions) (session : Session) (name : String)
    (titles : Titles) (description : Option String) : TypeExpr × Session :=
  let (type, registry) := session.registry.requestEnum options name titles description
  (type, { session with registry })

end Session

variable (api : String) (options : RenderOptions)

mutual
/-- The type of a property of the given name and shape. Enums and interfaces inside an
array take their names and descriptions from the property that holds the array. -/
def typeOf (session : Session) (property : String) (description : Option String) :
    Shape → TypeExpr × Session
  | .primitive kind => (.primitive kind, session)
  | .unknown => (.any, session)
  | .enumeration titles =>
      session.requestEnum options (enumName property) titles description
  | .arrayOf items =>
      let (element, session) := typeOf session property description items
      (.array element, session)
  | .objectWith fields =>
      let (name, session) := session.allocate (api ++ typeSegment property)
      let (slot, session) := session.reserve
      let (properties, session) := propertiesOf session [] fields
      (.interface name, session.fill slot (.interface name properties))

/-- The properties of an interface, where `seen` are the keys of those before. A field
whose key has been seen is passed over and leaves no trace. -/
def propertiesOf (session : Session) (seen : List String) :
    List Field → List Property × Session
  | [] => ([], session)
  | .mk name optional note shape :: rest =>
      let key := propertyKey options.keyCasing name
      if seen.contains key then propertiesOf session seen rest
      else
        let (type, session) := typeOf session name note.description shape
        let (properties, session) := propertiesOf session (key :: seen) rest
        (⟨DocBlock.ofNote options.comments note, key, optional, type⟩ :: properties, session)
end

def Session.emitInterface (session : Session) (name : String) (fields : List Field) : Session :=
  let (slot, session) := session.reserve
  let (properties, session) := propertiesOf api options session [] fields
  session.fill slot (.interface name properties)

def aliasType : Option Shape → TypeExpr
  | some (.primitive kind) => .primitive kind
  | some (.enumeration _) => .primitive .string
  | _ => .any

/-- Writes the declaration of the response: an interface if it is an object with
properties, an alias otherwise. -/
def Session.emitResponse (session : Session) (shape : Option Shape) : Session :=
  let (name, session) := session.allocate (api ++ "Response")
  match shape with
  | some (.objectWith fields) => session.emitInterface api options name fields
  | shape => session.push (.alias name (aliasType shape))

def Session.emitParameters (session : Session) (parameters : List Parameter) : Session :=
  let (name, session) := session.allocate (api ++ "Parameters")
  session.emitInterface api options name (parameters.map Parameter.toField)

def generateSession (info : ApiInfo) : Session :=
  let session : Session := { registry := Registry.empty options }
  let session := session.emitResponse api options (info.successSchema.map Schema.shape)
  session.emitParameters api options info.parameters

def generate (info : ApiInfo) : Declarations :=
  let session := generateSession api options info
  { enums := session.registry.enums, interfaces := session.slots.filterMap id }

end ApiTypings
