import ApiTypings.Metadata.Shape

/-!
# API documents

The metadata of one API: its parameters, its responses by status code, and what it
says about itself.
-/

namespace ApiTypings

structure Parameter where
  name : String := ""
  location : Option String := none
  description : Option String := none
  required : Bool := false
  deprecated : Option Bool := none
  style : Option String := none
  schema : Option Schema := none
deriving Inhabited

structure Response where
  description : Option String := none
  headers : Option (List (String × Json)) := none
  schema : Option Schema := none
deriving Inhabited

structure ErrorDetail where
  errorCode : Option String := none
  errorMessage : Option String := none
deriving Inhabited, Repr, DecidableEq

structure ApiInfo where
  parameters : List Parameter := []
  responses : List (String × Response) := []
  errorCodes : List (String × ErrorDetail) := []
  title : Option String := none
  summary : Option String := none
deriving Inhabited

structure NamedApi where
  name : String
  info : ApiInfo
deriving Inhabited

namespace Parameter

def decoder : RecordDecoder Parameter where
  name := "Parameter"
  fields := ["name", "in", "description", "required", "deprecated", "style", "schema"]
  set := fun name value parameter =>
    match name with
    | "name" => do return { parameter with name := ← value.decodeString }
    | "in" => do return { parameter with location := ← value.decodeOption Json.decodeString }
    | "description" => do
        return { parameter with description := ← value.decodeOption Json.decodeString }
    | "required" => do return { parameter with required := ← value.decodeBool }
    | "deprecated" => do
        return { parameter with deprecated := ← value.decodeOption Json.decodeBool }
    | "style" => do return { parameter with style := ← value.decodeOption Json.decodeString }
    | "schema" => do return { parameter with schema := ← value.decodeOption Schema.decode }
    | _ => .ok parameter

def decode : Json → Decoded Parameter := decoder.decode {}

/-- The field of a parameter is that of its schema, and of an empty one if it has
none: what the parameter itself says about being required is not used. -/
def toField (parameter : Parameter) : Field :=
  (parameter.schema.getD {}).toField parameter.name

end Parameter

namespace Response

def decoder : RecordDecoder Response where
  name := "Response"
  fields := ["description", "headers", "schema"]
  set := fun name value response =>
    match name with
    | "description" => do
        return { response with description := ← value.decodeOption Json.decodeString }
    | "headers" => do
        return { response with headers := ← value.decodeOption (Json.decodeMap .ok) }
    | "schema" => do return { response with schema := ← value.decodeOption Schema.decode }
    | _ => .ok response

def decode : Json → Decoded Response := decoder.decode {}

end Response

namespace ErrorDetail

def decoder : RecordDecoder ErrorDetail where
  name := "ErrorDetail"
  fields := ["errorCode", "errorMessage"]
  set := fun name value detail =>
    match name with
    | "errorCode" => do
        return { detail with errorCode := ← value.decodeOption Json.decodeString }
    | "errorMessage" => do
        return { detail with errorMessage := ← value.decodeOption Json.decodeString }
    | _ => .ok detail

def decode : Json → Decoded ErrorDetail := decoder.decode {}

end ErrorDetail

namespace ApiInfo

def decoder : RecordDecoder ApiInfo where
  name := "ApiInfo"
  fields := ["parameters", "responses", "errorCodes", "title", "summary"]
  set := fun name value info =>
    match name with
    | "parameters" => do
        return { info with parameters := ← value.decodeList Parameter.decode }
    | "responses" => do return { info with responses := ← value.decodeMap Response.decode }
    | "errorCodes" => do
        return { info with errorCodes := ← value.decodeMap ErrorDetail.decode }
    | "title" => do return { info with title := ← value.decodeOption Json.decodeString }
    | "summary" => do return { info with summary := ← value.decodeOption Json.decodeString }
    | _ => .ok info

def decode : Json → Decoded ApiInfo := decoder.decode {}

def successSchema (info : ApiInfo) : Option Schema :=
  (valueAt? "200" info.responses).bind Response.schema

end ApiInfo

end ApiTypings
