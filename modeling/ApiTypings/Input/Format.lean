import ApiTypings.Files.Path
import ApiTypings.Metadata.ApiInfo

/-!
# Input formats

A document is either the metadata of one API, or a bundle with the metadata of many
by name.
-/

namespace ApiTypings

inductive InputFormat where
  | api
  | apiDocs
deriving Repr, DecidableEq

inductive InputError where
  | invalidApi (source : String) (cause : DecodeError)
  | noApiName (source : String)
  | invalidDocs (source : String) (cause : DecodeError)
  | apiNotFound (name source : String)
deriving Repr

def InputError.messages : InputError → List String
  | .invalidApi source cause => ["Invalid API document: " ++ quoted source, cause.message]
  | .noApiName source => ["Cannot derive an API name from " ++ quoted source ++ ", pass --api"]
  | .invalidDocs source cause => ["Invalid API docs bundle: " ++ quoted source, cause.message]
  | .apiNotFound name source => ["API " ++ quoted name ++ " not found in " ++ quoted source]

/-- A bundle: the metadata of many APIs, by name. -/
structure ApiDocs where
  apis : List (String × ApiInfo) := []
deriving Inhabited

namespace ApiDocs

def decoder : RecordDecoder ApiDocs where
  name := "ApiDocs"
  fields := ["apis"]
  set := fun name value docs =>
    match name with
    | "apis" => do return { docs with apis := ← value.decodeMap ApiInfo.decode }
    | _ => .ok docs

def decode : Json → Decoded ApiDocs := decoder.decode {}

end ApiDocs

def isBundle (document : Json) : Bool :=
  match document.member? "apis" with
  | some apis => apis.isObject
  | none => false

namespace InputFormat

def name : InputFormat → String
  | api => "api"
  | apiDocs => "api-docs"

def all : List InputFormat := [api, apiDocs]

def ofName? (name : String) : Option InputFormat :=
  all.find? (·.name == name)

def accepts : InputFormat → Json → Bool
  | api, document => document.isObject && !isBundle document
  | apiDocs, document => isBundle document

def detectIn (formats : List InputFormat) (document : Json) : Option InputFormat :=
  formats.find? (·.accepts document)

def detect (document : Json) : Option InputFormat :=
  detectIn all document

/-- The APIs of a document. One API takes its name from the selection, else from the
name of the file it was read from; of a bundle, a selection keeps one API. -/
def parse (format : InputFormat) (source : String) (document : Json)
    (selected : Option String) : Except InputError (List NamedApi) :=
  match format with
  | api =>
      match ApiInfo.decode document with
      | .error cause => .error (.invalidApi source cause)
      | .ok info =>
          match selected.or (Path.fileStem? source) with
          | some name => .ok [⟨name, info⟩]
          | none => .error (.noApiName source)
  | apiDocs =>
      match ApiDocs.decode document with
      | .error cause => .error (.invalidDocs source cause)
      | .ok docs =>
          match selected with
          | none => .ok (docs.apis.map fun (name, info) => ⟨name, info⟩)
          | some name =>
              match docs.apis.find? (·.1 == name) with
              | some (name, info) => .ok [⟨name, info⟩]
              | none => .error (.apiNotFound name source)

end InputFormat

end ApiTypings
