import ApiTypings.Proofs.DeclaredNames
import ApiTypings.Proofs.TextParts

/-!
# Comments and the code around them

The options of comments decide what stands in doc comments, and nothing else. Take a
generation before its comments are rendered: a draft keeps, in the place of each comment,
the text or the note that the comment is made of. One draft serves all options of comments
(`exists_drafts`): each run renders the comments of the draft in its own way, while names,
members, keys and types are those of the draft. As a text, a declaration is a list of
pieces, each a doc comment or code, and the code of two runs is the same, piece by piece
(`generate_comments`).
-/

namespace ApiTypings

/-! ## Drafts -/

/-- An enum before its comments are rendered. -/
structure EnumDraft where
  name : String
  titles : Titles
  description : Option String

structure PropertyDraft where
  note : Note
  key : String
  optional : Bool
  type : TypeExpr

inductive Draft where
  | interface (name : String) (properties : List PropertyDraft)
  | alias (name : String) (type : TypeExpr)

structure Drafts where
  enums : List EnumDraft
  interfaces : List Draft

section Render

variable (comments : CommentOptions)

def EnumDraft.render (draft : EnumDraft) : EnumDecl :=
  .ofTitles comments draft.name draft.titles draft.description

def PropertyDraft.render (draft : PropertyDraft) : Property :=
  ⟨DocBlock.ofNote comments draft.note, draft.key, draft.optional, draft.type⟩

def Draft.render : Draft → Declaration
  | .interface name properties =>
      .interface name (properties.map (PropertyDraft.render comments))
  | .alias name type => .alias name type

def Drafts.render (drafts : Drafts) : Declarations where
  enums := drafts.enums.map (EnumDraft.render comments)
  interfaces := drafts.interfaces.map (Draft.render comments)

end Render

/-! ## The walk draws up a draft -/

structure RegistryDraft where
  names : Names
  enums : List EnumDraft

def RegistryDraft.render (comments : CommentOptions) (registry : RegistryDraft) : Registry where
  names := registry.names
  enums := registry.enums.map (EnumDraft.render comments)

def RenderOptions.withComments (options : RenderOptions) (comments : CommentOptions) :
    RenderOptions :=
  { options with comments }

namespace RenderOptions

variable (options : RenderOptions) (comments : CommentOptions)

@[simp] theorem withComments_comments : (options.withComments comments).comments = comments :=
  rfl

@[simp] theorem withComments_keyCasing :
    (options.withComments comments).keyCasing = options.keyCasing := rfl

@[simp] theorem withComments_unionToEnum :
    (options.withComments comments).unionToEnum = options.unionToEnum := rfl

end RenderOptions

/-- Names are given out without a look at the enums. -/
theorem RegistryDraft.allocate_render (registry : RegistryDraft) (comments : CommentOptions)
    (base : String) :
    (registry.render comments).allocate base =
      ((registry.names.allocate base).1,
        RegistryDraft.render comments ⟨(registry.names.allocate base).2, registry.enums⟩) :=
  rfl

variable (api : String) (options : RenderOptions)

/-- A request looks at the names alone; the enum it adds is a draft. -/
theorem requestEnum_draft (registry : RegistryDraft) (name : String) (titles : Titles)
    (description : Option String) : ∃ (type : TypeExpr) (after : RegistryDraft), ∀ comments,
    (registry.render comments).requestEnum (options.withComments comments) name titles
      description = (type, after.render comments) := by
  by_cases hempty : titles.isEmpty
  · refine ⟨.primitive .string, registry, fun comments => ?_⟩
    rw [Registry.requestEnum, if_pos hempty]
  · cases hon : options.unionToEnum with
    | false =>
        refine ⟨.literals (titles.map Prod.fst), registry, fun comments => ?_⟩
        simp [Registry.requestEnum, hempty, hon]
    | true =>
        by_cases htaken : name ∈ registry.names.taken
        · refine ⟨.enumeration name, registry, fun comments => ?_⟩
          simp [Registry.requestEnum, hempty, hon, Names.register, RegistryDraft.render, htaken]
        · refine ⟨.enumeration name,
            ⟨{ registry.names with taken := name :: registry.names.taken },
              registry.enums ++ [⟨name, titles, description⟩]⟩, fun comments => ?_⟩
          simp [Registry.requestEnum, hempty, hon, Names.register, RegistryDraft.render, htaken,
            EnumDraft.render]

/- What the walk adds to a draft is found before the comments are chosen: the existence
comes first, and one draft is then rendered for all options of comments. -/
mutual
/-- The walk over a shape draws up a draft. -/
theorem walkShape_draft (registry : RegistryDraft) (property : String)
    (description : Option String) : ∀ shape : Shape,
    ∃ (type : TypeExpr) (after : RegistryDraft) (declared : List Draft), ∀ comments,
      walkShape api (options.withComments comments) (registry.render comments) property
        description shape =
          ⟨type, after.render comments, declared.map (Draft.render comments)⟩
  | .primitive kind => ⟨.primitive kind, registry, [], fun comments => by simp [walkShape]⟩
  | .unknown => ⟨.any, registry, [], fun comments => by simp [walkShape]⟩
  | .enumeration titles => by
      obtain ⟨type, after, hrequest⟩ :=
        requestEnum_draft options registry (enumName property) titles description
      refine ⟨type, after, [], fun comments => ?_⟩
      rw [walkShape, hrequest]
      rfl
  | .arrayOf items => by
      obtain ⟨type, after, declared, hitems⟩ :=
        walkShape_draft registry property description items
      refine ⟨.array type, after, declared, fun comments => ?_⟩
      rw [walkShape, hitems]
  | .objectWith fields => by
      let named := registry.names.allocate (api ++ typeSegment property)
      obtain ⟨properties, after, declared, hfields⟩ :=
        walkFields_draft ⟨named.2, registry.enums⟩ [] fields
      refine ⟨.interface named.1, after, .interface named.1 properties :: declared,
        fun comments => ?_⟩
      rw [walkShape, RegistryDraft.allocate_render]
      simp only
      rw [hfields]
      rfl
theorem walkFields_draft (registry : RegistryDraft) (seen : List String) :
    ∀ fields : List Field,
    ∃ (properties : List PropertyDraft) (after : RegistryDraft) (declared : List Draft),
      ∀ comments,
      walkFields api (options.withComments comments) (registry.render comments) seen fields =
        ⟨properties.map (PropertyDraft.render comments), after.render comments,
          declared.map (Draft.render comments)⟩
  | [] => ⟨[], registry, [], fun comments => by simp [walkFields]⟩
  | .mk name optional note shape :: rest => by
      by_cases hseen : seen.contains (propertyKey options.keyCasing name)
      · obtain ⟨properties, after, declared, hrest⟩ := walkFields_draft registry seen rest
        refine ⟨properties, after, declared, fun comments => ?_⟩
        rw [walkFields, RenderOptions.withComments_keyCasing, if_pos hseen, hrest]
      · obtain ⟨type, between, declared, hshape⟩ :=
          walkShape_draft registry name note.description shape
        obtain ⟨properties, after, others, hrest⟩ :=
          walkFields_draft between (propertyKey options.keyCasing name :: seen) rest
        refine ⟨⟨note, propertyKey options.keyCasing name, optional, type⟩ :: properties, after,
          declared ++ others, fun comments => ?_⟩
        rw [walkFields, RenderOptions.withComments_keyCasing, if_neg hseen, hshape]
        simp only
        rw [hrest, List.map_append]
        rfl
end

theorem walkInterface_draft (registry : RegistryDraft) (base : String) (fields : List Field) :
    ∃ (name : String) (after : RegistryDraft) (declared : List Draft), ∀ comments,
      walkInterface api (options.withComments comments) (registry.render comments) base fields =
        ⟨name, after.render comments, declared.map (Draft.render comments)⟩ := by
  let named := registry.names.allocate base
  obtain ⟨properties, after, declared, hfields⟩ :=
    walkFields_draft api options ⟨named.2, registry.enums⟩ [] fields
  refine ⟨named.1, after, .interface named.1 properties :: declared, fun comments => ?_⟩
  rw [walkInterface, RegistryDraft.allocate_render]
  simp only
  rw [hfields]
  rfl

theorem walkResponse_draft (registry : RegistryDraft) (shape : Option Shape) :
    ∃ (name : String) (after : RegistryDraft) (declared : List Draft), ∀ comments,
      walkResponse api (options.withComments comments) (registry.render comments) shape =
        ⟨name, after.render comments, declared.map (Draft.render comments)⟩ := by
  let named := registry.names.allocate (api ++ "Response")
  have halias : ∃ (name : String) (after : RegistryDraft) (declared : List Draft),
      ∀ comments : CommentOptions,
      (⟨named.1, RegistryDraft.render comments ⟨named.2, registry.enums⟩,
        [.alias named.1 (aliasType shape)]⟩ : Walk String) =
        ⟨name, after.render comments, declared.map (Draft.render comments)⟩ :=
    ⟨_, _, [.alias named.1 (aliasType shape)], fun _ => rfl⟩
  cases shape with
  | none => exact halias
  | some shape =>
      cases shape with
      | objectWith fields => exact walkInterface_draft api options registry _ fields
      | primitive | enumeration | arrayOf | unknown => exact halias

/-- **One draft for all options of comments.** -/
theorem exists_drafts (info : ApiInfo) : ∃ drafts : Drafts, ∀ comments,
    generate api (options.withComments comments) info = drafts.render comments := by
  let start : RegistryDraft := ⟨{ interfacePrefix := options.interfacePrefix }, []⟩
  obtain ⟨name, between, declared, hresponse⟩ :=
    walkResponse_draft api options start (info.successSchema.map Schema.shape)
  obtain ⟨name', after, others, hparameters⟩ :=
    walkInterface_draft api options between (api ++ "Parameters")
      (info.parameters.map Parameter.toField)
  refine ⟨⟨after.enums, declared ++ others⟩, fun comments => ?_⟩
  have hfirst : responseWalk api (options.withComments comments) info =
      ⟨name, between.render comments, declared.map (Draft.render comments)⟩ :=
    hresponse comments
  have hsecond : parametersWalk api (options.withComments comments) info =
      ⟨name', after.render comments, others.map (Draft.render comments)⟩ := by
    rw [parametersWalk, hfirst]
    exact hparameters comments
  rw [generate_eq_walk, hfirst, hsecond, Drafts.render, List.map_append]
  rfl

/-! ## Texts in pieces -/

/-- A piece of a text: code, or a doc comment. -/
inductive Piece where
  | code (text : String)
  | comment (text : String)

namespace Piece

def text : Piece → String
  | code text => text
  | comment text => text

/-- What is left of a piece when comments are removed. -/
def codeText : Piece → String
  | code text => text
  | comment _ => ""

def ofBlock (indent : String) : Option DocBlock → List Piece
  | none => []
  | some block => [comment (block.text indent)]

end Piece

/-- The text of some pieces, each read in the same way. -/
def readPieces (read : Piece → String) (pieces : List Piece) : String :=
  String.join (pieces.map read)

def EnumMember.pieces (member : EnumMember) : List Piece :=
  Piece.ofBlock "  " member.doc ++
    [.code ("  " ++ member.name ++ " = " ++ singleQuoted member.value ++ ",\n")]

def EnumDecl.pieces (exported : Bool) (decl : EnumDecl) : List Piece :=
  Piece.ofBlock "" decl.doc ++
    .code (exportMarker exported ++ "enum " ++ decl.name ++ " \x7b\n") ::
      (decl.members.flatMap EnumMember.pieces ++ [.code "\x7d\n"])

def Property.pieces (property : Property) : List Piece :=
  Piece.ofBlock "  " property.doc ++ [.code property.line]

def Declaration.pieces (exported : Bool) : Declaration → List Piece
  | .interface name properties =>
      .code (exportMarker exported ++ "interface " ++ name ++ " \x7b\n") ::
        (properties.flatMap Property.pieces ++ [.code "\x7d\n"])
  | .alias name type =>
      [.code (exportMarker exported ++ "type " ++ name ++ " = " ++ type.text ++ ";\n")]

def Declarations.pieces (exported : Bool) (decls : Declarations) : List Piece :=
  [.code "\n"].intercalate
    (decls.enums.map (EnumDecl.pieces exported) ++
      decls.interfaces.map (Declaration.pieces exported))

def Declarations.enumCodes (exported : Bool) (decls : Declarations) : List String :=
  decls.enums.map fun decl => readPieces Piece.codeText (decl.pieces exported)

def Declarations.interfaceCodes (exported : Bool) (decls : Declarations) : List String :=
  decls.interfaces.map fun decl => readPieces Piece.codeText (decl.pieces exported)

section Read

variable (read : Piece → String)

@[simp] theorem readPieces_nil : readPieces read [] = "" := rfl

@[simp] theorem readPieces_cons (piece : Piece) (rest : List Piece) :
    readPieces read (piece :: rest) = read piece ++ readPieces read rest := by
  simp [readPieces]

@[simp] theorem readPieces_append (pieces others : List Piece) :
    readPieces read (pieces ++ others) = readPieces read pieces ++ readPieces read others := by
  simp [readPieces]

theorem readPieces_flatMap {α : Type} {pieces : α → List Piece} {text : α → String}
    (h : ∀ part, readPieces read (pieces part) = text part) (parts : List α) :
    readPieces read (parts.flatMap pieces) = String.join (parts.map text) := by
  rw [readPieces, join_map_flatMap]
  exact congrArg String.join (List.map_congr_left fun part _ => h part)

theorem readPieces_intercalate (separator : Piece) (parts : List (List Piece)) :
    readPieces read ([separator].intercalate parts) =
      (read separator).intercalate (parts.map (readPieces read)) := by
  induction parts with
  | nil => simp
  | cons part rest ih =>
      cases rest with
      | nil => simp
      | cons next rest => simpa [String.append_assoc] using ih

end Read

/-! ### The pieces of a text make the text -/

@[simp] theorem text_ofBlock (indent : String) (doc : Option DocBlock) :
    readPieces Piece.text (Piece.ofBlock indent doc) = DocBlock.optionalText indent doc := by
  cases doc <;> simp [Piece.ofBlock, DocBlock.optionalText, Piece.text]

theorem EnumMember.text_pieces (member : EnumMember) :
    readPieces Piece.text member.pieces = member.text := by
  simp [EnumMember.pieces, EnumMember.text, Piece.text, String.append_assoc]

theorem EnumDecl.text_pieces (exported : Bool) (decl : EnumDecl) :
    readPieces Piece.text (decl.pieces exported) = decl.text exported := by
  simp [EnumDecl.pieces, EnumDecl.text, Piece.text, String.append_assoc,
    readPieces_flatMap Piece.text EnumMember.text_pieces]

theorem Property.text_pieces (property : Property) :
    readPieces Piece.text property.pieces = property.text := by
  simp [Property.pieces, Property.text, Piece.text]

theorem Declaration.text_pieces (exported : Bool) (decl : Declaration) :
    readPieces Piece.text (decl.pieces exported) = decl.text exported := by
  cases decl <;>
    simp [Declaration.pieces, Declaration.text, Piece.text, String.append_assoc,
      readPieces_flatMap Piece.text Property.text_pieces]

/-- The pieces of all declarations make their text. -/
theorem Declarations.text_pieces (exported : Bool) (decls : Declarations) :
    readPieces Piece.text (decls.pieces exported) = decls.text exported := by
  rw [Declarations.pieces, readPieces_intercalate, List.map_append, List.map_map, List.map_map]
  have henums : readPieces Piece.text ∘ EnumDecl.pieces exported = EnumDecl.text exported :=
    funext (EnumDecl.text_pieces exported)
  have hinterfaces : readPieces Piece.text ∘ Declaration.pieces exported =
      Declaration.text exported :=
    funext (Declaration.text_pieces exported)
  rw [henums, hinterfaces]
  rfl

/-! ### The code of a draft -/

section Silent

variable (comments : CommentOptions) (insertExample exported : Bool)

@[simp] theorem DocBlock.ofText_disabled (text : Option String) :
    DocBlock.ofText ⟨true, insertExample⟩ text = none := rfl

@[simp] theorem DocBlock.ofNote_disabled (note : Note) :
    DocBlock.ofNote ⟨true, insertExample⟩ note = none := rfl

@[simp] theorem code_ofBlock (indent : String) (doc : Option DocBlock) :
    readPieces Piece.codeText (Piece.ofBlock indent doc) = "" := by
  cases doc <;> simp [Piece.ofBlock, Piece.codeText]

/-- Members without their comments are the members of a run without comments. -/
theorem code_enumMembers (taken : List String) (titles : Titles) :
    readPieces Piece.codeText ((enumMembers comments taken titles).flatMap EnumMember.pieces) =
      String.join ((enumMembers ⟨true, insertExample⟩ taken titles).map EnumMember.text) := by
  induction titles generalizing taken with
  | nil => simp [enumMembers]
  | cons entry rest ih =>
      simp [enumMembers, ih, EnumMember.pieces, EnumMember.text, Piece.codeText,
        DocBlock.optionalText]

theorem EnumDraft.code_pieces (draft : EnumDraft) :
    readPieces Piece.codeText ((draft.render comments).pieces exported) =
      (draft.render ⟨true, insertExample⟩).text exported := by
  simp [EnumDraft.render, EnumDecl.ofTitles, EnumDecl.pieces, EnumDecl.text, Piece.codeText,
    DocBlock.optionalText, String.append_assoc, code_enumMembers comments insertExample]

theorem PropertyDraft.code_pieces (draft : PropertyDraft) :
    readPieces Piece.codeText (draft.render comments).pieces =
      (draft.render ⟨true, insertExample⟩).text := by
  have hline : (draft.render comments).line = (draft.render ⟨true, insertExample⟩).line := rfl
  have hdoc : (draft.render ⟨true, insertExample⟩).doc = none := rfl
  rw [Property.text, hdoc, ← hline]
  simp [Property.pieces, Piece.codeText, DocBlock.optionalText]

theorem Draft.code_pieces : ∀ draft : Draft,
    readPieces Piece.codeText ((draft.render comments).pieces exported) =
      (draft.render ⟨true, insertExample⟩).text exported
  | .interface name properties => by
      have hbody : readPieces Piece.codeText
          ((properties.map (PropertyDraft.render comments)).flatMap Property.pieces) =
          String.join ((properties.map (PropertyDraft.render ⟨true, insertExample⟩)).map
            Property.text) := by
        rw [List.flatMap_map, List.map_map]
        exact readPieces_flatMap _ (PropertyDraft.code_pieces comments insertExample) properties
      simp only [Draft.render, Declaration.pieces, Declaration.text, readPieces_cons,
        readPieces_append, readPieces_nil, hbody, Piece.codeText, String.append_assoc,
        String.append_empty]
  | .alias name type => by
      simp [Draft.render, Declaration.pieces, Declaration.text, Piece.codeText]

/-- Without its comments, a run has the texts of a run without comments. -/
theorem Drafts.enumCodes_render (drafts : Drafts) :
    (drafts.render comments).enumCodes exported =
      (drafts.render ⟨true, insertExample⟩).enumTexts exported := by
  rw [Declarations.enumCodes, Declarations.enumTexts, Drafts.render, Drafts.render,
    List.map_map, List.map_map]
  exact List.map_congr_left fun draft _ => draft.code_pieces comments insertExample exported

theorem Drafts.interfaceCodes_render (drafts : Drafts) :
    (drafts.render comments).interfaceCodes exported =
      (drafts.render ⟨true, insertExample⟩).interfaceTexts exported := by
  rw [Declarations.interfaceCodes, Declarations.interfaceTexts, Drafts.render, Drafts.render,
    List.map_map, List.map_map]
  exact List.map_congr_left fun draft _ => draft.code_pieces comments insertExample exported

theorem Drafts.code_pieces (drafts : Drafts) :
    readPieces Piece.codeText ((drafts.render comments).pieces exported) =
      (drafts.render ⟨true, insertExample⟩).text exported := by
  rw [Declarations.pieces, readPieces_intercalate, List.map_append, List.map_map, List.map_map,
    Declarations.text, ← drafts.enumCodes_render comments, ← drafts.interfaceCodes_render comments]
  rfl

end Silent

/-- **Comments touch only comments.** All options of comments render one draft, so two runs
that differ only in these options have as many enums and as many interfaces, and the code
of each is the same. The text of a run is that of its pieces, and with the comments among
them removed, it is the text of a run without comments. -/
theorem generate_comments (info : ApiInfo) :
    (∃ drafts : Drafts, ∀ comments,
      generate api (options.withComments comments) info = drafts.render comments) ∧
    ∀ comments others insertExample exported,
      let run := generate api (options.withComments comments) info
      let other := generate api (options.withComments others) info
      let silent := generate api (options.withComments ⟨true, insertExample⟩) info
      run.enums.length = other.enums.length ∧
      run.interfaces.length = other.interfaces.length ∧
      run.enumCodes exported = other.enumCodes exported ∧
      run.interfaceCodes exported = other.interfaceCodes exported ∧
      (∀ decl ∈ run.enums, readPieces Piece.text (decl.pieces exported) = decl.text exported) ∧
      (∀ decl ∈ run.interfaces,
        readPieces Piece.text (decl.pieces exported) = decl.text exported) ∧
      readPieces Piece.text (run.pieces exported) = run.text exported ∧
      silent.enumTexts exported = run.enumCodes exported ∧
      silent.interfaceTexts exported = run.interfaceCodes exported ∧
      silent.text exported = readPieces Piece.codeText (run.pieces exported) := by
  obtain ⟨drafts, hdrafts⟩ := exists_drafts api options info
  refine ⟨⟨drafts, hdrafts⟩, fun comments others insertExample exported => ?_⟩
  simp only [hdrafts]
  refine ⟨?_, ?_, ?_, ?_, fun decl _ => decl.text_pieces exported,
    fun decl _ => decl.text_pieces exported, Declarations.text_pieces exported _, ?_, ?_, ?_⟩
  · simp [Drafts.render]
  · simp [Drafts.render]
  · rw [drafts.enumCodes_render comments false, drafts.enumCodes_render others false]
  · rw [drafts.interfaceCodes_render comments false, drafts.interfaceCodes_render others false]
  · exact (drafts.enumCodes_render comments insertExample exported).symm
  · exact (drafts.interfaceCodes_render comments insertExample exported).symm
  · exact (drafts.code_pieces comments insertExample exported).symm

end ApiTypings
