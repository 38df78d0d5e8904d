import ApiTypings.Metadata.Shape
import ApiTypings.RenderOptions
import ApiTypings.Text.Lines
import ApiTypings.Text.Numeric

/-!
# Doc comments

A doc comment is a list of lines; `DocBlock.text` frames them. References to pages
of the documentation, written `(~~12345~~)`, become links.
-/

namespace ApiTypings

/-! ## References to documentation pages -/

/-- The digits of a reference at the start of a text: `(~~`, decimal digits of any
script, and `~~)`. -/
def pageReference? (text : List Char) : Option (List Char) :=
  match text with
  | '(' :: '~' :: '~' :: rest =>
      let digits := rest.takeWhile isDecimalDigit
      match rest.dropWhile isDecimalDigit with
      | '~' :: '~' :: ')' :: _ => if digits.isEmpty then none else some digits
      | _ => none
  | _ => none

def pageLink (digits : List Char) : List Char :=
  "(https://help.aliyun.com/document_detail/".toList ++ digits ++ ".html)".toList

/-- Links for all references, first to last, where `skip` characters still belong to
the last reference found. -/
def linkFrom : Nat → List Char → List Char
  | _, [] => []
  | skip + 1, _ :: rest => linkFrom skip rest
  | 0, c :: rest =>
      match pageReference? (c :: rest) with
      | some digits => pageLink digits ++ linkFrom (digits.length + 5) rest
      | none => c :: linkFrom 0 rest

def linkPages (text : String) : String :=
  String.ofList (linkFrom 0 text.toList)

/-! ## Blocks -/

structure DocBlock where
  lines : List String
deriving Repr, DecidableEq

namespace DocBlock

/-- A line of a block with its frame and the line feed after it. -/
def lineText (indent line : String) : String :=
  if line.isEmpty then indent ++ " *\n" else indent ++ " * " ++ line ++ "\n"

def text (indent : String) (block : DocBlock) : String :=
  indent ++ "/**\n" ++ String.join (block.lines.map (lineText indent)) ++ indent ++ " */\n"

def optionalText (indent : String) : Option DocBlock → String
  | none => ""
  | some block => block.text indent

/-- The lines that document a property: its description, whether it is deprecated,
and its example if examples are asked for. -/
def linesOf (insertExample : Bool) (note : Note) : List String :=
  (match note.description with
    | none => []
    | some description => (splitLines (linkPages description)).map trim) ++
  (if note.deprecated then ["", "@deprecated"] else []) ++
  (match note.sample with
    | none => []
    | some sample => if insertExample then ["", "@example"] ++ splitLines sample else [])

/-- The block of a property; none if it has no line or comments are disabled. -/
def ofNote (options : CommentOptions) (note : Note) : Option DocBlock :=
  if options.disabled then none
  else
    match linesOf options.insertExample note with
    | [] => none
    | lines => some ⟨lines⟩

/-- The block of a free text; none if it is blank or comments are disabled. -/
def ofText (options : CommentOptions) (text : Option String) : Option DocBlock :=
  if options.disabled then none
  else
    match text with
    | none => none
    | some text => if isBlankText text then none else some ⟨splitLines (linkPages text)⟩

theorem lines_ofNote {options : CommentOptions} {note : Note} {block : DocBlock}
    (h : ofNote options note = some block) : block.lines = linesOf options.insertExample note := by
  rw [ofNote] at h
  split at h
  · exact nomatch h
  · split at h
    · exact nomatch h
    · rw [← Option.some.inj h]

theorem lines_ofText {options : CommentOptions} {text : String} {block : DocBlock}
    (h : ofText options (some text) = some block) : block.lines = splitLines (linkPages text) := by
  rw [ofText] at h
  split at h
  · exact nomatch h
  · split at h
    · exact nomatch h
    · rw [← Option.some.inj h]

end DocBlock

end ApiTypings
