import ApiTypings.Text.Alphanumeric
import ApiTypings.Text.CaseMap
import ApiTypings.Text.LetterCase
import ApiTypings.Text.Lines

/-!
# Words of a name

A name is cut into words at every character that is neither letter nor numeral,
and inside a piece where its capitals show a boundary: `aB` is `a|B`, `a1B` is
`a1|B`, and `HTTPServer` is `HTTP|Server`. The words are then joined again in
upper snake case or in camel case.
-/

namespace ApiTypings

/-- The case of the last cased character of the word being read. -/
inductive CaseMode where
  | boundary
  | lower
  | upper
deriving Repr, DecidableEq

def CaseMode.next (mode : CaseMode) (c : Char) : CaseMode :=
  if isLowercase c then .lower else if isUppercase c then .upper else mode

/-- The words of a piece, where `word` holds the characters of the current word in
reverse. A capital after a small letter starts a word, and so does the last capital
of a row when a small letter follows it. -/
def wordsOfPiece (mode : CaseMode) (word : List Char) : List Char → List (List Char)
  | [] => if word.isEmpty then [] else [word.reverse]
  | [c] => [(c :: word).reverse]
  | c :: next :: rest =>
      if mode.next c = .lower ∧ isUppercase next then
        (c :: word).reverse :: wordsOfPiece .boundary [] (next :: rest)
      else if mode = .upper ∧ isUppercase c ∧ isLowercase next then
        word.reverse :: wordsOfPiece .boundary [c] (next :: rest)
      else
        wordsOfPiece (mode.next c) (c :: word) (next :: rest)

def wordsOf (name : String) : List (List Char) :=
  (splitWhen (fun c => !isAlphanumeric c) name.toList).flatMap (wordsOfPiece .boundary [])

def upperWord (word : List Char) : List Char :=
  word.flatMap upperChars

/-- The word in lower case; a sigma that ends it takes its final form. -/
def lowerWord : List Char → List Char
  | [] => []
  | [c] => if c = 'Σ' then ['ς'] else lowerChars c
  | c :: rest => lowerChars c ++ lowerWord rest

def capitalWord : List Char → List Char
  | [] => []
  | c :: rest => upperChars c ++ lowerWord rest

/-- `UPPER_SNAKE_CASE`. -/
def upperSnake (name : String) : String :=
  "_".intercalate ((wordsOf name).map fun word => String.ofList (upperWord word))

/-- `UpperCamelCase`. -/
def upperCamel (name : String) : String :=
  String.ofList ((wordsOf name).flatMap capitalWord)

end ApiTypings
