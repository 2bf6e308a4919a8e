import LoanBook.Json.Token

/-!
# Reading JSON

The tokens of a text are read one by one by a machine that remembers the arrays and objects still
open. `Json.read?` answers the document of a text that holds exactly one, with white space around
it at most.
-/

namespace LoanBook.Json

/-- An array or object still open, with what has been read of it in reverse. An open object is
waiting for the value of a key. -/
inductive Frame where
  | array (done : List Json)
  | object (done : List (Option String × Json)) (key : Option String)

/-- What the machine has read and what must follow; the open frames are listed innermost first. -/
inductive Reading where
  | beforeValue (frames : List Frame)
  | beforeFirstElement (frames : List Frame)
  | beforeFirstKey (frames : List Frame)
  | beforeKey (done : List (Option String × Json)) (frames : List Frame)
  | beforeColon (done : List (Option String × Json)) (key : Option String) (frames : List Frame)
  | afterValue (document : Json) (frames : List Frame)

namespace Reading

/-- The first token of a value. -/
def begin? (frames : List Frame) : Token → Option Reading
  | .openBrace => some (.beforeFirstKey frames)
  | .openBracket => some (.beforeFirstElement frames)
  | .null => some (.afterValue .null frames)
  | .bool value => some (.afterValue (.bool value) frames)
  | .number numeral => some (.afterValue (.number numeral) frames)
  | .string text => some (.afterValue (.string text) frames)
  | _ => none

/-- The token after a value that stands in the given frames. -/
def continue? (document : Json) : List Frame → Token → Option Reading
  | .array done :: frames, .comma => some (.beforeValue (.array (document :: done) :: frames))
  | .array done :: frames, .closeBracket =>
    some (.afterValue (.array (document :: done).reverse) frames)
  | .object done key :: frames, .comma => some (.beforeKey ((key, document) :: done) frames)
  | .object done key :: frames, .closeBrace =>
    some (.afterValue (.object ((key, document) :: done).reverse) frames)
  | _, _ => none

/-- Reads one more token. -/
def step? : Reading → Token → Option Reading
  | .beforeValue frames, token => begin? frames token
  | .beforeFirstElement frames, .closeBracket => some (.afterValue (.array []) frames)
  | .beforeFirstElement frames, token => begin? (.array [] :: frames) token
  | .beforeFirstKey frames, .closeBrace => some (.afterValue (.object []) frames)
  | .beforeFirstKey frames, .string key => some (.beforeColon [] key frames)
  | .beforeFirstKey _, _ => none
  | .beforeKey done frames, .string key => some (.beforeColon done key frames)
  | .beforeKey _ _, _ => none
  | .beforeColon done key frames, .colon => some (.beforeValue (.object done key :: frames))
  | .beforeColon _ _ _, _ => none
  | .afterValue document frames, token => continue? document frames token

/-- Reads tokens in order. -/
def run? : Reading → List Token → Option Reading
  | reading, [] => some reading
  | reading, token :: rest => (reading.step? token).bind fun next => next.run? rest

/-- The document, when one has been read and nothing is open. -/
def document? : Reading → Option Json
  | .afterValue document [] => some document
  | _ => none

end Reading

/-- The document that a list of tokens spells. -/
def ofTokens? (tokens : List Token) : Option Json :=
  ((Reading.beforeValue []).run? tokens).bind Reading.document?

def read? (text : String) : Option Json :=
  (Token.scan? text.toList).bind ofTokens?

end LoanBook.Json
