import LoanBook.Json.Token

/-!
# Writing JSON

`Json.compact` writes a document without white space, `Json.pretty` puts every element and member
on a line of its own, indented by two spaces. Members keep their order; an empty array or object
is written on one line.
-/

namespace LoanBook.Json

mutual

def tokens : Json → List Token
  | .null => [.null]
  | .bool value => [.bool value]
  | .number numeral => [.number numeral]
  | .string text => [.string text]
  | .array elements => .openBracket :: elementTokens elements ++ [.closeBracket]
  | .object members => .openBrace :: memberTokens members ++ [.closeBrace]

/-- The tokens between the brackets of an array. -/
def elementTokens : List Json → List Token
  | [] => []
  | [element] => element.tokens
  | element :: rest => element.tokens ++ .comma :: elementTokens rest

/-- The tokens between the braces of an object. -/
def memberTokens : List (Option String × Json) → List Token
  | [] => []
  | [(key, value)] => .string key :: .colon :: value.tokens
  | (key, value) :: rest => .string key :: .colon :: value.tokens ++ .comma :: memberTokens rest

end

def compactChars (document : Json) : List Char :=
  document.tokens.flatMap Token.toChars

def compact (document : Json) : String :=
  String.ofList document.compactChars

/-- A new line, indented by two spaces a level. -/
def newLine (level : Nat) : List Char :=
  '\n' :: List.replicate (2 * level) ' '

mutual

/-- The characters of a document, indented, at some level of nesting. -/
def prettyChars (level : Nat) : Json → List Char
  | .array [] => ['[', ']']
  | .array elements =>
    '[' :: newLine (level + 1) ++ prettyElements (level + 1) elements ++ newLine level ++ [']']
  | .object [] => ['\x7b', '\x7d']
  | .object members =>
    '\x7b' :: newLine (level + 1) ++ prettyMembers (level + 1) members ++ newLine level ++ ['\x7d']
  | .null => Token.toChars .null
  | .bool value => Token.toChars (.bool value)
  | .number numeral => Token.toChars (.number numeral)
  | .string text => Token.toChars (.string text)

/-- The elements of an array, each on a line of its own. -/
def prettyElements (level : Nat) : List Json → List Char
  | [] => []
  | [element] => element.prettyChars level
  | element :: rest => element.prettyChars level ++ ',' :: newLine level ++ prettyElements level rest

/-- The members of an object, each on a line of its own. -/
def prettyMembers (level : Nat) : List (Option String × Json) → List Char
  | [] => []
  | [(key, value)] => Token.stringChars key ++ [':', ' '] ++ value.prettyChars level
  | (key, value) :: rest =>
    Token.stringChars key ++ [':', ' '] ++ value.prettyChars level ++ ',' :: newLine level ++
      prettyMembers level rest

end

/-- The text of a document, indented. -/
def pretty (document : Json) : String :=
  String.ofList (document.prettyChars 0)

end LoanBook.Json
