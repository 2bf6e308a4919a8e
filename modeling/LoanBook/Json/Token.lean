import LoanBook.Json.Basic

/-!
# JSON tokens

A text is first cut into tokens: the six marks, the three words, numerals and string literals,
with white space between them. `Token.scan?` does the cutting and `Token.toChars` writes a token.
-/

namespace LoanBook.Json

/-- A token of a JSON text. -/
inductive Token where
  | openBrace
  | closeBrace
  | openBracket
  | closeBracket
  | colon
  | comma
  | null
  | bool (value : Bool)
  | number (numeral : Numeral)
  | string (text : Option String)
deriving DecidableEq

namespace Token

/-- The white space between tokens. -/
def isSpace (c : Char) : Bool :=
  c == ' ' || c == '\t' || c == '\n' || c == '\r'

/-! ## String literals -/

/-- What a string literal is made of: a character, or half of a surrogate pair by its number. -/
inductive Piece where
  | char (c : Char)
  | surrogate (unit : Nat)
deriving DecidableEq

/-- The value of a hexadecimal digit of either case. -/
def hexDigit? (c : Char) : Option Nat :=
  if '0' ≤ c ∧ c ≤ '9' then some (c.toNat - '0'.toNat)
  else if 'a' ≤ c ∧ c ≤ 'f' then some (c.toNat - 'a'.toNat + 10)
  else if 'A' ≤ c ∧ c ≤ 'F' then some (c.toNat - 'A'.toNat + 10)
  else none

/-- The piece that four hexadecimal digits name. -/
def hexPiece? (a b c d : Char) : Option Piece :=
  (hexDigit? a).bind fun a => (hexDigit? b).bind fun b => (hexDigit? c).bind fun c =>
    (hexDigit? d).map fun d =>
      let unit := ((a * 16 + b) * 16 + c) * 16 + d
      if 0xD800 ≤ unit ∧ unit < 0xE000 then .surrogate unit else .char (Char.ofNat unit)

/-- The character that a short escape names. -/
def shortEscape? : Char → Option Char
  | '"' => some '"'
  | '\\' => some '\\'
  | '/' => some '/'
  | 'b' => some '\x08'
  | 'f' => some '\x0c'
  | 'n' => some '\n'
  | 'r' => some '\r'
  | 't' => some '\t'
  | _ => none

/-- Reads the rest of a string literal up to its closing quote, and answers what follows it. -/
def readPieces? : List Char → Option (List Piece × List Char)
  | [] => none
  | '"' :: rest => some ([], rest)
  | '\\' :: 'u' :: a :: b :: c :: d :: rest =>
    (hexPiece? a b c d).bind fun piece =>
      (readPieces? rest).map fun found => (piece :: found.1, found.2)
  | '\\' :: e :: rest =>
    (shortEscape? e).bind fun c =>
      (readPieces? rest).map fun found => (.char c :: found.1, found.2)
  | c :: rest =>
    if c == '\\' || c.toNat < 0x20 then none
    else (readPieces? rest).map fun found => (.char c :: found.1, found.2)

/-- Joins surrogate pairs; none when a half stands alone. -/
def joinPieces? : List Piece → Option (List Char)
  | [] => some []
  | .char c :: rest => (joinPieces? rest).map (c :: ·)
  | .surrogate high :: .surrogate low :: rest =>
    if high < 0xDC00 ∧ 0xDC00 ≤ low then
      (joinPieces? rest).map
        (Char.ofNat (0x10000 + (high - 0xD800) * 0x400 + (low - 0xDC00)) :: ·)
    else none
  | .surrogate _ :: _ => none

def readString? (cs : List Char) : Option (Option String × List Char) :=
  (readPieces? cs).map fun found => ((joinPieces? found.1).map String.ofList, found.2)

/-! ## Numerals -/

/-- The digits at the head of a text. -/
def digits (cs : List Char) : List Char := cs.takeWhile Char.isDigit

/-- The text after its leading digits. -/
def afterDigits (cs : List Char) : List Char := cs.dropWhile Char.isDigit

/-- Reads the digits after a point, at least one; without a point there are none. -/
def readFraction? : List Char → Option (List Char × List Char)
  | '.' :: rest => if (digits rest).isEmpty then none else some (digits rest, afterDigits rest)
  | cs => some ([], cs)

/-- Reads the digits of an exponent, at least one. -/
def readExponentDigits? (isNegative : Bool) (cs : List Char) :
    Option (Option (Bool × List Char) × List Char) :=
  if (digits cs).isEmpty then none else some (some (isNegative, digits cs), afterDigits cs)

/-- Reads an exponent with its mark and sign, if there is one. -/
def readExponent? : List Char → Option (Option (Bool × List Char) × List Char)
  | c :: rest =>
    if c == 'e' || c == 'E' then
      match rest with
      | '-' :: after => readExponentDigits? true after
      | '+' :: after => readExponentDigits? false after
      | _ => readExponentDigits? false rest
    else some (none, c :: rest)
  | [] => some (none, [])

/-- Reads a numeral without its sign: digits without a needless leading zero, a fraction and an
exponent. -/
def readNumeral? (negative : Bool) (cs : List Char) : Option (Numeral × List Char) :=
  let whole := digits cs
  if whole.isEmpty || (whole.head? == some '0' && whole.length != 1) then none
  else
    (readFraction? (afterDigits cs)).bind fun fraction =>
      (readExponent? fraction.2).map fun exponent =>
        (⟨negative, whole, fraction.1, exponent.1⟩, exponent.2)

/-! ## Texts -/

/-- The token of a mark. -/
def mark? : Char → Option Token
  | '\x7b' => some openBrace
  | '\x7d' => some closeBrace
  | '[' => some openBracket
  | ']' => some closeBracket
  | ':' => some colon
  | ',' => some comma
  | _ => none

def read? : List Char → Option (Token × List Char)
  | 'n' :: 'u' :: 'l' :: 'l' :: rest => some (null, rest)
  | 't' :: 'r' :: 'u' :: 'e' :: rest => some (bool true, rest)
  | 'f' :: 'a' :: 'l' :: 's' :: 'e' :: rest => some (bool false, rest)
  | '"' :: rest => (readString? rest).map fun found => (string found.1, found.2)
  | '-' :: rest => (readNumeral? true rest).map fun found => (number found.1, found.2)
  | c :: rest =>
    match mark? c with
    | some token => some (token, rest)
    | none =>
      if c.isDigit then (readNumeral? false (c :: rest)).map fun found => (number found.1, found.2)
      else none
  | [] => none

/-- Cuts a text into tokens; `budget` bounds their number. -/
def scanWithin? : (budget : Nat) → List Char → Option (List Token)
  | _, [] => some []
  | 0, _ :: _ => none
  | budget + 1, c :: rest =>
    if isSpace c then scanWithin? budget rest
    else (read? (c :: rest)).bind fun found =>
      (scanWithin? budget found.2).map (found.1 :: ·)

/-- Cuts a text into tokens. A text has no more tokens than characters. -/
def scan? (cs : List Char) : Option (List Token) := scanWithin? cs.length cs

/-! ## Writing -/

/-- A hexadecimal digit in lower case. -/
def hexChar (value : Nat) : Char := Nat.digitChar value

/-- A character of a string literal: quotes, backslashes and control characters are escaped. -/
def escapeChar (c : Char) : List Char :=
  if c = '"' then ['\\', '"']
  else if c = '\\' then ['\\', '\\']
  else if c = '\x08' then ['\\', 'b']
  else if c = '\x0c' then ['\\', 'f']
  else if c = '\n' then ['\\', 'n']
  else if c = '\r' then ['\\', 'r']
  else if c = '\t' then ['\\', 't']
  else if c.toNat < 0x20 then
    ['\\', 'u', '0', '0', hexChar (c.toNat / 16), hexChar (c.toNat % 16)]
  else [c]

/-- A string literal. One without a text is written as the escape of half a surrogate pair. -/
def stringChars : Option String → List Char
  | some text => '"' :: text.toList.flatMap escapeChar ++ ['"']
  | none => ['"', '\\', 'u', 'd', '8', '0', '0', '"']

def toChars : Token → List Char
  | openBrace => ['\x7b']
  | closeBrace => ['\x7d']
  | openBracket => ['[']
  | closeBracket => [']']
  | colon => [':']
  | comma => [',']
  | null => ['n', 'u', 'l', 'l']
  | bool true => ['t', 'r', 'u', 'e']
  | bool false => ['f', 'a', 'l', 's', 'e']
  | number numeral => numeral.toChars
  | string text => stringChars text

end Token

end LoanBook.Json
