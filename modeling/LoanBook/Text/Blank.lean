/-!
# White space

The characters with the Unicode property White_Space, and the two things done with them: passing
over them at the head of a text, and telling whether a text holds anything else.
-/

namespace LoanBook.Text

/-- The characters with the Unicode property White_Space. -/
def isBlank (c : Char) : Bool :=
  ('\t' ≤ c && c ≤ '\r') || c == ' ' || c == '\u0085' || c == '\u00a0' || c == '\u1680' ||
    ('\u2000' ≤ c && c ≤ '\u200a') || c == '\u2028' || c == '\u2029' || c == '\u202f' ||
    c == '\u205f' || c == '\u3000'

/-- Whether a text holds white space only. -/
def allBlank (text : String) : Bool :=
  text.toList.all isBlank

/-- A text without the white space at its head. -/
def skipBlanks (cs : List Char) : List Char :=
  cs.dropWhile isBlank

end LoanBook.Text
