/-
FullText/Token/Character.lean

The classes of characters that tell tokens apart.  White space parts tokens; a
term is a run of letters, numbers, the underscore and some punctuation; quotes
and symbols stand for themselves.  The classes are apart from each other but
for one character: the single quote is a quote where a token may start, and a
character of a term inside a run.
-/
import FullText.Token.Basic
import FullText.Unicode.Alphanumeric

namespace FullText

open Unicode

/-! ### White space -/

/-- The white space between tokens. -/
def whitespace : List Char :=
  [' ', '\t', '\r', '\n', '\x0c', '\x0b', '\u0085', '\u00a0', '\u1680', '\u2000', '\u2001',
   '\u2002', '\u2003', '\u2004', '\u2005', '\u2006', '\u2007', '\u2008', '\u2009', '\u200a',
   '\u2028', '\u2029', '\u202f', '\u205f', '\u3000']

/-- Whether `c` is white space between tokens. -/
def isWhitespace (c : Char) : Bool := whitespace.contains c

/-! ### Terms -/

/-- The punctuation that a term may hold. -/
def termPunctuation : List Char :=
  ['!', '@', '#', '$', '%', '^', '*', '_', '\'', '.', '?']

/-- Whether `c` may stand in a term. -/
def isTermChar (c : Char) : Bool := isAlphanumeric c || termPunctuation.contains c

/-- White space never stands in a term. -/
theorem isTermChar_of_isWhitespace {c : Char} (h : isWhitespace c = true) :
    isTermChar c = false := by
  have := (List.all_eq_true.1 (by decide +kernel : whitespace.all (!isTermChar ·) = true)) c (by
    simpa [isWhitespace] using h)
  simpa using this

/-- A symbol never stands in a term. -/
theorem isTermChar_symbol (s : Symbol) : isTermChar s.char = false := by
  cases s <;> decide +kernel

/-- A symbol is not white space. -/
theorem isWhitespace_symbol (s : Symbol) : isWhitespace s.char = false := by
  cases s <;> decide

/-- A quote is not white space. -/
theorem isWhitespace_quote (q : Quote) : isWhitespace q.char = false := by
  cases q <;> decide

/-- The double quote never stands in a term. -/
theorem isTermChar_double : isTermChar Quote.double.char = false := by
  decide +kernel

/-- The single quote may stand in a term. -/
theorem isTermChar_single : isTermChar Quote.single.char = true := by
  decide +kernel

end FullText
