/-
FullText/Words/Basic.lean

The words of a search text, found without any grammar.  Punctuation is deleted
first, so letters on both sides of it come together; then the text is cut at
separators, and empty pieces and stop words are dropped.  Every text has words
in this sense, possibly none.
-/
import FullText.Condition.Term
import FullText.Unicode.Case

namespace FullText

open Unicode

/-! ### Characters -/

/-- The punctuation that is deleted. -/
def deletedPunctuation : List Char :=
  ['!', '@', '#', '$', '%', '^', '*', '_', '\'', '.', '?', '"', '(', ')', ';', '+', '-', '&', '|']

/-- The characters between words. -/
def wordSeparators : List Char := [' ', '\r', '\n', '\t']

/-! ### Cutting -/

/-- The pieces between the characters that satisfy `sep`, one more than there are
such characters. -/
def piecesBetween (sep : Char → Bool) : List Char → List (List Char)
  | [] => [[]]
  | c :: rest =>
    if sep c then [] :: piecesBetween sep rest
    else (piecesBetween sep rest).modifyHead (c :: ·)

/-- The words of a list of characters, stop words among them. -/
def wordChars (chars : List Char) : List (List Char) :=
  (piecesBetween (wordSeparators.contains ·)
    (chars.filter fun c => !deletedPunctuation.contains c)).filter fun word => !word.isEmpty

/-- The words of a text that are not among the stop words, case left aside. -/
def words (stopwords : List String) (text : String) : List String :=
  let dropped := stopwords.map lower
  ((wordChars text.toList).map String.ofList).filter fun word => !dropped.contains (lower word)

/-! ### The condition that requires every word -/

/-- The condition that requires every word of a text but the stop words. -/
def requireWords (mode : PhraseMode) (stopwords : List String) (text : String) : String :=
  String.intercalate " AND " ((words stopwords text).map (Condition.term mode false))

/-- The stop words where none are given. -/
def defaultStopwords : List String :=
  ["and", "or", "not", "a", "the", "he", "his", "him", "she", "hers", "her", "it", "its"]

end FullText
