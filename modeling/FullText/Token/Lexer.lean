/-
FullText/Token/Lexer.lean

From a search text to its tokens, one character at a time.  A scan knows the
column it has reached, the tokens it has completed, and its place: between
tokens, inside a term, inside a phrase, or behind a character that starts no
token.  `Scan.step` takes one character, `Scan.finish` asks at the end of the
text whether the scan may stop there, and `tokenize` folds the one over the
text and ends with the other, so the scan of a text is the scan of its first
part carried on over its second (`Scan.steps_append`).

The tokens: a quote between tokens opens a phrase that goes on to the next quote
of the same sort, whatever stands in between; a term goes on as long as its
characters may stand in a term, and is an operator word if its lower case is;
a symbol stands alone.

A character that starts no token ends the scan.  The report of it skips white
space in the widest sense first, which is wider than the white space between
tokens; so the column it names may lie further on, or at the end of the text.

The tokens are those of a grammar of parser combinators, repeated over the text:
a phrase in double quotes, one in single quotes, a lone quote, a run of term
characters, or a symbol.  The scan has the meaning of the combinators worked in,
and takes this of them as given:

  * white space is skipped in front of each element, and never inside one;
  * the first alternative that matches is taken, in the order above, so a lone
    quote is one that closes no phrase, and is found before any run;
  * a run, and the repetition of tokens, is as long as it can be;
  * the fault of a lone quote is fatal: neither the alternatives behind it nor
    the end of the repetition is tried in its place;
  * where the repetition ends, white space is skipped once more, and text that
    is left is a fault at the place where it starts.
-/
import FullText.Report
import FullText.Token.Character
import FullText.Unicode.Blank
import FullText.Unicode.Case

namespace FullText

open Text Unicode

/-! ### What can go wrong -/

/-- Why a text has no tokens. -/
inductive LexicalFault where
  /-- The phrase opened at `column` has no closing quote. -/
  | unterminatedPhrase (column : Nat)
  /-- No token starts with the character at `column`; none is found if only
  white space is left. -/
  | unexpectedCharacter (found : Option Char) (column : Nat)
deriving DecidableEq

namespace LexicalFault

/-- The column that a fault is reported at. -/
def column : LexicalFault → Nat
  | unterminatedPhrase column => column
  | unexpectedCharacter _ column => column

/-- What is wrong, in words; a character is shown in quotes. -/
def problem : LexicalFault → String
  | unterminatedPhrase _ => "Unterminated phrase"
  | unexpectedCharacter found _ =>
    "Unexpected character " ++ quoted (String.ofList found.toList)

/-- The report of a fault. -/
def report (fault : LexicalFault) : Report := ⟨fault.problem, some fault.column⟩

end LexicalFault

/-! ### The tokens that a scan completes -/

/-- What a run of term characters is: an operator word in any case, or a term. -/
def Kind.ofRun (text : String) : Kind :=
  if lower text = "or" then .or else if lower text = "and" then .and else .term

namespace Token

/-- The token of a run of term characters. -/
def ofRun (chars : List Char) (column : Nat) : Token :=
  let text := String.ofList chars
  ⟨.ofRun text, text, column⟩

/-- The token of a phrase with the given content. -/
def ofPhrase (quote : Quote) (content : List Char) (column : Nat) : Token :=
  ⟨.phrase quote, String.ofList content, column⟩

/-- The token of a symbol. -/
def ofSymbol (s : Symbol) (column : Nat) : Token :=
  ⟨.symbol s, String.singleton s.char, column⟩

end Token

/-! ### Scanning -/

/-- Where a scan is, with the characters of an unfinished token, last first, and
the column where that token starts. -/
inductive Place where
  /-- Between tokens. -/
  | gap
  /-- Inside a run of term characters. -/
  | run (start : Nat) (chars : List Char)
  /-- Inside a phrase. -/
  | phrase (quote : Quote) (start : Nat) (content : List Char)
  /-- Behind a character that starts no token, and white space. -/
  | stray
deriving DecidableEq

/-- The state of a scan: the characters read so far, the tokens completed so
far, last first, and the place. -/
structure Scan where
  column : Nat
  tokens : List Token
  place : Place
deriving DecidableEq

namespace Scan

/-- The scan before the first character. -/
def start : Scan := ⟨0, [], .gap⟩

/-- One character behind a character that starts no token. -/
def stepStray (s : Scan) (c : Char) : Except LexicalFault Scan :=
  if isBlank c then .ok { s with column := s.column + 1, place := .stray }
  else .error (.unexpectedCharacter (some c) s.column)

/-- One character between tokens. -/
def stepGap (s : Scan) (c : Char) : Except LexicalFault Scan :=
  if isWhitespace c then .ok { s with column := s.column + 1, place := .gap }
  else match Quote.ofChar? c with
    | some q => .ok { s with column := s.column + 1, place := .phrase q s.column [] }
    | none =>
      if isTermChar c then .ok { s with column := s.column + 1, place := .run s.column [c] }
      else match Symbol.ofChar? c with
        | some sym => .ok ⟨s.column + 1, .ofSymbol sym s.column :: s.tokens, .gap⟩
        | none => s.stepStray c

/-- One character. -/
def step (s : Scan) (c : Char) : Except LexicalFault Scan :=
  match s.place with
  | .gap => s.stepGap c
  | .run start chars =>
    if isTermChar c then .ok { s with column := s.column + 1, place := .run start (c :: chars) }
    else stepGap { s with tokens := .ofRun chars.reverse start :: s.tokens } c
  | .phrase q start content =>
    if c = q.char then
      .ok ⟨s.column + 1, .ofPhrase q content.reverse start :: s.tokens, .gap⟩
    else .ok { s with column := s.column + 1, place := .phrase q start (c :: content) }
  | .stray => s.stepStray c

/-- The tokens of a text that ends here. -/
def finish (s : Scan) : Except LexicalFault (List Token) :=
  match s.place with
  | .gap => .ok s.tokens.reverse
  | .run start chars => .ok (Token.ofRun chars.reverse start :: s.tokens).reverse
  | .phrase _ start _ => .error (.unterminatedPhrase start)
  | .stray => .error (.unexpectedCharacter none s.column)

/-- The scan of some more characters. -/
def steps (s : Scan) (chars : List Char) : Except LexicalFault Scan := chars.foldlM step s

/-- A scan of two parts is a scan of the first, carried on over the second. -/
theorem steps_append (s : Scan) (a b : List Char) :
    s.steps (a ++ b) = s.steps a >>= fun s => s.steps b :=
  List.foldlM_append

end Scan

/-- The tokens of a list of characters. -/
def tokensOf (chars : List Char) : Except LexicalFault (List Token) :=
  Scan.start.steps chars >>= Scan.finish

/-- The tokens of a search text. -/
def tokenize (text : String) : Except LexicalFault (List Token) := tokensOf text.toList

end FullText
