/-
FullText/Query/Printer.lean

Queries written as search texts, and the queries that can be.  `Query.spell`
joins operands by a space and sides by the word `or`, and puts a text into
double quotes unless it holds one.  `Spellable room level q` says that `q` has
the shape that texts give rise to at a level of the grammar: its words are terms,
its texts leave one of the quotes free, a dash excludes only behind a first
operand, and at most `room` groups lie inside each other.
-/
import FullText.Query.Grammar

namespace FullText

open Unicode

/-! ### Writing -/

/-- The quote that a phrase is written in. -/
def Quote.around (text : String) : Quote :=
  if '"' ∈ text.toList then .single else .double

/-- A text between quotes, kept as it stands. -/
def spellPhrase (text : String) : String :=
  let quote := String.singleton (Quote.around text).char
  quote ++ text ++ quote

/-- A query as a search text. -/
def Query.spell : Query → String
  | or left right => left.spell ++ " or " ++ right.spell
  | and left right => left.spell ++ " " ++ right.spell
  | exclude inner => "-" ++ inner.spell
  | group inner => "(" ++ inner.spell ++ ")"
  | thesaurus term => "~" ++ term
  | exact text => "+" ++ spellPhrase text
  | phrase text => spellPhrase text
  | leaf text => text
  | proximity terms => "<" ++ String.intercalate " " terms ++ ">"
  | empty => ""
  | foreign _ => ""

/-! ### What can be written -/

/-- A word that is a term where it stands alone: characters of terms, the first no
quote, and no operator word. -/
def IsWord (text : String) : Prop :=
  (∃ c rest, text.toList = c :: rest ∧ c ≠ Quote.single.char) ∧
    (∀ c ∈ text.toList, isTermChar c = true) ∧ Kind.ofRun text = .term

/-- A text that can be put between quotes: it leaves one of them free. -/
def IsQuotable (text : String) : Prop :=
  ∃ quote : Quote, quote.char ∉ text.toList

/-- `Spellable room level q`: some text spells `q` at `level`, with at most `room`
groups inside each other. -/
inductive Spellable : Nat → Level → Query → Prop
  | leaf {room : Nat} {text : String} (h : IsWord text) : Spellable room .primary (.leaf text)
  | phrase {room : Nat} {text : String} (h : IsQuotable text) :
    Spellable room .primary (.phrase text)
  | thesaurus {room : Nat} {term : String} (h : IsWord term) :
    Spellable room .primary (.thesaurus term)
  | exact {room : Nat} {text : String} (h : IsQuotable text) :
    Spellable room .primary (.exact text)
  | group {room : Nat} {q : Query} (h : Spellable room .disjunction q) :
    Spellable (room + 1) .primary (.group q)
  | proximity {room : Nat} {terms : List String} (hne : terms ≠ [])
      (h : ∀ term ∈ terms, IsWord term) :
    Spellable room .primary (.proximity terms)
  | included {room : Nat} {q : Query} (h : Spellable room .primary q) :
    Spellable room .operand q
  | excluded {room : Nat} {q : Query} (h : Spellable room .primary q) :
    Spellable room .operand (.exclude q)
  | firstOperand {room : Nat} {q : Query} (h : Spellable room .primary q) :
    Spellable room .conjunction q
  | nextOperand {room : Nat} {q r : Query} (hq : Spellable room .conjunction q)
      (hr : Spellable room .operand r) :
    Spellable room .conjunction (.and q r)
  | firstSide {room : Nat} {q : Query} (h : Spellable room .conjunction q) :
    Spellable room .disjunction q
  | nextSide {room : Nat} {q r : Query} (hq : Spellable room .disjunction q)
      (hr : Spellable room .conjunction r) :
    Spellable room .disjunction (.or q r)

end FullText
