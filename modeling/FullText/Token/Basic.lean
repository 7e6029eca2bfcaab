/-
FullText/Token/Basic.lean

The tokens of a search text: terms, phrases in either quote, the operator words
`or` and `and`, and nine symbols.  A token keeps the text it was written with
(a phrase without its quotes) and the column of its first character, counted
in characters from the start of the search text.
-/
import FullText.Text.Quoted

namespace FullText

open Text

/-! ### Quotes and symbols -/

/-- The two quotes that enclose a phrase. -/
inductive Quote where
  | single
  | double
deriving DecidableEq

namespace Quote

/-- The character that a quote is. -/
def char : Quote → Char
  | single => '\''
  | double => '"'

/-- The quote that `c` is. -/
def ofChar? (c : Char) : Option Quote :=
  if c = '\'' then some single else if c = '"' then some double else none

theorem ofChar?_eq_some_iff {c : Char} {q : Quote} : ofChar? c = some q ↔ c = q.char := by
  cases q <;> simp only [ofChar?, char] <;> split <;> simp_all

end Quote

/-- The symbols that operate on operands or enclose them. -/
inductive Symbol where
  | bar
  | ampersand
  | minus
  | tilde
  | plus
  | openParen
  | closeParen
  | less
  | greater
deriving DecidableEq

namespace Symbol

/-- The character that a symbol is. -/
def char : Symbol → Char
  | bar => '|'
  | ampersand => '&'
  | minus => '-'
  | tilde => '~'
  | plus => '+'
  | openParen => '('
  | closeParen => ')'
  | less => '<'
  | greater => '>'

/-- All symbols. -/
def all : List Symbol :=
  [bar, ampersand, minus, tilde, plus, openParen, closeParen, less, greater]

theorem mem_all (s : Symbol) : s ∈ all := by
  cases s <;> decide

/-- The symbol that `c` is. -/
def ofChar? (c : Char) : Option Symbol :=
  all.find? fun s => s.char == c

theorem ofChar?_eq_some_iff {c : Char} {s : Symbol} : ofChar? c = some s ↔ c = s.char := by
  constructor
  · intro h
    have := List.find?_some h
    exact (beq_iff_eq.1 this).symm
  · rintro rfl
    cases s <;> decide

end Symbol

/-! ### Tokens -/

/-- What a token is. -/
inductive Kind where
  | term
  | phrase (quote : Quote)
  | or
  | and
  | symbol (s : Symbol)
deriving DecidableEq

namespace Kind

/-- The name of a kind: a word, or the symbol itself. -/
def name : Kind → String
  | term => "term"
  | phrase .single => "single_quoted"
  | phrase .double => "double_quoted"
  | or => "or"
  | and => "and"
  | symbol s => String.singleton s.char

/-- All kinds. -/
def all : List Kind :=
  [term, phrase .single, phrase .double, or, and] ++ Symbol.all.map symbol

theorem mem_all (k : Kind) : k ∈ all := by
  cases k with
  | phrase q => cases q <;> decide
  | symbol s => cases s <;> decide
  | _ => decide

/-- The kind with the given name. -/
def ofName? (name : String) : Option Kind :=
  all.find? fun k => k.name == name

end Kind

/-- A token of a search text. -/
structure Token where
  kind : Kind
  text : String
  column : Nat
deriving DecidableEq

/-- A token as messages show it. -/
def Token.display (t : Token) : String :=
  "Token(kind=" ++ quoted t.kind.name ++ ", text=" ++ quoted t.text ++
    ", column=" ++ toString t.column ++ ")"

end FullText
