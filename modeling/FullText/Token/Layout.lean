/-
FullText/Token/Layout.lean

Layouts: texts as tokens with white space between them.  `Spelling s t` says that
the characters `s` are a way to write the token `t`, its column left aside, and
`Layout column chars ts` that `chars` is a text of the tokens `ts`, whose columns
count from `column`.  White space may stand anywhere and is needed in one case
only: behind a term or an operator word, where a quote or a character of a term
would go on with it.
-/
import FullText.Token.Lexer

namespace FullText

/-- A run of term characters that starts a token: one character or more, the first
no quote. -/
def IsRun (s : List Char) : Prop :=
  (∃ c rest, s = c :: rest ∧ c ≠ Quote.single.char) ∧ ∀ c ∈ s, isTermChar c = true

/-- `Spelling s t`: the characters `s` write the token `t`. -/
inductive Spelling : List Char → Token → Prop
  | run {s : List Char} {column : Nat} (h : IsRun s) : Spelling s (.ofRun s column)
  | phrase {quote : Quote} {content : List Char} {column : Nat} (h : quote.char ∉ content) :
    Spelling (quote.char :: content ++ [quote.char]) (.ofPhrase quote content column)
  | symbol {s : Symbol} {column : Nat} : Spelling [s.char] (.ofSymbol s column)

/-- A token that is a run of term characters. -/
def Kind.IsRun (k : Kind) : Prop := k = .term ∨ k = .or ∨ k = .and

/-- Whether a token of kind `l` has to be parted from a token of kind `k` in front
of it. -/
def Kind.Clash (k l : Kind) : Prop := k.IsRun ∧ (l.IsRun ∨ l = .phrase .single)

/-- White space, as much as there is. -/
def IsGap (s : List Char) : Prop := ∀ c ∈ s, isWhitespace c = true

/-- `Layout column chars ts`: the characters are the tokens `ts` with white space
in front of each of them and at the end, and the columns of the tokens are where
they start, counted from `column`. -/
inductive Layout : Nat → List Char → List Token → Prop
  | finish {column : Nat} {gap : List Char} (h : IsGap gap) : Layout column gap []
  | token {column : Nat} {gap s rest : List Char} {t : Token} {ts : List Token}
      (hgap : IsGap gap) (hs : Spelling s t) (hcolumn : t.column = column + gap.length)
      (hparted : ∀ u ∈ ts.head?, t.kind.Clash u.kind → ∃ c ∈ rest.head?, isWhitespace c = true)
      (hrest : Layout (t.column + s.length) rest ts) :
    Layout column (gap ++ s ++ rest) (t :: ts)

end FullText
