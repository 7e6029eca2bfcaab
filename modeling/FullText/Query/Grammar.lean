/-
FullText/Query/Grammar.lean

The grammar of search queries as a relation between lists of tokens and the
queries that they spell, with no order of reading in it.  A derivation stands at
one of four levels, and under a number of groups that may be open inside each
other.  Chains nest to the left because a disjunction or a conjunction is
extended at its right end only.
-/
import FullText.Query.Parser

namespace FullText

/-- The levels of the grammar, loosest binding first. -/
inductive Level where
  | disjunction
  | conjunction
  | operand
  | primary
deriving DecidableEq

/-- What may stand between the operands of a conjunction: nothing, or one operator. -/
def AndOperator (ts : List Token) : Prop :=
  ts = [] ∨ ∃ t : Token, ts = [t] ∧ t.kind.isAnd = true

/-- What stands between the sides of a disjunction: one operator. -/
def OrOperator (ts : List Token) : Prop :=
  ∃ t : Token, ts = [t] ∧ t.kind.isOr = true

/-- A token that may be searched for exactly as it stands. -/
def Kind.IsText (k : Kind) : Prop :=
  k = .term ∨ ∃ quote, k = .phrase quote

theorem Kind.isText_iff {k : Kind} : k.isText = true ↔ k.IsText := by
  cases k <;> simp [isText, IsText]

/-- `Derives room level ts q`: the tokens `ts` spell the query `q` at `level`,
with at most `room` groups open at any token. -/
inductive Derives : Nat → Level → List Token → Query → Prop
  | leaf {room : Nat} {t : Token} (h : t.kind = .term) :
    Derives room .primary [t] (.leaf t.text)
  | phrase {room : Nat} {t : Token} {quote : Quote} (h : t.kind = .phrase quote) :
    Derives room .primary [t] (.phrase t.text)
  | thesaurus {room : Nat} {tilde t : Token} (htilde : tilde.kind = .symbol .tilde)
      (h : t.kind = .term) :
    Derives room .primary [tilde, t] (.thesaurus t.text)
  | exact {room : Nat} {plus t : Token} (hplus : plus.kind = .symbol .plus)
      (h : t.kind.IsText) :
    Derives room .primary [plus, t] (.exact t.text)
  | group {room : Nat} {left right : Token} {ts : List Token} {q : Query}
      (hleft : left.kind = .symbol .openParen) (hright : right.kind = .symbol .closeParen)
      (h : Derives room .disjunction ts q) :
    Derives (room + 1) .primary (left :: ts ++ [right]) (.group q)
  | proximity {room : Nat} {left right : Token} {ts : List Token}
      (hleft : left.kind = .symbol .less) (hright : right.kind = .symbol .greater)
      (hne : ts ≠ []) (h : ∀ t ∈ ts, t.kind = .term) :
    Derives room .primary (left :: ts ++ [right]) (.proximity (ts.map Token.text))
  | included {room : Nat} {ts : List Token} {q : Query} (h : Derives room .primary ts q) :
    Derives room .operand ts q
  | excluded {room : Nat} {minus : Token} {ts : List Token} {q : Query}
      (hminus : minus.kind = .symbol .minus) (h : Derives room .primary ts q) :
    Derives room .operand (minus :: ts) (.exclude q)
  | firstOperand {room : Nat} {ts : List Token} {q : Query}
      (h : Derives room .primary ts q) :
    Derives room .conjunction ts q
  | nextOperand {room : Nat} {ts op us : List Token} {q r : Query}
      (hq : Derives room .conjunction ts q) (hop : AndOperator op)
      (hr : Derives room .operand us r) :
    Derives room .conjunction (ts ++ op ++ us) (.and q r)
  | firstSide {room : Nat} {ts : List Token} {q : Query}
      (h : Derives room .conjunction ts q) :
    Derives room .disjunction ts q
  | nextSide {room : Nat} {ts op us : List Token} {q r : Query}
      (hq : Derives room .disjunction ts q) (hop : OrOperator op)
      (hr : Derives room .conjunction us r) :
    Derives room .disjunction (ts ++ op ++ us) (.or q r)

end FullText
