/-
FullText/Query/Reader.lean

Readers of tokens.  A reader takes a value off the front of a list of tokens
and leaves the rest, or says what is wrong and at which token it gave up.  It
leaves fewer tokens than it was given, a fact that is part of the reader, so
readers can be repeated: `Reader.chain` reads operands for as long as the next
tokens go on with the chain, and there are no more operands than tokens.
-/
import FullText.Limit
import FullText.Query.Basic
import FullText.Report

namespace FullText

/-! ### Misfits -/

/-- What is wrong with a list of tokens. -/
inductive Fault where
  | noTermAfterTilde
  | noOperandAfterPlus
  | noOperand
  | unclosedGroup
  | emptyProximity
  | unclosedProximity
  | trailingInput
  | unexpectedEnd
  | tooDeep (limit : Limit)
deriving DecidableEq

/-- What is wrong, in words. -/
def Fault.problem : Fault → String
  | noTermAfterTilde => "Expected a term after '~'"
  | noOperandAfterPlus => "Expected a term or phrase after '+'"
  | noOperand => "Expected a term, phrase or group"
  | unclosedGroup => "Expected ')'"
  | emptyProximity => "Expected at least one term after '<'"
  | unclosedProximity => "Expected '>'"
  | trailingInput => "Unexpected trailing input"
  | unexpectedEnd => "Unexpected end of search expression"
  | tooDeep limit => "Groups nested deeper than " ++ limit.display ++ " levels"

/-- A fault, and the tokens from the one that does not fit. -/
structure Misfit where
  fault : Fault
  rest : List Token
deriving DecidableEq

/-- The report of a misfit in a text of the given length: at the token that does
not fit, or at the end of the text. -/
def Misfit.report (m : Misfit) (length : Nat) : Report :=
  match m.rest with
  | [] => ⟨m.fault.problem, some length⟩
  | t :: _ => ⟨m.fault.problem ++ ", found " ++ Text.quoted t.text, some t.column⟩

/-! ### Readers -/

/-- What is read off the front of a list of tokens, and the tokens left. -/
abbrev Reading (α : Type) := Except Misfit (α × List Token)

namespace Reading

variable {α β : Type}

/-- What goes on behind a reading, with what is read and the tokens left. -/
def andThen (r : Reading α) (next : α → List Token → Reading β) : Reading β :=
  match r with
  | .error e => .error e
  | .ok (a, rest) => next a rest

@[simp] theorem andThen_error (e : Misfit) (next : α → List Token → Reading β) :
    Reading.andThen (.error e) next = .error e := rfl

@[simp] theorem andThen_ok (a : α) (rest : List Token) (next : α → List Token → Reading β) :
    Reading.andThen (.ok (a, rest)) next = next a rest := rfl

/-- What goes on behind a reading succeeds where both do. -/
theorem of_andThen_eq_ok {r : Reading α} {next : α → List Token → Reading β} {b : β}
    {rest : List Token} (h : r.andThen next = .ok (b, rest)) :
    ∃ a behind, r = .ok (a, behind) ∧ next a behind = .ok (b, rest) := by
  cases r with
  | error e => cases h
  | ok result => exact ⟨result.1, result.2, rfl, h⟩

end Reading

/-- A reader of values, which takes at least one token. -/
structure Reader (α : Type) where
  read : List Token → Reading α
  shorter : ∀ {ts a rest}, read ts = .ok (a, rest) → rest.length < ts.length

namespace Reader

/-- What tells whether a chain goes on: the tokens that its next operand is read
from, if it does. -/
structure Link where
  next? : List Token → Option (List Token)
  le : ∀ {ts rest}, next? ts = some rest → rest.length ≤ ts.length

/-- The rest of a chain behind the operands joined to `left`, `n` operands of it at
most. -/
def chainUpTo (join : Query → Query → Query) (link : Link) (operand : Reader Query) :
    Nat → Query → List Token → Reading Query
  | 0, left, ts => .ok (left, ts)
  | n + 1, left, ts =>
    match link.next? ts with
    | none => .ok (left, ts)
    | some next =>
      match operand.read next with
      | .error e => .error e
      | .ok (right, rest) => chainUpTo join link operand n (join left right) rest

/-- The rest of a chain behind the operands joined to `left`.  Each operand takes a
token, so there are no more operands than tokens. -/
def chainFrom (join : Query → Query → Query) (link : Link) (operand : Reader Query)
    (left : Query) (ts : List Token) : Reading Query :=
  chainUpTo join link operand (ts.length + 1) left ts

section

variable {join : Query → Query → Query} {link : Link} {operand : Reader Query}

/-- More operands than tokens are as good as any number of them. -/
theorem chainUpTo_eq_of_lt {m n : Nat} {left : Query} {ts : List Token} (hm : ts.length < m)
    (hn : ts.length < n) :
    chainUpTo join link operand m left ts = chainUpTo join link operand n left ts := by
  induction m generalizing n left ts with
  | zero => omega
  | succ m ih =>
    obtain ⟨n, rfl⟩ : ∃ k, n = k + 1 := ⟨n - 1, by omega⟩
    unfold chainUpTo
    split
    · rfl
    · next hnext =>
      split
      · rfl
      · next hread =>
        have := link.le hnext
        have := operand.shorter hread
        exact ih (by omega) (by omega)

/-- **The rest of a chain is no more operands, or one and the rest behind it.** -/
theorem chainFrom_eq (left : Query) (ts : List Token) :
    chainFrom join link operand left ts =
      match link.next? ts with
      | none => .ok (left, ts)
      | some next =>
        match operand.read next with
        | .error e => .error e
        | .ok (right, rest) => chainFrom join link operand (join left right) rest := by
  rw [chainFrom, chainUpTo]
  split
  · rfl
  · next hnext =>
    split
    · rfl
    · next hread =>
      have := link.le hnext
      have := operand.shorter hread
      exact chainUpTo_eq_of_lt (by omega) (by omega)

/-- A chain that cannot go on is read. -/
theorem chainFrom_of_next?_eq_none {left : Query} {ts : List Token} (h : link.next? ts = none) :
    chainFrom join link operand left ts = .ok (left, ts) := by
  rw [chainFrom_eq, h]

/-- A chain that goes on does so behind its next operand. -/
theorem chainFrom_of_next? {left : Query} {ts next : List Token} (h : link.next? ts = some next) :
    chainFrom join link operand left ts = (operand.read next).andThen fun right =>
      chainFrom join link operand (join left right) := by
  simp only [chainFrom_eq left ts, h]
  rcases operand.read next with m | ⟨right, rest⟩ <;> rfl

/-- The rest of a chain leaves no more tokens than it was given. -/
theorem le_of_chainUpTo {n : Nat} {left q : Query} {ts rest : List Token}
    (h : chainUpTo join link operand n left ts = .ok (q, rest)) : rest.length ≤ ts.length := by
  induction n generalizing left ts with
  | zero =>
    simp only [chainUpTo, Except.ok.injEq, Prod.mk.injEq] at h
    exact h.2 ▸ Nat.le_refl ts.length
  | succ n ih =>
    unfold chainUpTo at h
    split at h
    · simp only [Except.ok.injEq, Prod.mk.injEq] at h
      exact h.2 ▸ Nat.le_refl ts.length
    · next hnext =>
      split at h
      · simp at h
      · next hread =>
        have := ih h
        have := link.le hnext
        have := operand.shorter hread
        omega

end

/-- A chain of operands joined to the left: one read by `first`, then one read by
`operand` for as long as the chain goes on. -/
def chain (join : Query → Query → Query) (link : Link) (first operand : Reader Query) :
    Reader Query where
  read ts :=
    match first.read ts with
    | .error e => .error e
    | .ok (left, rest) => chainFrom join link operand left rest
  shorter {ts q rest} h := by
    split at h
    · simp at h
    · next left rest' hr => exact Nat.lt_of_le_of_lt (le_of_chainUpTo h) (first.shorter hr)

theorem read_chain (join : Query → Query → Query) (link : Link) (first operand : Reader Query)
    (ts : List Token) : (chain join link first operand).read ts =
      (first.read ts).andThen (chainFrom join link operand) := by
  simp only [chain]
  rcases first.read ts with m | ⟨left, rest⟩ <;> rfl

end Reader

end FullText
