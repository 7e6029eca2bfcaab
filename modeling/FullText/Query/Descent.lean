/-
FullText/Query/Descent.lean

The parser as functions that call each other and move one cursor over the tokens.

A reader takes tokens off a list and is told how many groups it may open.  Here the list
stays as it is; the cursor moves over it, and counts the groups that are open.  There is
a function for each level of the grammar, one for groups and one for lists of close
words.  Their bodies are steps of a machine that has a cursor for its state and may fail
at the next token (`Descent`).

A body calls other functions, and a turn of a loop calls for the next turn.  What it calls
is a parameter of `turn`, so `descend` can count the calls that are open inside each other:
with too few of them it gives nothing.
-/
import FullText.Query.Parser

namespace FullText

/-! ### Cursors -/

/-- A place in a list of tokens, and how deep in groups it is. -/
structure Cursor where
  tokens : List Token
  pos : Nat
  depth : Int
deriving DecidableEq

namespace Cursor

/-- The next token. -/
def peek (c : Cursor) : Option Token := c.tokens[c.pos]?

/-- The tokens that are not taken. -/
def rest (c : Cursor) : List Token := c.tokens.drop c.pos

/-- The cursor behind the next token. -/
def advance (c : Cursor) : Cursor := { c with pos := c.pos + 1 }

/-- The cursor one group further in. -/
def enter (c : Cursor) : Cursor := { c with depth := c.depth + 1 }

/-- The cursor one group further out. -/
def leave (c : Cursor) : Cursor := { c with depth := c.depth - 1 }

end Cursor

/-! ### Steps -/

/-- Steps that move a cursor, fail, or do not come to an end with the calls they have. -/
abbrev Descent := StateT Cursor (ExceptT Misfit Option)

namespace Descent

variable {α : Type}

/-- What comes of steps from a cursor on. -/
def outcome (x : Descent α) (c : Cursor) : Option (Except Misfit (α × Cursor)) := (x.run c).run

/-- The kind of the next token. -/
def peekKind : Descent (Option Kind) := return (← get).peek.map Token.kind

/-- Fail at the next token. -/
def fail (fault : Fault) : Descent α := do throw ⟨fault, (← get).rest⟩

/-- Take the next token. -/
def next : Descent Token := do
  match (← get).peek with
  | some t =>
    modify Cursor.advance
    return t
  | none => fail .unexpectedEnd

/-- Take the next token, which must be of a kind. -/
def expect (kind : Kind) (fault : Fault) : Descent Token := do
  if (← peekKind) = some kind then next else fail fault

/-! ### Functions -/

/-- The functions of the descent. -/
inductive Part where
  | disjunction
  | conjunction
  | operand
  | primary
  | group
  | proximity
deriving DecidableEq

/-- What is called: a function, or the next turn of a loop with what it has read. -/
inductive Call where
  | part (p : Part)
  /-- The sides of a disjunction, behind those joined to `left`. -/
  | sides (left : Query)
  /-- The operands of a conjunction, behind those joined to `left`. -/
  | operands (left : Query)
  /-- Close words, behind those found. -/
  | terms (found : List String)

/-- The body of what is called, where `call` is what it calls. -/
def turn (limit : Limit) (call : Call → Descent Query) : Call → Descent Query
  | .part .disjunction => do
    let left ← call (.part .conjunction)
    call (.sides left)
  | .sides left => do
    if (← peekKind).any Kind.isOr then
      let _ ← next
      let right ← call (.part .conjunction)
      call (.sides (.or left right))
    else
      return left
  | .part .conjunction => do
    let left ← call (.part .primary)
    call (.operands left)
  | .operands left => do
    let kind ← peekKind
    if kind.any Kind.isAnd then
      let _ ← next
      let right ← call (.part .operand)
      call (.operands (.and left right))
    else if kind.any Kind.startsOperand then
      let right ← call (.part .operand)
      call (.operands (.and left right))
    else
      return left
  | .part .operand => do
    if (← peekKind) = some (.symbol .minus) then
      let _ ← next
      let inner ← call (.part .primary)
      return .exclude inner
    else
      call (.part .primary)
  | .part .primary => do
    match ← peekKind with
    | some .term => return .leaf (← next).text
    | some (.phrase _) => return .phrase (← next).text
    | some (.symbol .tilde) =>
      let _ ← next
      return .thesaurus (← expect .term .noTermAfterTilde).text
    | some (.symbol .plus) =>
      let _ ← next
      match ← peekKind with
      | some .term | some (.phrase _) => return .exact (← next).text
      | _ => fail .noOperandAfterPlus
    | some (.symbol .openParen) => call (.part .group)
    | some (.symbol .less) => call (.part .proximity)
    | _ => fail .noOperand
  | .part .group => do
    if limit.value ≤ (← get).depth then
      fail (.tooDeep limit)
    else
      let _ ← next
      modify Cursor.enter
      let inner ← call (.part .disjunction)
      let _ ← expect (.symbol .closeParen) .unclosedGroup
      modify Cursor.leave
      return .group inner
  | .part .proximity => do
    let _ ← next
    call (.terms [])
  | .terms found => do
    if (← peekKind) = some .term then
      let t ← next
      call (.terms (found ++ [t.text]))
    else if found = [] then
      fail .emptyProximity
    else
      let _ ← expect (.symbol .greater) .unclosedProximity
      return .proximity found

/-- What is called, with at most so many calls open inside each other. -/
def descend (limit : Limit) : Nat → Call → Descent Query
  | 0, _ => fun _ => (none : Option _)
  | n + 1, call => turn limit (descend limit n) call

/-- All of a list of tokens, read by a disjunction. -/
def whole (limit : Limit) (n : Nat) : Descent Query := do
  let q ← descend limit n (.part .disjunction)
  if (← peekKind).isSome then fail .trailingInput else return q

end Descent

end FullText
