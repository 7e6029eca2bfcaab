/-
FullText/Condition/Writer.lean

From a query to its search condition, written from left to right.  A list of
pieces waits to be written: ready text, and queries to be written in a term
mode.  A query is replaced by the pieces it consists of, so the work waits on
that list alone, however deep the query is nested; the weight of the list falls
with every step (`totalWeight_pieces_lt`).

The term mode says what a bare word stands for.  It is passed on to the sides of
a disjunction and into a group; the operands of a conjunction, and what is
excluded, are written in the inflectional mode again.

The first thing met that is no query ends the writing.
-/
import FullText.Condition.Term
import FullText.Error

namespace FullText

namespace Condition

/-! ### Pieces -/

/-- What a bare word stands for: its condition, or itself. -/
inductive TermMode where
  | inflectional
  | exact
deriving DecidableEq

namespace TermMode

/-- The name of a term mode. -/
def name : TermMode → String
  | inflectional => "inflectional"
  | exact => "exact"

/-- All term modes. -/
def all : List TermMode := [inflectional, exact]

/-- The term mode with the given name. -/
def ofName? (name : String) : Option TermMode := all.find? fun mode => mode.name == name

end TermMode

/-- The condition for a bare word in a term mode. -/
def leaf (phraseMode : PhraseMode) (mode : TermMode) (text : String) : String :=
  match mode with
  | .exact => text
  | .inflectional => term phraseMode true text

/-- Something that waits to be written. -/
inductive Piece where
  | text (s : String)
  | query (q : Query) (mode : TermMode)
  /-- Something that cannot be written. -/
  | foreign (thing : Foreign)

/-- The pieces that a query consists of. -/
def pieces (phraseMode : PhraseMode) (mode : TermMode) : Query → List Piece
  | .or left right =>
    [.text "(", .query left mode, .text " OR ", .query right mode, .text ")"]
  | .and left right =>
    [.query left .inflectional, .text " AND ", .query right .inflectional]
  | .exclude inner => [.text "NOT(", .query inner .inflectional, .text ")"]
  | .group inner => [.text "(", .query inner mode, .text ")"]
  | .thesaurus text => [.text (thesaurus text)]
  | .exact text => [.text (literal text)]
  | .phrase text => [.text (literal text)]
  | .leaf text => [.text (leaf phraseMode mode text)]
  | .proximity terms => [.text (proximity terms)]
  | .empty => []
  | .foreign thing => [.foreign thing]

/-! ### Writing ends -/

/-- The steps that a query takes to be written. -/
def queryWeight : Query → Nat
  | .or left right => queryWeight left + queryWeight right + 4
  | .and left right => queryWeight left + queryWeight right + 2
  | .exclude inner => queryWeight inner + 3
  | .group inner => queryWeight inner + 3
  | _ => 2

/-- The steps that a piece takes to be written. -/
def Piece.weight : Piece → Nat
  | text _ => 1
  | query q _ => queryWeight q
  | foreign _ => 1

/-- The steps that waiting pieces take to be written. -/
def totalWeight : List Piece → Nat
  | [] => 0
  | p :: waiting => p.weight + totalWeight waiting

theorem totalWeight_append (a b : List Piece) :
    totalWeight (a ++ b) = totalWeight a + totalWeight b := by
  induction a with
  | nil => exact (Nat.zero_add _).symm
  | cons p a ih => rw [List.cons_append, totalWeight, totalWeight, ih, Nat.add_assoc]

/-- The pieces of a query weigh less than the query. -/
theorem totalWeight_pieces_lt (phraseMode : PhraseMode) (mode : TermMode) (q : Query) :
    totalWeight (pieces phraseMode mode q) < queryWeight q := by
  cases q <;> simp [totalWeight, pieces, Piece.weight, queryWeight] <;> omega

/-! ### Writing -/

/-- Write the waiting pieces behind `written`. -/
def write (phraseMode : PhraseMode) (written : String) : List Piece → Except Foreign String
  | [] => .ok written
  | .text s :: waiting => write phraseMode (written ++ s) waiting
  | .query q mode :: waiting => write phraseMode written (pieces phraseMode mode q ++ waiting)
  | .foreign thing :: _ => .error thing
termination_by waiting => totalWeight waiting
decreasing_by
  · exact Nat.lt_add_of_pos_left Nat.one_pos
  · rw [totalWeight_append]
    exact Nat.add_lt_add_right (totalWeight_pieces_lt phraseMode mode q) _

end Condition

/-! ### Conditions of queries -/

namespace Query

/-- The search condition of a query, its bare words written in the given term
mode. -/
def condition (phraseMode : PhraseMode) (mode : Condition.TermMode) (q : Query) :
    Except Error String :=
  match Condition.write phraseMode "" [.query q mode] with
  | .error thing => .error (.unexpectedNode thing)
  | .ok text => .ok text

/-- The search condition of a query, which must not be missing. -/
def compile (phraseMode : PhraseMode) (q : Query) : Except Error String :=
  match q with
  | .foreign (.value .null) => .error .treeRequired
  | q => q.condition phraseMode .inflectional

end Query

end FullText
