/-
FullText/Condition/Table.lean

The search condition of a query, read off a table: one line for each node, in
terms of the conditions of its parts.  The left part of a node comes first, so
the leftmost thing that is no query is the one reported.
-/
import FullText.Condition.Writer

namespace FullText.Query

open Condition

/-- The condition of a query whose bare words stand in the given term mode, or the
leftmost thing in it that is no query. -/
def table (phraseMode : PhraseMode) (mode : TermMode) : Query → Except Foreign String
  | or left right => do
    let l ← left.table phraseMode mode
    let r ← right.table phraseMode mode
    return "(" ++ l ++ " OR " ++ r ++ ")"
  | and left right => do
    let l ← left.table phraseMode .inflectional
    let r ← right.table phraseMode .inflectional
    return l ++ " AND " ++ r
  | exclude inner => do
    let i ← inner.table phraseMode .inflectional
    return "NOT(" ++ i ++ ")"
  | group inner => do
    let i ← inner.table phraseMode mode
    return "(" ++ i ++ ")"
  | thesaurus text => return Condition.thesaurus text
  | exact text => return literal text
  | phrase text => return literal text
  | leaf text => return Condition.leaf phraseMode mode text
  | proximity terms => return Condition.proximity terms
  | empty => return ""
  | foreign thing => throw thing

end FullText.Query
