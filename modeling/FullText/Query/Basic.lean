/-
FullText/Query/Basic.lean

Search queries as trees.  `or` and `and` join two queries, so a chain of
operands is nested to the left; all other nodes have one part or none.  A tree
that is handed in may also hold something that is no query in the place of a
node; such a thing is kept as it is, and refused when the tree is written out.
-/
import FullText.Token.Basic
import FullText.Value

namespace FullText

open Text

/-! ### Nodes -/

/-- Something that is no query, in the place of one. -/
inductive Foreign where
  | value (v : Value)
  | token (t : Token)

/-- A search query. -/
inductive Query where
  /-- Either side. -/
  | or (left right : Query)
  /-- Both sides. -/
  | and (left right : Query)
  /-- Not this. -/
  | exclude (inner : Query)
  /-- A query in parentheses. -/
  | group (inner : Query)
  /-- A word or one of its synonyms. -/
  | thesaurus (term : String)
  /-- A text exactly as it stands. -/
  | exact (text : String)
  /-- A phrase in quotes. -/
  | phrase (text : String)
  /-- A bare word. -/
  | leaf (text : String)
  /-- Words close to each other. -/
  | proximity (terms : List String)
  /-- Nothing at all. -/
  | empty
  /-- Something that is no query. -/
  | foreign (thing : Foreign)

/-! ### The shown form -/

/-- A thing that is no query as messages show it. -/
def Foreign.display : Foreign → String
  | value v => v.display
  | token t => t.display

namespace Query

/-- What stands where no tree is given. -/
def absent : Query := foreign (.value .null)

/-- The items of a sequence, where a single one is marked by a comma. -/
def displayTerms (terms : List String) : String :=
  match terms.map quoted with
  | [term] => "(" ++ term ++ ",)"
  | shown => "(" ++ String.intercalate ", " shown ++ ")"

/-- A query as messages show it. -/
def display : Query → String
  | or left right => "Or(left=" ++ left.display ++ ", right=" ++ right.display ++ ")"
  | and left right => "And(left=" ++ left.display ++ ", right=" ++ right.display ++ ")"
  | exclude inner => "Exclude(inner=" ++ inner.display ++ ")"
  | group inner => "Group(inner=" ++ inner.display ++ ")"
  | thesaurus term => "Thesaurus(term=" ++ quoted term ++ ")"
  | exact text => "Exact(text=" ++ quoted text ++ ")"
  | phrase text => "Phrase(text=" ++ quoted text ++ ")"
  | leaf text => "Leaf(text=" ++ quoted text ++ ")"
  | proximity terms => "Proximity(terms=" ++ displayTerms terms ++ ")"
  | empty => "Empty()"
  | foreign thing => thing.display

end Query

end FullText
