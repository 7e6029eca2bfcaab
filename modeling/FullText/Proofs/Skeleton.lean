/-
FullText/Proofs/Skeleton.lean

What a search condition tells of the query that it was written from.

The *skeleton* of a query is the query with each word and text replaced by the
atom that it is written as: a literal, or the inflected forms of a word.  The
condition of a query depends on its skeleton alone (`Derives.table_eq`), and the
skeletons of queries that texts spell have a shape: a dash is a right operand of a
conjunction, no disjunction is an operand of one, no group and no list of close
words is empty, and what stands in literals and words ends where it should.
-/
import FullText.Proofs.Printing
import FullText.Proofs.Writing

namespace FullText

/-! ### Skeletons -/

/-- A query whose words and texts are the atoms that they are written as. -/
inductive Skeleton where
  | or (left right : Skeleton)
  | and (left right : Skeleton)
  | exclude (inner : Skeleton)
  | group (inner : Skeleton)
  | thesaurus (term : String)
  | proximity (terms : List String)
  /-- A text in double quotes. -/
  | literal (text : String)
  /-- A word in all its inflected forms. -/
  | inflectional (word : String)
  | empty
  | foreign (thing : Foreign)

/-- The condition for a word in all its inflected forms. -/
def Condition.inflected (word : String) : String := "FORMSOF (INFLECTIONAL, " ++ word ++ ")"

/-- A skeleton as a search condition. -/
def Skeleton.text : Skeleton → String
  | or left right => "(" ++ left.text ++ " OR " ++ right.text ++ ")"
  | and left right => left.text ++ " AND " ++ right.text
  | exclude inner => "NOT(" ++ inner.text ++ ")"
  | group inner => "(" ++ inner.text ++ ")"
  | thesaurus term => Condition.thesaurus term
  | proximity terms => Condition.proximity terms
  | literal text => Condition.literal text
  | inflectional word => Condition.inflected word
  | empty => ""
  | foreign _ => ""

/-- The atom that a bare word is written as. -/
def Skeleton.ofWord (phraseMode : PhraseMode) (word : String) : Skeleton :=
  if Condition.isStarred word then literal word
  else match phraseMode with
    | .prefixed => literal (word ++ "*")
    | .inflectional => inflectional word

/-- The skeleton of a query. -/
def Query.skeleton (phraseMode : PhraseMode) : Query → Skeleton
  | or left right => .or (left.skeleton phraseMode) (right.skeleton phraseMode)
  | and left right => .and (left.skeleton phraseMode) (right.skeleton phraseMode)
  | exclude inner => .exclude (inner.skeleton phraseMode)
  | group inner => .group (inner.skeleton phraseMode)
  | thesaurus term => .thesaurus term
  | exact text => .literal text
  | phrase text => .literal text
  | leaf text => .ofWord phraseMode text
  | proximity terms => .proximity terms
  | empty => .empty
  | foreign thing => .foreign thing

/-! ### Conditions come from skeletons -/

variable {room : Nat} {level : Level} {ts : List Token} {q : Query} {phraseMode : PhraseMode}

theorem Skeleton.text_ofWord (phraseMode : PhraseMode) (word : String) :
    (Skeleton.ofWord phraseMode word).text = Condition.leaf phraseMode .inflectional word := by
  unfold Skeleton.ofWord Condition.leaf Condition.term
  rw [Bool.true_and]
  cases Condition.isStarred word with
  | true => rw [if_pos rfl, if_pos rfl, text]
  | false =>
    rw [if_neg Bool.false_ne_true, if_neg Bool.false_ne_true]
    cases phraseMode with
    | prefixed => rw [text]
    | inflectional =>
      rw [text]
      rfl

namespace Derives

/-- **The condition of a query that is derived is that of its skeleton**, and there
is one. -/
theorem table_eq (h : Derives room level ts q) (phraseMode : PhraseMode) :
    q.table phraseMode .inflectional = .ok (q.skeleton phraseMode).text := by
  -- the term mode stays inflectional, as no part of a query changes it to another
  induction h with
  | leaf _ =>
    rw [Query.skeleton, Skeleton.text_ofWord, Query.table]
    rfl
  | phrase _ | exact _ _ =>
    rw [Query.skeleton, Skeleton.text, Query.table]
    rfl
  | thesaurus _ _ =>
    rw [Query.skeleton, Skeleton.text, Query.table]
    rfl
  | proximity _ _ _ _ =>
    rw [Query.skeleton, Skeleton.text, Query.table]
    rfl
  | group _ _ _ ih | excluded _ _ ih =>
    rw [Query.skeleton, Skeleton.text, Query.table, ih]
    rfl
  | nextOperand _ _ _ ihq ihr | nextSide _ _ _ ihq ihr =>
    rw [Query.skeleton, Skeleton.text, Query.table, ihq, ihr]
    rfl
  | included _ ih | firstOperand _ ih | firstSide _ ih => exact ih

theorem ne_foreign (h : Derives room level ts q) (thing : Foreign) : q ≠ .foreign thing := by
  induction h <;> simp_all

/-- **What is derived has a search condition.** -/
theorem compile_eq (h : Derives room level ts q) (phraseMode : PhraseMode) :
    q.compile phraseMode = .ok (q.skeleton phraseMode).text :=
  Query.compile_of_table (h.table_eq phraseMode)

end Derives

/-! ### The shape of skeletons -/

/-- The characters that end a word of a condition. -/
def wordEnds : List Char := ['(', ')', '"', ' ']

/-- Whether `c` goes on with a word of a condition. -/
def isPlain (c : Char) : Bool := !wordEnds.contains c

theorem isPlain_eq_false_iff {c : Char} : isPlain c = false ↔ c ∈ wordEnds := by
  unfold isPlain
  rw [Bool.not_eq_false', List.contains_iff_mem]

/-- A word of a condition. -/
def IsPlain (word : String) : Prop := word ≠ "" ∧ ∀ c ∈ word.toList, isPlain c = true

namespace Skeleton

/-- `Shape level k`: `k` is a skeleton of what texts spell at `level`. -/
inductive Shape : Level → Skeleton → Prop
  | literal {text : String} (h : '"' ∉ text.toList) : Shape .primary (.literal text)
  | inflectional {word : String} (h : IsPlain word) : Shape .primary (.inflectional word)
  | thesaurus {term : String} (h : IsPlain term) : Shape .primary (.thesaurus term)
  | group {k : Skeleton} (h : Shape .disjunction k) : Shape .primary (.group k)
  | proximity {terms : List String} (hne : terms ≠ []) (h : ∀ term ∈ terms, IsPlain term) :
    Shape .primary (.proximity terms)
  | included {k : Skeleton} (h : Shape .primary k) : Shape .operand k
  | excluded {k : Skeleton} (h : Shape .primary k) : Shape .operand (.exclude k)
  | firstOperand {k : Skeleton} (h : Shape .primary k) : Shape .conjunction k
  | nextOperand {k l : Skeleton} (hk : Shape .conjunction k) (hl : Shape .operand l) :
    Shape .conjunction (.and k l)
  | firstSide {k : Skeleton} (h : Shape .conjunction k) : Shape .disjunction k
  | nextSide {k l : Skeleton} (hk : Shape .disjunction k) (hl : Shape .conjunction l) :
    Shape .disjunction (.or k l)

end Skeleton

end FullText
