/-
FullText/Proofs/Starring.lean

The prefixed mode writes a query as if each of its bare words had a star, and changes
nothing else.

Design.  A bare word with a star is a literal in either mode, and the prefixed mode gives
a star to the others (`Condition.leaf_prefixed`).  That this carries over to whole queries
hangs on the term mode in which a word is met: from the top it is the inflectional one
everywhere, since sides and groups pass it on and all other nodes set it back to it.  The
words of a proximity are no nodes and stand as they are.  So both facts below are
inductions with one term mode: starred words are written alike in both modes
(`table_eq_of_isStarred`), and in the prefixed mode a star more is no change
(`table_starred`).

Main result: `Query.compile_prefixed_eq_starred`.
-/
import FullText.Proofs.Chains

namespace FullText

/-! ### Words -/

namespace Condition

variable {word : String}

/-- A word with a star at its end, which is added if it is missing. -/
def star (word : String) : String := if isStarred word then word else word ++ "*"

theorem star_of_isStarred (h : isStarred word = true) : star word = word := if_pos h

theorem isStarred_star (word : String) : isStarred (star word) = true := by
  unfold star
  split
  · next h => exact h
  · simp [isStarred]

/-- A starred word is a literal. -/
theorem leaf_of_isStarred (h : isStarred word = true) (phraseMode : PhraseMode) :
    leaf phraseMode .inflectional word = literal word := by
  simp only [leaf, term, h, Bool.and_true, if_true]

/-- **The prefixed mode gives a word its star.** -/
theorem leaf_prefixed (word : String) :
    leaf .prefixed .inflectional word = literal (star word) := by
  unfold star
  split
  · next h => exact leaf_of_isStarred h .prefixed
  · next h => simp only [leaf, term, h, Bool.and_false, Bool.false_eq_true, if_false]

end Condition

namespace Query

open Condition

variable {phraseMode phraseMode' : PhraseMode} {q r : Query}

/-! ### Queries -/

/-- A query whose bare words are starred, those that were not by a star more. -/
def starred : Query → Query
  | or left right => or left.starred right.starred
  | and left right => and left.starred right.starred
  | exclude inner => exclude inner.starred
  | group inner => group inner.starred
  | leaf word => leaf (star word)
  | q => q

/-- The bare words of a query, from left to right. -/
def bareWords : Query → List String
  | or left right | and left right => left.bareWords ++ right.bareWords
  | exclude inner | group inner => inner.bareWords
  | leaf word => [word]
  | _ => []

theorem bareWords_starred (q : Query) : q.starred.bareWords = q.bareWords.map star := by
  induction q with
  | or left right ihl ihr | and left right ihl ihr =>
    rw [starred, bareWords, bareWords, List.map_append, ihl, ihr]
  | exclude inner ih | group inner ih => rw [starred, bareWords, bareWords, ih]
  | _ => rfl

/-- Each bare word of a starred query is starred. -/
theorem isStarred_of_mem_bareWords_starred (q : Query) :
    ∀ word ∈ q.starred.bareWords, isStarred word = true := by
  rw [bareWords_starred]
  intro word hword
  obtain ⟨w, -, rfl⟩ := List.mem_map.1 hword
  exact isStarred_star w

/-! ### Conditions -/

/-- **Starred words are written alike in both modes.** -/
theorem table_eq_of_isStarred (h : ∀ word ∈ q.bareWords, isStarred word = true)
    (phraseMode phraseMode' : PhraseMode) :
    q.table phraseMode .inflectional = q.table phraseMode' .inflectional := by
  induction q with
  | or left right ihl ihr | and left right ihl ihr =>
    have hleft := ihl fun word hword => h word (List.mem_append_left _ hword)
    have hright := ihr fun word hword => h word (List.mem_append_right _ hword)
    rw [table, table, hleft, hright]
  | exclude inner ih | group inner ih => rw [table, table, ih h]
  | leaf word =>
    have hword := h word List.mem_cons_self
    rw [table, table, leaf_of_isStarred hword, leaf_of_isStarred hword]
  | _ => rfl

/-- **In the prefixed mode a star more is no change.** -/
theorem table_starred (q : Query) :
    q.starred.table .prefixed .inflectional = q.table .prefixed .inflectional := by
  induction q with
  | or left right ihl ihr | and left right ihl ihr => rw [starred, table, table, ihl, ihr]
  | exclude inner ih | group inner ih => rw [starred, table, table, ih]
  | leaf word =>
    rw [starred, table, table, leaf_prefixed, leaf_prefixed,
      star_of_isStarred (isStarred_star word)]
  | _ => rfl

/-- Queries that the table does not tell apart have the same condition, unless one of
them is missing. -/
theorem compile_congr (habsent : q = absent ↔ r = absent)
    (h : q.table phraseMode .inflectional = r.table phraseMode' .inflectional) :
    q.compile phraseMode = r.compile phraseMode' := by
  by_cases hq : q = absent
  · rw [hq, habsent.1 hq, compile_absent, compile_absent]
  · have hr : r ≠ absent := fun hr => hq (habsent.2 hr)
    rw [compile_of_ne_absent hq, compile_of_ne_absent hr, h]

/-- A query is written if nothing in it is no query. -/
theorem exists_compile_of_foreigns_eq_nil (h : q.foreigns = []) (phraseMode : PhraseMode) :
    ∃ condition, q.compile phraseMode = .ok condition := by
  have hne : q ≠ absent := by
    rintro rfl
    cases h
  have hfirst : FailsFirst (q.table phraseMode .inflectional) q.foreigns :=
    failsFirst_table q .inflectional
  rw [compile_of_ne_absent hne]
  cases ht : q.table phraseMode .inflectional with
  | error thing =>
    have hhead := (hfirst thing).1 ht
    rw [h] at hhead
    cases hhead
  | ok condition => exact ⟨condition, rfl⟩

/-- A query is missing just if it is with its words starred. -/
theorem eq_absent_iff_starred (q : Query) : q = absent ↔ q.starred = absent := by
  cases q with
  | foreign thing => exact Iff.rfl
  | _ => exact iff_of_false nofun nofun

/-- **The prefixed mode is the inflectional one for starred words**, and nothing else.  A
query in the prefixed mode has the condition that it has with a star at each bare word, and
in this form the mode does not matter.  So it never matters to a query whose bare words are
starred, such as a query without bare words.  A query with no foreign thing in it is
written. -/
theorem compile_prefixed_eq_starred (q : Query) :
    q.compile .prefixed = q.starred.compile .inflectional ∧
    q.starred.compile .inflectional = q.starred.compile .prefixed ∧
    (q.foreigns = [] → ∃ condition, q.compile .prefixed = .ok condition) ∧
    ((∀ word ∈ q.bareWords, isStarred word = true) →
      q.compile .prefixed = q.compile .inflectional) ∧
    (q.bareWords = [] → q.compile .prefixed = q.compile .inflectional) := by
  have hstarred : q.starred.compile .inflectional = q.starred.compile .prefixed :=
    compile_congr Iff.rfl (table_eq_of_isStarred (isStarred_of_mem_bareWords_starred q) _ _)
  have hprefixed : q.compile .prefixed = q.starred.compile .prefixed :=
    compile_congr (eq_absent_iff_starred q) (table_starred q).symm
  have hsame (h : ∀ word ∈ q.bareWords, isStarred word = true) :
      q.compile .prefixed = q.compile .inflectional :=
    compile_congr Iff.rfl (table_eq_of_isStarred h _ _)
  refine ⟨hprefixed.trans hstarred.symm, hstarred,
    fun h => exists_compile_of_foreigns_eq_nil h .prefixed, hsame, fun hnone => hsame ?_⟩
  rw [hnone]
  exact fun word hword => absurd hword List.not_mem_nil

/-- A word without a star in front of an excluded one with it, beside words of a proximity,
which get none. -/
theorem compile_prefixed_eq_starred_nested :
    let q := group (or (and (leaf "walk") (exclude (group (leaf "run*"))))
      (proximity ["near", "by"]))
    let text := "((\"walk*\" AND NOT((\"run*\")) OR (near NEAR by)))"
    q.foreigns = [] ∧ (∃ condition, q.compile .prefixed = .ok condition) ∧
      q.compile .prefixed = .ok text ∧ q.starred.compile .inflectional = .ok text ∧
      (∀ word ∈ q.starred.bareWords, isStarred word = true) ∧
      q.starred.compile .prefixed = q.starred.compile .inflectional ∧
      (proximity ["near", "by"]).bareWords = [] ∧
      (proximity ["near", "by"]).compile .prefixed
        = (proximity ["near", "by"]).compile .inflectional := by
  intro q text
  obtain ⟨hstarred, -, hwritten, -⟩ := compile_prefixed_eq_starred q
  obtain ⟨-, -, -, hsame, -⟩ := compile_prefixed_eq_starred q.starred
  obtain ⟨-, -, -, -, hnone⟩ := compile_prefixed_eq_starred (proximity ["near", "by"])
  have hne : q ≠ absent := show group _ ≠ .foreign _ from nofun
  have htext : q.compile .prefixed = .ok text := by
    rw [compile_of_ne_absent hne]
    rfl
  have hwords : ∀ word ∈ q.starred.bareWords, isStarred word = true := by decide +kernel
  exact ⟨rfl, hwritten rfl, htext, hstarred.symm.trans htext, hwords, hsame hwords, rfl,
    hnone rfl⟩

end Query

end FullText
