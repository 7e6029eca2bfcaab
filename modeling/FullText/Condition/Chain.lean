/-
FullText/Condition/Chain.lean

The search condition of a query, written chain by chain.  A chain of operands that one
operator joins is nested to the left, as deep as the chain is long.  So its operands are
collected in a loop, from the last one back to the first (`Query.spine`), and then
written from the first one on: those of a disjunction in parentheses that grow to the
left, those of a conjunction in one row.  Only what is nested in another way is written
by a call inside a call.
-/
import FullText.Condition.Writer

namespace FullText.Query

open Condition

/-! ### Chains -/

/-- The operators that join operands to chains. -/
inductive Connective where
  | or
  | and
deriving DecidableEq

/-- What an operator joins in a query, if it is the operator of the query. -/
def sides? : Connective → Query → Option (Query × Query)
  | .or, or left right => some (left, right)
  | .and, and left right => some (left, right)
  | _, _ => none

/-- The sides of a query weigh less than the query. -/
theorem queryWeight_lt_of_sides? {op : Connective} {q left right : Query}
    (h : sides? op q = some (left, right)) :
    queryWeight left < queryWeight q ∧ queryWeight right < queryWeight q := by
  unfold sides? at h
  split at h
  · obtain ⟨rfl, rfl⟩ := Prod.mk.inj (Option.some.inj h)
    simp only [queryWeight]
    omega
  · obtain ⟨rfl, rfl⟩ := Prod.mk.inj (Option.some.inj h)
    simp only [queryWeight]
    omega
  · cases h

/-- The first operand of a chain and the others, where the operands `behind` stand behind
the chain. -/
def spineOnto (op : Connective) (behind : List Query) (q : Query) : Query × List Query :=
  match _h : sides? op q with
  | some (left, right) => spineOnto op (right :: behind) left
  | none => (q, behind)
termination_by queryWeight q
decreasing_by exact (queryWeight_lt_of_sides? ‹_›).1

/-- The first operand of a chain and the others.  A query of another sort is a chain of
one operand. -/
def spine (op : Connective) (q : Query) : Query × List Query := spineOnto op [] q

theorem spineOnto_of_sides? {op : Connective} {q left right : Query} {behind : List Query}
    (h : sides? op q = some (left, right)) :
    spineOnto op behind q = spineOnto op (right :: behind) left := by
  rw [spineOnto]
  split
  · next heq =>
    obtain ⟨rfl, rfl⟩ := Prod.mk.inj (Option.some.inj (h.symm.trans heq))
    rfl
  · next heq => cases h.symm.trans heq

theorem spineOnto_of_sides?_eq_none {op : Connective} {q : Query} {behind : List Query}
    (h : sides? op q = none) : spineOnto op behind q = (q, behind) := by
  rw [spineOnto]
  split
  · next heq => cases h.symm.trans heq
  · rfl

/-- The operands of a chain weigh no more than the chain. -/
theorem queryWeight_spineOnto_le (op : Connective) (behind : List Query) (q : Query) :
    queryWeight (spineOnto op behind q).1 ≤ queryWeight q ∧
      ∀ o ∈ (spineOnto op behind q).2, o ∈ behind ∨ queryWeight o ≤ queryWeight q := by
  fun_induction spineOnto op behind q with
  | case1 behind q left right h ih =>
    obtain ⟨hleft, hright⟩ := queryWeight_lt_of_sides? h
    refine ⟨by omega, fun o ho => ?_⟩
    rcases ih.2 o ho with hmem | hle
    · rcases List.mem_cons.1 hmem with rfl | hmem
      · exact .inr (by omega)
      · exact .inl hmem
    · exact .inr (by omega)
  | case2 behind q h => exact ⟨Nat.le_refl _, fun o ho => .inl ho⟩

/-- The operands of a chain that an operator joins weigh less than the chain. -/
theorem queryWeight_spine_lt {op : Connective} {q left right : Query}
    (h : sides? op q = some (left, right)) :
    queryWeight (spine op q).1 < queryWeight q ∧
      ∀ o ∈ (spine op q).2, queryWeight o < queryWeight q := by
  obtain ⟨hleft, hright⟩ := queryWeight_lt_of_sides? h
  rw [spine, spineOnto_of_sides? h]
  obtain ⟨hfirst, hothers⟩ := queryWeight_spineOnto_le op [right] left
  refine ⟨by omega, fun o ho => ?_⟩
  rcases hothers o ho with hmem | hle
  · rw [List.mem_singleton.1 hmem]
    exact hright
  · omega

/-! ### Writing chain by chain -/

/-- Two sides of which one is enough. -/
def writtenOr (left right : String) : String := "(" ++ left ++ " OR " ++ right ++ ")"

/-- The search condition of a query whose bare words stand in the given term mode, or the
first thing met that is no query. -/
def chained (phraseMode : PhraseMode) (mode : TermMode) : Query → Except Foreign String
  | or left right => do
    let chain := spine .or (or left right)
    let first ← chain.1.chained phraseMode mode
    chain.2.attach.foldlM (fun written o => do
      return writtenOr written (← o.1.chained phraseMode mode)) first
  | and left right => do
    let chain := spine .and (and left right)
    let first ← chain.1.chained phraseMode .inflectional
    let others ← chain.2.attach.mapM fun o => o.1.chained phraseMode .inflectional
    return String.intercalate " AND " (first :: others)
  | exclude inner => do return "NOT(" ++ (← inner.chained phraseMode .inflectional) ++ ")"
  | group inner => do return "(" ++ (← inner.chained phraseMode mode) ++ ")"
  | thesaurus text => return Condition.thesaurus text
  | exact text => return literal text
  | phrase text => return literal text
  | leaf text => return Condition.leaf phraseMode mode text
  | proximity terms => return Condition.proximity (terms.map (Condition.leaf phraseMode .exact))
  | empty => return ""
  | foreign thing => throw thing
termination_by q => queryWeight q
decreasing_by
  · exact (queryWeight_spine_lt rfl).1
  · exact (queryWeight_spine_lt rfl).2 o.1 o.2
  · exact (queryWeight_spine_lt rfl).1
  · exact (queryWeight_spine_lt rfl).2 o.1 o.2
  all_goals simp only [queryWeight]; omega

end FullText.Query
