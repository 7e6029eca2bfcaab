/-
FullText/Proofs/Chains.lean

Three ways to write a query agree: the list of waiting pieces, the loops over chains of
operands, and the table.  They fail on the same queries, and name the same thing.

Design.  Of the loops only their last turn is looked at.  The spine of a chain is that of
its left side with the right side behind it (`spine_of_sides?`), so a chain is written
as its left side is, with one operand more.  This is what the table says of a node, and
the induction is on the query.

What is no query and stands in the place of one is listed from left to right
(`Query.foreigns`).  The table meets the first one of the list.

Main result: `Query.condition_and_chained_eq_table`.
-/
import FullText.Condition.Chain
import FullText.Proofs.Writing

namespace FullText.Query

open Condition

variable {phraseMode : PhraseMode} {mode : TermMode} {op : Connective} {q left right : Query}

/-! ### Spines -/

/-- What stands behind a chain stays behind its operands. -/
theorem spineOnto_eq (op : Connective) (behind : List Query) (q : Query) :
    spineOnto op behind q = ((spine op q).1, (spine op q).2 ++ behind) := by
  unfold spine
  -- the operands are found from the last one back, so what is behind them grows
  induction hn : queryWeight q using Nat.strongRecOn generalizing behind q with
  | ind n ih =>
    cases h : sides? op q with
    | none =>
      rw [spineOnto_of_sides?_eq_none h, spineOnto_of_sides?_eq_none h]
      rfl
    | some sides =>
      obtain ⟨left, right⟩ := sides
      have hlt := (queryWeight_lt_of_sides? h).1
      have hind := fun behind => ih (queryWeight left) (by omega) behind left rfl
      rw [spineOnto_of_sides? h, spineOnto_of_sides? h, hind, hind [right], List.append_assoc]
      rfl

/-- The spine of a chain is that of its left side, and its right side. -/
theorem spine_of_sides? (h : sides? op q = some (left, right)) :
    spine op q = ((spine op left).1, (spine op left).2 ++ [right]) := by
  rw [spine, spineOnto_of_sides? h, spineOnto_eq]

theorem spine_of_sides?_eq_none (h : sides? op q = none) : spine op q = (q, []) :=
  spineOnto_of_sides?_eq_none h

/-! ### One operand more -/

/-- The operands of a chain as sides of a disjunction. -/
def writtenSides (phraseMode : PhraseMode) (mode : TermMode) (chain : Query × List Query) :
    Except Foreign String := do
  let first ← chain.1.chained phraseMode mode
  chain.2.foldlM (fun written o => do
    return writtenOr written (← o.chained phraseMode mode)) first

/-- The operands of a chain in one row. -/
def writtenRow (phraseMode : PhraseMode) (chain : Query × List Query) :
    Except Foreign String := do
  let first ← chain.1.chained phraseMode .inflectional
  let others ← chain.2.mapM (chained phraseMode .inflectional)
  return String.intercalate " AND " (first :: others)

theorem writtenSides_spine (q : Query) :
    writtenSides phraseMode mode (spine .or q) = q.chained phraseMode mode := by
  cases h : sides? .or q with
  | none =>
    rw [spine_of_sides?_eq_none h]
    exact bind_pure (q.chained phraseMode mode)
  | some sides =>
    cases q with
    | or left right =>
      rw [chained, writtenSides]
      congr 1
      funext first
      rw [List.foldlM_subtype (g := fun written o => do
        return writtenOr written (← o.chained phraseMode mode)) fun _ _ _ => rfl,
        List.unattach_attach]
    | _ => cases h

theorem writtenRow_spine (q : Query) :
    writtenRow phraseMode (spine .and q) = q.chained phraseMode .inflectional := by
  cases h : sides? .and q with
  | none =>
    rw [spine_of_sides?_eq_none h, writtenRow]
    simp only [List.mapM_nil, pure_bind, String.intercalate_singleton, bind_pure]
  | some sides =>
    cases q with
    | and left right =>
      rw [chained, writtenRow]
      congr 1
      funext first
      rw [List.mapM_subtype fun _ _ => rfl, List.unattach_attach]
    | _ => cases h

/-- **A disjunction is written as its sides are**, however long the chain is that its left
side ends. -/
theorem chained_or :
    (or left right).chained phraseMode mode = (do
      let l ← left.chained phraseMode mode
      let r ← right.chained phraseMode mode
      return writtenOr l r) := by
  rw [← writtenSides_spine, spine_of_sides? rfl, ← writtenSides_spine left]
  simp only [writtenSides, List.foldlM_append, bind_assoc, List.foldlM_cons, List.foldlM_nil,
    bind_pure]

/-- **A conjunction is written as its sides are**, one row behind the other. -/
theorem chained_and :
    (and left right).chained phraseMode mode = (do
      let l ← left.chained phraseMode .inflectional
      let r ← right.chained phraseMode .inflectional
      return l ++ " AND " ++ r) := by
  have hmode : (and left right).chained phraseMode mode
      = (and left right).chained phraseMode .inflectional := by
    rw [chained, chained]
  have hrow (first : String) (others : List String) (last : String) :
      String.intercalate " AND " (first :: (others ++ [last]))
        = String.intercalate " AND " (first :: others) ++ " AND " ++ last := by
    rw [← List.cons_append, String.intercalate_append_of_ne_nil (by simp) (by simp),
      String.intercalate_singleton]
  rw [hmode, ← writtenRow_spine, spine_of_sides? rfl, ← writtenRow_spine left]
  simp only [writtenRow, List.mapM_append, List.mapM_cons, List.mapM_nil, bind_assoc, pure_bind,
    hrow]

/-- **What the loops write is what the table says.** -/
theorem chained_eq_table (q : Query) (mode : TermMode) :
    q.chained phraseMode mode = q.table phraseMode mode := by
  induction q generalizing mode with
  | or left right ihl ihr => rw [chained_or, table, ihl, ihr]; rfl
  | and left right ihl ihr => rw [chained_and, table, ihl, ihr]
  | exclude inner ih => rw [chained, table, ih]
  | group inner ih => rw [chained, table, ih]
  | proximity terms =>
    have hverbatim : terms.map (Condition.leaf phraseMode .exact) = terms := List.map_id terms
    rw [chained, table, hverbatim]
  | _ => rw [chained, table]

/-! ### What is no query -/

/-- The things in the places of nodes that are no queries, from left to right. -/
def foreigns : Query → List Foreign
  | or left right | and left right => left.foreigns ++ right.foreigns
  | exclude inner | group inner => inner.foreigns
  | foreign thing => [thing]
  | _ => []

/-- `FailsFirst r things`: the writing `r` fails with the first of the things, and ends
well if there is none. -/
def FailsFirst (r : Except Foreign String) (things : List Foreign) : Prop :=
  ∀ thing, r = .error thing ↔ things.head? = some thing

namespace FailsFirst

variable {l r : Except Foreign String} {ls rs : List Foreign}

theorem ok (s : String) : FailsFirst (.ok s) [] := fun _ => iff_of_false nofun nofun

/-- What is written around a part neither fails nor mends it. -/
theorem part (text : String → String) (h : FailsFirst l ls) :
    FailsFirst (do return text (← l)) ls := by
  intro thing
  rw [← h thing]
  cases l with
  | error first => exact Iff.rfl
  | ok a => exact iff_of_false nofun nofun

/-- Two sides fail in the left one, and else in the right one. -/
theorem sides (text : String → String → String) (hl : FailsFirst l ls) (hr : FailsFirst r rs) :
    FailsFirst (do return text (← l) (← r)) (ls ++ rs) := by
  intro thing
  cases ls with
  | cons first ls =>
    rw [(hl first).2 rfl, List.cons_append, List.head?_cons]
    exact ⟨fun h => congrArg some (Except.error.inj h), fun h => congrArg _ (Option.some.inj h)⟩
  | nil =>
    rw [List.nil_append, ← hr thing]
    cases l with
    | error first => cases (hl first).1 rfl
    | ok a =>
      cases r with
      | error last => exact Iff.rfl
      | ok b => exact iff_of_false nofun nofun

end FailsFirst

/-- **The table fails with the leftmost thing that is no query**, and only with one. -/
theorem failsFirst_table (q : Query) (mode : TermMode) :
    FailsFirst (q.table phraseMode mode) q.foreigns := by
  induction q generalizing mode with
  | or left right ihl ihr => exact .sides _ (ihl mode) (ihr mode)
  | and left right ihl ihr => exact .sides _ (ihl .inflectional) (ihr .inflectional)
  | exclude inner ih => exact .part _ (ih .inflectional)
  | group inner ih => exact .part _ (ih mode)
  | foreign thing =>
    intro thing'
    exact ⟨fun h => congrArg some (Except.error.inj h), fun h => congrArg _ (Option.some.inj h)⟩
  | _ => exact .ok _

/-- **A query is written as the table says, whichever way the work is ordered.**  The list
of waiting pieces and the loops over chains give the condition in the table, or fail as it
does: with the leftmost thing that stands in the place of a node and is no query, and
only if there is one. -/
theorem condition_and_chained_eq_table (phraseMode : PhraseMode) (mode : TermMode) (q : Query) :
    q.condition phraseMode mode = (q.table phraseMode mode).mapError .unexpectedNode ∧
    q.chained phraseMode mode = q.table phraseMode mode ∧
    (∀ e, q.condition phraseMode mode = .error e ↔
      ∃ thing, q.foreigns.head? = some thing ∧ e = .unexpectedNode thing) ∧
    ((∃ text, q.condition phraseMode mode = .ok text) ↔ q.foreigns = []) := by
  have hfirst : FailsFirst (q.table phraseMode mode) q.foreigns := failsFirst_table q mode
  refine ⟨condition_eq_table phraseMode mode q, chained_eq_table q mode, fun e => ?_, ?_⟩
  · rw [condition_eq_table]
    simp only [← hfirst _]
    cases q.table phraseMode mode with
    | error thing =>
      constructor
      · rintro ⟨⟩
        exact ⟨thing, rfl, rfl⟩
      · rintro ⟨_, ⟨⟩, rfl⟩
        rfl
    | ok s => exact iff_of_false nofun nofun
  · rw [condition_eq_table]
    constructor
    · rintro ⟨text, h⟩
      cases hf : q.foreigns with
      | nil => rfl
      | cons thing things =>
        rw [(hfirst thing).2 (by rw [hf]; rfl)] at h
        cases h
    · intro hnone
      rw [hnone] at hfirst
      cases ht : q.table phraseMode mode with
      | error thing => cases (hfirst thing).1 ht
      | ok s => exact ⟨s, rfl⟩

end FullText.Query
