/-
FullText/Words/WordSet.lean

Finite sets of words.  The words are kept in strictly ascending order of their
code points, so two sets with the same words are equal (`WordSet.ext`), and
listing a set needs no sorting.
-/
namespace FullText

/-- A finite set of words. -/
structure WordSet where
  toList : List String
  ascending : toList.Pairwise (· < ·)
deriving DecidableEq

namespace WordSet

/-! ### Insertion -/

/-- Put a word into an ascending list, unless it is there. -/
def insertInto (word : String) : List String → List String
  | [] => [word]
  | w :: rest =>
    if word < w then word :: w :: rest
    else if word = w then w :: rest
    else w :: insertInto word rest

/-- A word that is put in is added to those there are. -/
theorem mem_insertInto {word w : String} {ws : List String} :
    w ∈ insertInto word ws ↔ w = word ∨ w ∈ ws := by
  induction ws with
  | nil => simp [insertInto]
  | cons x rest ih =>
    unfold insertInto
    split
    · simp
    · split
      · next h => simp [h]
      · simp only [List.mem_cons, ih]
        grind

/-- A word that is put in is put in its place. -/
theorem pairwise_insertInto {word : String} {ws : List String} (h : ws.Pairwise (· < ·)) :
    (insertInto word ws).Pairwise (· < ·) := by
  induction ws with
  | nil => simp [insertInto]
  | cons x rest ih =>
    have hx := (List.pairwise_cons.1 h).1
    unfold insertInto
    split
    · next hlt =>
      refine List.pairwise_cons.2 ⟨fun y hy => ?_, h⟩
      rcases List.mem_cons.1 hy with rfl | hy
      · exact hlt
      · exact String.lt_trans hlt (hx y hy)
    · split
      · exact h
      · next hnlt hne =>
        refine List.pairwise_cons.2 ⟨fun y hy => ?_, ih (List.pairwise_cons.1 h).2⟩
        rcases mem_insertInto.1 hy with rfl | hy
        · rcases Std.le_iff_lt_or_eq.1 (String.not_lt.1 hnlt) with hlt | heq
          · exact hlt
          · exact absurd heq.symm hne
        · exact hx y hy

/-! ### Sets -/

/-- The set without words. -/
def empty : WordSet := ⟨[], List.Pairwise.nil⟩

/-- A set with one more word. -/
def insert (word : String) (s : WordSet) : WordSet :=
  ⟨insertInto word s.toList, pairwise_insertInto s.ascending⟩

/-- The set of the words of a list. -/
def ofList (ws : List String) : WordSet := ws.foldr insert empty

instance : Membership String WordSet := ⟨fun s word => word ∈ s.toList⟩

theorem mem_def {word : String} {s : WordSet} : word ∈ s ↔ word ∈ s.toList := Iff.rfl

theorem mem_insert {word w : String} {s : WordSet} : w ∈ s.insert word ↔ w = word ∨ w ∈ s :=
  mem_insertInto

theorem mem_ofList {word : String} {ws : List String} : word ∈ ofList ws ↔ word ∈ ws := by
  induction ws with
  | nil => simp [ofList, empty, mem_def]
  | cons w ws ih => simp [ofList, mem_insert] at ih ⊢; rw [ih]

/-! ### Sets are their words -/

/-- Two strictly ascending lists with the same words are one list. -/
theorem eq_of_pairwise_of_mem_iff {ws us : List String} (hws : ws.Pairwise (· < ·))
    (hus : us.Pairwise (· < ·)) (h : ∀ w, w ∈ ws ↔ w ∈ us) : ws = us := by
  induction ws generalizing us with
  | nil =>
    cases us with
    | nil => rfl
    | cons u us => exact absurd ((h u).2 (by simp)) (by simp)
  | cons w ws ih =>
    cases us with
    | nil => exact absurd ((h w).1 (by simp)) (by simp)
    | cons u us =>
      rw [List.pairwise_cons] at hws hus
      have hwu : w = u := by
        rcases List.mem_cons.1 ((h w).1 (by simp)) with hw | hw
        · exact hw
        · rcases List.mem_cons.1 ((h u).2 (by simp)) with hu | hu
          · exact hu.symm
          · exact absurd (hus.1 w hw) (String.lt_asymm (hws.1 u hu))
      subst hwu
      refine congrArg (w :: ·) (ih hws.2 hus.2 fun x => ?_)
      have hx := h x
      simp only [List.mem_cons] at hx
      constructor
      · intro hxw
        rcases hx.1 (.inr hxw) with rfl | hxu
        · exact absurd (hws.1 x hxw) (String.lt_irrefl x)
        · exact hxu
      · intro hxu
        rcases hx.2 (.inr hxu) with rfl | hxw
        · exact absurd (hus.1 x hxu) (String.lt_irrefl x)
        · exact hxw

@[ext] theorem ext {s t : WordSet} (h : ∀ w, w ∈ s ↔ w ∈ t) : s = t := by
  cases s
  cases t
  congr
  exact eq_of_pairwise_of_mem_iff ‹_› ‹_› h

end WordSet

end FullText
