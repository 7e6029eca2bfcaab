/-
FullText/Unicode/Ranges.lean

Character classes given by tables.  A class of characters is a table of closed
ranges of code points, in ascending order and apart from each other, so a
look-up stops at the first range that lies beyond the character.  The order is
part of the table, and `contains_eq_any` says that stopping there loses nothing.
-/
namespace FullText.Unicode

/-- Whether each range starts beyond the end of the range before it. -/
def Ranges.isAscending : List (Nat × Nat) → Bool
  | r :: s :: rest => r.1 ≤ r.2 && r.2 < s.1 && isAscending (s :: rest)
  | [r] => r.1 ≤ r.2
  | [] => true

/-- Closed ranges of code points, in ascending order and apart from each other. -/
structure Ranges where
  toList : List (Nat × Nat)
  ascending : Ranges.isAscending toList = true

namespace Ranges

/-- Whether some range of a list holds the code point `n`; the search ends at the
first range that starts beyond it. -/
def search : List (Nat × Nat) → Nat → Bool
  | [], _ => false
  | (first, last) :: rest, n =>
    if n < first then false else if n ≤ last then true else search rest n

/-- Whether some range of a table holds the code point `n`. -/
def contains (table : Ranges) (n : Nat) : Bool := search table.toList n

/-! ### A look-up searches the whole table -/

variable {r : Nat × Nat} {rest ranges : List (Nat × Nat)}

/-- The rest of an ascending list is ascending. -/
theorem isAscending_of_cons (h : isAscending (r :: rest) = true) : isAscending rest = true := by
  cases rest with
  | nil => rfl
  | cons s rest =>
    simp only [isAscending, Bool.and_eq_true] at h
    exact h.2

/-- No range of an ascending list starts before the first one. -/
theorem first_le_of_mem (h : isAscending (r :: rest) = true) : ∀ s ∈ rest, r.1 ≤ s.1 := by
  induction rest generalizing r with
  | nil => simp
  | cons t rest ih =>
    have ht := ih (isAscending_of_cons h)
    simp only [isAscending, Bool.and_eq_true, decide_eq_true_eq] at h
    intro s hs
    rcases List.mem_cons.1 hs with rfl | hs
    · omega
    · have := ht s hs
      omega

theorem search_eq_any (h : isAscending ranges = true) (n : Nat) :
    search ranges n = ranges.any fun r => decide (r.1 ≤ n) && decide (n ≤ r.2) := by
  induction ranges with
  | nil => rfl
  | cons r rest ih =>
    obtain ⟨first, last⟩ := r
    simp only [search, List.any_cons]
    by_cases hlt : n < first
    · have hrest : (rest.any fun s => decide (s.1 ≤ n) && decide (n ≤ s.2)) = false := by
        rw [List.any_eq_false]
        intro s hs
        have := first_le_of_mem h s hs
        simp only [Bool.and_eq_true, decide_eq_true_eq]
        omega
      have hfirst : ¬ first ≤ n := by omega
      simp [hlt, hrest, hfirst]
    · by_cases hle : n ≤ last
      · simp [hlt, hle, Nat.le_of_not_lt hlt]
      · simp [hlt, hle, ih (isAscending_of_cons h)]

/-- **A look-up is a search of the whole table.** -/
theorem contains_eq_any (table : Ranges) (n : Nat) :
    table.contains n = table.toList.any fun r => decide (r.1 ≤ n) && decide (n ≤ r.2) :=
  search_eq_any table.ascending n

end Ranges

end FullText.Unicode
