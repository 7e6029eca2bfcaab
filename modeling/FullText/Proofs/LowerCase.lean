/-
FullText/Proofs/LowerCase.lean

A lower case is its own lower case.

Design.  What a character becomes depends on the text around it for the capital sigma
alone, and no capital sigma is left in a lower case.  So we look at single characters:
one is *small* if it stays as it is, whatever stands around it.  Small characters are
told by the table of capitals (`isSmall_iff`), and each capital of the table has a small
letter (`isSmall_of_covers`), which is a check of the whole table.  So all of a lower
case is small (`isSmall_of_mem_lowerAfter`), and small texts stay as they are.

Main result: `lower_lower`.
-/
import FullText.Unicode.Case

namespace FullText.Unicode

variable {c : Char} {n : Nat} {before : Bool} {cs : List Char}

/-! ### Small characters -/

/-- Lower case leaves the character as it is, whatever stands around it. -/
def IsSmall (c : Char) : Prop :=
  ∀ before rest, lowerAt before c rest = [c]

/-- Small characters are told by the table of capitals. -/
theorem isSmall_iff : IsSmall c ↔ lowerChar c = c ∧ c ≠ '\u03A3' ∧ c ≠ '\u0130' := by
  unfold IsSmall lowerAt
  by_cases hsigma : c = '\u03A3'
  · subst hsigma
    exact iff_of_false (fun h => absurd (h false []) (by decide)) (by simp)
  · by_cases hdotted : c = '\u0130'
    · subst hdotted
      exact iff_of_false (fun h => absurd (h false []) (by decide)) (by simp)
    · simp [hsigma, hdotted]

instance (c : Char) : Decidable (IsSmall c) := decidable_of_iff _ isSmall_iff.symm

/-! ### The table of capitals -/

/-- What a look-up finds: no run, or one that covers the code point. -/
theorem lowerCodeIn_cases (runs : List CaseRun) (n : Nat) :
    lowerCodeIn runs n = n ∨
      ∃ run ∈ runs, run.covers n = true ∧ lowerCodeIn runs n = (n + run.shift).toNat := by
  induction runs with
  | nil => exact .inl rfl
  | cons run rest ih =>
    unfold lowerCodeIn
    split
    · exact .inl rfl
    · split
      · next hcovers => exact .inr ⟨run, List.mem_cons_self, hcovers, rfl⟩
      · rcases ih with hself | ⟨found, hfound, hcovers, heq⟩
        · exact .inl hself
        · exact .inr ⟨found, List.mem_cons_of_mem run hfound, hcovers, heq⟩

/-- What no run covers is left as it is. -/
theorem lowerCodeIn_eq_self {runs : List CaseRun} (h : ∀ run ∈ runs, run.covers n = false) :
    lowerCodeIn runs n = n := by
  rcases lowerCodeIn_cases runs n with hself | ⟨run, hrun, hcovers, -⟩
  · exact hself
  · rw [h run hrun] at hcovers
    cases hcovers

/-- The capital with a small letter of two characters, as a run. -/
def dottedRun : CaseRun := ⟨0x0130, 0x0130, 1, 0⟩

/-- Whether no small letter of a run is a capital of another: all of them stand in front of
those capitals, or behind them, or at every other place between them. -/
def CaseRun.isApart (run other : CaseRun) : Bool :=
  Nat.blt other.last (run.first + run.shift).toNat ||
    Nat.blt (run.last + run.shift).toNat other.first ||
    (0 ≤ run.first + run.shift && (run.step == 2 || run.first == run.last) &&
      other.step == 2 && (run.first + run.shift - other.first) % 2 == 1)

theorem CaseRun.covers_eq_false {run other : CaseRun} (h : run.isApart other = true)
    (hn : run.covers n = true) : other.covers (n + run.shift).toNat = false := by
  simp only [covers, Bool.and_eq_true, decide_eq_true_eq, beq_iff_eq] at hn
  simp only [isApart, Bool.or_eq_true, Bool.and_eq_true, Nat.blt_eq, decide_eq_true_eq,
    beq_iff_eq] at h
  rw [Bool.eq_false_iff]
  intro hcovers
  simp only [covers, Bool.and_eq_true, decide_eq_true_eq, beq_iff_eq] at hcovers
  rcases h with (h | h) | ⟨⟨⟨hpos, hrun⟩, hother⟩, hodd⟩
  · omega
  · omega
  · -- the small letter is an odd number of places away from the first capital
    rw [hother] at hcovers
    rcases hrun with hrun | hrun
    · rw [hrun] at hn
      omega
    · omega

/-- **Small letters are no capitals.** -/
theorem covers_small_eq_false {run other : CaseRun} (hrun : run ∈ toLowerRuns)
    (hother : other ∈ dottedRun :: toLowerRuns) (h : run.covers n = true) :
    other.covers (n + run.shift).toNat = false := by
  have hall : (toLowerRuns.all fun run => (dottedRun :: toLowerRuns).all run.isApart) = true := by
    decide +kernel
  exact CaseRun.covers_eq_false (List.all_eq_true.1 (List.all_eq_true.1 hall run hrun) other hother)
    h

/-- What no run covers is small. -/
theorem isSmall_of_covers_eq_false
    (h : ∀ run ∈ dottedRun :: toLowerRuns, run.covers c.toNat = false) : IsSmall c := by
  have hcode : lowerCodeIn toLowerRuns c.toNat = c.toNat :=
    lowerCodeIn_eq_self fun run hrun => h run (List.mem_cons_of_mem dottedRun hrun)
  refine isSmall_iff.2 ⟨?_, ?_, ?_⟩
  · rw [lowerChar, hcode, Char.ofNat_toNat]
  · rintro rfl
    exact absurd hcode (by decide +kernel)
  · rintro rfl
    exact absurd (h dottedRun List.mem_cons_self) (by decide)

/-- **The small letter of a capital is small.** -/
theorem isSmall_of_covers {run : CaseRun} (hrun : run ∈ toLowerRuns) (h : run.covers n = true) :
    IsSmall (Char.ofNat (n + run.shift).toNat) := by
  by_cases hvalid : (n + run.shift).toNat.isValidChar
  · have hcode : (Char.ofNat (n + run.shift).toNat).toNat = (n + run.shift).toNat := by
      rw [Char.ofNat, dif_pos hvalid]
      rfl
    refine isSmall_of_covers_eq_false fun other hother => ?_
    rw [hcode]
    exact covers_small_eq_false hrun hother h
  · -- what is no code point stands for the null character
    rw [Char.ofNat, dif_neg hvalid]
    decide +kernel

/-- What a character becomes is small, the two capitals apart that need more. -/
theorem isSmall_lowerChar (hsigma : c ≠ '\u03A3') (hdotted : c ≠ '\u0130') :
    IsSmall (lowerChar c) := by
  rcases lowerCodeIn_cases toLowerRuns c.toNat with hself | ⟨run, hrun, hcovers, heq⟩
  · have hc : lowerChar c = c := by rw [lowerChar, hself, Char.ofNat_toNat]
    rw [hc]
    exact isSmall_iff.2 ⟨hc, hsigma, hdotted⟩
  · rw [lowerChar, heq]
    exact isSmall_of_covers hrun hcovers

/-! ### Texts -/

theorem isSmall_of_mem_lowerAt {d : Char} {rest : List Char} (h : d ∈ lowerAt before c rest) :
    IsSmall d := by
  unfold lowerAt at h
  split at h
  · -- either sigma is small
    rw [List.mem_singleton] at h
    subst h
    split <;> decide +kernel
  · next hsigma =>
    split at h
    · simp only [List.mem_cons, List.not_mem_nil, or_false] at h
      rcases h with rfl | rfl <;> decide +kernel
    · next hdotted =>
      rw [List.mem_singleton.1 h]
      exact isSmall_lowerChar hsigma hdotted

/-- **All of a lower case is small.** -/
theorem isSmall_of_mem_lowerAfter (h : c ∈ lowerAfter before cs) : IsSmall c := by
  induction cs generalizing before with
  | nil => cases h
  | cons d cs ih =>
    rcases List.mem_append.1 h with h | h
    · exact isSmall_of_mem_lowerAt h
    · exact ih h

/-- Small texts stay as they are. -/
theorem lowerAfter_eq_self (h : ∀ c ∈ cs, IsSmall c) (before : Bool) :
    lowerAfter before cs = cs := by
  induction cs generalizing before with
  | nil => rfl
  | cons c cs ih =>
    rw [lowerAfter, h c List.mem_cons_self before cs,
      ih (fun d hd => h d (List.mem_cons_of_mem c hd)), List.singleton_append]

/-- **A lower case is its own lower case.** -/
theorem lower_lower (text : String) : lower (lower text) = lower text := by
  have hsmall : ∀ c ∈ lowerAfter false text.toList, IsSmall c :=
    fun _ hc => isSmall_of_mem_lowerAfter hc
  rw [lower, lower, String.toList_ofList, lowerAfter_eq_self hsmall]

end FullText.Unicode
