/-
FullText/Proofs/Breaks.lean

Where a text has no tokens, and what is reported of it.

Design.  A text breaks at a place if what stands in front of it has tokens and what
stands there cannot go on: a quote that nothing closes (`Unclosed`), or a character that
starts no token (`Stray`).  Both are said of texts alone.  The scan of a text in front of
a break may stop there (`Scan.MayStop`), and one character takes such a scan to another
that may stop, into a phrase, or behind a stray character.  So a scan that fails has come
to a break (`Scan.outcome_cases`), and at a break it fails, whatever is cut off behind
it; which is why there is one break only.

A single quote opens no phrase where it goes on with a run.  Whether it does is told by
the tokens in front of it: a scan keeps something behind each run that it has completed
(`Scan.Tracks`).

Main results: `tokenize_eq_error_iff`, and for the report of a stray character, which
skips more white space than there is between tokens, `unexpectedCharacter_names_stray`.
-/
import FullText.Proofs.Spacing

namespace FullText

open Text Unicode

variable {p p' column opened : Nat} {c : Char} {q : Quote} {s s' : Scan} {fault : LexicalFault}
variable {chars before after : List Char} {ts : List Token}

/-! ### Breaks -/

/-- A character that starts no token and is no white space between tokens. -/
structure IsStray (c : Char) : Prop where
  whitespace : isWhitespace c = false
  quote : ∀ q : Quote, c ≠ q.char
  term : isTermChar c = false
  symbol : ∀ sym : Symbol, c ≠ sym.char

/-- `EndsRun ts p`: one of the tokens is a run that ends just in front of the column
`p`. -/
def EndsRun (ts : List Token) (p : Nat) : Prop :=
  ∃ t ∈ ts, t.kind.IsRun ∧ t.column + t.text.length = p

/-- `Unclosed q chars p`: the quote at `p` opens a phrase that nothing closes. -/
structure Unclosed (q : Quote) (chars : List Char) (p : Nat) : Prop where
  here : chars[p]? = some q.char
  never : q.char ∉ chars.drop (p + 1)
  tokens : ∃ ts, tokensOf (chars.take p) = .ok ts ∧ (q = .single → ¬ EndsRun ts p)

/-- `Stray c chars p`: the character at `p`, behind some tokens, starts none. -/
structure Stray (c : Char) (chars : List Char) (p : Nat) : Prop where
  here : chars[p]? = some c
  stray : IsStray c
  tokens : ∃ ts, tokensOf (chars.take p) = .ok ts

/-- `Breaks chars p`: no token goes on at `p`, behind some tokens. -/
def Breaks (chars : List Char) (p : Nat) : Prop :=
  (∃ q, Unclosed q chars p) ∨ ∃ c, Stray c chars p

/-- The text around one of its characters. -/
theorem eq_take_append_drop (h : chars[p]? = some c) :
    chars = chars.take p ++ c :: chars.drop (p + 1) := by
  obtain ⟨hlt, rfl⟩ := List.getElem?_eq_some_iff.1 h
  rw [← List.drop_eq_getElem_cons hlt, List.take_append_drop]

theorem length_take_of_getElem? (h : chars[p]? = some c) : (chars.take p).length = p := by
  obtain ⟨hlt, -⟩ := List.getElem?_eq_some_iff.1 h
  rw [List.length_take]
  omega

/-- What is cut off behind a break does not mend it. -/
theorem Breaks.take (h : Breaks chars p) (hlt : p < p') : Breaks (chars.take p') p := by
  have hhere : (chars.take p')[p]? = chars[p]? := List.getElem?_take_of_lt hlt
  have htake : (chars.take p').take p = chars.take p := by
    rw [List.take_take, Nat.min_eq_left (by omega)]
  rcases h with ⟨q, h⟩ | ⟨c, h⟩
  · refine .inl ⟨q, hhere.trans h.here, fun hmem => ?_, htake.symm ▸ h.tokens⟩
    rw [List.drop_take] at hmem
    exact h.never (List.mem_of_mem_take hmem)
  · exact .inr ⟨c, hhere.trans h.here, h.stray, htake.symm ▸ h.tokens⟩

theorem Breaks.exists_tokens (h : Breaks chars p) : ∃ ts, tokensOf (chars.take p) = .ok ts := by
  rcases h with ⟨q, h⟩ | ⟨c, h⟩
  · obtain ⟨ts, hts, -⟩ := h.tokens
    exact ⟨ts, hts⟩
  · exact h.tokens

namespace Scan

/-! ### Scans that may stop -/

/-- A scan that is between tokens or in a run, so that the text may end there. -/
def MayStop (s : Scan) : Prop := s.place = .gap ∨ ∃ start cs, s.place = .run start cs

theorem exists_finish_iff : (∃ ts, s.finish = .ok ts) ↔ s.MayStop := by
  unfold finish MayStop
  cases s.place <;> simp

theorem mayStop_start : start.MayStop := .inl rfl

/-- The scan of a text that has tokens may stop at its end. -/
theorem exists_steps_of_tokensOf (h : tokensOf chars = .ok ts) :
    ∃ s, start.steps chars = .ok s ∧ s.finish = .ok ts := by
  cases hs : start.steps chars with
  | error fault =>
    rw [tokensOf, hs] at h
    cases h
  | ok s =>
    rw [tokensOf, hs] at h
    exact ⟨s, rfl, h⟩

theorem tokensOf_of_steps (hs : start.steps chars = .ok s) : tokensOf chars = s.finish := by
  rw [tokensOf, hs]
  rfl

/-- A scan goes on from where its first part has come to. -/
theorem outcome_append_of_steps (h : s.steps before = .ok s') :
    s.outcome (before ++ after) = s'.outcome after := by
  rw [outcome, steps_append, h]
  rfl

theorem steps_append_of_steps (h : s.steps before = .ok s') :
    s.steps (before ++ after) = s'.steps after := by
  rw [steps_append, h]
  rfl

theorem steps_cons_of_step (h : s.step c = .ok s') : s.steps (c :: chars) = s'.steps chars := by
  rw [steps, List.foldlM_cons, h]
  rfl

/-! ### One character -/

/-- A quote between tokens opens a phrase, as does one that ends a run. -/
theorem step_quote (hs : s.MayStop) (hq : q = .single → s.place = .gap) :
    ∃ tokens, s.step q.char = .ok ⟨s.column + 1, tokens, .phrase q s.column []⟩ := by
  have hquote : Quote.ofChar? q.char = some q := Quote.ofChar?_eq_some_iff.2 rfl
  rcases hs with hgap | ⟨start, cs, hrun⟩
  · exact ⟨s.tokens, by simp [step, hgap, stepGap, isWhitespace_quote, hquote]⟩
  · have hdouble : q = .double := by
      cases q with
      | single => rw [hq rfl] at hrun; cases hrun
      | double => rfl
    subst hdouble
    exact ⟨.ofRun cs.reverse start :: s.tokens, by
      simp [step, hrun, isTermChar_double, stepGap, isWhitespace_quote, hquote]⟩

/-- A stray character ends the tokens. -/
theorem step_stray (hs : s.MayStop) (hc : IsStray c) :
    ∃ tokens place, s.step c = stepStray ⟨s.column, tokens, place⟩ c := by
  have hquote : Quote.ofChar? c = none := by
    cases h : Quote.ofChar? c with
    | none => rfl
    | some q => exact absurd (Quote.ofChar?_eq_some_iff.1 h) (hc.quote q)
  have hsymbol : Symbol.ofChar? c = none := by
    cases h : Symbol.ofChar? c with
    | none => rfl
    | some sym => exact absurd (Symbol.ofChar?_eq_some_iff.1 h) (hc.symbol sym)
  rcases hs with hgap | ⟨start, cs, hrun⟩
  · exact ⟨s.tokens, s.place, by
      simp [step, hgap, stepGap, hc.whitespace, hquote, hc.term, hsymbol, stepStray]⟩
  · exact ⟨.ofRun cs.reverse start :: s.tokens, s.place, by
      simp [step, hrun, hc.term, stepGap, hc.whitespace, hquote, hsymbol]⟩

/-- Between tokens all other characters leave a scan where it may stop. -/
theorem stepGap_cases (s : Scan) (c : Char) :
    (∃ s', s.stepGap c = .ok s' ∧ s'.MayStop) ∨ (∃ q : Quote, c = q.char) ∨ IsStray c := by
  unfold stepGap
  cases hw : isWhitespace c with
  | true => exact .inl ⟨_, rfl, .inl rfl⟩
  | false =>
    cases hq : Quote.ofChar? c with
    | some q => exact .inr (.inl ⟨q, Quote.ofChar?_eq_some_iff.1 hq⟩)
    | none =>
      cases ht : isTermChar c with
      | true => exact .inl ⟨_, rfl, .inr ⟨_, _, rfl⟩⟩
      | false =>
        cases hsym : Symbol.ofChar? c with
        | some sym => exact .inl ⟨_, rfl, .inl rfl⟩
        | none =>
          refine .inr (.inr ⟨hw, fun q h => ?_, ht, fun sym h => ?_⟩)
          · cases hq.symm.trans (Quote.ofChar?_eq_some_iff.2 h)
          · cases hsym.symm.trans (Symbol.ofChar?_eq_some_iff.2 h)

/-- **One character takes a scan that may stop** to another, into a phrase, or behind a
stray character. -/
theorem step_cases (hs : s.MayStop) (c : Char) :
    (∃ s', s.step c = .ok s' ∧ s'.MayStop) ∨
      (∃ q : Quote, c = q.char ∧ (q = .single → s.place = .gap)) ∨ IsStray c := by
  rcases hs with hgap | ⟨start, cs, hrun⟩
  · have hstep : s.step c = s.stepGap c := by simp [step, hgap]
    rw [hstep]
    rcases stepGap_cases s c with hok | ⟨q, rfl⟩ | hc
    · exact .inl hok
    · exact .inr (.inl ⟨q, rfl, fun _ => hgap⟩)
    · exact .inr (.inr hc)
  · cases ht : isTermChar c with
    | true => exact .inl ⟨_, by simp [step, hrun, ht]; rfl, .inr ⟨start, c :: cs, rfl⟩⟩
    | false =>
      have hstep : s.step c
          = stepGap { s with tokens := .ofRun cs.reverse start :: s.tokens } c := by
        simp [step, hrun, ht]
      rw [hstep]
      rcases stepGap_cases _ c with hok | ⟨q, rfl⟩ | hc
      · exact .inl hok
      · -- the single quote is a character of a term
        refine .inr (.inl ⟨q, rfl, ?_⟩)
        rintro rfl
        rw [isTermChar_single] at ht
        cases ht
      · exact .inr (.inr hc)

/-- A phrase goes on up to its quote. -/
theorem step_phrase_of_ne {tokens : List Token} {content : List Char} (h : c ≠ q.char) :
    step ⟨column, tokens, .phrase q opened content⟩ c
      = .ok ⟨column + 1, tokens, .phrase q opened (c :: content)⟩ := by
  simp [step, h]

/-- A phrase that is closed leaves the scan between tokens. -/
theorem steps_phrase {tokens : List Token} {content : List Char} (h : q.char ∉ chars) :
    ∃ s', steps ⟨column, tokens, .phrase q opened content⟩ (chars ++ [q.char]) = .ok s' ∧
      s'.MayStop := by
  induction chars generalizing column content with
  | nil =>
    have hstep : step ⟨column, tokens, .phrase q opened content⟩ q.char
        = .ok ⟨column + 1, .ofPhrase q content.reverse opened :: tokens, .gap⟩ := by
      simp [step]
    exact ⟨_, steps_cons_of_step hstep, .inl rfl⟩
  | cons c chars ih =>
    rw [List.mem_cons, not_or] at h
    rw [List.cons_append, steps_cons_of_step (step_phrase_of_ne (Ne.symm h.1))]
    exact ih h.2

/-! ### Scans that fail -/

/-- A phrase that nothing closes. -/
theorem outcome_phrase_of_notMem {tokens : List Token} {content : List Char}
    (h : q.char ∉ chars) :
    outcome ⟨column, tokens, .phrase q opened content⟩ chars
      = .error (.unterminatedPhrase opened) := by
  induction chars generalizing column content with
  | nil => rfl
  | cons c chars ih =>
    rw [List.mem_cons, not_or] at h
    rw [outcome_cons_of_step (step_phrase_of_ne (Ne.symm h.1))]
    exact ih h.2

/-- What is reported where the characters from `column` on start with a stray one: the
first that is no white space in the widest sense. -/
def strayFault (column : Nat) (chars : List Char) : LexicalFault :=
  .unexpectedCharacter (chars.dropWhile isBlank).head? (column + (chars.takeWhile isBlank).length)

theorem strayFault_cons_of_isBlank (hc : isBlank c = true) :
    strayFault column (c :: chars) = strayFault (column + 1) chars := by
  simp [strayFault, hc, Nat.add_assoc, Nat.add_comm 1]

theorem strayFault_cons_of_not_isBlank (hc : isBlank c = false) :
    strayFault column (c :: chars) = .unexpectedCharacter (some c) column := by
  simp [strayFault, hc]

/-- Behind a stray character no token is found any more. -/
theorem outcome_of_stepStray {s : Scan} {column : Nat} {tokens : List Token} {place : Place}
    {c : Char} {chars : List Char} (h : s.step c = stepStray ⟨column, tokens, place⟩ c) :
    s.outcome (c :: chars) = .error (strayFault column (c :: chars)) := by
  cases hc : isBlank c with
  | false =>
    have hnext : s.step c = .error (.unexpectedCharacter (some c) column) := by
      simp [h, stepStray, hc]
    rw [outcome_cons_of_error hnext, strayFault_cons_of_not_isBlank hc]
  | true =>
    have hnext : s.step c = .ok ⟨column + 1, tokens, .stray⟩ := by simp [h, stepStray, hc]
    rw [outcome_cons_of_step hnext, strayFault_cons_of_isBlank hc]
    cases chars with
    | nil => rfl
    | cons d chars => exact outcome_of_stepStray rfl
termination_by chars

/-- `s.ComesToBreak chars`: the scan comes to where it may stop, and there to a quote that
nothing closes or to a stray character. -/
def ComesToBreak (s : Scan) (chars : List Char) : Prop :=
  ∃ before c after s', chars = before ++ c :: after ∧ s.steps before = .ok s' ∧ s'.MayStop ∧
    ((∃ q : Quote, c = q.char ∧ q.char ∉ after ∧ (q = .single → s'.place = .gap)) ∨ IsStray c)

theorem ComesToBreak.append (hfirst : s.steps before = .ok s') (h : s'.ComesToBreak after) :
    s.ComesToBreak (before ++ after) := by
  obtain ⟨between, c, rest, s'', rfl, hsteps, hstop, hbreak⟩ := h
  refine ⟨before ++ between, c, rest, s'', by rw [List.append_assoc], ?_, hstop, hbreak⟩
  rw [steps_append_of_steps hfirst, hsteps]

/-- **A scan that fails has come to a break.** -/
theorem outcome_cases (hs : s.MayStop) (chars : List Char) :
    (∃ ts, s.outcome chars = .ok ts) ∨ s.ComesToBreak chars := by
  -- a phrase takes many characters at a time, so the induction is on their number
  induction hn : chars.length using Nat.strongRecOn generalizing s chars with
  | ind n ih =>
    have hbehind {first rest : List Char} {s' : Scan} (hfirst : s.steps first = .ok s')
        (hs' : s'.MayStop) (hlt : rest.length < n) :
        (∃ ts, s.outcome (first ++ rest) = .ok ts) ∨ s.ComesToBreak (first ++ rest) := by
      rcases ih rest.length hlt hs' rest rfl with ⟨ts, hts⟩ | hbreak
      · exact .inl ⟨ts, by rw [outcome_append_of_steps hfirst, hts]⟩
      · exact .inr (.append hfirst hbreak)
    cases chars with
    | nil => exact .inl (exists_finish_iff.2 hs)
    | cons c chars =>
      rw [List.length_cons] at hn
      rcases step_cases hs c with ⟨s', hstep, hs'⟩ | ⟨q, rfl, hq⟩ | hc
      · have hfirst : s.steps [c] = .ok s' := steps_cons_of_step hstep
        exact hbehind hfirst hs' (by omega)
      · by_cases hclosed : q.char ∈ chars
        · obtain ⟨content, rest, rfl, hcontent⟩ := List.eq_append_cons_of_mem hclosed
          obtain ⟨tokens, hstep⟩ := step_quote hs hq
          obtain ⟨s', hphrase, hs'⟩ := steps_phrase hcontent
          have hfirst : s.steps (q.char :: (content ++ [q.char])) = .ok s' := by
            rw [steps_cons_of_step hstep, hphrase]
          have hchars : q.char :: (content ++ q.char :: rest)
              = q.char :: (content ++ [q.char]) ++ rest := by simp
          rw [hchars]
          refine hbehind hfirst hs' ?_
          rw [List.length_append, List.length_cons] at hn
          omega
        · exact .inr ⟨[], q.char, chars, s, rfl, rfl, hs, .inl ⟨q, rfl, hclosed, hq⟩⟩
      · exact .inr ⟨[], c, chars, s, rfl, rfl, hs, .inr hc⟩

/-! ### Runs and what stands behind them -/

/-- `s.Tracks n`: a scan of `n` characters, which keeps something behind each run that it
has completed, and nothing behind one that it is in. -/
structure Tracks (s : Scan) (n : Nat) : Prop where
  column : s.column = n
  behind : ∀ t ∈ s.tokens, t.kind.IsRun → t.column + t.text.length < n
  inside : ∀ opened cs, s.place = .run opened cs → opened + cs.length = n

theorem tracks_start : start.Tracks 0 := ⟨rfl, by simp [start], by simp [start]⟩

/-- A token that is no run may be put in front of others that end before a column. -/
theorem behind_cons {n : Nat} {t : Token} (ht : ¬ t.kind.IsRun)
    (h : ∀ u ∈ ts, u.kind.IsRun → u.column + u.text.length < n) :
    ∀ u ∈ t :: ts, u.kind.IsRun → u.column + u.text.length < n := by
  intro u hu hk
  rcases List.mem_cons.1 hu with rfl | hu
  · exact absurd hk ht
  · exact h u hu hk

/-- A character behind the last token. -/
theorem tracks_of_stepStray {n : Nat} (hcolumn : s.column = n)
    (hlt : ∀ t ∈ s.tokens, t.kind.IsRun → t.column + t.text.length < n + 1)
    (h : s.stepStray c = .ok s') : s'.Tracks (n + 1) := by
  unfold stepStray at h
  split at h
  · obtain rfl := Except.ok.inj h
    exact ⟨congrArg (· + 1) hcolumn, hlt, by simp⟩
  · cases h

/-- A character between tokens comes to stand behind the runs in front of it. -/
theorem tracks_of_stepGap {n : Nat} (hcolumn : s.column = n)
    (hbehind : ∀ t ∈ s.tokens, t.kind.IsRun → t.column + t.text.length ≤ n)
    (h : s.stepGap c = .ok s') : s'.Tracks (n + 1) := by
  have hlt : ∀ t ∈ s.tokens, t.kind.IsRun → t.column + t.text.length < n + 1 :=
    fun t ht hk => Nat.lt_succ_of_le (hbehind t ht hk)
  subst hcolumn
  unfold stepGap at h
  split at h
  · obtain rfl := Except.ok.inj h
    exact ⟨rfl, hlt, by simp⟩
  · split at h
    · obtain rfl := Except.ok.inj h
      exact ⟨rfl, hlt, by simp⟩
    · split at h
      · obtain rfl := Except.ok.inj h
        refine ⟨rfl, hlt, ?_⟩
        rintro opened cs ⟨⟩
        rfl
      · split at h
        · obtain rfl := Except.ok.inj h
          exact ⟨rfl, behind_cons (by rintro (hk | hk | hk) <;> cases hk) hlt, by simp⟩
        · exact tracks_of_stepStray rfl hlt h

/-- **One character keeps track.** -/
theorem Tracks.step {n : Nat} (ht : s.Tracks n) (h : s.step c = .ok s') : s'.Tracks (n + 1) := by
  have hlt : ∀ t ∈ s.tokens, t.kind.IsRun → t.column + t.text.length < n + 1 :=
    fun t hmem hk => Nat.lt_succ_of_lt (ht.behind t hmem hk)
  have hcolumn := ht.column
  unfold Scan.step at h
  split at h
  · exact tracks_of_stepGap hcolumn (fun t hmem hk => Nat.le_of_lt (ht.behind t hmem hk)) h
  · next opened cs hplace =>
    have hinside := ht.inside opened cs hplace
    split at h
    · obtain rfl := Except.ok.inj h
      refine ⟨congrArg (· + 1) hcolumn, hlt, ?_⟩
      rintro opened' cs' ⟨⟩
      rw [List.length_cons]
      omega
    · -- the run is completed, and the character stands behind it
      refine tracks_of_stepGap ?_ ?_ h
      · exact hcolumn
      intro t hmem hk
      rcases List.mem_cons.1 hmem with rfl | hmem
      · show opened + (String.ofList cs.reverse).length ≤ n
        rw [String.length_ofList, List.length_reverse]
        omega
      · exact Nat.le_of_lt (ht.behind t hmem hk)
  · split at h
    · obtain rfl := Except.ok.inj h
      refine ⟨congrArg (· + 1) hcolumn, behind_cons ?_ hlt, by simp⟩
      rintro (hk | hk | hk) <;> cases hk
    · obtain rfl := Except.ok.inj h
      exact ⟨congrArg (· + 1) hcolumn, hlt, by simp⟩
  · exact tracks_of_stepStray hcolumn hlt h

/-- A scan keeps track of all its characters. -/
theorem Tracks.steps {n : Nat} (ht : s.Tracks n) (h : s.steps chars = .ok s') :
    s'.Tracks (n + chars.length) := by
  induction chars generalizing s n with
  | nil =>
    obtain rfl := Except.ok.inj h
    exact ht
  | cons c chars ih =>
    cases hstep : s.step c with
    | error fault =>
      rw [Scan.steps, List.foldlM_cons, hstep] at h
      cases h
    | ok next =>
      rw [steps_cons_of_step hstep] at h
      rw [List.length_cons, Nat.add_comm chars.length, ← Nat.add_assoc]
      exact ih (ht.step hstep) h

theorem tracks_of_steps (h : start.steps chars = .ok s) : s.Tracks chars.length := by
  have htracks := tracks_start.steps h
  rwa [Nat.zero_add] at htracks

/-- **The tokens of a text tell whether it ends in a run.** -/
theorem endsRun_iff (hs : start.steps chars = .ok s) (hts : s.finish = .ok ts) :
    EndsRun ts chars.length ↔ s.place ≠ .gap := by
  have htracks := tracks_of_steps hs
  rcases exists_finish_iff.1 ⟨ts, hts⟩ with hgap | ⟨opened, cs, hrun⟩
  · rw [finish, hgap] at hts
    obtain rfl := Except.ok.inj hts
    refine iff_of_false ?_ (absurd hgap)
    rintro ⟨t, hmem, hk, hend⟩
    have := htracks.behind t (List.mem_reverse.1 hmem) hk
    omega
  · rw [finish, hrun] at hts
    obtain rfl := Except.ok.inj hts
    refine iff_of_true ?_ (by simp [hrun])
    refine ⟨.ofRun cs.reverse opened, by simp, Token.isRun_ofRun _ _, ?_⟩
    show opened + (String.ofList cs.reverse).length = chars.length
    rw [String.length_ofList, List.length_reverse]
    exact htracks.inside opened cs hrun

end Scan

/-! ### Breaks and faults -/

/-- A phrase that nothing closes is reported where it is opened. -/
theorem Unclosed.tokensOf_eq (h : Unclosed q chars p) :
    tokensOf chars = .error (.unterminatedPhrase p) := by
  obtain ⟨ts, hts, hrun⟩ := h.tokens
  obtain ⟨s, hs, hfinish⟩ := Scan.exists_steps_of_tokensOf hts
  have hlength := length_take_of_getElem? h.here
  have htracks := Scan.tracks_of_steps hs
  have hends := Scan.endsRun_iff hs hfinish
  rw [hlength] at hends htracks
  obtain ⟨tokens, hstep⟩ := Scan.step_quote (q := q) (Scan.exists_finish_iff.1 ⟨ts, hfinish⟩)
    fun hq => Classical.not_not.1 fun hgap => hrun hq (hends.2 hgap)
  show Scan.start.outcome chars = _
  rw [eq_take_append_drop h.here, Scan.outcome_append_of_steps hs,
    Scan.outcome_cons_of_step hstep, Scan.outcome_phrase_of_notMem h.never, htracks.column]

/-- A stray character is reported behind the white space in the widest sense that starts
with it. -/
theorem Stray.tokensOf_eq (h : Stray c chars p) :
    tokensOf chars = .error (Scan.strayFault p (chars.drop p)) := by
  obtain ⟨ts, hts⟩ := h.tokens
  obtain ⟨s, hs, hfinish⟩ := Scan.exists_steps_of_tokensOf hts
  have htracks := Scan.tracks_of_steps hs
  rw [length_take_of_getElem? h.here] at htracks
  obtain ⟨tokens, place, hstep⟩ :=
    Scan.step_stray (Scan.exists_finish_iff.1 ⟨ts, hfinish⟩) h.stray
  rw [htracks.column] at hstep
  obtain ⟨hlt, hc⟩ := List.getElem?_eq_some_iff.1 h.here
  have hdrop : chars.drop p = c :: chars.drop (p + 1) := by
    rw [List.drop_eq_getElem_cons hlt, hc]
  rw [hdrop]
  show Scan.start.outcome chars = _
  conv => lhs; rw [eq_take_append_drop h.here]
  rw [Scan.outcome_append_of_steps hs, Scan.outcome_of_stepStray hstep]

theorem Breaks.exists_fault (h : Breaks chars p) : ∃ fault, tokensOf chars = .error fault := by
  rcases h with ⟨q, h⟩ | ⟨c, h⟩
  · exact ⟨_, h.tokensOf_eq⟩
  · exact ⟨_, h.tokensOf_eq⟩

/-- **A text that has no tokens breaks.** -/
theorem exists_breaks (h : tokensOf chars = .error fault) : ∃ p, Breaks chars p := by
  rcases Scan.outcome_cases Scan.mayStop_start chars with
    ⟨ts, hts⟩ | ⟨before, c, after, s, rfl, hs, hstop, hbreak⟩
  · cases h.symm.trans hts
  have hhere : (before ++ c :: after)[before.length]? = some c := by simp
  have htake : (before ++ c :: after).take before.length = before := by simp
  have hdrop : (before ++ c :: after).drop (before.length + 1) = after := by simp
  obtain ⟨ts, hfinish⟩ := Scan.exists_finish_iff.2 hstop
  have hts : tokensOf before = .ok ts := by rw [Scan.tokensOf_of_steps hs, hfinish]
  rw [← htake] at hts
  refine ⟨before.length, ?_⟩
  rcases hbreak with ⟨q, rfl, hnever, hgap⟩ | hc
  · refine .inl ⟨q, hhere, hdrop.symm ▸ hnever, ts, hts, fun hq hends => ?_⟩
    exact (Scan.endsRun_iff hs hfinish).1 hends (hgap hq)
  · exact .inr ⟨c, hhere, hc, ts, hts⟩

/-- **There is one break only**, since what stands in front of it has tokens. -/
theorem Breaks.unique (h : Breaks chars p) (h' : Breaks chars p') : p = p' := by
  have hnot {p p' : Nat} (h : Breaks chars p) (h' : Breaks chars p') : ¬ p < p' := by
    intro hlt
    obtain ⟨fault, hfault⟩ := (h.take hlt).exists_fault
    obtain ⟨ts, hts⟩ := h'.exists_tokens
    cases hfault.symm.trans hts
  have := hnot h h'
  have := hnot h' h
  omega

/-! ### What is reported -/

/-- `IsFirstVisible chars p column`: from `p` on, the first character that is no white space
in the widest sense is the one at `column`, which is the end of the text if there is none. -/
structure IsFirstVisible (chars : List Char) (p column : Nat) : Prop where
  le : p ≤ column
  le_length : column ≤ chars.length
  blank : ∀ i, p ≤ i → i < column → ∃ c ∈ chars[i]?, isBlank c = true
  visible : ∀ c ∈ chars[column]?, isBlank c = false

/-- The fault names the first visible character. -/
theorem exists_isFirstVisible (hp : p ≤ chars.length) :
    ∃ column, IsFirstVisible chars p column ∧
      Scan.strayFault p (chars.drop p) = .unexpectedCharacter chars[column]? column := by
  obtain ⟨before, rest, rfl, rfl⟩ : ∃ before rest, chars = before ++ rest ∧ p = before.length :=
    ⟨chars.take p, chars.drop p, (List.take_append_drop p chars).symm, by
      rw [List.length_take, Nat.min_eq_left hp]⟩
  let gap := rest.takeWhile isBlank
  let visible := rest.dropWhile isBlank
  have hrest : rest = gap ++ visible := List.takeWhile_append_dropWhile.symm
  have hhere : (before ++ rest)[before.length + gap.length]? = visible.head? := by
    rw [hrest, ← List.append_assoc, ← List.length_append,
      List.getElem?_append_right (Nat.le_refl _), Nat.sub_self, List.head?_eq_getElem?]
  refine ⟨before.length + gap.length, ⟨Nat.le_add_right _ _, ?_, fun i hle hlt => ?_, ?_⟩, ?_⟩
  · rw [hrest, List.length_append, List.length_append]
    omega
  · have hi : i - before.length < gap.length := by omega
    refine ⟨gap[i - before.length], ?_, List.all_eq_true.1 List.all_takeWhile _
      (List.getElem_mem hi)⟩
    rw [List.getElem?_append_right hle, hrest, List.getElem?_append_left hi]
    exact List.getElem?_eq_getElem hi
  · intro c hc
    rw [hhere] at hc
    have hnot := List.head?_dropWhile_not isBlank rest
    rw [Option.mem_def.1 hc] at hnot
    exact hnot
  · rw [hhere, List.drop_left]
    rfl

/-- **A text has no tokens just if it breaks, and the break tells the report.**  It breaks
where a quote opens a phrase that nothing closes, or where a character starts no token,
behind a text that has tokens; and at one place only.  The one is reported as an
unterminated phrase, where it is opened; the other as an unexpected character, which is
the first one from there on that is no white space in the widest sense, or none at the
end of the text. -/
theorem tokenize_eq_error_iff (text : String) :
    ((∃ fault, tokenize text = .error fault) ↔ ∃ p, Breaks text.toList p) ∧
    (∀ p p', Breaks text.toList p → Breaks text.toList p' → p = p') ∧
    (∀ q p, Unclosed q text.toList p → ∃ fault, tokenize text = .error fault ∧
      fault.report = ⟨"Unterminated phrase", some p⟩) ∧
    (∀ c p, Stray c text.toList p → ∃ fault column, tokenize text = .error fault ∧
      IsFirstVisible text.toList p column ∧
      fault.report = ⟨"Unexpected character " ++
        quoted (String.ofList ((text.toList.drop column).take 1)), some column⟩) := by
  refine ⟨⟨?_, ?_⟩, fun p p' => Breaks.unique, fun q p h => ?_, fun c p h => ?_⟩
  · rintro ⟨fault, hfault⟩
    exact exists_breaks hfault
  · rintro ⟨p, h⟩
    exact h.exists_fault
  · exact ⟨_, h.tokensOf_eq, rfl⟩
  · obtain ⟨hlt, -⟩ := List.getElem?_eq_some_iff.1 h.here
    obtain ⟨column, hvisible, hfault⟩ := exists_isFirstVisible (Nat.le_of_lt hlt)
    refine ⟨_, column, h.tokensOf_eq, hvisible, ?_⟩
    have hslice : (text.toList.drop column).take 1 = text.toList[column]?.toList := by
      rw [← List.head?_drop]
      cases text.toList.drop column <;> rfl
    rw [hfault, hslice]
    rfl

/-- A quote inside a term opens nothing, and one behind white space does. -/
theorem tokenize_eq_error_iff_apostrophe :
    Unclosed .single "o'b 'tis".toList 4 ∧ (∀ p, Breaks "o'b 'tis".toList p → p = 4) ∧
      ∃ fault, tokenize "o'b 'tis" = .error fault ∧
        fault.report = ⟨"Unterminated phrase", some 4⟩ := by
  have hruns : ¬ EndsRun [.ofRun ['o', '\'', 'b'] 0] 4 := by
    rintro ⟨t, ht, -, hend⟩
    obtain rfl := List.mem_singleton.1 ht
    exact absurd hend (by decide)
  have hbreak : Unclosed .single "o'b 'tis".toList 4 :=
    ⟨rfl, by decide, [.ofRun ['o', '\'', 'b'] 0], rfl, fun _ => hruns⟩
  obtain ⟨-, hunique, hreport, -⟩ := tokenize_eq_error_iff "o'b 'tis"
  exact ⟨hbreak, fun p hp => hunique p 4 hp (.inl ⟨_, hbreak⟩), hreport _ _ hbreak⟩

/-! ### The character that is named -/

/-- The white space in the widest sense that is none between tokens. -/
def informationSeparators : List Char := ['\x1c', '\x1d', '\x1e', '\x1f']

theorem isWhitespace_or_mem_of_isBlank (h : isBlank c = true) :
    isWhitespace c = true ∨ c ∈ informationSeparators := by
  have htable : blank.toList.all (fun r => (List.range' r.1 (r.2 - r.1 + 1)).all fun n =>
      isWhitespace (Char.ofNat n) || informationSeparators.contains (Char.ofNat n)) = true := by
    decide +kernel
  rw [isBlank, Ranges.contains_eq_any] at h
  obtain ⟨r, hr, hc⟩ := List.any_eq_true.1 h
  simp only [Bool.and_eq_true, decide_eq_true_eq] at hc
  have hn := List.all_eq_true.1 (List.all_eq_true.1 htable r hr) c.toNat (by
    rw [List.mem_range'_1]
    omega)
  simpa [Char.ofNat_toNat] using hn

theorem isBlank_of_mem_informationSeparators (h : c ∈ informationSeparators) :
    isBlank c = true :=
  List.all_eq_true.1 (by decide : informationSeparators.all isBlank = true) c h

/-- A character that starts no token starts none whatever stands behind it. -/
theorem Stray.append (h : Stray c chars p) (more : List Char) :
    Stray c (chars.take (p + 1) ++ more) p := by
  obtain ⟨hlt, -⟩ := List.getElem?_eq_some_iff.1 h.here
  have hlength : (chars.take (p + 1)).length = p + 1 := by
    rw [List.length_take]
    omega
  have hhere : (chars.take (p + 1) ++ more)[p]? = chars[p]? := by
    rw [List.getElem?_append_left (by omega), List.getElem?_take_of_lt (Nat.lt_succ_self p)]
  have htake : (chars.take (p + 1) ++ more).take p = chars.take p := by
    rw [List.take_append_of_le_length (by omega), List.take_take, Nat.min_eq_left (by omega)]
  exact ⟨hhere.trans h.here, h.stray, htake.symm ▸ h.tokens⟩

/-- **A stray character is named in its report, unless it is an information separator.**
Where a character is reported as unexpected, the text in front of some place has tokens,
the character there starts none, and no text that starts so has any.  If it is no
information separator, it is the one that is reported, at its column.  If it is one, the
report is of a later column, and the text in front of that has no tokens. -/
theorem unexpectedCharacter_names_stray {text : String} {found : Option Char} {column : Nat}
    (h : tokenize text = .error (.unexpectedCharacter found column)) :
    ∃ p c, Stray c text.toList p ∧
      (∀ more, ∃ fault, tokensOf (text.toList.take (p + 1) ++ more) = .error fault) ∧
      (c ∉ informationSeparators → column = p ∧ found = some c) ∧
      (c ∈ informationSeparators →
        p < column ∧ ∃ fault, tokensOf (text.toList.take column) = .error fault) := by
  obtain ⟨p, hbreaks⟩ := exists_breaks h
  rcases id hbreaks with ⟨q, hq⟩ | ⟨c, hc⟩
  · cases hq.tokensOf_eq.symm.trans h
  obtain ⟨hlt, hhere⟩ := List.getElem?_eq_some_iff.1 hc.here
  have hfault : Scan.strayFault p (c :: text.toList.drop (p + 1))
      = .unexpectedCharacter found column := by
    rw [← hhere, ← List.drop_eq_getElem_cons hlt]
    exact Except.error.inj (hc.tokensOf_eq.symm.trans h)
  refine ⟨p, c, hc, fun more => ⟨_, (hc.append more).tokensOf_eq⟩, fun hmem => ?_, fun hmem => ?_⟩
  · have hblank : isBlank c = false := by
      cases hb : isBlank c with
      | false => rfl
      | true =>
        rcases isWhitespace_or_mem_of_isBlank hb with hw | hsep
        · rw [hc.stray.whitespace] at hw
          cases hw
        · exact absurd hsep hmem
    rw [Scan.strayFault_cons_of_not_isBlank hblank] at hfault
    obtain ⟨hfound, hcolumn⟩ := LexicalFault.unexpectedCharacter.inj hfault
    exact ⟨hcolumn.symm, hfound.symm⟩
  · rw [Scan.strayFault_cons_of_isBlank (isBlank_of_mem_informationSeparators hmem)] at hfault
    obtain ⟨-, hcolumn⟩ := LexicalFault.unexpectedCharacter.inj hfault
    have hbehind : p < column := by omega
    exact ⟨hbehind, (hbreaks.take hbehind).exists_fault⟩

/-- A comma is named, at its column. -/
theorem unexpectedCharacter_names_stray_comma :
    tokenize "cat,  dog" = .error (.unexpectedCharacter (some ',') 3) ∧
      Stray ',' "cat,  dog".toList 3 ∧
      ∀ more, ∃ fault, tokensOf ("cat,".toList ++ more) = .error fault := by
  have htok : tokenize "cat,  dog" = .error (.unexpectedCharacter (some ',') 3) := rfl
  obtain ⟨p, c, hstray, hnone, hnamed, hskipped⟩ := unexpectedCharacter_names_stray htok
  have hmem : c ∉ informationSeparators := by
    intro hmem
    -- in front of the comma there is a token
    obtain ⟨-, fault, hfault⟩ := hskipped hmem
    have hcat : tokensOf ("cat,  dog".toList.take 3) = .ok [.ofRun ['c', 'a', 't'] 0] := rfl
    cases hfault.symm.trans hcat
  obtain ⟨rfl, hc⟩ := hnamed hmem
  obtain rfl := Option.some.inj hc
  exact ⟨htok, hstray, hnone⟩

/-- **A stray character is not always named.**  An information separator between two terms
starts no token, and the term behind it is reported. -/
theorem not_unexpectedCharacter_names :
    ¬ ∀ (text : String) (found : Option Char) (column : Nat),
      tokenize text = .error (.unexpectedCharacter found column) →
      column < text.length ∧ (∃ ts, tokensOf (text.toList.take column) = .ok ts) ∧
        ∃ c, text.toList[column]? = some c ∧ IsStray c ∧ found = some c ∧
          ∀ more, ∃ fault, tokensOf (text.toList.take (column + 1) ++ more) = .error fault := by
  intro hnamed
  have htok : tokenize "a\x1cb" = .error (.unexpectedCharacter (some 'b') 2) := rfl
  obtain ⟨-, -, c, -, hstray, hfound, -⟩ := hnamed _ _ _ htok
  obtain rfl := Option.some.inj hfound
  have hterm : isTermChar 'b' = true := by decide +kernel
  rw [hstray.term] at hterm
  cases hterm

end FullText
