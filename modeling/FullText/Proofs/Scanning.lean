/-
FullText/Proofs/Scanning.lean

The scan of a text and the layouts of it are one thing: a list of characters has
the tokens `ts` just where it is a layout of them.

Design.  `Scan.outcome` is a scan carried on to the end of the text.  From a
layout to its tokens, the outcome is pushed over white space, over the spelling
of one token and over what follows.  The way back goes by induction over the
characters, for a scan at any place: `Remainder` says what the characters that
are left must look like, seen from inside a run or a phrase.

The one delicate point is where a run ends.  White space between a run and the
next token is needed just when the next token would start with a character of a
term (`Layout.parted_iff`), which is when the scan would go on with the run.
-/
import FullText.Token.Layout

namespace FullText

open Unicode

variable {column start : Nat} {c : Char} {s gap rest chars : List Char}
variable {t : Token} {acc ts us : List Token}

/-! ### Spellings and their first characters -/

theorem isWhitespace_of_isTermChar (h : isTermChar c = true) : isWhitespace c = false := by
  cases hw : isWhitespace c with
  | false => rfl
  | true =>
    rw [isTermChar_of_isWhitespace hw] at h
    cases h

theorem isTermChar_quote_iff {q : Quote} : isTermChar q.char = true ↔ q = .single := by
  cases q with
  | single => simp [isTermChar_single]
  | double => simp [isTermChar_double]

theorem Kind.isRun_ofRun (text : String) : (Kind.ofRun text).IsRun := by
  unfold Kind.ofRun Kind.IsRun
  split
  · exact .inr (.inl rfl)
  · split
    · exact .inr (.inr rfl)
    · exact .inl rfl

namespace Token

theorem kind_ofRun (chars : List Char) (column : Nat) :
    (ofRun chars column).kind = .ofRun (String.ofList chars) := rfl

theorem text_ofRun (chars : List Char) (column : Nat) :
    (ofRun chars column).text = String.ofList chars := rfl

theorem text_ofPhrase (quote : Quote) (content : List Char) (column : Nat) :
    (ofPhrase quote content column).text = String.ofList content := rfl

theorem isRun_ofRun (chars : List Char) (column : Nat) : (ofRun chars column).kind.IsRun := by
  rw [kind_ofRun]
  exact Kind.isRun_ofRun (String.ofList chars)

end Token

/-- A token starts with a character that is no white space, and that is a character
of a term just if the token is a run or a phrase in single quotes. -/
theorem Spelling.exists_head (h : Spelling s t) :
    ∃ c s', s = c :: s' ∧ isWhitespace c = false ∧
      (isTermChar c = true ↔ t.kind.IsRun ∨ t.kind = .phrase .single) := by
  cases h with
  | @run s column h =>
    obtain ⟨⟨c, s', rfl, -⟩, hall⟩ := h
    have hc := hall c (by simp)
    exact ⟨c, s', rfl, isWhitespace_of_isTermChar hc,
      fun _ => .inl (Token.isRun_ofRun (c :: s') column), fun _ => hc⟩
  | @phrase q content column h =>
    refine ⟨q.char, content ++ [q.char], rfl, isWhitespace_quote q, ?_⟩
    rw [isTermChar_quote_iff]
    simp [Token.ofPhrase, Kind.IsRun]
  | @symbol sym column =>
    refine ⟨sym.char, [], rfl, isWhitespace_symbol sym, ?_⟩
    rw [isTermChar_symbol]
    simp [Token.ofSymbol, Kind.IsRun]

/-! ### Layouts -/

namespace Layout

/-- White space in front of a layout makes a layout. -/
theorem cons_whitespace (hc : isWhitespace c = true) (h : Layout (column + 1) chars ts) :
    Layout column (c :: chars) ts := by
  cases h with
  | finish hgap =>
    apply Layout.finish
    intro d hd
    rcases List.mem_cons.1 hd with rfl | hd
    · exact hc
    · exact hgap d hd
  | @token _ gap s rest t ts hgap hs hcolumn hparted hrest =>
    -- the gap in front of the first token grows, and its column stays where it was
    have hgap' : IsGap (c :: gap) := by
      intro d hd
      rcases List.mem_cons.1 hd with rfl | hd
      · exact hc
      · exact hgap d hd
    have hcolumn' : t.column = column + (c :: gap).length := by
      rw [hcolumn, List.length_cons]; omega
    exact .token hgap' hs hcolumn' hparted hrest

/-- A layout without tokens is white space. -/
theorem isGap_of_nil (h : Layout column chars []) : IsGap chars := by
  cases h with
  | finish h => exact h

/-- Each token of a layout is spelled in it. -/
theorem exists_spelling (h : Layout column chars ts) : ∀ t ∈ ts, ∃ s, Spelling s t := by
  induction h with
  | finish _ => simp
  | @token _ _ s _ t _ _ hs _ _ _ ih =>
    intro u hu
    rcases List.mem_cons.1 hu with rfl | hu
    · exact ⟨s, hs⟩
    · exact ih u hu

/-- **Where a run may end.**  What follows a run is parted from it as layouts
demand just if it does not start with a character of a term. -/
theorem parted_iff {k : Kind} (hk : k.IsRun) (h : Layout column rest ts) :
    (∀ u ∈ ts.head?, k.Clash u.kind → ∃ c ∈ rest.head?, isWhitespace c = true) ↔
      ∀ c ∈ rest.head?, isTermChar c = false := by
  cases h with
  | finish hgap =>
    have hhead : ∀ c ∈ rest.head?, isTermChar c = false := fun c hc =>
      isTermChar_of_isWhitespace (hgap c (List.mem_of_mem_head? hc))
    simpa using hhead
  | @token _ gap s rest t ts hgap hs _ _ _ =>
    cases gap with
    | cons g gap =>
      have hg : isWhitespace g = true := hgap g (by simp)
      simp [hg, isTermChar_of_isWhitespace hg]
    | nil =>
      -- the next token stands at once behind the run
      obtain ⟨c, s', rfl, hc, hterm⟩ := hs.exists_head
      have hclash : k.Clash t.kind ↔ isTermChar c = true := by
        rw [hterm]
        exact and_iff_right hk
      simp [hclash, hc]

/-- The spelling of a token in front of a layout, where a run ends with it. -/
theorem of_spelling (hs : Spelling s t)
    (hend : t.kind.IsRun → ∀ c ∈ rest.head?, isTermChar c = false)
    (hrest : Layout (t.column + s.length) rest ts) : Layout t.column (s ++ rest) (t :: ts) := by
  refine .token (fun c hc => absurd hc List.not_mem_nil) hs rfl ?_ hrest
  rintro u hu ⟨hrun, hclash⟩
  exact (hrest.parted_iff hrun).2 (hend hrun) u hu ⟨hrun, hclash⟩

theorem gap_append (hgap : IsGap gap) (h : Layout (column + gap.length) chars ts) :
    Layout column (gap ++ chars) ts := by
  induction gap generalizing column with
  | nil => exact h
  | cons c gap ih =>
    refine cons_whitespace (hgap c (by simp)) (ih (fun d hd => hgap d (by simp [hd])) ?_)
    rwa [List.length_cons, Nat.add_comm gap.length, ← Nat.add_assoc] at h

/-- A layout in front of another, which does not go on with a run. -/
theorem append (h : Layout column chars ts) (hrest : Layout (column + chars.length) rest us)
    (hhead : ∀ c ∈ rest.head?, isTermChar c = false) :
    Layout column (chars ++ rest) (ts ++ us) := by
  induction h with
  | finish hgap => exact hrest.gap_append hgap
  | @token column gap s more t ts hgap hs hcolumn hparted hmore ih =>
    rw [List.append_assoc, List.append_assoc]
    apply gap_append hgap
    rw [← hcolumn]
    refine of_spelling hs (fun hrun => ?_) (ih ?_)
    · -- the run ends in front of what was there, or of what is new
      cases more with
      | nil => exact hhead
      | cons d more => exact (hmore.parted_iff hrun).1 hparted
    · rw [List.length_append, List.length_append, ← Nat.add_assoc, ← Nat.add_assoc] at hrest
      rwa [hcolumn]

end Layout

/-! ### The outcome of a scan -/

namespace Scan

/-- What a scan comes to at the end of the given characters. -/
def outcome (scan : Scan) (chars : List Char) : Except LexicalFault (List Token) :=
  scan.steps chars >>= finish

theorem outcome_nil (scan : Scan) : scan.outcome [] = scan.finish := rfl

theorem outcome_cons (scan : Scan) (c : Char) (chars : List Char) :
    scan.outcome (c :: chars) = scan.step c >>= fun scan => scan.outcome chars := by
  unfold outcome steps
  rw [List.foldlM_cons, bind_assoc]

theorem outcome_cons_of_step {scan next : Scan} (h : scan.step c = .ok next) :
    scan.outcome (c :: chars) = next.outcome chars := by
  rw [outcome_cons, h]
  rfl

theorem outcome_cons_of_error {scan : Scan} {fault : LexicalFault}
    (h : scan.step c = .error fault) : scan.outcome (c :: chars) = .error fault := by
  rw [outcome_cons, h]
  rfl

/-! ### From a layout to its tokens -/

theorem outcome_gap (h : IsGap gap) :
    outcome ⟨column, acc, .gap⟩ (gap ++ rest) = outcome ⟨column + gap.length, acc, .gap⟩ rest := by
  induction gap generalizing column with
  | nil => rfl
  | cons c gap ih =>
    have hc : isWhitespace c = true := h c (by simp)
    have hstep : step ⟨column, acc, .gap⟩ c = .ok ⟨column + 1, acc, .gap⟩ := by
      simp [step, stepGap, hc]
    rw [List.cons_append, outcome_cons_of_step hstep, ih fun d hd => h d (by simp [hd]),
      List.length_cons, Nat.add_right_comm, Nat.add_assoc]

theorem outcome_run (h : ∀ c ∈ s, isTermChar c = true) :
    outcome ⟨column, acc, .run start chars⟩ (s ++ rest)
      = outcome ⟨column + s.length, acc, .run start (s.reverse ++ chars)⟩ rest := by
  induction s generalizing column chars with
  | nil => rfl
  | cons c s ih =>
    have hc : isTermChar c = true := h c (by simp)
    have hstep : step ⟨column, acc, .run start chars⟩ c
        = .ok ⟨column + 1, acc, .run start (c :: chars)⟩ := by
      simp [step, hc]
    rw [List.cons_append, outcome_cons_of_step hstep, ih fun d hd => h d (by simp [hd]),
      List.length_cons, Nat.add_right_comm, Nat.add_assoc, List.reverse_cons, List.append_assoc]
    rfl

/-- A run that does not go on is a token, and the scan is between tokens. -/
theorem outcome_run_end (h : ∀ c ∈ rest.head?, isTermChar c = false) :
    outcome ⟨column, acc, .run start chars⟩ rest
      = outcome ⟨column, .ofRun chars.reverse start :: acc, .gap⟩ rest := by
  cases rest with
  | nil => rfl
  | cons c rest =>
    have hc : isTermChar c = false := h c (by simp)
    -- the character that ends the run is looked at once more, between tokens
    have hstep : step ⟨column, acc, .run start chars⟩ c
        = step ⟨column, .ofRun chars.reverse start :: acc, .gap⟩ c := by
      simp only [step, hc]
      rfl
    rw [outcome_cons, outcome_cons, hstep]

theorem outcome_phrase {q : Quote} (h : q.char ∉ s) :
    outcome ⟨column, acc, .phrase q start chars⟩ (s ++ q.char :: rest)
      = outcome ⟨column + s.length + 1, .ofPhrase q (chars.reverse ++ s) start :: acc, .gap⟩
          rest := by
  induction s generalizing column chars with
  | nil =>
    have hstep : step ⟨column, acc, .phrase q start chars⟩ q.char
        = .ok ⟨column + 1, .ofPhrase q chars.reverse start :: acc, .gap⟩ := by
      simp [step]
    rw [List.nil_append, outcome_cons_of_step hstep, List.append_nil]
    rfl
  | cons c s ih =>
    have hc : ¬ c = q.char := fun hc => h (by simp [hc])
    have hstep : step ⟨column, acc, .phrase q start chars⟩ c
        = .ok ⟨column + 1, acc, .phrase q start (c :: chars)⟩ := by
      simp [step, hc]
    rw [List.cons_append, outcome_cons_of_step hstep, ih fun hs => h (by simp [hs]),
      List.length_cons, Nat.add_right_comm, ← Nat.add_assoc, List.reverse_cons,
      List.append_assoc]
    simp only [List.cons_append, List.nil_append, Nat.add_right_comm]

/-- The scan over the spelling of a token completes it, where a run does not go on
behind it. -/
theorem outcome_spelling (h : Spelling s t)
    (hrest : t.kind.IsRun → ∀ c ∈ rest.head?, isTermChar c = false) :
    outcome ⟨t.column, acc, .gap⟩ (s ++ rest)
      = outcome ⟨t.column + s.length, t :: acc, .gap⟩ rest := by
  cases h with
  | @run s column h =>
    obtain ⟨⟨c, s, rfl, hquote⟩, hall⟩ := h
    have hc : isTermChar c = true := hall c (by simp)
    have hnoquote : Quote.ofChar? c = none := by
      cases hq : Quote.ofChar? c with
      | none => rfl
      | some q =>
        -- a character of a term that is a quote is the single one, which starts no run
        have hcq := Quote.ofChar?_eq_some_iff.1 hq
        rw [hcq, isTermChar_quote_iff] at hc
        exact absurd (hc ▸ hcq) hquote
    have hstep : step ⟨column, acc, .gap⟩ c = .ok ⟨column + 1, acc, .run column [c]⟩ := by
      simp [step, stepGap, hc, hnoquote, isWhitespace_of_isTermChar hc]
    have hend := hrest (Token.isRun_ofRun (c :: s) column)
    show outcome ⟨column, acc, .gap⟩ (c :: (s ++ rest)) = _
    rw [outcome_cons_of_step hstep, outcome_run fun d hd => hall d (by simp [hd]),
      outcome_run_end hend]
    simp [Token.ofRun, Nat.add_assoc, Nat.add_comm 1]
  | @phrase q content column h =>
    have hquote : Quote.ofChar? q.char = some q := Quote.ofChar?_eq_some_iff.2 rfl
    have hstep : step ⟨column, acc, .gap⟩ q.char = .ok ⟨column + 1, acc, .phrase q column []⟩ := by
      simp [step, stepGap, isWhitespace_quote, hquote]
    show outcome ⟨column, acc, .gap⟩ (q.char :: content ++ [q.char] ++ rest) = _
    rw [List.cons_append, List.cons_append, List.append_assoc, List.singleton_append,
      outcome_cons_of_step hstep, outcome_phrase h]
    simp [Token.ofPhrase, Nat.add_comm, Nat.add_left_comm]
  | @symbol sym column =>
    have hnoquote : Quote.ofChar? sym.char = none := by cases sym <;> decide
    have hsym : Symbol.ofChar? sym.char = some sym := Symbol.ofChar?_eq_some_iff.2 rfl
    have hstep : step ⟨column, acc, .gap⟩ sym.char
        = .ok ⟨column + 1, .ofSymbol sym column :: acc, .gap⟩ := by
      simp [step, stepGap, isWhitespace_symbol, isTermChar_symbol, hnoquote, hsym]
    exact outcome_cons_of_step hstep

/-- **The scan of a layout finds its tokens.** -/
theorem outcome_of_layout (h : Layout column chars ts) :
    outcome ⟨column, acc, .gap⟩ chars = .ok (acc.reverse ++ ts) := by
  induction h generalizing acc with
  | @finish column gap hgap =>
    rw [← List.append_nil gap, outcome_gap hgap, outcome_nil, List.append_nil]
    rfl
  | @token column gap s rest t ts hgap hs hcolumn hparted hrest ih =>
    rw [List.append_assoc, outcome_gap hgap, ← hcolumn,
      outcome_spelling hs fun hk => (hrest.parted_iff hk).1 hparted, ih, List.reverse_cons,
      List.append_assoc]
    rfl

/-! ### From the outcome of a scan to a layout -/

/-- What one character between tokens can lead to. -/
theorem step_gap_cases {next : Scan} (h : step ⟨column, acc, .gap⟩ c = .ok next) :
    (isWhitespace c = true ∧ next = ⟨column + 1, acc, .gap⟩) ∨
    (∃ q : Quote, c = q.char ∧ next = ⟨column + 1, acc, .phrase q column []⟩) ∨
    (isTermChar c = true ∧ c ≠ Quote.single.char ∧ next = ⟨column + 1, acc, .run column [c]⟩) ∨
    (∃ sym : Symbol, c = sym.char ∧ next = ⟨column + 1, .ofSymbol sym column :: acc, .gap⟩) ∨
    next.place = .stray := by
  simp only [step, stepGap] at h
  split at h
  · next hw => exact .inl ⟨hw, (Except.ok.inj h).symm⟩
  · split at h
    · next q hq =>
      exact .inr (.inl ⟨q, Quote.ofChar?_eq_some_iff.1 hq, (Except.ok.inj h).symm⟩)
    · next hq =>
      split at h
      · next hterm =>
        refine .inr (.inr (.inl ⟨hterm, ?_, (Except.ok.inj h).symm⟩))
        rintro rfl
        rw [Quote.ofChar?_eq_some_iff.2 rfl] at hq
        cases hq
      · split at h
        · next sym hsym =>
          exact .inr (.inr (.inr (.inl
            ⟨sym, Symbol.ofChar?_eq_some_iff.1 hsym, (Except.ok.inj h).symm⟩)))
        · unfold stepStray at h
          split at h
          · exact .inr (.inr (.inr (.inr (by rw [← Except.ok.inj h]))))
          · cases h

/-- A scan behind a character that starts no token finds no tokens. -/
theorem outcome_stray {scan : Scan} (h : scan.place = .stray) :
    scan.outcome chars ≠ .ok ts := by
  induction chars generalizing scan with
  | nil => simp [outcome_nil, finish, h]
  | cons c chars ih =>
    have hstep : scan.step c = scan.stepStray c := by simp [step, h]
    cases hc : isBlank c with
    | true =>
      have hnext : scan.step c = .ok ⟨scan.column + 1, scan.tokens, .stray⟩ := by
        simp [hstep, stepStray, hc]
      rw [outcome_cons_of_step hnext]
      exact ih rfl
    | false =>
      have hnext : scan.step c = .error (.unexpectedCharacter (some c) scan.column) := by
        simp [hstep, stepStray, hc]
      rw [outcome_cons_of_error hnext]
      simp

/-- `Remainder place column chars ts`: from `place`, which is at `column`, the
characters go on to the tokens `ts`.  A run or a phrase is completed first. -/
inductive Remainder : Place → Nat → List Char → List Token → Prop
  | gap {column : Nat} {chars : List Char} {ts : List Token} (h : Layout column chars ts) :
    Remainder .gap column chars ts
  | run {column start : Nat} {before s rest : List Char} {ts : List Token}
      (hs : ∀ c ∈ s, isTermChar c = true) (hend : ∀ c ∈ rest.head?, isTermChar c = false)
      (hrest : Layout (column + s.length) rest ts) :
    Remainder (.run start before) column (s ++ rest) (.ofRun (before.reverse ++ s) start :: ts)
  | phrase {q : Quote} {column start : Nat} {before s rest : List Char} {ts : List Token}
      (hs : q.char ∉ s) (hrest : Layout (column + s.length + 1) rest ts) :
    Remainder (.phrase q start before) column (s ++ q.char :: rest)
      (.ofPhrase q (before.reverse ++ s) start :: ts)

/-- `Completes chars`: wherever a scan stands, if it comes to tokens over `chars`
then these go on from its place to the tokens it adds. -/
def Completes (chars : List Char) : Prop :=
  ∀ (scan : Scan) (ts : List Token), scan.outcome chars = .ok ts →
    ∃ us, ts = scan.tokens.reverse ++ us ∧ Remainder scan.place scan.column chars us

/-- Between tokens, by the first character. -/
theorem layout_of_completes (ih : Completes chars)
    (h : outcome ⟨column, acc, .gap⟩ (c :: chars) = .ok ts) :
    ∃ us, ts = acc.reverse ++ us ∧ Layout column (c :: chars) us := by
  cases hstep : step ⟨column, acc, .gap⟩ c with
  | error fault =>
    rw [outcome_cons_of_error hstep] at h
    cases h
  | ok next =>
    rw [outcome_cons_of_step hstep] at h
    obtain ⟨us, rfl, hrem⟩ := ih next ts h
    rcases step_gap_cases hstep with
      ⟨hw, rfl⟩ | ⟨q, rfl, rfl⟩ | ⟨hterm, hquote, rfl⟩ | ⟨sym, rfl, rfl⟩ | hstray
    · -- white space
      obtain ⟨hlayout⟩ := hrem
      exact ⟨us, rfl, hlayout.cons_whitespace hw⟩
    · -- a quote opens a phrase
      cases hrem with
      | @phrase _ _ _ _ s rest us hs hrest =>
        refine ⟨.ofPhrase q s column :: us, by simp, ?_⟩
        have hchars : q.char :: (s ++ q.char :: rest) = (q.char :: s ++ [q.char]) ++ rest := by
          simp
        rw [hchars]
        apply Layout.of_spelling (.phrase hs)
        · rintro (h | h | h) <;> cases h
        · rw [List.length_append, List.length_cons, List.length_singleton]
          simpa only [Token.ofPhrase, Nat.add_right_comm, ← Nat.add_assoc] using hrest
    · -- a character of a term starts a run
      cases hrem with
      | @run _ _ _ s rest us hs hend hrest =>
        refine ⟨.ofRun (c :: s) column :: us, by simp, ?_⟩
        have hrun : IsRun (c :: s) := by
          refine ⟨⟨c, s, rfl, hquote⟩, fun d hd => ?_⟩
          rcases List.mem_cons.1 hd with rfl | hd
          · exact hterm
          · exact hs d hd
        rw [← List.cons_append]
        apply Layout.of_spelling (.run hrun) (fun _ => hend)
        rw [List.length_cons]
        simpa only [Token.ofRun, Nat.add_right_comm, ← Nat.add_assoc] using hrest
    · -- a symbol
      obtain ⟨hlayout⟩ := hrem
      refine ⟨.ofSymbol sym column :: us, by simp, ?_⟩
      apply Layout.of_spelling .symbol _ hlayout
      rintro (h | h | h) <;> cases h
    · -- behind a character that starts no token there is nothing but faults
      exact absurd h (outcome_stray hstray)

namespace Remainder

/-- One more character of a run. -/
theorem cons_run {before : List Char} (hc : isTermChar c = true)
    (h : Remainder (.run start (c :: before)) (column + 1) chars us) :
    Remainder (.run start before) column (c :: chars) us := by
  cases h with
  | @run _ _ _ s rest us hs hend hrest =>
    have hs' : ∀ d ∈ c :: s, isTermChar d = true := by
      intro d hd
      rcases List.mem_cons.1 hd with rfl | hd
      · exact hc
      · exact hs d hd
    rw [List.reverse_cons, List.append_assoc, List.singleton_append, ← List.cons_append]
    apply Remainder.run hs' hend
    rwa [List.length_cons, ← Nat.add_assoc, Nat.add_right_comm]

/-- One more character of a phrase. -/
theorem cons_phrase {q : Quote} {before : List Char} (hc : c ≠ q.char)
    (h : Remainder (.phrase q start (c :: before)) (column + 1) chars us) :
    Remainder (.phrase q start before) column (c :: chars) us := by
  cases h with
  | @phrase _ _ _ _ s rest us hs hrest =>
    have hs' : q.char ∉ c :: s := by
      rw [List.mem_cons, not_or]
      exact ⟨fun hq => hc hq.symm, hs⟩
    rw [List.reverse_cons, List.append_assoc, List.singleton_append, ← List.cons_append]
    apply Remainder.phrase hs'
    rwa [List.length_cons, ← Nat.add_assoc, Nat.add_right_comm column]

/-- The end of a run. -/
theorem end_run {before : List Char} (hend : ∀ c ∈ rest.head?, isTermChar c = false)
    (h : Layout column rest ts) :
    Remainder (.run start before) column rest (.ofRun before.reverse start :: ts) := by
  rw [← List.append_nil before.reverse, ← List.nil_append rest]
  exact .run (fun c hc => absurd hc List.not_mem_nil) hend h

/-- The end of a phrase. -/
theorem end_phrase {q : Quote} {before : List Char} (h : Layout (column + 1) rest ts) :
    Remainder (.phrase q start before) column (q.char :: rest)
      (.ofPhrase q before.reverse start :: ts) := by
  rw [← List.append_nil before.reverse, ← List.nil_append (q.char :: rest)]
  exact .phrase List.not_mem_nil h

end Remainder

/-- **What a scan has found is what the characters spell**, from any place. -/
theorem completes (chars : List Char) : Completes chars := by
  have hnil : ∀ column, Layout column [] [] :=
    fun column => .finish fun c hc => absurd hc List.not_mem_nil
  -- the scan is any, since one character can take it from any place to another
  induction chars with
  | nil =>
    rintro ⟨column, acc, place⟩ ts h
    rw [outcome_nil] at h
    cases place with
    | gap => exact ⟨[], by simpa [finish] using h.symm, .gap (hnil column)⟩
    | run start before =>
      exact ⟨[.ofRun before.reverse start], by simpa [finish] using h.symm,
        .end_run (fun c hc => by cases hc) (hnil column)⟩
    -- a phrase that is open at the end is a fault, as is what starts no token
    | phrase q start before => cases h
    | stray => cases h
  | cons c chars ih =>
    rintro ⟨column, acc, place⟩ ts h
    cases place with
    | gap =>
      obtain ⟨us, hus, hlayout⟩ := layout_of_completes ih h
      exact ⟨us, hus, .gap hlayout⟩
    | run start before =>
      cases hc : isTermChar c with
      | true =>
        have hstep : step ⟨column, acc, .run start before⟩ c
            = .ok ⟨column + 1, acc, .run start (c :: before)⟩ := by
          simp [step, hc]
        rw [outcome_cons_of_step hstep] at h
        obtain ⟨us, hus, hrem⟩ := ih _ ts h
        exact ⟨us, hus, hrem.cons_run hc⟩
      | false =>
        -- the run ends here, so the character is one between tokens
        have hend : ∀ d ∈ (c :: chars).head?, isTermChar d = false := by simpa using hc
        rw [outcome_run_end hend] at h
        obtain ⟨us, rfl, hlayout⟩ := layout_of_completes ih h
        exact ⟨.ofRun before.reverse start :: us, by simp, .end_run hend hlayout⟩
    | phrase q start before =>
      by_cases hc : c = q.char
      · subst hc
        have hstep : step ⟨column, acc, .phrase q start before⟩ q.char
            = .ok ⟨column + 1, .ofPhrase q before.reverse start :: acc, .gap⟩ := by
          simp [step]
        rw [outcome_cons_of_step hstep] at h
        obtain ⟨us, rfl, ⟨hlayout⟩⟩ := ih _ ts h
        exact ⟨.ofPhrase q before.reverse start :: us, by simp, .end_phrase hlayout⟩
      · have hstep : step ⟨column, acc, .phrase q start before⟩ c
            = .ok ⟨column + 1, acc, .phrase q start (c :: before)⟩ := by
          simp [step, hc]
        rw [outcome_cons_of_step hstep] at h
        obtain ⟨us, hus, hrem⟩ := ih _ ts h
        exact ⟨us, hus, hrem.cons_phrase hc⟩
    | stray => exact absurd h (outcome_stray rfl)

end Scan

/-! ### Tokens of texts -/

theorem tokenize_of_layout {text : String} (h : Layout 0 text.toList ts) :
    tokenize text = .ok ts :=
  Scan.outcome_of_layout h

theorem layout_of_tokenize {text : String} (h : tokenize text = .ok ts) :
    Layout 0 text.toList ts := by
  obtain ⟨us, hus, ⟨hlayout⟩⟩ := Scan.completes text.toList Scan.start ts h
  rwa [hus]

/-- A text has no tokens just if it is white space. -/
theorem tokenize_eq_nil_iff {text : String} :
    tokenize text = .ok [] ↔ ∀ c ∈ text.toList, isWhitespace c = true :=
  ⟨fun h => (layout_of_tokenize h).isGap_of_nil, fun h => tokenize_of_layout (.finish h)⟩

end FullText
