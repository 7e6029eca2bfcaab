/-
FullText/Proofs/Spacing.lean

Texts cut into the spellings of their tokens and the white space between them.

Design.  A *cut* is such a text with its pieces kept apart.  `Cut.IsSpaced` says that
the pieces are what they are meant to be and that white space stands where it must;
`Cut.IsPlaced` that the columns of the tokens are where they start.  A cut that is
both is a layout, and every layout comes from one (`Cut.layout`, `exists_cut`), so
what is known of scans carries over.  A token tells its spelling, and its column the
white space in front of it, so a text is cut in one way only (`Cut.eq_of_chars_eq`).
Columns are a matter of placing: a spaced cut has tokens whatever columns it names
(`Cut.exists_tokenize`).

Main result: `tokenize_iff_cut`.
-/
import FullText.Proofs.Scanning
import Mathlib.Data.List.Chain

namespace FullText

variable {column : Nat} {gap s cs : List Char} {t u : Token} {ts : List Token}

/-! ### Cuts -/

/-- A token in a text: the characters that spell it, and the white space behind
them. -/
structure Stretch where
  token : Token
  spelling : List Char
  gap : List Char

/-- The characters of a stretch. -/
def Stretch.chars (p : Stretch) : List Char := p.spelling ++ p.gap

/-- A text cut into pieces: white space, and a stretch for each token. -/
structure Cut where
  gap : List Char
  stretches : List Stretch

namespace Cut

/-- The text that is cut. -/
def chars (c : Cut) : List Char := c.gap ++ c.stretches.flatMap Stretch.chars

/-- The tokens of a cut. -/
def tokens (c : Cut) : List Token := c.stretches.map Stretch.token

/-- The spellings of the tokens. -/
def spellings (c : Cut) : List (List Char) := c.stretches.map Stretch.spelling

/-- `c.IsSpaced`: gaps are white space, tokens are spelled, and there is white space
behind a run where a quote or a character of a term would go on with it. -/
structure IsSpaced (c : Cut) : Prop where
  gap : IsGap c.gap
  gaps : ∀ p ∈ c.stretches, IsGap p.gap
  spelled : ∀ p ∈ c.stretches, Spelling p.spelling p.token
  parted : c.stretches.IsChain fun p q => p.token.kind.Clash q.token.kind → p.gap ≠ []

/-- `c.IsPlaced column`: the column of each token is the number of characters in front
of it, counted from `column`. -/
def IsPlaced (column : Nat) (c : Cut) : Prop :=
  ∀ before p after, c.stretches = before ++ p :: after →
    p.token.column = column + (Cut.mk c.gap before).chars.length

end Cut

/-- What a token is, its column left aside. -/
def Token.content (t : Token) : Kind × String := (t.kind, t.text)

/-! ### Tokens tell their spellings -/

/-- The characters that spell a token. -/
def Token.spelling (t : Token) : List Char :=
  match t.kind with
  | .phrase quote => quote.char :: t.text.toList ++ [quote.char]
  | _ => t.text.toList

theorem Spelling.eq_spelling (h : Spelling s t) : s = t.spelling := by
  cases h with
  | @run s column h =>
    have hchars : s = (Token.ofRun s column).text.toList := by
      rw [Token.text_ofRun, String.toList_ofList]
    rcases Token.isRun_ofRun s column with hk | hk | hk <;>
    · rw [Token.spelling, hk]
      exact hchars
  | @phrase quote content column _ =>
    show quote.char :: content ++ [quote.char]
      = quote.char :: (String.ofList content).toList ++ [quote.char]
    rw [String.toList_ofList]
  | @symbol sym column =>
    show [sym.char] = (String.singleton sym.char).toList
    rw [String.toList_singleton]

/-- A spelling does not tell the column. -/
theorem Spelling.withColumn (h : Spelling s t) (column : Nat) :
    Spelling s { t with column := column } := by
  cases h with
  | run h =>
    rw [Token.kind_ofRun, Token.text_ofRun]
    exact .run h
  | phrase h => exact .phrase h
  | symbol => exact .symbol

/-- A spelling tells all of its token but the column. -/
theorem Spelling.content_eq (ht : Spelling s t) (hu : Spelling s u) : t.content = u.content := by
  -- alone in a text, both are the token that the scan finds
  have htokens : ∀ {t : Token}, Spelling s t →
      Scan.outcome ⟨0, [], .gap⟩ s = .ok [{ t with column := 0 }] := by
    intro t ht
    have hlayout := Layout.of_spelling (ht.withColumn 0) (fun _ c hc => by cases hc)
      (.finish fun c hc => absurd hc List.not_mem_nil)
    rw [List.append_nil] at hlayout
    exact Scan.outcome_of_layout hlayout
  have heq := Except.ok.inj ((htokens ht).symm.trans (htokens hu))
  obtain ⟨hkind, htext, -⟩ := Token.mk.inj (List.cons.inj heq).1
  exact Prod.ext hkind htext

/-! ### Columns of layouts -/

/-- The tokens of a layout start in it. -/
theorem Layout.column_bounds (h : Layout column cs ts) :
    ∀ t ∈ ts, column ≤ t.column ∧ t.column < column + cs.length := by
  induction h with
  | finish _ => simp
  | @token column gap s rest t ts _ hs hcolumn _ _ ih =>
    obtain ⟨c, s', rfl, -⟩ := hs.exists_head
    intro u hu
    simp only [List.length_append, List.length_cons] at ih ⊢
    rcases List.mem_cons.1 hu with rfl | hu
    · omega
    · have := ih u hu
      omega

/-- **Columns go up** from token to token. -/
theorem Layout.pairwise_column (h : Layout column cs ts) :
    ts.Pairwise fun t u => t.column < u.column := by
  induction h with
  | finish _ => exact .nil
  | @token column gap s rest t ts _ hs _ _ hrest ih =>
    obtain ⟨c, s', rfl, -⟩ := hs.exists_head
    refine .cons (fun u hu => ?_) ih
    have := (hrest.column_bounds u hu).1
    rw [List.length_cons] at this
    omega

/-! ### Cuts with a token in front -/

namespace Cut

variable {p : Stretch} {ps : List Stretch} {c d : Cut}

theorem chars_nil (gap : List Char) : (Cut.mk gap []).chars = gap := List.append_nil gap

theorem chars_cons (gap : List Char) (p : Stretch) (ps : List Stretch) :
    (Cut.mk gap (p :: ps)).chars = gap ++ p.spelling ++ (Cut.mk p.gap ps).chars := by
  simp [chars, Stretch.chars]

theorem isSpaced_nil_iff : (Cut.mk gap []).IsSpaced ↔ IsGap gap :=
  ⟨fun h => h.gap, fun h => ⟨h, by simp, by simp, .nil⟩⟩

/-- A spaced cut is white space, a token, and a spaced cut behind it. -/
theorem isSpaced_cons_iff :
    (Cut.mk gap (p :: ps)).IsSpaced ↔
      IsGap gap ∧ Spelling p.spelling p.token ∧
        (∀ q ∈ ps.head?, p.token.kind.Clash q.token.kind → p.gap ≠ []) ∧
        (Cut.mk p.gap ps).IsSpaced := by
  constructor
  · intro h
    obtain ⟨hparted, hrest⟩ := List.isChain_cons.1 h.parted
    exact ⟨h.gap, h.spelled p (by simp), hparted, h.gaps p (by simp),
      fun q hq => h.gaps q (by simp [hq]), fun q hq => h.spelled q (by simp [hq]), hrest⟩
  · rintro ⟨hgap, hspelled, hparted, hrest⟩
    refine ⟨hgap, ?_, ?_, List.isChain_cons.2 ⟨hparted, hrest.parted⟩⟩
    · intro q hq
      rcases List.mem_cons.1 hq with rfl | hq
      · exact hrest.gap
      · exact hrest.gaps q hq
    · intro q hq
      rcases List.mem_cons.1 hq with rfl | hq
      · exact hspelled
      · exact hrest.spelled q hq

theorem isPlaced_nil (column : Nat) (gap : List Char) : (Cut.mk gap []).IsPlaced column := by
  intro before p after h
  simp at h

/-- The tokens of a cut are placed one behind the other. -/
theorem isPlaced_cons_iff :
    (Cut.mk gap (p :: ps)).IsPlaced column ↔
      p.token.column = column + gap.length ∧
        (Cut.mk p.gap ps).IsPlaced (p.token.column + p.spelling.length) := by
  constructor
  · intro h
    have hp : p.token.column = column + gap.length := by
      have := h [] p ps rfl
      rwa [chars_nil] at this
    refine ⟨hp, fun before q after hps => ?_⟩
    show q.token.column = _ + (Cut.mk p.gap before).chars.length
    have hq : q.token.column = column + (Cut.mk gap (p :: before)).chars.length :=
      h (p :: before) q after (congrArg (p :: ·) hps)
    rw [hq, chars_cons, hp, List.length_append, List.length_append]
    omega
  · rintro ⟨hp, hrest⟩ before q after hps
    cases before with
    | nil =>
      obtain ⟨rfl, rfl⟩ := List.cons.inj hps
      rw [hp, chars_nil]
    | cons r before =>
      obtain ⟨rfl, htail⟩ := List.cons.inj hps
      have hq : q.token.column
          = p.token.column + p.spelling.length + (Cut.mk p.gap before).chars.length :=
        hrest before q after htail
      show q.token.column = column + (Cut.mk gap (p :: before)).chars.length
      rw [hq, chars_cons, hp, List.length_append, List.length_append]
      omega

/-! ### Cuts and layouts -/

/-- The first character behind white space is the first of a token. -/
theorem IsSpaced.exists_whitespace (h : c.IsSpaced) (hgap : c.gap ≠ []) :
    ∃ d ∈ c.chars.head?, isWhitespace d = true := by
  obtain ⟨d, gap, hd⟩ := List.exists_cons_of_ne_nil hgap
  exact ⟨d, by simp [chars, hd], h.gap d (by simp [hd])⟩

/-- **A cut that is spaced and placed is a layout** of its tokens. -/
theorem layout (hs : c.IsSpaced) (hp : c.IsPlaced column) : Layout column c.chars c.tokens := by
  obtain ⟨gap, ps⟩ := c
  induction ps generalizing column gap with
  | nil =>
    rw [chars_nil]
    exact .finish (isSpaced_nil_iff.1 hs)
  | cons p ps ih =>
    obtain ⟨hgap, hspelled, hparted, hrest⟩ := isSpaced_cons_iff.1 hs
    obtain ⟨hcolumn, hplaced⟩ := isPlaced_cons_iff.1 hp
    rw [chars_cons]
    refine .token hgap hspelled hcolumn ?_ (ih p.gap hrest hplaced)
    intro u hu hclash
    obtain ⟨q, hq, rfl⟩ : ∃ q ∈ ps.head?, q.token = u := by
      simpa [tokens, List.head?_map] using hu
    exact hrest.exists_whitespace (hparted q hq hclash)

end Cut

/-- **Every layout comes from a cut.** -/
theorem Layout.exists_cut (h : Layout column cs ts) :
    ∃ c : Cut, c.IsSpaced ∧ c.IsPlaced column ∧ c.chars = cs ∧ c.tokens = ts := by
  induction h with
  | @finish column gap hgap =>
    exact ⟨⟨gap, []⟩, Cut.isSpaced_nil_iff.2 hgap, Cut.isPlaced_nil column gap,
      Cut.chars_nil gap, rfl⟩
  | @token column gap s rest t ts hgap hs hcolumn hparted _ ih =>
    obtain ⟨⟨gap', ps⟩, hspaced, hplaced, rfl, rfl⟩ := ih
    refine ⟨⟨gap, ⟨t, s, gap'⟩ :: ps⟩, Cut.isSpaced_cons_iff.2 ⟨hgap, hs, ?_, hspaced⟩,
      Cut.isPlaced_cons_iff.2 ⟨hcolumn, hplaced⟩, Cut.chars_cons gap _ ps, rfl⟩
    rintro q hq hclash hnil
    rw [show gap' = [] from hnil] at hparted
    -- without white space between them, the next token would start with white space
    obtain ⟨ps, rfl⟩ := List.head?_eq_some_iff.1 hq
    obtain ⟨c, s', hspelling, hc, -⟩ := (hspaced.spelled q (by simp)).exists_head
    obtain ⟨d, hd, hwhite⟩ := hparted q.token (by simp [Cut.tokens]) hclash
    rw [Cut.chars_cons, hspelling] at hd
    obtain rfl : c = d := by simpa using hd
    rw [hc] at hwhite
    cases hwhite

namespace Cut

variable {p : Stretch} {ps : List Stretch} {c d : Cut}

/-- **A text is cut in one way only.** -/
theorem eq_of_chars_eq (hc : c.IsSpaced) (hc' : c.IsPlaced column) (hd : d.IsSpaced)
    (hd' : d.IsPlaced column) (h : c.chars = d.chars) : c = d := by
  -- both cuts have the tokens that the scan of the text finds
  have htokens : c.tokens = d.tokens := by
    have hscan : Scan.outcome ⟨column, [], .gap⟩ c.chars = .ok c.tokens :=
      Scan.outcome_of_layout (layout hc hc')
    rw [h, Scan.outcome_of_layout (layout hd hd')] at hscan
    exact (Except.ok.inj hscan).symm
  obtain ⟨gap, ps⟩ := c
  obtain ⟨gap', qs⟩ := d
  induction ps generalizing column gap gap' qs with
  | nil =>
    obtain rfl : qs = [] := List.map_eq_nil_iff.1 htokens.symm
    rw [chars_nil, chars_nil] at h
    rw [h]
  | cons p ps ih =>
    obtain _ | ⟨q, qs⟩ := qs
    · cases htokens
    obtain ⟨htoken, htail⟩ := List.cons.inj htokens
    obtain ⟨-, hp, -, hps⟩ := isSpaced_cons_iff.1 hc
    obtain ⟨-, hq, -, hqs⟩ := isSpaced_cons_iff.1 hd
    obtain ⟨hpcolumn, hps'⟩ := isPlaced_cons_iff.1 hc'
    obtain ⟨hqcolumn, hqs'⟩ := isPlaced_cons_iff.1 hd'
    -- the column of a token tells the white space in front of it, the token its spelling
    have hgap : gap.length = gap'.length := by
      rw [htoken] at hpcolumn
      omega
    have hspelling : p.spelling = q.spelling := by
      rw [hp.eq_spelling, hq.eq_spelling, htoken]
    rw [chars_cons, chars_cons, List.append_assoc, List.append_assoc] at h
    obtain ⟨rfl, hbehind⟩ := List.append_inj h hgap
    rw [hspelling] at hbehind
    have hrests := List.append_cancel_left hbehind
    rw [hspelling, htoken] at hps'
    obtain ⟨hgaps, rfl⟩ := Cut.mk.inj (ih p.gap hps hps' q.gap qs hqs hqs' hrests htail)
    have hstretch : p = q := by
      cases p
      cases q
      exact Stretch.mk.injEq .. ▸ ⟨htoken, hspelling, hgaps⟩
    rw [hstretch]

/-! ### White space changes nothing but columns -/

/-- The columns of a spaced cut can be put right. -/
theorem IsSpaced.exists_isPlaced (h : (Cut.mk gap ps).IsSpaced) (column : Nat) :
    ∃ qs, (Cut.mk gap qs).IsSpaced ∧ (Cut.mk gap qs).IsPlaced column ∧
      (Cut.mk gap qs).chars = (Cut.mk gap ps).chars ∧
      (Cut.mk gap qs).tokens.map Token.content = (Cut.mk gap ps).tokens.map Token.content := by
  induction ps generalizing column gap with
  | nil => exact ⟨[], h, isPlaced_nil column gap, rfl, rfl⟩
  | cons p ps ih =>
    obtain ⟨hgap, hspelled, hparted, hrest⟩ := isSpaced_cons_iff.1 h
    let start := column + gap.length
    obtain ⟨qs, hspaced, hplaced, hchars, hcontents⟩ := ih hrest (start + p.spelling.length)
    refine ⟨⟨{ p.token with column := start }, p.spelling, p.gap⟩ :: qs,
      isSpaced_cons_iff.2 ⟨hgap, hspelled.withColumn start, ?_, hspaced⟩,
      isPlaced_cons_iff.2 ⟨rfl, hplaced⟩, ?_, ?_⟩
    · -- what has to be parted is told by kinds, which stay
      intro q hq hclash
      have hheads : ps.head?.map (·.token.content) = qs.head?.map (·.token.content) := by
        have heads := congrArg List.head? hcontents
        simp only [tokens, List.map_map, List.head?_map] at heads
        exact heads.symm
      rw [Option.mem_def.1 hq, Option.map_some] at hheads
      obtain ⟨r, hr, hkind⟩ := Option.map_eq_some_iff.1 hheads
      exact hparted r hr ((Prod.mk.inj hkind).1 ▸ hclash)
    · rw [chars_cons, chars_cons, hchars]
    · exact congrArg (p.token.content :: ·) hcontents

/-- **A spaced cut is tokenized** into what it spells. -/
theorem IsSpaced.exists_tokenize (h : c.IsSpaced) :
    ∃ ts, tokenize (String.ofList c.chars) = .ok ts ∧
      ts.map Token.content = c.tokens.map Token.content := by
  obtain ⟨qs, hspaced, hplaced, hchars, hcontents⟩ := exists_isPlaced h 0
  refine ⟨_, tokenize_of_layout ?_, hcontents⟩
  rw [String.toList_ofList, ← hchars]
  exact layout hspaced hplaced

/-- What is spelled tells the tokens but their columns. -/
theorem contents_eq (hc : c.IsSpaced) (hd : d.IsSpaced) (h : c.spellings = d.spellings) :
    c.tokens.map Token.content = d.tokens.map Token.content := by
  obtain ⟨gap, ps⟩ := c
  obtain ⟨gap', qs⟩ := d
  induction ps generalizing gap gap' qs with
  | nil =>
    obtain rfl : qs = [] := List.map_eq_nil_iff.1 h.symm
    rfl
  | cons p ps ih =>
    obtain _ | ⟨q, qs⟩ := qs
    · cases h
    obtain ⟨hspelling, hspellings⟩ := List.cons.inj h
    obtain ⟨-, hp, -, hps⟩ := isSpaced_cons_iff.1 hc
    obtain ⟨-, hq, -, hqs⟩ := isSpaced_cons_iff.1 hd
    have hcontent : p.token.content = q.token.content := hp.content_eq (hspelling ▸ hq)
    show p.token.content :: (Cut.mk p.gap ps).tokens.map Token.content
      = q.token.content :: (Cut.mk q.gap qs).tokens.map Token.content
    rw [hcontent, ih p.gap hps q.gap qs hqs hspellings]

end Cut

/-- **The tokenizer accepts just the texts that can be cut into tokens**, and finds the
tokens of the cut.  Nothing of the text is lost, as a cut holds all its characters.
There is one way to cut a text, columns go up, and other white space between the same
spellings, as long as it stands where it must, changes nothing but columns. -/
theorem tokenize_iff_cut (text : String) :
    (∀ ts, tokenize text = .ok ts ↔
      ∃ c : Cut, c.IsSpaced ∧ c.IsPlaced 0 ∧ c.chars = text.toList ∧ c.tokens = ts) ∧
    (∀ c d : Cut, c.IsSpaced → c.IsPlaced 0 → d.IsSpaced → d.IsPlaced 0 →
      c.chars = text.toList → d.chars = text.toList → c = d) ∧
    (∀ ts, tokenize text = .ok ts → ts.Pairwise fun t u => t.column < u.column) ∧
    (∀ c d : Cut, c.IsSpaced → d.IsSpaced → c.chars = text.toList → d.spellings = c.spellings →
      ∃ ts us, tokenize text = .ok ts ∧ tokenize (String.ofList d.chars) = .ok us ∧
        us.map Token.content = ts.map Token.content) := by
  refine ⟨fun ts => ⟨?_, ?_⟩, ?_, ?_, ?_⟩
  · intro h
    exact (layout_of_tokenize h).exists_cut
  · rintro ⟨c, hspaced, hplaced, hchars, rfl⟩
    apply tokenize_of_layout
    rw [← hchars]
    exact Cut.layout hspaced hplaced
  · intro c d hc hc' hd hd' hchars hchars'
    exact Cut.eq_of_chars_eq hc hc' hd hd' (hchars.trans hchars'.symm)
  · intro ts h
    exact (layout_of_tokenize h).pairwise_column
  · intro c d hc hd hchars hspellings
    obtain ⟨ts, hts, hcontents⟩ := hc.exists_tokenize
    obtain ⟨us, hus, hcontents'⟩ := hd.exists_tokenize
    rw [hchars, String.ofList_toList] at hts
    refine ⟨ts, us, hts, hus, ?_⟩
    rw [hcontents, hcontents', Cut.contents_eq hd hc hspellings]

/-- A phrase with a term at once behind it, whose quote is no part of the phrase, and
the same with white space that need not be there. -/
theorem tokenize_iff_cut_quotes :
    let phrase : Token := .ofPhrase .single ['a', ' '] 0
    let term : Token := .ofRun ['o', '\'', 'b'] 4
    let word : Token := .ofRun ['O', 'r'] 8
    let bar : Token := .ofSymbol .bar 10
    let quoted : List Char := ['\'', 'a', ' ', '\'']
    let c : Cut := ⟨[], [⟨phrase, quoted, []⟩, ⟨term, ['o', '\'', 'b'], [' ']⟩,
      ⟨word, ['O', 'r'], []⟩, ⟨bar, ['|'], []⟩]⟩
    let d : Cut := ⟨['\n'], [⟨phrase, quoted, ['\u00a0']⟩, ⟨term, ['o', '\'', 'b'], ['\t', ' ']⟩,
      ⟨word, ['O', 'r'], [' ']⟩, ⟨bar, ['|'], []⟩]⟩
    tokenize "'a 'o'b Or|" = .ok [phrase, term, word, bar] ∧ c.IsSpaced ∧ c.IsPlaced 0 ∧
      c.chars = "'a 'o'b Or|".toList ∧ d.IsSpaced ∧ d.spellings = c.spellings ∧
      ∃ us, tokenize (String.ofList d.chars) = .ok us ∧
        us.map Token.content = [phrase, term, word, bar].map Token.content := by
  intro phrase term word bar quoted c d
  have htok : tokenize "'a 'o'b Or|" = .ok [phrase, term, word, bar] := rfl
  have hphrase : Spelling quoted phrase :=
    .phrase (by decide : Quote.single.char ∉ ['a', ' '])
  have hterm : Spelling ['o', '\'', 'b'] term :=
    .run ⟨⟨'o', _, rfl, by decide⟩, List.all_eq_true.1 (by decide +kernel)⟩
  have hword : Spelling ['O', 'r'] word :=
    .run ⟨⟨'O', _, rfl, by decide⟩, List.all_eq_true.1 (by decide +kernel)⟩
  have hbar : Spelling ['|'] bar := @Spelling.symbol .bar 10
  have hspelled : ∀ p ∈ c.stretches ++ d.stretches, Spelling p.spelling p.token := by
    simp only [c, d, List.cons_append, List.nil_append, List.forall_mem_cons]
    exact ⟨hphrase, hterm, hword, hbar, hphrase, hterm, hword, hbar, by simp⟩
  have hphrase' : ¬ phrase.kind.IsRun := by rintro (h | h | h) <;> cases h
  have hbar' : ¬ (bar.kind.IsRun ∨ bar.kind = .phrase .single) := by
    rintro ((h | h | h) | h) <;> cases h
  have hc : c.IsSpaced := by
    refine ⟨by simp [IsGap, c], by simp [IsGap, c, isWhitespace, whitespace],
      fun p hp => hspelled p (List.mem_append_left _ hp), ?_⟩
    simp [c, Kind.Clash, hphrase', hbar']
  have hd : d.IsSpaced := by
    refine ⟨by simp [IsGap, d, isWhitespace, whitespace],
      by simp [IsGap, d, isWhitespace, whitespace],
      fun p hp => hspelled p (List.mem_append_right _ hp), ?_⟩
    simp [d, Kind.Clash, hbar']
  have hchars : c.chars = "'a 'o'b Or|".toList := rfl
  have hspellings : d.spellings = c.spellings := rfl
  obtain ⟨ts, us, hts, hus, hcontents⟩ :=
    (tokenize_iff_cut "'a 'o'b Or|").2.2.2 c d hc hd hchars hspellings
  obtain rfl := Except.ok.inj (htok.symm.trans hts)
  have hplaced : c.IsPlaced 0 := by
    simp only [c, Cut.isPlaced_cons_iff]
    exact ⟨rfl, rfl, rfl, rfl, Cut.isPlaced_nil _ _⟩
  exact ⟨htok, hc, hplaced, hchars, hd, hspellings, us, hus, hcontents⟩

end FullText
