/-
FullText/Proofs/CleanText.lean

Texts of words alone, of which a translation requires every word, as it does of a text
that is no query.

Design.  A *clean* text consists of letters, numbers and the characters between words,
and no word of it is an operator word or a stop word.  Nothing is deleted from such a
text, and the scan and the cut at separators agree on where its words are: separators
are white space between tokens, and what stands between them is a run
(`exists_layout_wordChars`).  So the text spells the query that asks for each of its
words in turn, `Query.allOf`, and that query is written as its words are required
(`Query.compile_allOf`), since no word of it is starred.

Main result: `Translator.translate_new_clean`.
-/
import FullText.Proofs.Configuration
import FullText.Proofs.Spacing
import FullText.Proofs.Translating

namespace FullText

open Unicode

variable {column : Nat} {c : Char} {w cs : List Char} {text : String}
variable {room : Nat} {limit : Limit} {ts us : List Token} {q : Query} {phraseMode : PhraseMode}

/-! ### Characters -/

theorem isWhitespace_of_mem_wordSeparators (h : c ∈ wordSeparators) : isWhitespace c = true :=
  List.all_eq_true.1 (by decide : wordSeparators.all isWhitespace = true) c h

theorem isTermChar_of_isAlphanumeric (h : isAlphanumeric c = true) : isTermChar c = true := by
  unfold isTermChar
  rw [h, Bool.true_or]

/-- Letters and numbers are kept. -/
theorem not_mem_deletedPunctuation (h : isAlphanumeric c = true) : c ∉ deletedPunctuation := by
  have hall : deletedPunctuation.all (!isAlphanumeric ·) = true := by decide +kernel
  intro hc
  have := List.all_eq_true.1 hall c hc
  rw [h] at this
  cases this

/-- Letters and numbers stand in words. -/
theorem not_mem_wordSeparators (h : isAlphanumeric c = true) : c ∉ wordSeparators := by
  intro hc
  have := isTermChar_of_isWhitespace (isWhitespace_of_mem_wordSeparators hc)
  rw [isTermChar_of_isAlphanumeric h] at this
  cases this

/-! ### Words of letters and numbers -/

/-- Letters and numbers are one word. -/
theorem wordChars_of_isAlphanumeric (hne : w ≠ []) (h : ∀ c ∈ w, isAlphanumeric c = true) :
    wordChars w = [w] :=
  wordChars_eq_singleton hne fun c hc =>
    ⟨not_mem_deletedPunctuation (h c hc), not_mem_wordSeparators (h c hc)⟩

/-- Stars are deleted, so a bare word is written in either way alike. -/
theorem leaf_eq_term_of_mem_words {stopwords : List String} {word : String}
    (h : word ∈ words stopwords text) (phraseMode : PhraseMode) :
    Condition.leaf phraseMode .inflectional word = Condition.term phraseMode false word := by
  obtain ⟨w, hw, rfl⟩ := List.mem_map.1 (List.mem_filter.1 h).1
  have hstar : Condition.isStarred (String.ofList w) = false := by
    rw [Condition.isStarred, String.toList_ofList, beq_eq_false_iff_ne]
    intro hlast
    exact (not_mem_of_mem_wordChars hw (List.mem_of_getLast? hlast)).1 (by decide)
  simp only [Condition.leaf, Condition.term, hstar, Bool.and_false]

/-! ### The tokens of words -/

/-- Letters and numbers are the token of a run, if there are any. -/
theorem exists_layout_isAlphanumeric (h : ∀ c ∈ w, isAlphanumeric c = true) (column : Nat) :
    ∃ ts, Layout column w ts ∧
      ts.map Token.content = (wordChars w).map fun w => (Token.ofRun w 0).content := by
  by_cases hne : w = []
  · subst hne
    exact ⟨[], layout_nil column, rfl⟩
  · have hrun : IsRun w := by
      obtain ⟨c, w, rfl⟩ := List.exists_cons_of_ne_nil hne
      refine ⟨⟨c, w, rfl, ?_⟩, fun d hd => isTermChar_of_isAlphanumeric (h d hd)⟩
      rintro rfl
      exact not_mem_deletedPunctuation (h _ List.mem_cons_self) (by decide)
    refine ⟨[.ofRun w column], layout_run column hrun, ?_⟩
    rw [wordChars_of_isAlphanumeric hne h]
    rfl

/-- **The scan finds the words**: letters, numbers and separators have a token for each
of their words, and it is what a run with those characters is. -/
theorem exists_layout_wordChars (h : ∀ c ∈ cs, isAlphanumeric c = true ∨ c ∈ wordSeparators)
    (hw : ∀ c ∈ w, isAlphanumeric c = true) (column : Nat) :
    ∃ ts, Layout column (w ++ cs) ts ∧
      ts.map Token.content = (wordChars (w ++ cs)).map fun w => (Token.ofRun w 0).content := by
  -- `w` is what has been read of a word
  induction cs generalizing w column with
  | nil =>
    rw [List.append_nil]
    exact exists_layout_isAlphanumeric hw column
  | cons c cs ih =>
    have hcs : ∀ d ∈ cs, isAlphanumeric d = true ∨ d ∈ wordSeparators :=
      fun d hd => h d (List.mem_cons_of_mem c hd)
    rcases h c List.mem_cons_self with hc | hc
    · -- the word goes on
      rw [List.append_cons]
      apply ih hcs
      intro d hd
      rcases List.mem_append.1 hd with hd | hd
      · exact hw d hd
      · rwa [List.mem_singleton.1 hd]
    · -- the word ends in front of a separator
      have hblank := isWhitespace_of_mem_wordSeparators hc
      obtain ⟨ts, hts, hcontents⟩ := exists_layout_isAlphanumeric hw column
      obtain ⟨us, hus, hcontents'⟩ :=
        ih hcs (w := []) (fun d hd => absurd hd List.not_mem_nil) (column + w.length + 1)
      refine ⟨ts ++ us, hts.append (hus.cons_whitespace hblank) ?_, ?_⟩
      · simpa using isTermChar_of_isWhitespace hblank
      · rw [List.map_append, hcontents, hcontents', List.nil_append, wordChars_append_cons hc,
          List.map_append]

/-! ### Queries that ask for words in turn -/

/-- Terms behind a conjunction are operands of it. -/
theorem Derives.append_terms (h : Derives room .conjunction us q)
    (hts : ∀ t ∈ ts, t.kind = .term) :
    Derives room .conjunction (us ++ ts)
      ((ts.map Token.text).foldl (fun q w => .and q (.leaf w)) q) := by
  induction ts generalizing us q with
  | nil =>
    rw [List.append_nil]
    exact h
  | cons t ts ih =>
    have ht := Derives.nextOperand h (.inl rfl) (.included (.leaf (hts t List.mem_cons_self)))
    rw [List.append_nil] at ht
    rw [List.append_cons]
    exact ih ht fun u hu => hts u (List.mem_cons_of_mem t hu)

namespace Query

/-- The query that asks for each of the words. -/
def allOf : List String → Query
  | [] => empty
  | w :: ws => ws.foldl (fun q w => and q (leaf w)) (leaf w)

/-- **Terms ask for each of their words.** -/
theorem ofTokens_eq_allOf (h : ∀ t ∈ ts, t.kind = .term) :
    ofTokens limit ts = .ok (allOf (ts.map Token.text)) := by
  cases ts with
  | nil => rfl
  | cons t ts =>
    have ht : Derives limit.room .primary [t] (leaf t.text) := .leaf (h t List.mem_cons_self)
    have hts := ht.firstOperand.append_terms fun u hu => h u (List.mem_cons_of_mem t hu)
    exact (ofTokens_eq_ok_iff (List.cons_ne_nil t ts)).2 (.firstSide hts)

/-- Operands are written behind a conjunction one by one. -/
theorem table_foldl_and {first : String} (h : q.table phraseMode .inflectional = .ok first)
    (ws : List String) :
    (ws.foldl (fun q w => and q (leaf w)) q).table phraseMode .inflectional
      = .ok (String.intercalate " AND "
          (first :: ws.map (Condition.leaf phraseMode .inflectional))) := by
  induction ws generalizing q first with
  | nil => simpa using h
  | cons w ws ih =>
    have hand : (and q (leaf w)).table phraseMode .inflectional
        = .ok (first ++ " AND " ++ Condition.leaf phraseMode .inflectional w) := by
      rw [table, h, table]
      rfl
    rw [List.foldl_cons, ih hand, List.map_cons, String.intercalate_cons_append,
      String.intercalate_cons_cons]

/-- **A query for each of some words** is written as the conditions of the words, with
the operator between them. -/
theorem compile_allOf (phraseMode : PhraseMode) (ws : List String) :
    (allOf ws).compile phraseMode
      = .ok (String.intercalate " AND " (ws.map (Condition.leaf phraseMode .inflectional))) := by
  cases ws with
  | nil => rw [allOf, compile_empty, List.map_nil, String.intercalate_nil]
  | cons w ws => exact compile_of_table (table_foldl_and rfl ws)

end Query

/-! ### Clean texts -/

/-- `IsClean stopwords text`: the text consists of letters, numbers and separators, and
no word between its separators is an operator word or a stop word. -/
structure IsClean (stopwords : List String) (text : String) : Prop where
  chars : ∀ c ∈ text.toList, isAlphanumeric c = true ∨ c ∈ wordSeparators
  notOperator : ∀ w ∈ text.toList.splitOnP (wordSeparators.contains ·), w ≠ [] →
    lower (String.ofList w) ≠ "or" ∧ lower (String.ofList w) ≠ "and"
  notStopword : ∀ w ∈ text.toList.splitOnP (wordSeparators.contains ·), w ≠ [] →
    lower (String.ofList w) ∉ stopwords.map lower

namespace IsClean

variable {stopwords : List String}

/-- Clean texts are told by looking at each character, and at each word. -/
theorem iff_all :
    IsClean stopwords text ↔
      (text.toList.all fun c => isAlphanumeric c || decide (c ∈ wordSeparators)) = true ∧
      ((text.toList.splitOnP (wordSeparators.contains ·)).all fun w => w.isEmpty ||
        decide (lower (String.ofList w) ∉ ["or", "and"] ++ stopwords.map lower)) = true := by
  simp only [List.all_eq_true, Bool.or_eq_true, List.isEmpty_iff, decide_eq_true_eq,
    List.mem_append, List.mem_cons, List.not_mem_nil, or_false, not_or]
  constructor
  · rintro ⟨hchars, hoperator, hstopword⟩
    refine ⟨hchars, fun w hw => ?_⟩
    by_cases hne : w = []
    · exact .inl hne
    · exact .inr ⟨hoperator w hw hne, hstopword w hw hne⟩
  · rintro ⟨hchars, hwords⟩
    refine ⟨hchars, fun w hw hne => ?_, fun w hw hne => ?_⟩
    · exact ((hwords w hw).resolve_left hne).1
    · exact ((hwords w hw).resolve_left hne).2

instance : Decidable (IsClean stopwords text) := decidable_of_iff _ iff_all.symm

theorem mem_wordChars_iff (h : IsClean stopwords text) :
    w ∈ wordChars text.toList ↔ w ∈ text.toList.splitOnP (wordSeparators.contains ·) ∧ w ≠ [] := by
  have hkept : ∀ c ∈ text.toList, c ∉ deletedPunctuation := by
    intro c hc
    rcases h.chars c hc with hc | hc
    · exact not_mem_deletedPunctuation hc
    · exact not_mem_deletedPunctuation_of_mem hc
  rw [wordChars_of_not_deleted hkept, List.mem_filter]
  simp

/-- No word of a clean text is dropped. -/
theorem words_eq (h : IsClean stopwords text) :
    words stopwords text = (wordChars text.toList).map String.ofList := by
  rw [words_eq_filter, List.filter_eq_self]
  intro word hword
  obtain ⟨w, hw, rfl⟩ := List.mem_map.1 hword
  obtain ⟨hpiece, hne⟩ := h.mem_wordChars_iff.1 hw
  simpa using h.notStopword w hpiece hne

/-- The tokens of a clean text are its words, as terms. -/
theorem exists_tokenize (h : IsClean stopwords text) :
    ∃ ts, tokenize text = .ok ts ∧ (∀ t ∈ ts, t.kind = .term) ∧
      ts.map Token.text = words stopwords text := by
  obtain ⟨ts, hlayout, hcontents⟩ := exists_layout_wordChars h.chars (w := [])
    (fun c hc => absurd hc List.not_mem_nil) 0
  refine ⟨ts, tokenize_of_layout hlayout, ?_, ?_⟩
  · intro t ht
    have hcontent : t.content ∈ ts.map Token.content := List.mem_map_of_mem ht
    rw [hcontents] at hcontent
    obtain ⟨w, hw, hcontent⟩ := List.mem_map.1 hcontent
    obtain ⟨hpiece, hne⟩ := h.mem_wordChars_iff.1 hw
    have hoperator := h.notOperator w hpiece hne
    have hkind : Kind.ofRun (String.ofList w) = t.kind := congrArg Prod.fst hcontent
    rw [← hkind, Kind.ofRun, if_neg hoperator.1, if_neg hoperator.2]
  · have htexts := congrArg (List.map Prod.snd) hcontents
    rw [List.map_map, List.map_map] at htexts
    rw [h.words_eq]
    exact htexts

end IsClean

namespace Query

/-- **A clean text asks for each of its words**, whatever the limit. -/
theorem parse_of_isClean {stopwords : List String} (h : IsClean stopwords text) (limit : Limit) :
    parse limit text = .ok (allOf (words stopwords text)) := by
  obtain ⟨ts, htok, hterms, htexts⟩ := h.exists_tokenize
  rw [parse_of_tokenize htok, ofTokens_eq_allOf hterms, htexts]
  rfl

/-- **Asking for each word of a text is requiring its words.** -/
theorem compile_allOf_words (phraseMode : PhraseMode) (stopwords : List String) (text : String) :
    (allOf (words stopwords text)).compile phraseMode
      = .ok (requireWords phraseMode stopwords text) := by
  have hwords : (words stopwords text).map (Condition.leaf phraseMode .inflectional)
      = (words stopwords text).map (Condition.term phraseMode false) :=
    List.map_congr_left fun word hword => leaf_eq_term_of_mem_words hword phraseMode
  rw [compile_allOf, hwords, requireWords]

end Query

/-! ### Translations -/

namespace Translator

/-- **On a clean text the two ways of a translation agree.**  A new translator takes
the text for a query, whatever its limit, and gives the condition that requires every
word of it but the stop words.  Where there is no word, that is nothing. -/
theorem translate_new_clean (phraseMode : PhraseMode) (stopwords : List String) (limit : Limit)
    {text : String} (h : IsClean stopwords text) :
    let settings : Settings := ⟨phraseMode, .ofList (stopwords.map lower), limit⟩
    (0 < limit.value →
      Settings.ofEntries [("phrase_mode", phraseMode.toValue),
          ("stopwords", stopwordsToValue stopwords), ("max_depth", limit.toValue)]
        = .ok settings) ∧
    ((new settings).translate (some text)).1
      = .ok ⟨FullText.requireWords phraseMode stopwords text, true, []⟩ ∧
    ((∀ c ∈ text.toList, c ∈ wordSeparators) →
      FullText.requireWords phraseMode stopwords text = "") := by
  intro settings
  have hparse := Query.parse_of_isClean h limit
  have hcompile := Query.compile_allOf_words phraseMode stopwords text
  obtain ⟨condition, hcondition, htranslate, hempty⟩ :=
    translate_of_parse_ok (t := new settings) hparse
  obtain rfl := Except.ok.inj (hcondition.symm.trans hcompile)
  refine ⟨Settings.ofEntries_toValue phraseMode stopwords, htranslate, fun hsep => ?_⟩
  exact hempty.2 fun c hc => isWhitespace_of_mem_wordSeparators (hsep c hc)

/-- Tabs and line ends between words, one of which starts like an operator word, beside
stop words in capitals. -/
theorem translate_new_clean_lines :
    let settings : Settings := ⟨.prefixed, .ofList ["the", "öl"], .count 1⟩
    IsClean ["The", "ÖL"] "\tandy\r\n ÖLE  2 " ∧
      (0 : Int) < 1 ∧
      Settings.ofEntries [("phrase_mode", .str "prefix"),
          ("stopwords", .list [.str "The", .str "ÖL"]), ("max_depth", .int 1)] = .ok settings ∧
      ((new settings).translate (some "\tandy\r\n ÖLE  2 ")).1
        = .ok ⟨"\"andy*\" AND \"ÖLE*\" AND \"2*\"", true, []⟩ ∧
      FullText.requireWords .prefixed ["The", "ÖL"] "\tandy\r\n ÖLE  2 "
        = "\"andy*\" AND \"ÖLE*\" AND \"2*\"" ∧
      (∀ c ∈ "\t\n".toList, c ∈ wordSeparators) ∧
      FullText.requireWords .prefixed ["The", "ÖL"] "\t\n" = "" := by
  intro settings
  have hclean : IsClean ["The", "ÖL"] "\tandy\r\n ÖLE  2 " := by decide +kernel
  have hblank : IsClean ["The", "ÖL"] "\t\n" := by decide +kernel
  have hsep : ∀ c ∈ "\t\n".toList, c ∈ wordSeparators := by simp [wordSeparators]
  have hsettings :
      (⟨.prefixed, .ofList (["The", "ÖL"].map lower), .count 1⟩ : Settings) = settings := by
    decide +kernel
  obtain ⟨hentries, htranslate, -⟩ := translate_new_clean .prefixed ["The", "ÖL"] (.count 1) hclean
  obtain ⟨-, -, hempty⟩ := translate_new_clean .prefixed ["The", "ÖL"] (.count 1) hblank
  have hrequire : FullText.requireWords .prefixed ["The", "ÖL"] "\tandy\r\n ÖLE  2 "
      = "\"andy*\" AND \"ÖLE*\" AND \"2*\"" := by decide +kernel
  rw [hsettings] at hentries htranslate
  rw [hrequire] at htranslate
  exact ⟨hclean, by decide, hentries (by decide), htranslate, hrequire, hsep, hempty hsep⟩

end Translator

end FullText
