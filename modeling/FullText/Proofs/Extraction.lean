/-
FullText/Proofs/Extraction.lean

What the extraction of words keeps and what it drops.

Design.  Words are the pieces between separators of a text whose punctuation is
deleted.  Separators are no punctuation, so nothing comes together over one of them
(`words_append`).  The pieces put together are the text without its separators
(`flatten_piecesBetween`), so no other character is lost, and none in a word is
punctuation or a separator.  A word is therefore found again where it stands alone, and
words are found again with spaces between them (`words_intercalate`).

Main result: `words_lossless`.
-/
import FullText.Words.Basic

namespace FullText

open Unicode

variable {c : Char} {w cs : List Char} {text : String} {stopwords : List String}

/-! ### Pieces between separators -/

theorem piecesBetween_eq_splitOnP (sep : Char → Bool) (cs : List Char) :
    piecesBetween sep cs = cs.splitOnP sep := by
  induction cs with
  | nil => rfl
  | cons c cs ih => rw [piecesBetween, List.splitOnP_cons_eq_if_modifyHead, ih]

/-- **Nothing but separators is lost** between pieces. -/
theorem flatten_piecesBetween (sep : Char → Bool) (cs : List Char) :
    (piecesBetween sep cs).flatten = cs.filter fun c => !sep c := by
  induction cs with
  | nil => rfl
  | cons c cs ih =>
    unfold piecesBetween
    split
    · next hc =>
      rw [List.flatten_cons, List.nil_append, ih, List.filter_cons_of_neg (by simp [hc])]
    · next hc =>
      -- there is a first piece, which gets the character
      have hne : piecesBetween sep cs ≠ [] := by
        rw [piecesBetween_eq_splitOnP]
        exact List.splitOnP_ne_nil sep cs
      obtain ⟨first, pieces, hpieces⟩ := List.exists_cons_of_ne_nil hne
      rw [hpieces] at ih ⊢
      rw [List.modifyHead_cons, List.flatten_cons, List.cons_append, ← List.flatten_cons, ih,
        List.filter_cons_of_pos (by simp [hc])]

/-! ### Words of characters -/

/-- Separators are kept. -/
theorem not_mem_deletedPunctuation_of_mem (h : c ∈ wordSeparators) : c ∉ deletedPunctuation := by
  have hall : wordSeparators.all (!deletedPunctuation.contains ·) = true := by decide
  simpa using List.all_eq_true.1 hall c h

/-- **The characters of the words** are those of the text, but for punctuation and
separators. -/
theorem flatten_wordChars (cs : List Char) :
    (wordChars cs).flatten = cs.filter fun c => c ∉ deletedPunctuation ∧ c ∉ wordSeparators := by
  unfold wordChars
  rw [List.flatten_filter_not_isEmpty, flatten_piecesBetween, List.filter_filter]
  congr 1
  funext c
  simp [Bool.and_comm]

/-- Punctuation and separators stand in no word. -/
theorem not_mem_of_mem_wordChars (hw : w ∈ wordChars cs) (hc : c ∈ w) :
    c ∉ deletedPunctuation ∧ c ∉ wordSeparators := by
  have hmem : c ∈ (wordChars cs).flatten := List.mem_flatten_of_mem hw hc
  rw [flatten_wordChars] at hmem
  simpa using (List.mem_filter.1 hmem).2

theorem ne_nil_of_mem_wordChars (hw : w ∈ wordChars cs) : w ≠ [] := by
  simpa using (List.mem_filter.1 hw).2

/-- **Words on both sides of a separator** are found apart from each other. -/
theorem wordChars_append_cons (hc : c ∈ wordSeparators) (s t : List Char) :
    wordChars (s ++ c :: t) = wordChars s ++ wordChars t := by
  have hkept := not_mem_deletedPunctuation_of_mem hc
  unfold wordChars
  rw [List.filter_append, List.filter_cons_of_pos (by simpa using hkept)]
  simp only [piecesBetween_eq_splitOnP]
  rw [List.splitOnP_append_cons _ _ (by simpa using hc), List.filter_append]

/-- Where nothing is deleted, words are the pieces between separators. -/
theorem wordChars_of_not_deleted (h : ∀ c ∈ cs, c ∉ deletedPunctuation) :
    wordChars cs = (cs.splitOnP (wordSeparators.contains ·)).filter fun w => !w.isEmpty := by
  have hkept : cs.filter (fun c => !deletedPunctuation.contains c) = cs :=
    List.filter_eq_self.2 fun c hc => by simpa using h c hc
  unfold wordChars
  rw [hkept, piecesBetween_eq_splitOnP]

/-- What holds neither punctuation nor separators is one word. -/
theorem wordChars_eq_singleton (hne : w ≠ [])
    (h : ∀ c ∈ w, c ∉ deletedPunctuation ∧ c ∉ wordSeparators) : wordChars w = [w] := by
  have hsep : ∀ c ∈ w, wordSeparators.contains c = false := fun c hc => by
    simpa using (h c hc).2
  rw [wordChars_of_not_deleted fun c hc => (h c hc).1, List.splitOnP_eq_singleton hsep]
  simp [hne]

/-! ### Words of texts -/

theorem words_eq_filter (stopwords : List String) (text : String) :
    words stopwords text
      = ((wordChars text.toList).map String.ofList).filter
          fun word => lower word ∉ stopwords.map lower := by
  unfold words
  simp only [List.contains_eq_mem, decide_not]

/-- Stop words matter by their lower case alone. -/
theorem words_congr {stopwords' : List String}
    (h : ∀ w, w ∈ stopwords.map lower ↔ w ∈ stopwords'.map lower) (text : String) :
    words stopwords text = words stopwords' text := by
  simp only [words_eq_filter, h]

/-- Without stop words no word is dropped. -/
theorem words_nil (text : String) : words [] text = (wordChars text.toList).map String.ofList := by
  rw [words_eq_filter]
  simp

/-- **Words on both sides of a separator** are the words of both sides. -/
theorem words_append (hc : c ∈ wordSeparators) (stopwords : List String) (s t : String) :
    words stopwords (s ++ String.singleton c ++ t) = words stopwords s ++ words stopwords t := by
  simp only [words_eq_filter, String.toList_append, String.toList_singleton, List.append_assoc,
    List.singleton_append]
  rw [wordChars_append_cons hc, List.map_append, List.filter_append]

/-- **A word that is found is found again**, and nothing else, where it stands alone. -/
theorem words_eq_singleton {word : String} (h : word ∈ words stopwords text) :
    words stopwords word = [word] := by
  rw [words_eq_filter] at h ⊢
  obtain ⟨hword, hkept⟩ := List.mem_filter.1 h
  obtain ⟨w, hw, rfl⟩ := List.mem_map.1 hword
  rw [String.toList_ofList, wordChars_eq_singleton (ne_nil_of_mem_wordChars hw)
    fun c hc => not_mem_of_mem_wordChars hw hc]
  exact List.filter_cons_of_pos hkept

/-- **Words with spaces between them** are found again. -/
theorem words_intercalate {ws : List String} (h : ∀ w ∈ ws, words stopwords w = [w]) :
    words stopwords (String.intercalate " " ws) = ws := by
  induction ws with
  | nil => rfl
  | cons w ws ih =>
    have hw : words stopwords w = [w] := h w List.mem_cons_self
    have hws : words stopwords (String.intercalate " " ws) = ws :=
      ih fun v hv => h v (List.mem_cons_of_mem w hv)
    cases ws with
    | nil => rwa [String.intercalate_singleton]
    | cons v ws =>
      have hspace : ' ' ∈ wordSeparators := List.mem_cons_self
      have happend := words_append hspace stopwords w (String.intercalate " " (v :: ws))
      rw [hw, hws] at happend
      rwa [String.intercalate_cons_cons]

/-- **Extraction neither loses nor merges nor reorders words.**  Words on both sides of a
separator are the words of the one side, then those of the other.  All words together are
the text without punctuation and separators.  Of these words the stop words are left out,
and nothing else.  The words that are found are found again in their text with spaces
between them, so it has the same condition. -/
theorem words_lossless (stopwords : List String) (s t : String) :
    (∀ c ∈ wordSeparators,
      words stopwords (s ++ String.singleton c ++ t) = words stopwords s ++ words stopwords t) ∧
    String.join (words [] s)
      = String.ofList (s.toList.filter fun c => c ∉ deletedPunctuation ∧ c ∉ wordSeparators) ∧
    words stopwords s = (words [] s).filter (fun word => lower word ∉ stopwords.map lower) ∧
    words stopwords (String.intercalate " " (words stopwords s)) = words stopwords s ∧
    ∀ mode, requireWords mode stopwords (String.intercalate " " (words stopwords s))
      = requireWords mode stopwords s := by
  have hagain : words stopwords (String.intercalate " " (words stopwords s))
      = words stopwords s := words_intercalate fun _ hw => words_eq_singleton hw
  refine ⟨fun c hc => words_append hc stopwords s t, ?_, ?_, hagain, fun mode => ?_⟩
  · rw [String.ext_iff, String.toList_join, words_nil, List.flatMap_map, String.toList_ofList,
      ← flatten_wordChars]
    simp only [String.toList_ofList, List.flatMap_id']
  · rw [words_nil, words_eq_filter]
  · rw [requireWords, requireWords, hagain]

/-- Letters that come together where punctuation is deleted, one of them to a stop word,
and punctuation that leaves no word. -/
theorem words_lossless_glued :
    '\t' ∈ wordSeparators ∧
      words ["THE"] "o'r t_he \r\n; me" = ["or", "me"] ∧
      words ["THE"] "(The, a-b) " = ["The,", "ab"] ∧
      words ["THE"] "o'r t_he \r\n; me\t(The, a-b) " = ["or", "me", "The,", "ab"] := by
  have htab : '\t' ∈ wordSeparators := by decide
  have hs : words ["THE"] "o'r t_he \r\n; me" = ["or", "me"] := by decide +kernel
  have ht : words ["THE"] "(The, a-b) " = ["The,", "ab"] := by decide +kernel
  have happend :=
    (words_lossless ["THE"] "o'r t_he \r\n; me" "(The, a-b) ").1 '\t' htab
  rw [hs, ht] at happend
  exact ⟨htab, hs, ht, happend⟩

end FullText
