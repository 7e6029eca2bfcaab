/-
FullText/Proofs/Requirement.lean

The words that a search condition requires, read back from it.

Design.  All that ends a word of a condition, a quote, a parenthesis or a space, is deleted
from a text or parts its words, so each word that is found is a word of a condition
(`isPlain_of_mem_words`), whatever else it holds: commas, angle brackets, other white space
or the names of operators.  A required word is thus one atom, and words that are required
together are the chain of their atoms (`read_requireWords`), for the very reader that reads
the conditions of queries.  Each atom tells its word, so the condition tells its words.

Main result: `requireWords_tells_words`.
-/
import FullText.Proofs.Extraction
import FullText.Proofs.Readback

namespace FullText

variable {mode : PhraseMode} {stopwords : List String} {text word : String}

/-! ### Atoms and their chains -/

namespace Skeleton

variable {k : Skeleton} {ks : List Skeleton}

/-- The atom that a required word is written as. -/
def required : PhraseMode → String → Skeleton
  | .prefixed, word => literal (word ++ "*")
  | .inflectional, word => inflectional word

/-- The word that an atom requires, if it is one for a required word. -/
def requiredWord? : PhraseMode → Skeleton → Option String
  | .prefixed, literal text =>
    if Condition.isStarred text then some (.ofList text.toList.dropLast) else none
  | .inflectional, inflectional word => some word
  | _, _ => none

/-- The operands of a conjunction, from the first one on. -/
def operands : Skeleton → List Skeleton
  | and left right => left.operands ++ [right]
  | k => [k]

theorem text_required (mode : PhraseMode) (word : String) :
    (required mode word).text = Condition.term mode false word := by
  cases mode <;> simp only [required, text, Condition.term, Bool.false_and] <;> rfl

theorem requiredWord?_required (mode : PhraseMode) (word : String) :
    (required mode word).requiredWord? mode = some word := by
  cases mode with
  | inflectional => rfl
  | prefixed =>
    have hchars : (word ++ "*").toList = word.toList ++ ['*'] := by
      rw [String.toList_append]
      rfl
    simp [required, requiredWord?, Condition.isStarred, hchars]

theorem operands_required (mode : PhraseMode) (word : String) :
    (required mode word).operands = [required mode word] := by
  cases mode <;> rfl

/-- The atom of a word is closed where it ends, if the word is a word of a condition. -/
theorem shape_required (h : IsPlain word) (mode : PhraseMode) :
    (required mode word).Shape .primary := by
  cases mode with
  | inflectional => exact .inflectional h
  | prefixed =>
    have hquote : '"' ∉ word.toList := by
      intro hmem
      have hplain := h.2 _ hmem
      rw [isPlain_eq_false_iff.2 (by decide)] at hplain
      cases hplain
    apply Shape.literal
    rw [String.toList_append, List.mem_append, not_or]
    exact ⟨hquote, by decide⟩

/-- A chain is written as its operands, with the operator between them. -/
theorem text_foldl_and (k : Skeleton) (ks : List Skeleton) :
    (ks.foldl and k).text = String.intercalate " AND " (k.text :: ks.map Skeleton.text) := by
  induction ks generalizing k with
  | nil => simp
  | cons l ks ih =>
    rw [List.foldl_cons, ih, text, List.map_cons, String.intercalate_cons_append,
      String.intercalate_cons_cons]

theorem operands_foldl_and (k : Skeleton) (ks : List Skeleton) :
    (ks.foldl and k).operands = k.operands ++ ks := by
  induction ks generalizing k with
  | nil => simp
  | cons l ks ih => rw [List.foldl_cons, ih, operands, List.append_assoc, List.singleton_append]

theorem shape_foldl_and (hk : k.Shape .conjunction) (hks : ∀ l ∈ ks, l.Shape .primary) :
    (ks.foldl and k).Shape .conjunction := by
  induction ks generalizing k with
  | nil => exact hk
  | cons l ks ih =>
    have hl : l.Shape .operand := .included (hks l List.mem_cons_self)
    exact ih (.nextOperand hk hl) fun m hm => hks m (List.mem_cons_of_mem l hm)

end Skeleton

/-! ### Words that are found -/

/-- **A word that is found is a word of a condition**: nothing in it ends a quote, a
parenthesis or itself. -/
theorem isPlain_of_mem_words (h : word ∈ words stopwords text) : IsPlain word := by
  have hends : wordEnds.all (fun c => deletedPunctuation.contains c || wordSeparators.contains c)
      = true := by decide
  rw [words_eq_filter] at h
  obtain ⟨w, hw, rfl⟩ := List.mem_map.1 (List.mem_filter.1 h).1
  apply Condition.isPlain_ofList (ne_nil_of_mem_wordChars hw)
  rw [List.all_eq_true]
  intro c hc
  obtain ⟨hdeleted, hseparator⟩ := not_mem_of_mem_wordChars hw hc
  cases hplain : isPlain c with
  | true => rfl
  | false =>
    have hend := List.all_eq_true.1 hends c (isPlain_eq_false_iff.1 hplain)
    simp [hdeleted, hseparator] at hend

/-- **Words that are required are read** as the chain of their atoms. -/
theorem read_requireWords {w : String} {ws : List String} (h : words stopwords text = w :: ws)
    (mode : PhraseMode) :
    Condition.read (requireWords mode stopwords text)
      = some ((ws.map (Skeleton.required mode)).foldl .and (Skeleton.required mode w)) := by
  have hplain : ∀ v ∈ w :: ws, IsPlain v := fun v hv => isPlain_of_mem_words (h ▸ hv)
  have hfirst := Skeleton.shape_required (hplain w List.mem_cons_self) mode
  have hothers : ∀ k ∈ ws.map (Skeleton.required mode), k.Shape .primary := by
    intro k hk
    obtain ⟨v, hv, rfl⟩ := List.mem_map.1 hk
    exact Skeleton.shape_required (hplain v (List.mem_cons_of_mem w hv)) mode
  refine Condition.read_eq_some_iff.2
    ⟨.firstSide (Skeleton.shape_foldl_and (.firstOperand hfirst) hothers), ?_⟩
  rw [Skeleton.text_foldl_and, List.map_map, requireWords, h, List.map_cons,
    Skeleton.text_required]
  simp only [Function.comp_def, Skeleton.text_required]

/-! ### Reading the words back -/

/-- The words that a condition requires: none if it is empty, else those of the atoms that
it is read as, if it is a conjunction of such atoms. -/
def Condition.requiredWords? (mode : PhraseMode) (condition : String) : Option (List String) :=
  if condition = "" then some []
  else (read condition).bind fun k => k.operands.mapM (Skeleton.requiredWord? mode)

/-- Words that are required are some. -/
theorem requireWords_eq_empty_iff :
    requireWords mode stopwords text = "" ↔ words stopwords text = [] := by
  constructor
  · intro h
    cases hwords : words stopwords text with
    | nil => rfl
    | cons w ws =>
      -- nothing is read from the empty condition
      have hread := read_requireWords hwords mode
      have hempty : Condition.read "" = none := Condition.State.run_nil _
      rw [h, hempty] at hread
      cases hread
  · intro h
    rw [requireWords, h]
    rfl

theorem mapM_requiredWord? (mode : PhraseMode) (ws : List String) :
    (ws.map (Skeleton.required mode)).mapM (Skeleton.requiredWord? mode) = some ws := by
  induction ws with
  | nil => rfl
  | cons w ws ih => simp [Skeleton.requiredWord?_required, ih]

/-- **Required words are read back.** -/
theorem requiredWords?_requireWords (mode : PhraseMode) (stopwords : List String)
    (text : String) :
    Condition.requiredWords? mode (requireWords mode stopwords text)
      = some (words stopwords text) := by
  unfold Condition.requiredWords?
  split
  · next h => rw [requireWords_eq_empty_iff.1 h]
  · next h =>
    obtain ⟨w, ws, hwords⟩ :=
      List.exists_cons_of_ne_nil fun hnil => h (requireWords_eq_empty_iff.2 hnil)
    rw [read_requireWords hwords, Option.bind_some, Skeleton.operands_foldl_and,
      Skeleton.operands_required, hwords]
    exact mapM_requiredWord? mode (w :: ws)

/-- **The condition that requires words tells its words**, and nothing in a text changes
what else it says.  Two such conditions are one just if the words are the same, and there
is none just if there are no words.  No word holds a character that ends a quote, a
parenthesis or a word, so the condition is read as the conjunction of one atom for each
word, from which the words are read. -/
theorem requireWords_tells_words (mode : PhraseMode) (stopwords stopwords' : List String)
    (s t : String) :
    (requireWords mode stopwords s = requireWords mode stopwords' t ↔
      words stopwords s = words stopwords' t) ∧
    Condition.requiredWords? mode (requireWords mode stopwords s) = some (words stopwords s) ∧
    (requireWords mode stopwords s = "" ↔ words stopwords s = []) ∧
    (∀ word ∈ words stopwords s, IsPlain word) ∧
    (words stopwords s ≠ [] → ∃ k, Condition.read (requireWords mode stopwords s) = some k ∧
      k.operands = (words stopwords s).map (Skeleton.required mode)) := by
  have hs := requiredWords?_requireWords mode stopwords s
  have ht := requiredWords?_requireWords mode stopwords' t
  refine ⟨⟨fun h => ?_, fun h => ?_⟩, hs, requireWords_eq_empty_iff,
    fun _ => isPlain_of_mem_words, fun hne => ?_⟩
  · rw [h, ht] at hs
    exact (Option.some.inj hs).symm
  · rw [requireWords, requireWords, h]
  · obtain ⟨w, ws, hwords⟩ := List.exists_cons_of_ne_nil hne
    refine ⟨_, read_requireWords hwords mode, ?_⟩
    rw [Skeleton.operands_foldl_and, Skeleton.operands_required, hwords]
    rfl

/-- A text that imitates a condition: its quotes and parentheses are gone, and its operators
are words like any others. -/
theorem requireWords_tells_words_forged :
    let text := "x\" AND \"y) OR NOT(z,<a~b"
    let found := ["x", "AND", "y", "NOTz,<a~b"]
    words ["or"] text = found ∧ words ["or"] text ≠ [] ∧
      requireWords .prefixed ["or"] text
        = "\"x*\" AND \"AND*\" AND \"y*\" AND \"NOTz,<a~b*\"" ∧
      Condition.requiredWords? .prefixed (requireWords .prefixed ["or"] text) = some found ∧
      ∃ k, Condition.read (requireWords .prefixed ["or"] text) = some k ∧
        k.operands = found.map (Skeleton.required .prefixed) := by
  intro text found
  have hwords : words ["or"] text = found := by decide +kernel
  have hne : words ["or"] text ≠ [] := by
    rw [hwords]
    exact List.cons_ne_nil _ _
  obtain ⟨-, hreader, -, -, hread⟩ := requireWords_tells_words .prefixed ["or"] [] text ""
  obtain ⟨k, hk, hoperands⟩ := hread hne
  rw [hwords] at hreader hoperands
  exact ⟨hwords, hne, by decide +kernel, hreader, k, hk, hoperands⟩

end FullText
