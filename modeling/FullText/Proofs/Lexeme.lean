/-
FullText/Proofs/Lexeme.lean

The lexemes of a search condition.

A condition is cut into parentheses, the three joints ` AND `, ` OR ` and ` NEAR `,
the opening `NOT(`, and atoms: literals, words in their forms, and bare words.  The
lexeme in front is found without a look at what came before it.  A bare word is told
apart from the openings that start with a word, `NOT(` and `FORMSOF (`, by what stands
behind it, since a word holds neither a space nor a parenthesis.

Main results: `of_next?`, that the lexeme found is what stands in front, and one lemma
`next?_…` for each kind of lexeme, that it is found where it stands in front.
-/
import FullText.Proofs.Skeleton

namespace FullText.Condition

/-! ### Lexemes -/

/-- The pieces of a search condition. -/
inductive Lexeme where
  | openParen
  | closeParen
  | and
  | or
  | near
  | openNot
  | literal (text : String)
  | inflected (word : String)
  | thesaurus (word : String)
  | word (word : String)

/-- The word in front of a negation. -/
def notWord : List Char := ['N', 'O', 'T']

/-- The word in front of inflected forms and synonyms. -/
def formsWord : List Char := ['F', 'O', 'R', 'M', 'S', 'O', 'F']

/-- What stands behind `formsWord` for inflected forms. -/
def inflectedMark : List Char :=
  [' ', '(', 'I', 'N', 'F', 'L', 'E', 'C', 'T', 'I', 'O', 'N', 'A', 'L', ',', ' ']

/-- What stands behind `formsWord` for synonyms. -/
def thesaurusMark : List Char :=
  [' ', '(', 'T', 'H', 'E', 'S', 'A', 'U', 'R', 'U', 'S', ',', ' ']

/-- The characters of a lexeme. -/
def Lexeme.text : Lexeme → List Char
  | openParen => ['(']
  | closeParen => [')']
  | and => [' ', 'A', 'N', 'D', ' ']
  | or => [' ', 'O', 'R', ' ']
  | near => [' ', 'N', 'E', 'A', 'R', ' ']
  | openNot => notWord ++ ['(']
  | literal text => '"' :: text.toList ++ ['"']
  | inflected w => formsWord ++ inflectedMark ++ w.toList ++ [')']
  | thesaurus w => formsWord ++ thesaurusMark ++ w.toList ++ [')']
  | word w => w.toList

/-- What holds of the text or word of a lexeme. -/
def Lexeme.Valid : Lexeme → Prop
  | literal text => '"' ∉ text.toList
  | inflected w | thesaurus w | word w => IsPlain w
  | _ => True

/-- The characters behind `mark`, if it stands in front. -/
def after? : List Char → List Char → Option (List Char)
  | [], cs => some cs
  | _ :: _, [] => none
  | m :: mark, c :: cs => if m = c then after? mark cs else none

/-- A mark is found just if it stands in front. -/
theorem after?_eq_some_iff {mark cs rest : List Char} :
    after? mark cs = some rest ↔ cs = mark ++ rest := by
  induction mark generalizing cs with
  | nil => simp [after?]
  | cons m mark ih =>
    cases cs with
    | nil => simp [after?]
    | cons c cs =>
      unfold after?
      split
      · next hc => simp [ih, hc]
      · next hc =>
        refine iff_of_false (by simp) fun h => hc ?_
        exact (List.cons.inj h).1.symm

/-- The word in front, as long as it goes. -/
def word? (cs : List Char) : Option (String × List Char) :=
  match cs.takeWhile isPlain with
  | [] => none
  | word => some (String.ofList word, cs.dropWhile isPlain)

/-- A word ends where its characters do. -/
theorem word?_append {word : String} {rest : List Char} (hword : IsPlain word)
    (hrest : ∀ c ∈ rest.head?, isPlain c = false) :
    word? (word.toList ++ rest) = some (word, rest) := by
  obtain ⟨htake, hdrop⟩ := takeWhile_dropWhile_append hword.2 hrest
  unfold word?
  rw [htake, hdrop]
  split
  · next hnil => exact absurd (String.toList_eq_nil_iff.1 hnil) hword.1
  · rw [String.ofList_toList]

/-- What is taken for a word is one, and stands in front. -/
theorem of_word?_eq_some {word : String} {cs rest : List Char} (h : word? cs = some (word, rest)) :
    IsPlain word ∧ cs = word.toList ++ rest := by
  have hsplit : cs.takeWhile isPlain ++ cs.dropWhile isPlain = cs := List.takeWhile_append_dropWhile
  have hall := List.all_eq_true.1 (List.all_takeWhile : (cs.takeWhile isPlain).all isPlain = true)
  unfold word? at h
  split at h
  · cases h
  · next hne =>
    obtain ⟨rfl, rfl⟩ := Prod.mk.inj (Option.some.inj h)
    refine ⟨⟨fun hempty => hne ?_, ?_⟩, ?_⟩
    · exact List.eq_nil_of_length_eq_zero (by rw [← String.length_ofList, hempty]; rfl)
    · rwa [String.toList_ofList]
    · rw [String.toList_ofList, hsplit]

/-- The characters up to the next double quote, and those behind it. -/
def untilQuote? : List Char → Option (List Char × List Char)
  | [] => none
  | c :: cs =>
    if c = '"' then some ([], cs) else (untilQuote? cs).map fun (text, rest) => (c :: text, rest)

/-- A double quote that is found is the first one. -/
theorem untilQuote?_eq_some_iff {text cs rest : List Char} :
    untilQuote? cs = some (text, rest) ↔ '"' ∉ text ∧ cs = text ++ '"' :: rest := by
  induction cs generalizing text with
  | nil => simp [untilQuote?]
  | cons c cs ih =>
    unfold untilQuote?
    split
    · next hc =>
      subst hc
      cases text <;> simp +contextual [eq_comm]
    · next hc =>
      rw [Option.map_eq_some_iff]
      constructor
      · rintro ⟨⟨before, more⟩, h, heq⟩
        obtain ⟨rfl, rfl⟩ := Prod.mk.inj heq
        obtain ⟨hbefore, rfl⟩ := ih.1 h
        refine ⟨?_, rfl⟩
        rw [List.mem_cons, not_or]
        exact ⟨fun h => hc h.symm, hbefore⟩
      · rintro ⟨htext, heq⟩
        cases text with
        | nil => exact absurd (List.cons.inj heq).1 hc
        | cons d text =>
          obtain ⟨rfl, rfl⟩ := List.cons.inj heq
          exact ⟨(text, rest), ih.2 ⟨fun h => htext (by simp [h]), rfl⟩, rfl⟩

/-- A joint behind its first space. -/
def joint? (cs : List Char) : Option (Lexeme × List Char) :=
  match after? ['A', 'N', 'D', ' '] cs with
  | some rest => some (.and, rest)
  | none =>
    match after? ['O', 'R', ' '] cs with
    | some rest => some (.or, rest)
    | none => (after? ['N', 'E', 'A', 'R', ' '] cs).map fun rest => (.near, rest)

/-- A word and the parenthesis that closes it, as a lexeme. -/
def closed? (lexeme : String → Lexeme) (cs : List Char) : Option (Lexeme × List Char) :=
  match word? cs with
  | some (word, ')' :: rest) => some (lexeme word, rest)
  | _ => none

/-- What a word and the characters behind it start. -/
def opening? (word : String) (cs : List Char) : Option (Lexeme × List Char) :=
  if word.toList = notWord ∧ cs.head? = some '(' then some (.openNot, cs.tail)
  else if word.toList = formsWord then
    match after? inflectedMark cs with
    | some rest => closed? .inflected rest
    | none =>
      match after? thesaurusMark cs with
      | some rest => closed? .thesaurus rest
      | none => some (.word word, cs)
  else some (.word word, cs)

/-- The lexeme in front. -/
def next? : List Char → Option (Lexeme × List Char)
  | [] => none
  | '(' :: rest => some (.openParen, rest)
  | ')' :: rest => some (.closeParen, rest)
  | '"' :: rest => (untilQuote? rest).map fun (text, rest) => (.literal (.ofList text), rest)
  | ' ' :: rest => joint? rest
  -- a word, or one of the openings that start with a word
  | c :: rest => word? (c :: rest) >>= fun (word, rest) => opening? word rest

/-! ### A lexeme is found where it stands -/

variable {l : Lexeme} {cs rest : List Char} {word text : String}

/-- A joint that is found stands there, its first space in front of it. -/
theorem of_joint? (h : joint? cs = some (l, rest)) : ' ' :: cs = l.text ++ rest ∧ l.Valid := by
  have hmark {mark more : List Char} (hafter : after? mark cs = some more) :
      ' ' :: cs = ' ' :: mark ++ more := congrArg _ (after?_eq_some_iff.1 hafter)
  unfold joint? at h
  split at h
  · next more hafter =>
    obtain ⟨rfl, rfl⟩ := Prod.mk.inj (Option.some.inj h)
    exact ⟨hmark hafter, trivial⟩
  · split at h
    · next more hafter =>
      obtain ⟨rfl, rfl⟩ := Prod.mk.inj (Option.some.inj h)
      exact ⟨hmark hafter, trivial⟩
    · obtain ⟨more, hafter, heq⟩ := Option.map_eq_some_iff.1 h
      obtain ⟨rfl, rfl⟩ := Prod.mk.inj heq
      exact ⟨hmark hafter, trivial⟩

/-- What is found closed is a word with a parenthesis behind it. -/
theorem of_closed? {lexeme : String → Lexeme} (h : closed? lexeme cs = some (l, rest)) :
    ∃ word, IsPlain word ∧ l = lexeme word ∧ cs = word.toList ++ ')' :: rest := by
  unfold closed? at h
  split at h
  · next word more hword =>
    obtain ⟨rfl, rfl⟩ := Prod.mk.inj (Option.some.inj h)
    obtain ⟨hplain, hcs⟩ := of_word?_eq_some hword
    exact ⟨word, hplain, rfl, hcs⟩
  · cases h

/-- Whatever a word starts, it starts with the word. -/
theorem of_opening? (hword : IsPlain word) (h : opening? word cs = some (l, rest)) :
    word.toList ++ cs = l.text ++ rest ∧ l.Valid := by
  unfold opening? at h
  split at h
  · next hnot =>
    obtain ⟨hword, hhead⟩ := hnot
    obtain ⟨rfl, rfl⟩ := Prod.mk.inj (Option.some.inj h)
    obtain ⟨more, rfl⟩ := List.head?_eq_some_iff.1 hhead
    exact ⟨by simp [Lexeme.text, hword], trivial⟩
  · split at h
    · next hforms =>
      split at h
      · next more hafter =>
        obtain ⟨w, hplain, rfl, rfl⟩ := of_closed? h
        rw [after?_eq_some_iff] at hafter
        exact ⟨by simp [Lexeme.text, hafter, hforms], hplain⟩
      · split at h
        · next more hafter =>
          obtain ⟨w, hplain, rfl, rfl⟩ := of_closed? h
          rw [after?_eq_some_iff] at hafter
          exact ⟨by simp [Lexeme.text, hafter, hforms], hplain⟩
        · obtain ⟨rfl, rfl⟩ := Prod.mk.inj (Option.some.inj h)
          exact ⟨rfl, hword⟩
    · obtain ⟨rfl, rfl⟩ := Prod.mk.inj (Option.some.inj h)
      exact ⟨rfl, hword⟩

/-- **The lexeme in front is what stands in front.** -/
theorem of_next? (h : next? cs = some (l, rest)) : cs = l.text ++ rest ∧ l.Valid := by
  unfold next? at h
  split at h
  · cases h
  · obtain ⟨rfl, rfl⟩ := Prod.mk.inj (Option.some.inj h)
    exact ⟨rfl, trivial⟩
  · obtain ⟨rfl, rfl⟩ := Prod.mk.inj (Option.some.inj h)
    exact ⟨rfl, trivial⟩
  · next more =>
    obtain ⟨⟨content, behind⟩, huntil, heq⟩ := Option.map_eq_some_iff.1 h
    obtain ⟨rfl, rfl⟩ := Prod.mk.inj heq
    obtain ⟨hquote, rfl⟩ := untilQuote?_eq_some_iff.1 huntil
    refine ⟨by simp [Lexeme.text], ?_⟩
    rwa [Lexeme.Valid, String.toList_ofList]
  · exact of_joint? h
  · next c more _ _ _ _ =>
    obtain ⟨⟨word, behind⟩, hword, hopening⟩ := Option.bind_eq_some_iff.1 h
    obtain ⟨hplain, hcs⟩ := of_word?_eq_some hword
    obtain ⟨htext, hvalid⟩ := of_opening? hplain hopening
    exact ⟨by rw [hcs, htext], hvalid⟩

/-- No lexeme is empty. -/
theorem Lexeme.text_length_pos (h : l.Valid) : 0 < l.text.length := by
  cases l with
  | word w => exact List.length_pos_iff.2 fun hnil => h.1 (String.toList_eq_nil_iff.1 hnil)
  | _ => simp [text, notWord, formsWord]

/-- A lexeme that is found leaves fewer characters, so cutting a condition comes to an end. -/
theorem length_lt_of_next? (h : next? cs = some (l, rest)) : rest.length < cs.length := by
  obtain ⟨rfl, hvalid⟩ := of_next? h
  have := Lexeme.text_length_pos hvalid
  rw [List.length_append]
  omega

/-! ### A lexeme that stands in front is found -/

theorem next?_openParen : next? ('(' :: rest) = some (.openParen, rest) := rfl

theorem next?_closeParen : next? (')' :: rest) = some (.closeParen, rest) := rfl

theorem next?_and : next? (Lexeme.and.text ++ rest) = some (.and, rest) := rfl

theorem next?_or : next? (Lexeme.or.text ++ rest) = some (.or, rest) := rfl

theorem next?_near : next? (Lexeme.near.text ++ rest) = some (.near, rest) := rfl

/-- A literal is found whole, as none of its characters is a double quote. -/
theorem next?_literal (h : '"' ∉ text.toList) :
    next? ((Lexeme.literal text).text ++ rest) = some (.literal text, rest) := by
  have huntil := untilQuote?_eq_some_iff.2 ⟨h, (rfl : text.toList ++ '"' :: rest = _)⟩
  show next? ('"' :: text.toList ++ ['"'] ++ rest) = _
  rw [List.cons_append, List.cons_append, List.append_assoc, List.singleton_append, next?, huntil,
    Option.map_some]
  simp only [String.ofList_toList]

/-- What a word starts is seen from what stands behind it. -/
theorem next?_word_append {behind : List Char} (hword : IsPlain word)
    (hbehind : ∀ c ∈ behind.head?, isPlain c = false) :
    next? (word.toList ++ behind) = opening? word behind := by
  obtain ⟨c, cs, hcs⟩ := List.exists_cons_of_ne_nil
    (fun hnil => hword.1 (String.toList_eq_nil_iff.1 hnil) : word.toList ≠ [])
  have hplain : isPlain c = true := hword.2 c (by simp [hcs])
  -- the first character is none of those that stand alone
  have hchar : ∀ d ∈ wordEnds, c ≠ d := by
    rintro d hd rfl
    rw [isPlain_eq_false_iff.2 hd] at hplain
    cases hplain
  -- so a word is what is looked for
  have hnext : next? (c :: (cs ++ behind))
      = word? (c :: (cs ++ behind)) >>= fun (word, rest) => opening? word rest := by
    rw [next?]
    all_goals exact hchar _ (by simp [wordEnds])
  rw [hcs, List.cons_append, hnext, ← List.cons_append, ← hcs, word?_append hword hbehind]
  rfl

/-- A word that no mark stands behind is a word. -/
theorem next?_word {behind : List Char} (hword : IsPlain word)
    (hbehind : ∀ c ∈ behind.head?, isPlain c = false ∧ c ≠ '(')
    (hinflected : after? inflectedMark behind = none)
    (hthesaurus : after? thesaurusMark behind = none) :
    next? (word.toList ++ behind) = some (.word word, behind) := by
  have hparen : ¬ behind.head? = some '(' := fun h => (hbehind '(' h).2 rfl
  rw [next?_word_append hword fun c hc => (hbehind c hc).1]
  unfold opening?
  rw [if_neg fun h => hparen h.2, hinflected, hthesaurus]
  split <;> rfl

/-- Characters of words make a word, if there are any. -/
theorem isPlain_ofList (hne : cs ≠ []) (h : cs.all isPlain = true) :
    IsPlain (String.ofList cs) := by
  rw [IsPlain, String.toList_ofList]
  refine ⟨fun hempty => hne ?_, List.all_eq_true.1 h⟩
  rw [← String.toList_ofList (l := cs), hempty]
  rfl

theorem isPlain_formsWord : IsPlain (String.ofList formsWord) :=
  isPlain_ofList (List.cons_ne_nil _ _) rfl

theorem isPlain_notWord : IsPlain (String.ofList notWord) :=
  isPlain_ofList (List.cons_ne_nil _ _) rfl

/-- The word `NOT` opens a negation if a parenthesis stands right behind it. -/
theorem next?_openNot : next? (Lexeme.openNot.text ++ rest) = some (.openNot, rest) := by
  have hnext : next? ((String.ofList notWord).toList ++ '(' :: rest) = _ :=
    next?_word_append isPlain_notWord (by simp [isPlain, wordEnds])
  rw [String.toList_ofList] at hnext
  show next? (notWord ++ ['('] ++ rest) = _
  rw [List.append_assoc, List.singleton_append, hnext]
  unfold opening?
  rw [String.toList_ofList, if_pos ⟨rfl, rfl⟩]
  rfl

/-- A word with a parenthesis behind it is found closed. -/
theorem closed?_append (lexeme : String → Lexeme) (h : IsPlain word) :
    closed? lexeme (word.toList ++ ')' :: rest) = some (lexeme word, rest) := by
  have hword : word? (word.toList ++ ')' :: rest) = some (word, ')' :: rest) :=
    word?_append h (by simp [isPlain, wordEnds])
  simp only [closed?, hword]

/-- A word in some of its forms, which `mark` stands for behind `formsWord`. -/
theorem next?_forms {mark : List Char} {lexeme : String → Lexeme} (hspace : mark.head? = some ' ')
    (hopening : ∀ cs, opening? (.ofList formsWord) (mark ++ cs) = closed? lexeme cs)
    (h : IsPlain word) :
    next? (formsWord ++ mark ++ word.toList ++ [')'] ++ rest) = some (lexeme word, rest) := by
  have hbehind : ∀ c ∈ (mark ++ (word.toList ++ ')' :: rest)).head?, isPlain c = false := by
    obtain ⟨mark, rfl⟩ := List.head?_eq_some_iff.1 hspace
    simp [isPlain, wordEnds]
  have hnext := next?_word_append isPlain_formsWord hbehind
  rw [String.toList_ofList, hopening, closed?_append lexeme h] at hnext
  simp only [List.append_assoc, List.singleton_append]
  exact hnext

/-- The mark of inflected forms is looked for first. -/
theorem opening?_inflectedMark (cs : List Char) :
    opening? (.ofList formsWord) (inflectedMark ++ cs) = closed? .inflected cs := by
  have hafter : after? inflectedMark (inflectedMark ++ cs) = some cs := after?_eq_some_iff.2 rfl
  rw [opening?, if_neg (by simp [formsWord, notWord]), if_pos (by simp), hafter]

/-- The mark of synonyms is looked for where that of inflected forms is not found. -/
theorem opening?_thesaurusMark (cs : List Char) :
    opening? (.ofList formsWord) (thesaurusMark ++ cs) = closed? .thesaurus cs := by
  have hafter : after? thesaurusMark (thesaurusMark ++ cs) = some cs := after?_eq_some_iff.2 rfl
  -- the marks differ behind the parenthesis
  have hnone : after? inflectedMark (thesaurusMark ++ cs) = none := rfl
  rw [opening?, if_neg (by simp [formsWord, notWord]), if_pos (by simp), hnone, hafter]

theorem next?_inflected (h : IsPlain word) :
    next? ((Lexeme.inflected word).text ++ rest) = some (.inflected word, rest) :=
  next?_forms rfl opening?_inflectedMark h

theorem next?_thesaurus (h : IsPlain word) :
    next? ((Lexeme.thesaurus word).text ++ rest) = some (.thesaurus word, rest) :=
  next?_forms rfl opening?_thesaurusMark h

end FullText.Condition
