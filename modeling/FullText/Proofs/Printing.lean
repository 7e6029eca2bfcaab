/-
FullText/Proofs/Printing.lean

Writing a query as a search text, and reading it again.

Design.  Both ways go through the tokens.  A query that can be written has, at
any column, a layout whose tokens derive it (`Spells`); the layouts of its parts
are put together with a space, an operator or a symbol between them, none of which
goes on with a run.  A query that is derived can be written, because the tokens of
a text are spelled in it: a term is a word, and a phrase does not hold its own
quote.

Main result: `Query.parse_spell`.
-/
import FullText.Proofs.Parsing
import FullText.Query.Printer

namespace FullText

variable {column room : Nat} {s : List Char} {t : Token} {ts : List Token} {q r : Query}
variable {text : String}

/-! ### Words and phrases as tokens -/

/-- A term is a word. -/
theorem Spelling.isWord (h : Spelling s t) (ht : t.kind = .term) : IsWord t.text := by
  cases h with
  | @run s column hrun =>
    rw [Token.kind_ofRun] at ht
    rw [Token.text_ofRun, IsWord, String.toList_ofList]
    exact ⟨hrun.1, hrun.2, ht⟩
  | phrase _ => cases ht
  | symbol => cases ht

/-- A phrase does not hold its quote. -/
theorem Spelling.not_mem_text {quote : Quote} (h : Spelling s t) (ht : t.kind = .phrase quote) :
    quote.char ∉ t.text.toList := by
  cases h with
  | @run s column _ =>
    have hrun := Token.isRun_ofRun s column
    rw [ht] at hrun
    rcases hrun with h | h | h <;> cases h
  | @phrase quote' content column h =>
    obtain rfl := Kind.phrase.inj ht
    rwa [Token.text_ofPhrase, String.toList_ofList]
  | symbol => cases ht

/-- A double quote never stands among characters of terms. -/
theorem double_not_mem_of_isTermChar (h : ∀ c ∈ s, isTermChar c = true) :
    Quote.double.char ∉ s := by
  intro hmem
  have hterm := h _ hmem
  rw [isTermChar_double] at hterm
  cases hterm

/-- No word holds a double quote. -/
theorem IsWord.double_not_mem (h : IsWord text) : Quote.double.char ∉ text.toList := by
  obtain ⟨-, hall, -⟩ := h
  exact double_not_mem_of_isTermChar hall

theorem Spelling.isQuotable (h : Spelling s t) (ht : t.kind.IsText) : IsQuotable t.text := by
  rcases ht with ht | ⟨quote, ht⟩
  · exact ⟨.double, (h.isWord ht).double_not_mem⟩
  · exact ⟨quote, h.not_mem_text ht⟩

theorem layout_nil (column : Nat) : Layout column [] [] :=
  .finish fun _ hc => absurd hc List.not_mem_nil

theorem layout_run (column : Nat) (h : IsRun s) : Layout column s [.ofRun s column] := by
  have hlayout : Layout column (s ++ []) [.ofRun s column] :=
    .of_spelling (.run h) (fun _ c hc => by cases hc) (layout_nil _)
  rwa [List.append_nil] at hlayout

theorem layout_word (column : Nat) (h : IsWord text) :
    Layout column text.toList [⟨.term, text, column⟩] := by
  obtain ⟨hhead, hall, hkind⟩ := h
  have htoken : Token.ofRun text.toList column = ⟨.term, text, column⟩ := by
    unfold Token.ofRun
    simp only [String.ofList_toList, hkind]
  rw [← htoken]
  exact layout_run column ⟨hhead, hall⟩

/-- The quote that a text is put in does not stand in it. -/
theorem Quote.around_not_mem (h : IsQuotable text) : (Quote.around text).char ∉ text.toList := by
  obtain ⟨quote, hquote⟩ := h
  unfold Quote.around
  split
  · next hdouble =>
    cases quote with
    | single => exact hquote
    | double => exact absurd hdouble hquote
  · next hdouble => exact hdouble

theorem toList_spellPhrase (text : String) :
    (spellPhrase text).toList
      = (Quote.around text).char :: text.toList ++ [(Quote.around text).char] := by
  simp [spellPhrase]

theorem layout_spellPhrase (column : Nat) (h : IsQuotable text) :
    Layout column (spellPhrase text).toList [⟨.phrase (Quote.around text), text, column⟩] := by
  have htoken : Token.ofPhrase (Quote.around text) text.toList column
      = ⟨.phrase (Quote.around text), text, column⟩ := by
    rw [Token.ofPhrase, String.ofList_toList]
  have hspelling :
      Spelling (spellPhrase text).toList ⟨.phrase (Quote.around text), text, column⟩ := by
    rw [toList_spellPhrase, ← htoken]
    exact .phrase (Quote.around_not_mem h)
  have hlayout := Layout.of_spelling hspelling (fun _ c hc => by cases hc) (layout_nil _)
  rwa [List.append_nil] at hlayout

theorem layout_symbol (sym : Symbol) (h : Layout (column + 1) s ts) :
    Layout column (sym.char :: s) (.ofSymbol sym column :: ts) := by
  refine Layout.of_spelling .symbol ?_ h
  rintro (h | h | h) <;> cases h

/-! ### Putting layouts together -/

theorem isTermChar_space : isTermChar ' ' = false := isTermChar_of_isWhitespace rfl

/-- Two layouts with a space between them. -/
theorem Layout.append_space {a b : List Char} {us : List Token} (ha : Layout column a ts)
    (hb : Layout (column + (a.length + 1)) b us) : Layout column (a ++ ' ' :: b) (ts ++ us) := by
  apply ha.append
  · apply cons_whitespace rfl
    rwa [Nat.add_assoc]
  · simp [isTermChar_space]

/-- A layout with a symbol behind it. -/
theorem Layout.append_symbol {a : List Char} (sym : Symbol) (ha : Layout column a ts) :
    Layout column (a ++ [sym.char]) (ts ++ [.ofSymbol sym (column + a.length)]) := by
  apply ha.append (layout_symbol sym (layout_nil _))
  simp [isTermChar_symbol]

/-- Words with spaces between them are terms. -/
theorem exists_layout_words {terms : List String} (hne : terms ≠ [])
    (h : ∀ term ∈ terms, IsWord term) (column : Nat) :
    ∃ ts : List Token, Layout column (String.intercalate " " terms).toList ts ∧
      (∀ t ∈ ts, t.kind = .term) ∧ ts.map Token.text = terms := by
  induction terms generalizing column with
  | nil => exact absurd rfl hne
  | cons term terms ih =>
    have hterm := layout_word column (h term (by simp))
    cases terms with
    | nil => exact ⟨[⟨.term, term, column⟩], by simpa using hterm, by simp, rfl⟩
    | cons term' terms =>
      obtain ⟨ts, hlayout, hkinds, htexts⟩ := ih (by simp) (fun w hw => h w (by simp [hw]))
        (column + (term.toList.length + 1))
      refine ⟨⟨.term, term, column⟩ :: ts, ?_, ?_, ?_⟩
      · rw [String.intercalate_cons_cons, String.toList_append, String.toList_append,
          List.append_assoc]
        exact hterm.append_space hlayout
      · simpa using hkinds
      · rw [List.map_cons, htexts]

/-- Two layouts with a run between them, such as an operator word. -/
theorem Layout.append_run {a b : List Char} {us : List Token} (ha : Layout column a ts)
    (hs : IsRun s) (hb : Layout (column + (a.length + (s.length + 2))) b us) :
    Layout column (a ++ ' ' :: s ++ ' ' :: b)
      (ts ++ [.ofRun s (column + (a.length + 1))] ++ us) := by
  apply (ha.append_space (layout_run _ hs)).append_space
  rw [List.length_append, List.length_cons]
  rwa [Nat.add_assoc]

/-- The operator word between the sides of a disjunction. -/
def orToken (column : Nat) : Token := ⟨.or, "or", column⟩

theorem isRun_or : IsRun ['o', 'r'] :=
  ⟨⟨'o', ['r'], rfl, by decide⟩, List.all_eq_true.1 (by decide +kernel)⟩

/-- Two layouts with the word `or` between them. -/
theorem Layout.append_or {a b : List Char} {us : List Token} (ha : Layout column a ts)
    (hb : Layout (column + (a.length + 4)) b us) :
    Layout column (a ++ " or ".toList ++ b)
      (ts ++ [orToken (column + (a.length + 1))] ++ us) := by
  have hor := ha.append_run isRun_or hb
  rwa [List.append_assoc] at hor ⊢

/-! ### What can be written is read -/

/-- **A query that can be written is derived from what is written**, at any column. -/
theorem exists_layout_spell {level : Level} (h : Spellable room level q) (column : Nat) :
    ∃ ts, Layout column q.spell.toList ts ∧ Derives room level ts q := by
  induction h generalizing column with
  | leaf h => exact ⟨_, layout_word column h, .leaf rfl⟩
  | phrase h => exact ⟨_, layout_spellPhrase column h, .phrase rfl⟩
  | thesaurus h =>
    rw [Query.spell, String.toList_append]
    exact ⟨_, layout_symbol .tilde (layout_word (column + 1) h), .thesaurus rfl rfl⟩
  | exact h =>
    rw [Query.spell, String.toList_append]
    exact ⟨_, layout_symbol .plus (layout_spellPhrase (column + 1) h),
      .exact rfl (.inr ⟨_, rfl⟩)⟩
  | group _ ih =>
    obtain ⟨ts, hlayout, hq⟩ := ih (column + 1)
    rw [Query.spell, String.toList_append, String.toList_append]
    exact ⟨_, layout_symbol .openParen (hlayout.append_symbol .closeParen), .group rfl rfl hq⟩
  | proximity hne h =>
    obtain ⟨ts, hlayout, hkinds, rfl⟩ := exists_layout_words hne h (column + 1)
    have hts : ts ≠ [] := fun hts => hne (by rw [hts]; rfl)
    rw [Query.spell, String.toList_append, String.toList_append]
    exact ⟨_, layout_symbol .less (hlayout.append_symbol .greater),
      .proximity rfl rfl hts hkinds⟩
  | included _ ih =>
    obtain ⟨ts, hlayout, hq⟩ := ih column
    exact ⟨ts, hlayout, .included hq⟩
  | excluded _ ih =>
    obtain ⟨ts, hlayout, hq⟩ := ih (column + 1)
    rw [Query.spell, String.toList_append]
    exact ⟨_, layout_symbol .minus hlayout, .excluded rfl hq⟩
  | firstOperand _ ih =>
    obtain ⟨ts, hlayout, hq⟩ := ih column
    exact ⟨ts, hlayout, .firstOperand hq⟩
  | @nextOperand _ q r _ _ ihq ihr =>
    obtain ⟨ts, hleft, hq⟩ := ihq column
    obtain ⟨us, hright, hr⟩ := ihr (column + (q.spell.toList.length + 1))
    refine ⟨_, ?_, .nextOperand hq (.inl rfl) hr⟩
    -- no operator is written, so a space has to part the operands
    rw [Query.spell, String.toList_append, String.toList_append, List.append_nil,
      List.append_assoc]
    exact hleft.append_space hright
  | firstSide _ ih =>
    obtain ⟨ts, hlayout, hq⟩ := ih column
    exact ⟨ts, hlayout, .firstSide hq⟩
  | @nextSide _ q r _ _ ihq ihr =>
    obtain ⟨ts, hleft, hq⟩ := ihq column
    obtain ⟨us, hright, hr⟩ := ihr (column + (q.spell.toList.length + 4))
    refine ⟨_, ?_, .nextSide hq ⟨orToken (column + (q.spell.toList.length + 1)), rfl, rfl⟩ hr⟩
    rw [Query.spell, String.toList_append, String.toList_append]
    exact hleft.append_or hright

/-! ### What is read can be written -/

/-- **A query that is derived from the tokens of a text can be written.** -/
theorem spellable_of_derives {level : Level} (h : Derives room level ts q)
    (hts : ∀ t ∈ ts, ∃ s, Spelling s t) : Spellable room level q := by
  induction h with
  | @leaf _ t ht =>
    obtain ⟨s, hs⟩ := hts t (by simp)
    exact .leaf (hs.isWord ht)
  | @phrase _ t quote ht =>
    obtain ⟨s, hs⟩ := hts t (by simp)
    exact .phrase (hs.isQuotable (.inr ⟨quote, ht⟩))
  | @thesaurus _ tilde t _ ht =>
    obtain ⟨s, hs⟩ := hts t (by simp)
    exact .thesaurus (hs.isWord ht)
  | @exact _ plus t _ ht =>
    obtain ⟨s, hs⟩ := hts t (by simp)
    exact .exact (hs.isQuotable ht)
  | group _ _ _ ih => exact .group (ih fun t ht => hts t (by simp [ht]))
  | @proximity _ left right us _ _ hne h =>
    apply Spellable.proximity (by simpa using hne)
    intro term hterm
    obtain ⟨t, ht, rfl⟩ := List.mem_map.1 hterm
    obtain ⟨s, hs⟩ := hts t (by simp [ht])
    exact hs.isWord (h t ht)
  | included _ ih => exact .included (ih hts)
  | excluded _ _ ih => exact .excluded (ih fun t ht => hts t (by simp [ht]))
  | firstOperand _ ih => exact .firstOperand (ih hts)
  | nextOperand _ _ _ ihq ihr =>
    exact .nextOperand (ihq fun t ht => hts t (by simp [ht])) (ihr fun t ht => hts t (by simp [ht]))
  | firstSide _ ih => exact .firstSide (ih hts)
  | nextSide _ _ _ ihq ihr =>
    exact .nextSide (ihq fun t ht => hts t (by simp [ht])) (ihr fun t ht => hts t (by simp [ht]))

namespace Query

variable {limit : Limit}

/-- `q.IsSpellable limit`: `q` is empty, or it can be written with no more groups
inside each other than the limit allows. -/
def IsSpellable (limit : Limit) (q : Query) : Prop :=
  q = .empty ∨ Spellable limit.room .disjunction q

theorem isSpellable_of_parse (h : parse limit text = .ok q) : q.IsSpellable limit := by
  obtain ⟨ts, htok, ⟨-, rfl⟩ | ⟨-, hq⟩⟩ := exists_of_parse h
  · exact .inl rfl
  · exact .inr (spellable_of_derives hq (layout_of_tokenize htok).exists_spelling)

theorem parse_spell_of_isSpellable (h : q.IsSpellable limit) : parse limit q.spell = .ok q := by
  rcases h with rfl | h
  · rfl
  · obtain ⟨ts, hlayout, hq⟩ := exists_layout_spell h 0
    exact parse_of_derives (tokenize_of_layout hlayout) hq

/-- **Writing undoes reading on what texts give rise to.**  Some text is the query
`q` just if `q` can be written within the limit; then `q` as it is written is `q`,
and so is any text that is a query, once it is written again. -/
theorem parse_spell (limit : Limit) :
    (∀ q : Query, (∃ text, parse limit text = .ok q) ↔ q.IsSpellable limit) ∧
    (∀ q : Query, q.IsSpellable limit → parse limit q.spell = .ok q) ∧
    (∀ (text : String) (q : Query), parse limit text = .ok q →
      parse limit q.spell = parse limit text) := by
  refine ⟨fun q => ⟨?_, ?_⟩, ?_, ?_⟩
  · rintro ⟨text, h⟩
    exact isSpellable_of_parse h
  · intro h
    exact ⟨q.spell, parse_spell_of_isSpellable h⟩
  · intro q h
    exact parse_spell_of_isSpellable h
  · intro text q h
    rw [h]
    exact parse_spell_of_isSpellable (isSpellable_of_parse h)

/-- Operators as symbols, a double quote in a phrase and close words in a group: the query
is spelled in another way than it was typed, and is read back. -/
theorem parse_spell_mixed :
    let q := or (leaf "x") (and (phrase "b\"c") (exclude (group (proximity ["y", "z"]))))
    parse (.count 1) "x|'b\"c'&-(<y z>)" = .ok q ∧ q.IsSpellable (.count 1) ∧
      parse (.count 1) q.spell = .ok q ∧
      parse (.count 1) q.spell = parse (.count 1) "x|'b\"c'&-(<y z>)" := by
  intro q
  have h : parse (.count 1) "x|'b\"c'&-(<y z>)" = .ok q := rfl
  have hq : q.IsSpellable (.count 1) := ((parse_spell _).1 q).1 ⟨_, h⟩
  exact ⟨h, hq, (parse_spell _).2.1 q hq, (parse_spell _).2.2 _ q h⟩

end Query

end FullText
