/-
FullText/Proofs/Unambiguity.lean

A search condition tells the skeleton of the query that it was written from.

Design.  The tokens of a text fix what may stand in a query: a word holds nothing
but characters of terms, none of which parts words of a condition, and a text holds
a double quote only if it was written in single quotes.  Without such texts the
skeleton of a query is of the shape that conditions are read at, so reading a
condition gives the skeleton, and two queries share a condition just if they share
a skeleton.

Main result: `Query.compile_unambiguous`.
-/
import FullText.Proofs.Readback

namespace FullText

variable {room : Nat} {level : Level} {s : List Char} {t : Token} {ts : List Token} {q r : Query}
variable {text word : String} {limit : Limit}

/-! ### What tokens hold -/

/-- A character of a term goes on with a word of a condition. -/
theorem isPlain_of_isTermChar {c : Char} (h : isTermChar c = true) : isPlain c = true := by
  have hnone : wordEnds.all (!isTermChar ·) = true := by decide +kernel
  cases hplain : isPlain c with
  | true => rfl
  | false =>
    have hnot := List.all_eq_true.1 hnone c (isPlain_eq_false_iff.1 hplain)
    rw [h] at hnot
    cases hnot

/-- A word is a word of a condition. -/
theorem IsWord.isPlain (h : IsWord word) : IsPlain word := by
  obtain ⟨⟨c, rest, hchars, -⟩, hall, -⟩ := h
  refine ⟨?_, fun c hc => isPlain_of_isTermChar (hall c hc)⟩
  rintro rfl
  cases hchars

/-- **No token holds a double quote** but what is in single quotes. -/
theorem Spelling.double_not_mem (h : Spelling s t) (ht : t.kind ≠ .phrase .single) :
    '"' ∉ t.text.toList := by
  cases h with
  | @run s column hrun =>
    rw [Token.text_ofRun, String.toList_ofList]
    exact double_not_mem_of_isTermChar hrun.2
  | @phrase quote content column hcontent =>
    rw [Token.text_ofPhrase, String.toList_ofList]
    cases quote with
    | single => exact absurd rfl ht
    | double => exact hcontent
  | @symbol sym column =>
    show '"' ∉ (String.singleton sym.char).toList
    cases sym <;> simp [Symbol.char]

/-! ### The shape of skeletons of queries -/

/-- The atom that a word is written as stands for itself. -/
theorem Skeleton.shape_ofWord (h : IsWord word) (phraseMode : PhraseMode) :
    (Skeleton.ofWord phraseMode word).Shape .primary := by
  unfold Skeleton.ofWord
  split
  · exact .literal h.double_not_mem
  · cases phraseMode with
    | prefixed =>
      apply Skeleton.Shape.literal
      rw [String.toList_append, List.mem_append, not_or]
      exact ⟨h.double_not_mem, by decide⟩
    | inflectional => exact .inflectional h.isPlain

/-- **The skeleton of a query that is derived from the tokens of a text** has the
shape of its level, if no token holds a double quote. -/
theorem Derives.shape_skeleton (h : Derives room level ts q)
    (hts : ∀ t ∈ ts, (∃ s, Spelling s t) ∧ '"' ∉ t.text.toList) (phraseMode : PhraseMode) :
    (q.skeleton phraseMode).Shape level := by
  induction h with
  | @leaf _ t ht =>
    obtain ⟨⟨s, hs⟩, -⟩ := hts t (by simp)
    exact Skeleton.shape_ofWord (hs.isWord ht) phraseMode
  | @phrase _ t _ _ =>
    obtain ⟨-, hquote⟩ := hts t (by simp)
    exact .literal hquote
  | @thesaurus _ tilde t _ ht =>
    obtain ⟨⟨s, hs⟩, -⟩ := hts t (by simp)
    exact .thesaurus (hs.isWord ht).isPlain
  | @exact _ plus t _ _ =>
    obtain ⟨-, hquote⟩ := hts t (by simp)
    exact .literal hquote
  | group _ _ _ ih => exact .group (ih fun t ht => hts t (by simp [ht]))
  | @proximity _ left right us _ _ hne h =>
    apply Skeleton.Shape.proximity (by simpa using hne)
    intro term hterm
    obtain ⟨t, ht, rfl⟩ := List.mem_map.1 hterm
    obtain ⟨⟨s, hs⟩, -⟩ := hts t (by simp [ht])
    exact (hs.isWord (h t ht)).isPlain
  | included _ ih => exact .included (ih hts)
  | excluded _ _ ih => exact .excluded (ih fun t ht => hts t (by simp [ht]))
  | firstOperand _ ih => exact .firstOperand (ih hts)
  | nextOperand _ _ _ ihq ihr =>
    exact .nextOperand (ihq fun t ht => hts t (by simp [ht])) (ihr fun t ht => hts t (by simp [ht]))
  | firstSide _ ih => exact .firstSide (ih hts)
  | nextSide _ _ _ ihq ihr =>
    exact .nextSide (ihq fun t ht => hts t (by simp [ht])) (ihr fun t ht => hts t (by simp [ht]))

namespace Query

/-- Whether no text in single quotes holds a double quote. -/
def LeavesDouble (text : String) : Prop :=
  ∀ ts, tokenize text = .ok ts → ∀ t ∈ ts, t.kind = .phrase .single → '"' ∉ t.text.toList

instance (text : String) : Decidable (LeavesDouble text) :=
  match htok : tokenize text with
  | .ok ts =>
    decidable_of_iff (∀ t ∈ ts, t.kind = .phrase .single → '"' ∉ t.text.toList)
      (by simp [LeavesDouble, htok])
  | .error _ => isTrue fun ts hts => by
    rw [htok] at hts
    cases hts

theorem double_not_mem_of_tokenize (h : tokenize text = .ok ts) :
    ∀ t ∈ ts, t.kind ≠ .phrase .single → '"' ∉ t.text.toList := by
  intro t ht hkind
  obtain ⟨s, hs⟩ := (layout_of_tokenize h).exists_spelling t ht
  exact hs.double_not_mem hkind

/-- **The condition of a query is read as the skeleton of the query.** -/
theorem read_compile (hdouble : LeavesDouble text) (h : parse limit text = .ok q)
    (hne : q ≠ .empty) (phraseMode : PhraseMode) :
    ∃ condition, q.compile phraseMode = .ok condition ∧
      Condition.read condition = some (q.skeleton phraseMode) := by
  obtain ⟨ts, htok, ⟨-, rfl⟩ | ⟨-, hq⟩⟩ := exists_of_parse h
  · exact absurd rfl hne
  · have hts : ∀ t ∈ ts, (∃ s, Spelling s t) ∧ '"' ∉ t.text.toList := by
      intro t ht
      refine ⟨(layout_of_tokenize htok).exists_spelling t ht, ?_⟩
      -- what is in single quotes is as assumed, and no other token can hold a double quote
      by_cases hkind : t.kind = .phrase .single
      · exact hdouble ts htok t ht hkind
      · exact double_not_mem_of_tokenize htok t ht hkind
    exact ⟨_, hq.compile_eq phraseMode,
      Condition.read_eq_some_iff.2 ⟨hq.shape_skeleton hts phraseMode, rfl⟩⟩

/-- **Search conditions are unambiguous.**  `Condition.read` gives a skeleton just for
the conditions of the shape: a negation stands there only as the right side of
` AND `, and a disjunction as an operand only in a group.  It gives the skeleton of
any query but the empty one back from its condition, if no text in single quotes
holds a double quote, and no other token can hold one.  So two queries have one
condition just if they have one skeleton. -/
theorem compile_unambiguous :
    (∀ (condition : String) (k : Skeleton),
      Condition.read condition = some k ↔ k.Shape .disjunction ∧ k.text = condition) ∧
    (∀ (text : String) (ts : List Token), tokenize text = .ok ts →
      ∀ t ∈ ts, t.kind ≠ .phrase .single → '"' ∉ t.text.toList) ∧
    (∀ (phraseMode : PhraseMode) (limit : Limit) (text : String) (q : Query),
      LeavesDouble text → parse limit text = .ok q → q ≠ .empty →
      ∃ condition, q.compile phraseMode = .ok condition ∧
        Condition.read condition = some (q.skeleton phraseMode)) ∧
    (∀ (phraseMode : PhraseMode) (limit limit' : Limit) (text text' : String) (q r : Query),
      LeavesDouble text → parse limit text = .ok q → q ≠ .empty →
      LeavesDouble text' → parse limit' text' = .ok r → r ≠ .empty →
      (q.compile phraseMode = r.compile phraseMode ↔
        q.skeleton phraseMode = r.skeleton phraseMode)) := by
  refine ⟨fun _ _ => Condition.read_eq_some_iff, fun _ _ => double_not_mem_of_tokenize, ?_, ?_⟩
  · intro phraseMode limit text q hdouble h hne
    exact read_compile hdouble h hne phraseMode
  · intro phraseMode limit limit' text text' q r hdouble h hne hdouble' h' hne'
    obtain ⟨condition, hq, hread⟩ := read_compile hdouble h hne phraseMode
    obtain ⟨condition', hr, hread'⟩ := read_compile hdouble' h' hne' phraseMode
    rw [hq, hr]
    constructor
    · intro heq
      rw [Except.ok.inj heq, hread'] at hread
      exact (Option.some.inj hread).symm
    · intro heq
      rw [heq] at hread
      have htext := (Condition.read_eq_some_iff.1 hread).2
      have htext' := (Condition.read_eq_some_iff.1 hread').2
      rw [← htext, ← htext']

/-- A phrase and an exact term of the same text are two queries with one skeleton, so their
conditions are equal. -/
theorem compile_unambiguous_exact :
    let q := or (leaf "x") (and (phrase "b c") (exclude (leaf "y")))
    let r := or (leaf "x") (and (exact "b c") (exclude (leaf "y")))
    let condition :=
      "(FORMSOF (INFLECTIONAL, x) OR \"b c\" AND NOT(FORMSOF (INFLECTIONAL, y)))"
    parse .default "x|'b c'-y" = .ok q ∧ parse (.count 0) "x or +\"b c\" & -y" = .ok r ∧
      q.compile .inflectional = .ok condition ∧ r.compile .inflectional = .ok condition ∧
      Condition.read condition = some (q.skeleton .inflectional) := by
  intro q r condition
  have hq : parse .default "x|'b c'-y" = .ok q := rfl
  have hr : parse (.count 0) "x or +\"b c\" & -y" = .ok r := rfl
  have hdouble : LeavesDouble "x|'b c'-y" := by decide
  have hdouble' : LeavesDouble "x or +\"b c\" & -y" := by decide
  have hne : q ≠ empty := by simp [q]
  have hne' : r ≠ empty := by simp [r]
  obtain ⟨hread_iff, -, hread, hinjective⟩ := compile_unambiguous
  obtain ⟨text, hcompile, hskeleton⟩ := hread .inflectional _ _ q hdouble hq hne
  obtain rfl : condition = text := ((hread_iff _ _).1 hskeleton).2
  refine ⟨hq, hr, hcompile, ?_, hskeleton⟩
  rw [← hcompile]
  exact (hinjective _ _ _ _ _ r q hdouble' hr hne' hdouble hq hne).2 rfl

end Query

end FullText
