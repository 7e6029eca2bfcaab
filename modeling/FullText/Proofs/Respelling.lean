/-
FullText/Proofs/Respelling.lean

Texts whose tokens are other spellings of the same query.

Design.  `Respells ts us` says that `us` are the tokens `ts` with operators written in
other ways, those of conjunctions perhaps left out, and phrases put into other quotes;
columns do not count.  A respelling of two parts is one of each part (`exists_append`), so
it is followed through a derivation from the whole to the tokens.  There an operator of a
conjunction that is left out is still an operator in the sense of the grammar, where it
may be nothing, so what is derived stays derived (`Derives.respell`).  That the reader does
not miss the operator either was shown with the grammar: what is derived starts with a
token that may start an operand.

Main result: `Query.parse_of_respells`.
-/
import FullText.Proofs.Spacing
import FullText.Proofs.Translating

namespace FullText

variable {room : Nat} {level : Level} {limit : Limit} {k : Kind} {t u : Token} {q : Query}
variable {ts ts' us us' : List Token} {text text' : String}

/-! ### Other spellings -/

/-- `t.Respelled u`: the token `u` is the token `t`, another operator that joins the same
way, or a phrase with the same content. -/
inductive Token.Respelled (t u : Token) : Prop
  | same (h : u.content = t.content)
  | or (ht : t.kind.isOr = true) (hu : u.kind.isOr = true)
  | and (ht : t.kind.isAnd = true) (hu : u.kind.isAnd = true)
  | phrase {quote quote' : Quote} (ht : t.kind = .phrase quote) (hu : u.kind = .phrase quote')
      (htext : u.text = t.text)

/-- `Respells ts us`: the tokens `us` are the tokens `ts`, each spelled in the same way or
in another one, but for operators of conjunctions that are left out. -/
inductive Respells : List Token → List Token → Prop
  | nil : Respells [] []
  | cons {t u : Token} {ts us : List Token} (h : t.Respelled u) (hrest : Respells ts us) :
    Respells (t :: ts) (u :: us)
  | drop {t : Token} {ts us : List Token} (h : t.kind.isAnd = true) (hrest : Respells ts us) :
    Respells (t :: ts) us

/-- Whether tokens of this kind are spelled in one way: terms, and symbols that do not
join anything. -/
def Kind.isRigid : Kind → Bool
  | term => true
  | symbol .bar | symbol .ampersand => false
  | symbol _ => true
  | _ => false

theorem Kind.of_isRigid (h : k.isRigid = true) :
    k.isOr = false ∧ k.isAnd = false ∧ ∀ quote, k ≠ .phrase quote := by
  cases k with
  | symbol s => cases s <;> simp_all [isRigid, isOr, isAnd]
  | _ => simp_all [isRigid, isOr, isAnd]

namespace Token.Respelled

/-- A token that is spelled in one way stays. -/
theorem of_isRigid (h : t.Respelled u) (ht : t.kind.isRigid = true) :
    u.kind = t.kind ∧ u.text = t.text := by
  obtain ⟨hor, hand, hphrase⟩ := Kind.of_isRigid ht
  cases h with
  | same hcontent => exact Prod.mk.inj hcontent
  | or ht _ => cases hor.symm.trans ht
  | and ht _ => cases hand.symm.trans ht
  | phrase ht _ _ => exact absurd ht (hphrase _)

/-- A phrase stays, perhaps in the other quotes. -/
theorem of_phrase {quote : Quote} (h : t.Respelled u) (ht : t.kind = .phrase quote) :
    (∃ quote', u.kind = .phrase quote') ∧ u.text = t.text := by
  cases h with
  | same hcontent =>
    obtain ⟨hkind, htext⟩ := Prod.mk.inj hcontent
    exact ⟨⟨quote, hkind.trans ht⟩, htext⟩
  | or hor _ =>
    rw [ht] at hor
    cases hor
  | and hand _ =>
    rw [ht] at hand
    cases hand
  | phrase _ hu htext => exact ⟨⟨_, hu⟩, htext⟩

theorem isOr (h : t.Respelled u) (ht : t.kind.isOr = true) : u.kind.isOr = true := by
  cases h with
  | same hcontent => rw [(Prod.mk.inj hcontent).1, ht]
  | or _ hu => exact hu
  | and hand _ => cases (Kind.of_isOr ht).1.symm.trans hand
  | phrase hphrase _ _ =>
    rw [hphrase] at ht
    cases ht

theorem isAnd (h : t.Respelled u) (ht : t.kind.isAnd = true) : u.kind.isAnd = true := by
  cases h with
  | same hcontent => rw [(Prod.mk.inj hcontent).1, ht]
  | or hor _ => cases (Kind.of_isOr hor).1.symm.trans ht
  | and _ hu => exact hu
  | phrase hphrase _ _ =>
    rw [hphrase] at ht
    cases ht

end Token.Respelled

namespace Respells

/-! ### From the whole to the tokens -/

theorem eq_nil (h : Respells [] us) : us = [] := by
  cases h
  rfl

theorem append (h : Respells ts us) (h' : Respells ts' us') :
    Respells (ts ++ ts') (us ++ us') := by
  induction h with
  | nil => exact h'
  | cons ht _ ih => exact .cons ht ih
  | drop ht _ ih => exact .drop ht ih

/-- A token that is no operator of a conjunction is not left out. -/
theorem exists_cons (h : Respells (t :: ts) us) (ht : t.kind.isAnd = false) :
    ∃ u us', us = u :: us' ∧ t.Respelled u ∧ Respells ts us' := by
  cases h with
  | cons hu hrest => exact ⟨_, _, rfl, hu, hrest⟩
  | drop hand _ => cases ht.symm.trans hand

/-- **A respelling of two parts** is one of each part. -/
theorem exists_append (h : Respells (ts ++ ts') us) :
    ∃ vs vs', us = vs ++ vs' ∧ Respells ts vs ∧ Respells ts' vs' := by
  induction ts generalizing us with
  | nil => exact ⟨[], us, rfl, .nil, h⟩
  | cons t ts ih =>
    cases h with
    | @cons _ u _ us ht hrest =>
      obtain ⟨vs, vs', rfl, hvs, hvs'⟩ := ih hrest
      exact ⟨u :: vs, vs', rfl, .cons ht hvs, hvs'⟩
    | drop ht hrest =>
      obtain ⟨vs, vs', rfl, hvs, hvs'⟩ := ih hrest
      exact ⟨vs, vs', rfl, .drop ht hvs, hvs'⟩

theorem exists_cons_of_isRigid (h : Respells (t :: ts) us) (ht : t.kind = k)
    (hk : k.isRigid = true) :
    ∃ u us', us = u :: us' ∧ u.kind = k ∧ u.text = t.text ∧ Respells ts us' := by
  subst ht
  obtain ⟨u, us, rfl, hu, hrest⟩ := h.exists_cons (Kind.of_isRigid hk).2.1
  obtain ⟨hkind, htext⟩ := hu.of_isRigid hk
  exact ⟨u, us, rfl, hkind, htext, hrest⟩

theorem exists_cons_of_phrase {quote : Quote} (h : Respells (t :: ts) us)
    (ht : t.kind = .phrase quote) :
    ∃ u us' quote', us = u :: us' ∧ u.kind = .phrase quote' ∧ u.text = t.text ∧
      Respells ts us' := by
  obtain ⟨u, us, rfl, hu, hrest⟩ := h.exists_cons (by rw [ht]; rfl)
  obtain ⟨⟨quote', hkind⟩, htext⟩ := hu.of_phrase ht
  exact ⟨u, us, quote', rfl, hkind, htext, hrest⟩

/-- A term or phrase stays one, with its text. -/
theorem exists_cons_of_isText (h : Respells (t :: ts) us) (ht : t.kind.IsText) :
    ∃ u us', us = u :: us' ∧ u.kind.IsText ∧ u.text = t.text ∧ Respells ts us' := by
  rcases ht with ht | ⟨quote, ht⟩
  · obtain ⟨u, us, rfl, hu, htext, hrest⟩ := h.exists_cons_of_isRigid ht rfl
    exact ⟨u, us, rfl, .inl hu, htext, hrest⟩
  · obtain ⟨u, us, quote', rfl, hu, htext, hrest⟩ := h.exists_cons_of_phrase ht
    exact ⟨u, us, rfl, .inr ⟨quote', hu⟩, htext, hrest⟩

/-- Terms stay, all of them. -/
theorem map_text_of_terms (h : Respells ts us) (hts : ∀ t ∈ ts, t.kind = .term) :
    (∀ u ∈ us, u.kind = .term) ∧ us.map Token.text = ts.map Token.text := by
  induction ts generalizing us with
  | nil =>
    rw [h.eq_nil]
    exact ⟨fun u hu => absurd hu List.not_mem_nil, rfl⟩
  | cons t ts ih =>
    obtain ⟨u, us, rfl, hu, htext, hrest⟩ :=
      h.exists_cons_of_isRigid (hts t List.mem_cons_self) rfl
    obtain ⟨hkinds, htexts⟩ := ih hrest fun v hv => hts v (List.mem_cons_of_mem t hv)
    exact ⟨List.forall_mem_cons.2 ⟨hu, hkinds⟩,
      by rw [List.map_cons, List.map_cons, htext, htexts]⟩

/-- The operator of a conjunction may be written in another way, or not at all. -/
theorem andOperator (h : Respells ts us) (hts : AndOperator ts) : AndOperator us := by
  rcases hts with rfl | ⟨t, rfl, ht⟩
  · exact .inl h.eq_nil
  · cases h with
    | cons hu hrest =>
      obtain rfl := hrest.eq_nil
      exact .inr ⟨_, rfl, hu.isAnd ht⟩
    | drop _ hrest => exact .inl hrest.eq_nil

/-- The operator of a disjunction may be written in another way. -/
theorem orOperator (h : Respells ts us) (hts : OrOperator ts) : OrOperator us := by
  obtain ⟨t, rfl, ht⟩ := hts
  obtain ⟨u, us, rfl, hu, hrest⟩ := h.exists_cons (Kind.of_isOr ht).1
  obtain rfl := hrest.eq_nil
  exact ⟨u, rfl, hu.isOr ht⟩

end Respells

/-! ### What is derived -/

/-- **What is derived from tokens is derived from them as they are respelled.** -/
theorem Derives.respell (h : Derives room level ts q) (hr : Respells ts us) :
    Derives room level us q := by
  induction h generalizing us with
  | leaf ht =>
    obtain ⟨u, us, rfl, hu, htext, hrest⟩ := hr.exists_cons_of_isRigid ht rfl
    rw [hrest.eq_nil, ← htext]
    exact .leaf hu
  | phrase ht =>
    obtain ⟨u, us, quote, rfl, hu, htext, hrest⟩ := hr.exists_cons_of_phrase ht
    rw [hrest.eq_nil, ← htext]
    exact .phrase hu
  | thesaurus htilde ht =>
    obtain ⟨tilde, us, rfl, htilde', -, hrest⟩ := hr.exists_cons_of_isRigid htilde rfl
    obtain ⟨u, us, rfl, hu, htext, hrest⟩ := hrest.exists_cons_of_isRigid ht rfl
    rw [hrest.eq_nil, ← htext]
    exact .thesaurus htilde' hu
  | exact hplus ht =>
    obtain ⟨plus, us, rfl, hplus', -, hrest⟩ := hr.exists_cons_of_isRigid hplus rfl
    obtain ⟨u, us, rfl, hu, htext, hrest⟩ := hrest.exists_cons_of_isText ht
    rw [hrest.eq_nil, ← htext]
    exact .exact hplus' hu
  | group hleft hright _ ih =>
    obtain ⟨left, us, rfl, hleft', -, hrest⟩ := hr.exists_cons_of_isRigid hleft rfl
    obtain ⟨vs, vs', rfl, hinner, hrest⟩ := hrest.exists_append
    obtain ⟨right, us, rfl, hright', -, hrest⟩ := hrest.exists_cons_of_isRigid hright rfl
    rw [hrest.eq_nil]
    exact .group hleft' hright' (ih hinner)
  | proximity hleft hright hne hterms =>
    obtain ⟨left, us, rfl, hleft', -, hrest⟩ := hr.exists_cons_of_isRigid hleft rfl
    obtain ⟨vs, vs', rfl, hinner, hrest⟩ := hrest.exists_append
    obtain ⟨right, us, rfl, hright', -, hrest⟩ := hrest.exists_cons_of_isRigid hright rfl
    obtain ⟨hkinds, htexts⟩ := hinner.map_text_of_terms hterms
    have hvs : vs ≠ [] := by
      rintro rfl
      exact hne (List.map_eq_nil_iff.1 htexts.symm)
    rw [hrest.eq_nil, ← htexts]
    exact .proximity hleft' hright' hvs hkinds
  | included _ ih => exact .included (ih hr)
  | excluded hminus _ ih =>
    obtain ⟨minus, us, rfl, hminus', -, hrest⟩ := hr.exists_cons_of_isRigid hminus rfl
    exact .excluded hminus' (ih hrest)
  | firstOperand _ ih => exact .firstOperand (ih hr)
  | nextOperand _ hop _ ihq ihr =>
    obtain ⟨vs, ws, rfl, hvs, hright⟩ := hr.exists_append
    obtain ⟨left, op, rfl, hleft, hop'⟩ := hvs.exists_append
    exact .nextOperand (ihq hleft) (hop'.andOperator hop) (ihr hright)
  | firstSide _ ih => exact .firstSide (ih hr)
  | nextSide _ hop _ ihq ihr =>
    obtain ⟨vs, ws, rfl, hvs, hright⟩ := hr.exists_append
    obtain ⟨left, op, rfl, hleft, hop'⟩ := hvs.exists_append
    exact .nextSide (ihq hleft) (hop'.orOperator hop) (ihr hright)

namespace Query

/-- **A text with other spellings is the same query.**  If a text is a query, so is any
text whose tokens are those of the first with other operators that join the same way, the
operators of conjunctions perhaps left out, and with phrases in other quotes.  Both
texts are translated to the condition of that query, in either mode. -/
theorem parse_of_respells (htok : tokenize text = .ok ts) (htok' : tokenize text' = .ok us)
    (hr : Respells ts us) (h : parse limit text = .ok q) :
    parse limit text' = .ok q ∧
    ∀ (phraseMode : PhraseMode) (stopwords : WordSet),
      let translator := Translator.new ⟨phraseMode, stopwords, limit⟩
      ∃ condition, q.compile phraseMode = .ok condition ∧
        (translator.translate (some text)).1 = .ok ⟨condition, true, []⟩ ∧
        (translator.translate (some text')).1 = .ok ⟨condition, true, []⟩ := by
  have h' : parse limit text' = .ok q := by
    obtain ⟨_, hts, ⟨rfl, rfl⟩ | ⟨-, hq⟩⟩ := exists_of_parse h
    · -- there is no other spelling of no tokens
      obtain rfl := Except.ok.inj (htok.symm.trans hts)
      rw [parse_of_tokenize htok', hr.eq_nil]
      rfl
    · obtain rfl := Except.ok.inj (htok.symm.trans hts)
      exact parse_of_derives htok' (hq.respell hr)
  refine ⟨h', fun phraseMode stopwords => ?_⟩
  intro translator
  obtain ⟨condition, hcondition, htranslate, -⟩ :=
    Translator.translate_of_parse_ok (t := translator) h
  obtain ⟨condition', hcondition', htranslate', -⟩ :=
    Translator.translate_of_parse_ok (t := translator) h'
  obtain rfl := Except.ok.inj (hcondition.symm.trans hcondition')
  exact ⟨condition, hcondition, htranslate, htranslate'⟩

/-- Operators of conjunctions left out in front of a dash and inside a group, beside a bar
for a word and a phrase in the other quotes. -/
theorem parse_of_respells_terse :
    let ts : List Token :=
      [⟨.phrase .single, "b c", 0⟩, ⟨.and, "AND", 6⟩, ⟨.symbol .minus, "-", 10⟩,
        ⟨.symbol .openParen, "(", 11⟩, ⟨.term, "d", 12⟩, ⟨.symbol .ampersand, "&", 14⟩,
        ⟨.term, "e", 16⟩, ⟨.symbol .closeParen, ")", 17⟩, ⟨.or, "Or", 19⟩, ⟨.term, "f", 22⟩]
    let us : List Token :=
      [⟨.phrase .double, "b c", 0⟩, ⟨.symbol .minus, "-", 5⟩, ⟨.symbol .openParen, "(", 6⟩,
        ⟨.term, "d", 7⟩, ⟨.term, "e", 9⟩, ⟨.symbol .closeParen, ")", 10⟩,
        ⟨.symbol .bar, "|", 11⟩, ⟨.term, "f", 12⟩]
    let q := or (and (phrase "b c") (exclude (group (and (leaf "d") (leaf "e"))))) (leaf "f")
    tokenize "'b c' AND -(d & e) Or f" = .ok ts ∧ tokenize "\"b c\"-(d e)|f" = .ok us ∧
      Respells ts us ∧ parse (.count 1) "'b c' AND -(d & e) Or f" = .ok q ∧
      parse (.count 1) "\"b c\"-(d e)|f" = .ok q := by
  intro ts us q
  have htok : tokenize "'b c' AND -(d & e) Or f" = .ok ts := rfl
  have htok' : tokenize "\"b c\"-(d e)|f" = .ok us := rfl
  have hr : Respells ts us :=
    .cons (.phrase rfl rfl rfl) <| .drop rfl <| .cons (.same rfl) <| .cons (.same rfl) <|
      .cons (.same rfl) <| .drop rfl <| .cons (.same rfl) <| .cons (.same rfl) <|
      .cons (.or rfl rfl) <| .cons (.same rfl) .nil
  have hparse : parse (.count 1) "'b c' AND -(d & e) Or f" = .ok q := rfl
  exact ⟨htok, htok', hr, hparse, (parse_of_respells htok htok' hr hparse).1⟩

end Query

end FullText
