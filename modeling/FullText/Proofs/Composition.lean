/-
FullText/Proofs/Composition.lean

Search texts put together, and the queries that this gives.

Design.  Queries nest to the left, so behind another text all of a query is nested in
another way.  What stays is the list of its *segments*: its sides from left to right, each
as the list of its operands.  They tell the query, since a chain can be built again from
its operands (`foldl_spine`).

Tokens put together are derived along the derivation of the second part: its first primary
becomes an operand of the chain in front of it, and each operand or side behind that is
joined as before (`Derives.exists_conjunction`, `exists_both`, `exists_either`).  That the
texts put together have the tokens of both parts is a matter of layouts, which may be moved
to other columns (`Layout.exists_moved`); and as derivations do not look at columns, moved
tokens are a respelling.

Main result: `Query.parse_composes`.
-/
import FullText.Proofs.Chains
import FullText.Proofs.Respelling

namespace FullText

variable {room column : Nat} {level : Level} {limit : Limit} {q r : Query}
variable {w cs : List Char} {op ts us : List Token} {s t text : String}

/-! ### Segments -/

namespace Query

/-- What an operator joins. -/
def Connective.join : Connective → Query → Query → Query
  | .or => .or
  | .and => .and

/-- The operands of a chain, from the first one on. -/
def operands (op : Connective) (q : Query) : List Query := (spine op q).1 :: (spine op q).2

/-- The sides of a query, each as the list of its operands. -/
def segments (q : Query) : List (List Query) := (q.operands .or).map (operands .and)

variable {op : Connective} {left right : Query}

theorem operands_of_sides? (h : sides? op q = some (left, right)) :
    q.operands op = left.operands op ++ [right] := by
  rw [operands, spine_of_sides? h]
  rfl

theorem operands_of_sides?_eq_none (h : sides? op q = none) : q.operands op = [q] := by
  rw [operands, spine_of_sides?_eq_none h]

theorem operands_and (left right : Query) :
    (and left right).operands .and = left.operands .and ++ [right] := operands_of_sides? rfl

theorem segments_or (left right : Query) :
    (or left right).segments = left.segments ++ [right.operands .and] := by
  rw [segments, operands_of_sides? rfl, List.map_append]
  rfl

theorem segments_of_sides?_eq_none (h : sides? .or q = none) :
    q.segments = [q.operands .and] := by
  rw [segments, operands_of_sides?_eq_none h]
  rfl

/-- **A chain is built again from its operands.** -/
theorem foldl_spine (op : Connective) (q : Query) :
    (spine op q).2.foldl op.join (spine op q).1 = q := by
  have hnone (q : Query) (h : sides? op q = none) :
      (spine op q).2.foldl op.join (spine op q).1 = q := by
    rw [spine_of_sides?_eq_none h]
    rfl
  induction q with
  | or left right ihl _ =>
    cases op with
    | or => rw [spine_of_sides? rfl, List.foldl_concat, ihl]; rfl
    | and => exact hnone _ rfl
  | and left right ihl _ =>
    cases op with
    | or => exact hnone _ rfl
    | and => rw [spine_of_sides? rfl, List.foldl_concat, ihl]; rfl
  | _ => exact hnone _ (by cases op <;> rfl)

theorem operands_injective (op : Connective) : Function.Injective (operands op) := by
  intro q r h
  obtain ⟨hfirst, hothers⟩ := List.cons.inj h
  rw [← foldl_spine op q, ← foldl_spine op r, hfirst, hothers]

/-- **Segments tell the query.** -/
theorem segments_injective : Function.Injective segments := fun _ _ h =>
  operands_injective .or (List.map_injective_iff.2 (operands_injective .and) h)

end Query

/-! ### Derivations put together -/

namespace Derives

open Query

/-- An operand of a disjunction is no disjunction. -/
theorem sides?_or_eq_none (h : Derives room .conjunction ts q) : sides? .or q = none := by
  cases h with
  | firstOperand h => cases h <;> rfl
  | nextOperand _ _ _ => rfl

/-- A primary is no conjunction. -/
theorem sides?_and_eq_none (h : Derives room .primary ts q) : sides? .and q = none := by
  cases h <;> rfl

/-- **A conjunction behind a conjunction**: its operands stand behind the others. -/
theorem exists_conjunction (hq : Derives room .conjunction ts q) (hop : AndOperator op)
    (hr : Derives room .conjunction us r) :
    ∃ both, Derives room .conjunction (ts ++ op ++ us) both ∧
      both.operands .and = q.operands .and ++ r.operands .and := by
  induction r generalizing us with
  | and left right ihl _ =>
    cases hr with
    | firstOperand hr => cases hr
    | nextOperand hleft hop' hright =>
      obtain ⟨both, hboth, hoperands⟩ := ihl hleft
      refine ⟨.and both right, ?_, ?_⟩
      · have hnext := hboth.nextOperand hop' hright
        simpa only [List.append_assoc] using hnext
      · rw [operands_and, hoperands, operands_and, List.append_assoc]
  | _ =>
    -- what is no conjunction is a primary, and becomes an operand
    cases hr with
    | firstOperand hr =>
      refine ⟨.and q _, hq.nextOperand hop (.included hr), ?_⟩
      rw [operands_and, operands_of_sides?_eq_none hr.sides?_and_eq_none]

/-- **A disjunction behind an operator of a disjunction**: its segments stand behind the
others. -/
theorem exists_either (hq : Derives room .disjunction ts q) (hop : OrOperator op)
    (hr : Derives room .disjunction us r) :
    ∃ either, Derives room .disjunction (ts ++ op ++ us) either ∧
      either.segments = q.segments ++ r.segments := by
  induction r generalizing us with
  | or left right ihl _ =>
    cases hr with
    | firstSide hr => cases hr.sides?_or_eq_none
    | nextSide hleft hop' hright =>
      obtain ⟨either, heither, hsegments⟩ := ihl hleft
      refine ⟨.or either right, ?_, ?_⟩
      · have hnext := heither.nextSide hop' hright
        simpa only [List.append_assoc] using hnext
      · rw [segments_or, hsegments, segments_or, List.append_assoc]
  | _ =>
    -- what is no disjunction is one side
    cases hr with
    | firstSide hr =>
      refine ⟨.or q _, hq.nextSide hop hr, ?_⟩
      rw [segments_or, segments_of_sides?_eq_none hr.sides?_or_eq_none]

/-- A conjunction behind a disjunction and an operator of a conjunction: its operands go to
the last side. -/
theorem exists_lastSide (hq : Derives room .disjunction ts q) (hop : AndOperator op)
    (hr : Derives room .conjunction us r) :
    ∃ both before last, q.segments = before ++ [last] ∧
      Derives room .disjunction (ts ++ op ++ us) both ∧
      both.segments = before ++ [last ++ r.operands .and] := by
  cases hq with
  | firstSide hq =>
    obtain ⟨both, hboth, hoperands⟩ := hq.exists_conjunction hop hr
    refine ⟨both, [], q.operands .and, segments_of_sides?_eq_none hq.sides?_or_eq_none,
      .firstSide hboth, ?_⟩
    rw [segments_of_sides?_eq_none hboth.sides?_or_eq_none, hoperands]
    rfl
  | @nextSide _ _ _ _ left right hleft hop' hright =>
    obtain ⟨both, hboth, hoperands⟩ := hright.exists_conjunction hop hr
    refine ⟨.or left both, left.segments, right.operands .and, segments_or left right, ?_, ?_⟩
    · have hnext := hleft.nextSide hop' hboth
      simpa only [List.append_assoc] using hnext
    · rw [segments_or, hoperands]

/-- **A disjunction behind an operator of a conjunction**: its first segment goes on with
the last one in front, and the others stand behind. -/
theorem exists_both (hq : Derives room .disjunction ts q) (hop : AndOperator op)
    (hr : Derives room .disjunction us r) :
    ∃ both before last first after, q.segments = before ++ [last] ∧
      r.segments = first :: after ∧ Derives room .disjunction (ts ++ op ++ us) both ∧
      both.segments = before ++ (last ++ first) :: after := by
  induction r generalizing us with
  | or left right ihl _ =>
    cases hr with
    | firstSide hr => cases hr.sides?_or_eq_none
    | nextSide hleft hop' hright =>
      obtain ⟨both, before, last, first, after, hqs, hls, hboth, hsegments⟩ := ihl hleft
      refine ⟨.or both right, before, last, first, after ++ [right.operands .and], hqs, ?_, ?_, ?_⟩
      · rw [segments_or, hls, List.cons_append]
      · have hnext := hboth.nextSide hop' hright
        simpa only [List.append_assoc] using hnext
      · rw [segments_or, hsegments, List.append_assoc, List.cons_append]
  | _ =>
    cases hr with
    | firstSide hr =>
      obtain ⟨both, before, last, hqs, hboth, hsegments⟩ := hq.exists_lastSide hop hr
      exact ⟨both, before, last, _, [], hqs,
        segments_of_sides?_eq_none hr.sides?_or_eq_none, hboth, hsegments⟩

end Derives

/-! ### Tokens put together -/

/-- **A layout can be moved**, which changes nothing but columns. -/
theorem Layout.exists_moved (h : Layout column cs ts) (column' : Nat) :
    ∃ us, Layout column' cs us ∧ us.map Token.content = ts.map Token.content := by
  obtain ⟨⟨gap, ps⟩, hspaced, -, rfl, rfl⟩ := h.exists_cut
  obtain ⟨qs, hspaced', hplaced, hchars, hcontents⟩ := hspaced.exists_isPlaced column'
  rw [← hchars]
  exact ⟨_, Cut.layout hspaced' hplaced, hcontents⟩

/-- Two texts with a space between them have the tokens of both. -/
theorem exists_tokenize_space (hs : tokenize s = .ok ts) (ht : tokenize t = .ok us) :
    ∃ vs, tokenize (s ++ " " ++ t) = .ok vs ∧
      vs.map Token.content = (ts ++ us).map Token.content := by
  obtain ⟨us', hus', hcontents⟩ := (layout_of_tokenize ht).exists_moved (0 + (s.toList.length + 1))
  refine ⟨ts ++ us', tokenize_of_layout ?_, ?_⟩
  · rw [String.toList_append, String.toList_append, List.append_assoc]
    exact (layout_of_tokenize hs).append_space hus'
  · rw [List.map_append, List.map_append, hcontents]

/-- Two texts with a run between them have the tokens of both, and that of the run. -/
theorem exists_tokenize_run (hs : tokenize s = .ok ts) (hw : IsRun w)
    (ht : tokenize t = .ok us) :
    ∃ vs, tokenize (s ++ String.ofList (' ' :: w ++ [' ']) ++ t) = .ok vs ∧
      vs.map Token.content = (ts ++ [Token.ofRun w 0] ++ us).map Token.content := by
  obtain ⟨us', hus', hcontents⟩ :=
    (layout_of_tokenize ht).exists_moved (0 + (s.toList.length + (w.length + 2)))
  refine ⟨ts ++ [Token.ofRun w (0 + (s.toList.length + 1))] ++ us', tokenize_of_layout ?_, ?_⟩
  · rw [String.toList_append, String.toList_append, String.toList_ofList]
    simpa using (layout_of_tokenize hs).append_run hw hus'
  · simp only [List.map_append, hcontents]
    rfl

/-- A text in parentheses has its tokens in parentheses. -/
theorem exists_tokenize_group (hs : tokenize s = .ok ts) :
    ∃ vs, tokenize ("(" ++ s ++ ")") = .ok vs ∧
      vs.map Token.content
        = (Token.ofSymbol .openParen 0 :: ts ++ [Token.ofSymbol .closeParen 0]).map
            Token.content := by
  obtain ⟨us, hus, hcontents⟩ := (layout_of_tokenize hs).exists_moved (0 + 1)
  have hlayout := layout_symbol .openParen (hus.append_symbol .closeParen)
  have hchars : ("(" ++ s ++ ")").toList
      = Symbol.openParen.char :: (s.toList ++ [Symbol.closeParen.char]) := by
    rw [String.toList_append, String.toList_append]
    rfl
  rw [← hchars] at hlayout
  refine ⟨_, tokenize_of_layout hlayout, ?_⟩
  simp only [List.cons_append, List.map_cons, List.map_append, hcontents]
  rfl

theorem isRun_and : IsRun ['a', 'n', 'd'] :=
  ⟨⟨'a', ['n', 'd'], rfl, by decide⟩, List.all_eq_true.1 (by decide +kernel)⟩

/-! ### Derivations do not look at columns -/

/-- Tokens that differ in columns only are a respelling. -/
theorem Respells.of_contents (h : us.map Token.content = ts.map Token.content) :
    Respells ts us := by
  induction ts generalizing us with
  | nil =>
    rw [List.map_eq_nil_iff.1 h]
    exact .nil
  | cons t ts ih =>
    obtain ⟨u, us', rfl, hu, hus⟩ := List.map_eq_cons_iff.1 h
    exact .cons (.same hu) (ih hus)

theorem Derives.of_contents (h : Derives room level ts q)
    (hus : us.map Token.content = ts.map Token.content) : Derives room level us q :=
  h.respell (.of_contents hus)

/-- An operator of a conjunction may be left out. -/
theorem Derives.dropAnd {and : Token} (h : Derives room level (ts ++ [and] ++ us) q)
    (hand : and.kind.isAnd = true) : Derives room level (ts ++ us) q := by
  have hrefl (ts : List Token) : Respells ts ts := .of_contents rfl
  have hdropped : Respells (ts ++ ([and] ++ us)) (ts ++ us) :=
    (hrefl ts).append (.drop hand (hrefl us))
  rw [List.append_assoc] at h
  exact h.respell hdropped

/-! ### Texts put together -/

namespace Query

theorem exists_tokenize_of_parse (h : parse limit text = .ok q) (hne : q ≠ empty) :
    ∃ ts, tokenize text = .ok ts ∧ Derives limit.room .disjunction ts q := by
  obtain ⟨ts, htok, ⟨-, rfl⟩ | ⟨-, hq⟩⟩ := exists_of_parse h
  · exact absurd rfl hne
  · exact ⟨ts, htok, hq⟩

/-- **Search texts compose.**  Two texts that are queries, and not empty, are a query with
the word `or` between them, whose segments are those of the first and then those of the
second.  They are another query with the word `and` or just a space between them, in which
the last segment of the first and the first segment of the second are one.  With room for
one group more, a text in parentheses is the group of its query.  Segments tell the
query. -/
theorem parse_composes (hs : parse limit s = .ok q) (hq : q ≠ empty)
    (ht : parse limit t = .ok r) (hr : r ≠ empty) :
    (∃ either, parse limit (s ++ " or " ++ t) = .ok either ∧
      either.segments = q.segments ++ r.segments) ∧
    (∃ both before last first after,
      q.segments = before ++ [last] ∧ r.segments = first :: after ∧
      parse limit (s ++ " " ++ t) = .ok both ∧ parse limit (s ++ " and " ++ t) = .ok both ∧
      both.segments = before ++ (last ++ first) :: after) ∧
    parse (.count (max limit.value 0 + 1)) ("(" ++ s ++ ")") = .ok (group q) ∧
    Function.Injective segments := by
  obtain ⟨ts, hts, hq⟩ := exists_tokenize_of_parse hs hq
  obtain ⟨us, hus, hr⟩ := exists_tokenize_of_parse ht hr
  refine ⟨?_, ?_, ?_, segments_injective⟩
  · obtain ⟨either, heither, hsegments⟩ :=
      hq.exists_either ⟨.ofRun ['o', 'r'] 0, rfl, rfl⟩ hr
    obtain ⟨vs, htok, hcontents⟩ := exists_tokenize_run hts isRun_or hus
    exact ⟨either, parse_of_derives htok (heither.of_contents hcontents), hsegments⟩
  · obtain ⟨both, before, last, first, after, hqs, hrs, hboth, hsegments⟩ :=
      hq.exists_both (.inr ⟨.ofRun ['a', 'n', 'd'] 0, rfl, rfl⟩) hr
    obtain ⟨vs, htok, hcontents⟩ := exists_tokenize_run hts isRun_and hus
    obtain ⟨vs', htok', hcontents'⟩ := exists_tokenize_space hts hus
    exact ⟨both, before, last, first, after, hqs, hrs,
      parse_of_derives htok' ((hboth.dropAnd rfl).of_contents hcontents'),
      parse_of_derives htok (hboth.of_contents hcontents), hsegments⟩
  · obtain ⟨vs, htok, hcontents⟩ := exists_tokenize_group hts
    have hroom : (Limit.count (max limit.value 0 + 1)).room = limit.room + 1 := by
      show (max limit.value 0 + 1).toNat = limit.value.toNat + 1
      omega
    have hgroup : Derives (limit.room + 1) .primary
        (Token.ofSymbol .openParen 0 :: ts ++ [Token.ofSymbol .closeParen 0]) (group q) :=
      .group rfl rfl hq
    rw [← hroom] at hgroup
    exact parse_of_derives htok (hgroup.firstOperand.firstSide.of_contents hcontents)

/-- A word that ends with a quote in front of a phrase in quotes, where the last segment of
the one text and the first of the other have two operands each. -/
theorem parse_composes_quotes :
    let limit : Limit := .count (-3)
    let q := or (leaf "a") (and (leaf "b") (leaf "c'"))
    let r := or (and (phrase "d") (exclude (leaf "e"))) (leaf "f")
    let either := or (or q (and (phrase "d") (exclude (leaf "e")))) (leaf "f")
    let both := or (or (leaf "a")
      (and (and (and (leaf "b") (leaf "c'")) (phrase "d")) (exclude (leaf "e")))) (leaf "f")
    parse limit "a or b c'" = .ok q ∧ q ≠ empty ∧ parse limit "'d'-e|f" = .ok r ∧ r ≠ empty ∧
      parse limit ("a or b c'" ++ " or " ++ "'d'-e|f") = .ok either ∧
      either.segments = q.segments ++ r.segments ∧
      parse limit ("a or b c'" ++ " " ++ "'d'-e|f") = .ok both ∧
      (∃ before last first after,
        q.segments = before ++ [last] ∧ r.segments = first :: after ∧
        both.segments = before ++ (last ++ first) :: after) ∧
      parse (.count 1) ("(" ++ "a or b c'" ++ ")") = .ok (group q) := by
  intro limit q r either both
  have hs : parse limit "a or b c'" = .ok q := rfl
  have ht : parse limit "'d'-e|f" = .ok r := rfl
  have heither : parse limit ("a or b c'" ++ " or " ++ "'d'-e|f") = .ok either := rfl
  have hboth : parse limit ("a or b c'" ++ " " ++ "'d'-e|f") = .ok both := rfl
  have hq : q ≠ empty := show or _ _ ≠ empty from nofun
  have hr : r ≠ empty := show or _ _ ≠ empty from nofun
  obtain ⟨⟨either', heither', hsegments⟩, ⟨both', before, last, first, after, hqs, hrs, hboth', -,
    hsegments'⟩, hgroup, -⟩ := parse_composes hs hq ht hr
  obtain rfl := Except.ok.inj (heither.symm.trans heither')
  obtain rfl := Except.ok.inj (hboth.symm.trans hboth')
  exact ⟨hs, hq, ht, hr, heither, hsegments, hboth, ⟨before, last, first, after, hqs, hrs,
    hsegments'⟩, hgroup⟩

end Query

end FullText
