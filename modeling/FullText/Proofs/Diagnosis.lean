/-
FullText/Proofs/Diagnosis.lean

A misfit is where the parser says it is: what stands in front of it can still become
a query, and with the token at it nothing can.

Design.  `BreaksOff … used m` says of a reader what a misfit `m` behind the tokens
`used` means: some tokens complete `used`, and the reader gives up at the same place
whatever stands behind the token that does not fit.  The second part needs nothing but
that readers look no further than the next token (`Proofs/Locality.lean`).  Both parts
pass from a reader to the one that calls it (`BreaksOff.lift`), where more tokens
stand in front, and a group has to be closed behind.

Where nesting is too deep, the groups that are open in front of the misfit are counted
on the way (`openGroups`): what a reader has taken is balanced, so all of them are
those that the parser has opened.

Main result: `Query.parse_error_column`.
-/
import FullText.Proofs.Locality
import FullText.Proofs.Spacing

namespace FullText

variable {room : Nat} {limit : Limit} {level : Level} {q left : Query} {m : Misfit}
variable {t u : Token} {ts us used rest : List Token}

/-! ### Groups that are open -/

/-- How many more groups are opened than closed by some tokens. -/
def openGroups (ts : List Token) : Int :=
  ts.countP (·.kind = .symbol .openParen) - ts.countP (·.kind = .symbol .closeParen)

theorem openGroups_append (ts us : List Token) :
    openGroups (ts ++ us) = openGroups ts + openGroups us := by
  simp only [openGroups, List.countP_append]
  omega

/-- Tokens without a parenthesis open and close nothing. -/
theorem openGroups_of_ne
    (h : ∀ t ∈ ts, t.kind ≠ .symbol .openParen ∧ t.kind ≠ .symbol .closeParen) :
    openGroups ts = 0 := by
  have hopen : ts.countP (·.kind = .symbol .openParen) = 0 :=
    List.countP_eq_zero.2 fun t ht => by simpa using (h t ht).1
  have hclose : ts.countP (·.kind = .symbol .closeParen) = 0 :=
    List.countP_eq_zero.2 fun t ht => by simpa using (h t ht).2
  rw [openGroups, hopen, hclose]
  rfl

theorem openGroups_openParen (h : t.kind = .symbol .openParen) : openGroups [t] = 1 := by
  simp [openGroups, h]

theorem openGroups_closeParen (h : t.kind = .symbol .closeParen) : openGroups [t] = -1 := by
  simp [openGroups, h]

/-- No operator of a conjunction is a parenthesis. -/
theorem AndOperator.ne_paren (h : AndOperator ts) :
    ∀ t ∈ ts, t.kind ≠ .symbol .openParen ∧ t.kind ≠ .symbol .closeParen := by
  obtain rfl | ⟨u, rfl, hu⟩ := h
  · simp
  · intro t ht
    rw [List.mem_singleton.1 ht]
    constructor <;> intro hk <;> rw [hk] at hu <;> cases hu

/-- No operator of a disjunction is a parenthesis. -/
theorem OrOperator.ne_paren (h : OrOperator ts) :
    ∀ t ∈ ts, t.kind ≠ .symbol .openParen ∧ t.kind ≠ .symbol .closeParen := by
  obtain ⟨u, rfl, hu⟩ := h
  intro t ht
  rw [List.mem_singleton.1 ht]
  constructor <;> intro hk <;> rw [hk] at hu <;> cases hu

/-- **What is derived closes each group that it opens.** -/
theorem Derives.openGroups_eq_zero (h : Derives room level ts q) : openGroups ts = 0 := by
  induction h with
  | leaf h | phrase h => simp [openGroups, h]
  | thesaurus htilde h => simp [openGroups, htilde, h]
  | exact hplus h =>
    rcases h with h | ⟨quote, h⟩ <;> simp [openGroups, hplus, h]
  | @group room left right ts q hleft hright _ ih =>
    rw [← List.singleton_append, List.append_assoc, openGroups_append, openGroups_append, ih,
      openGroups_openParen hleft, openGroups_closeParen hright]
    rfl
  | @proximity room left right ts hleft hright hne h =>
    have hterms : openGroups ts = 0 :=
      openGroups_of_ne fun t ht => by simp [h t ht]
    rw [← List.singleton_append, List.append_assoc, openGroups_append, openGroups_append, hterms]
    simp [openGroups, hleft, hright]
  | included _ ih => exact ih
  | @excluded room minus ts q hminus _ ih =>
    rw [← List.singleton_append, openGroups_append, ih]
    simp [openGroups, hminus]
  | firstOperand _ ih => exact ih
  | nextOperand _ hop _ ihq ihr =>
    rw [openGroups_append, openGroups_append, ihq, ihr, openGroups_of_ne hop.ne_paren]
    rfl
  | firstSide _ ih => exact ih
  | nextSide _ hop _ ihq ihr =>
    rw [openGroups_append, openGroups_append, ihq, ihr, openGroups_of_ne hop.ne_paren]
    rfl

/-! ### Tokens that complete a query -/

/-- Tokens that can stand in a text. -/
def IsSpelled (ts : List Token) : Prop := ∀ t ∈ ts, ∃ s, Spelling s t

theorem isSpelled_nil : IsSpelled [] := fun _ h => absurd h List.not_mem_nil

theorem IsSpelled.cons (ht : Spelling s t) (h : IsSpelled ts) : IsSpelled (t :: ts) := by
  intro u hu
  rcases List.mem_cons.1 hu with rfl | hu
  · exact ⟨_, ht⟩
  · exact h u hu

theorem IsSpelled.append (ht : IsSpelled ts) (hu : IsSpelled us) : IsSpelled (ts ++ us) := by
  intro t h
  rcases List.mem_append.1 h with h | h
  · exact ht t h
  · exact hu t h

/-- A term. -/
def someTerm : Token := .ofRun ['a'] 0

theorem kind_someTerm : someTerm.kind = .term := rfl

theorem spelling_someTerm : Spelling ['a'] someTerm :=
  .run ⟨⟨'a', [], rfl, by decide⟩, List.all_eq_true.1 (by decide +kernel)⟩

theorem isSpelled_someTerm : IsSpelled [someTerm] := isSpelled_nil.cons spelling_someTerm

theorem isSpelled_symbol (sym : Symbol) : IsSpelled [.ofSymbol sym 0] :=
  isSpelled_nil.cons .symbol

/-! ### What a misfit means -/

/-- `BreaksOff limit room Complete read used m`: reading fails behind the tokens `used`,
and for a reason.  Some tokens behind them make them complete, and none can once there
is the token that does not fit.  If groups are nested too deep, it is a group for which
there is no room. -/
structure BreaksOff {α : Type} (limit : Limit) (room : Nat) (Complete : List Token → Prop)
    (read : List Token → Except Misfit α) (used : List Token) (m : Misfit) : Prop where
  completable : ∃ more, IsSpelled more ∧ Complete (used ++ more)
  hopeless : ∀ t after, m.rest = t :: after →
    ∀ more, read (used ++ t :: more) = .error ⟨m.fault, t :: more⟩
  tooDeep : ∀ l, m.fault = .tooDeep l →
    l = limit ∧ (∃ t after, m.rest = t :: after ∧ t.kind = .symbol .openParen) ∧
      openGroups used = room

/-- **What a misfit means to a reader it means to its caller**, which has taken the
tokens `front` and still needs the tokens `closing`. -/
theorem BreaksOff.lift {α β : Type} {room' : Nat} {Complete Complete' : List Token → Prop}
    {read : List Token → Except Misfit α} {read' : List Token → Except Misfit β}
    {front closing : List Token} (h : BreaksOff limit room Complete read used m)
    (hclosing : IsSpelled closing)
    (hcomplete : ∀ ts, Complete ts → Complete' (front ++ ts ++ closing))
    (hread : ∀ t after, m.rest = t :: after → ∀ more e, read (used ++ t :: more) = .error e →
      read' (front ++ (used ++ t :: more)) = .error e)
    (hroom : openGroups front + room = room') :
    BreaksOff limit room' Complete' read' (front ++ used) m where
  completable := by
    obtain ⟨more, hmore, hused⟩ := h.completable
    refine ⟨more ++ closing, hmore.append hclosing, ?_⟩
    have hwhole := hcomplete (used ++ more) hused
    simpa only [List.append_assoc] using hwhole
  hopeless t after hrest more := by
    rw [List.append_assoc]
    exact hread t after hrest more _ (h.hopeless t after hrest more)
  tooDeep l hl := by
    obtain ⟨hlimit, hparen, hopen⟩ := h.tooDeep l hl
    exact ⟨hlimit, hparen, by rw [openGroups_append, hopen, hroom]⟩

/-- The same for a caller that takes nothing itself. -/
theorem BreaksOff.pass {α β : Type} {Complete Complete' : List Token → Prop}
    {read : List Token → Except Misfit α} {read' : List Token → Except Misfit β}
    (h : BreaksOff limit room Complete read used m) (hcomplete : ∀ ts, Complete ts → Complete' ts)
    (hread : ∀ t after, m.rest = t :: after → ∀ more e, read (used ++ t :: more) = .error e →
      read' (used ++ t :: more) = .error e) :
    BreaksOff limit room Complete' read' used m := by
  rw [← List.nil_append used]
  refine h.lift isSpelled_nil (fun ts hts => ?_) hread (Int.zero_add _)
  rw [List.nil_append, List.append_nil]
  exact hcomplete ts hts

/-- A reader that gives up at its first token, whatever stands behind it. -/
theorem BreaksOff.here {α : Type} {Complete : List Token → Prop}
    {read : List Token → Except Misfit α} {fault : Fault} (hcompletable : ∃ more, IsSpelled more ∧
      Complete more) (hread : ∀ t us, ts = t :: us → ∀ more,
      read (t :: more) = .error ⟨fault, t :: more⟩) (hfault : ∀ l, fault ≠ .tooDeep l) :
    BreaksOff limit room Complete read [] ⟨fault, ts⟩ where
  completable := hcompletable
  hopeless := hread
  tooDeep l hl := absurd hl (hfault l)

/-- What some query at a level is derived from. -/
def Derivable (room : Nat) (level : Level) (ts : List Token) : Prop :=
  ∃ q, Derives room level ts q

theorem derivable_someTerm : Derivable room .primary [someTerm] :=
  ⟨_, .leaf kind_someTerm⟩

namespace Reader

/-- `Diagnoses limit reader room level`: where the reader of a level fails, there is a
misfit. -/
def Diagnoses (limit : Limit) (reader : Reader Query) (room : Nat) (level : Level) : Prop :=
  ∀ {ts : List Token} {m : Misfit}, reader.read ts = .error m →
    ∃ used, ts = used ++ m.rest ∧ BreaksOff limit room (Derivable room level) reader.read used m

/-! ### Chains -/

section

variable {join : Query → Query → Query} {link : Link} {first operand : Reader Query}
variable {Operator : List Token → Prop} {firstLevel operandLevel : Level}

/-- **A chain that fails does so in an operand**, and what is joined so far can be
completed as that operand can. -/
theorem diagnoses_chainFrom (hlink : link.IsLocal Operator)
    (hoperator : ∀ op, Operator op → openGroups op = 0)
    (hlocal : IsLocal operand room operandLevel)
    (hoperand : Diagnoses limit operand room operandLevel)
    (hjoin : ∀ used op us left right, Derives room level used left → Operator op →
      Derives room operandLevel us right → Derives room level (used ++ op ++ us) (join left right))
    (hleft : Derives room level used left)
    (h : chainFrom join link operand left ts = .error m) :
    ∃ taken, ts = taken ++ m.rest ∧
      BreaksOff limit room (fun ts => Derivable room level (used ++ ts))
        (chainFrom join link operand left) taken m := by
  -- each turn takes an operand, so there are fewer tokens left for the next one
  induction hn : ts.length using Nat.strongRecOn generalizing used left ts with
  | ind n ih =>
    rw [chainFrom_eq] at h
    split at h
    · cases h
    · next next hnext =>
      have hle := link.le hnext
      obtain ⟨op, hop, rfl, hgoesOn⟩ := hlink.goesOn hnext
      split at h
      · next hread =>
        -- the next operand fails
        obtain rfl := Except.error.inj h
        obtain ⟨us, rfl, hbreaks⟩ := hoperand hread
        refine ⟨op ++ us, by rw [List.append_assoc], hbreaks.lift isSpelled_nil ?_ ?_ ?_⟩
        · rintro ts ⟨right, hright⟩
          refine ⟨join left right, ?_⟩
          rw [List.append_nil, ← List.append_assoc]
          exact hjoin used op ts left right hleft hop hright
        · intro t after hrest more e he
          rw [hrest] at hgoesOn
          rw [chainFrom_eq, hgoesOn _ (Agree.append_cons us t after more)]
          simp only [he]
        · rw [hoperator op hop, Int.zero_add]
      · next right more hread =>
        -- the next operand is read, and the chain fails behind it
        have hlt := operand.shorter hread
        obtain ⟨us, rfl, hright, hagain⟩ := hlocal hread
        obtain ⟨taken, rfl, hbreaks⟩ := ih more.length (by omega)
          (hjoin used op us left right hleft hop hright) h rfl
        refine ⟨op ++ us ++ taken, by simp only [List.append_assoc],
          hbreaks.lift isSpelled_nil ?_ ?_ ?_⟩
        · intro ts hts
          simpa only [List.append_assoc, List.append_nil] using hts
        · intro t after hrest more e he
          rw [hrest] at hgoesOn hagain
          have hagree : Agree (us ++ (taken ++ t :: after)) (us ++ (taken ++ t :: more)) := by
            rw [← List.append_assoc, ← List.append_assoc]
            exact Agree.append_cons (us ++ taken) t after more
          rw [List.append_assoc, chainFrom_of_read (hgoesOn _ hagree)
            (hagain _ (Agree.append_cons taken t after more)), he]
        · rw [openGroups_append, hoperator op hop, hright.openGroups_eq_zero]
          omega

/-- A chain with its first operand. -/
theorem diagnoses_chain (hlink : link.IsLocal Operator)
    (hoperator : ∀ op, Operator op → openGroups op = 0)
    (hfirstLocal : IsLocal first room firstLevel) (hfirst : Diagnoses limit first room firstLevel)
    (hlocal : IsLocal operand room operandLevel)
    (hoperand : Diagnoses limit operand room operandLevel)
    (hone : ∀ ts q, Derives room firstLevel ts q → Derives room level ts q)
    (hjoin : ∀ used op us left right, Derives room level used left → Operator op →
      Derives room operandLevel us right →
      Derives room level (used ++ op ++ us) (join left right)) :
    Diagnoses limit (chain join link first operand) room level := by
  intro ts m h
  rw [read_chain] at h
  rcases hread : first.read ts with e | ⟨left, more⟩
  · rw [hread, Reading.andThen_error] at h
    obtain rfl := Except.error.inj h
    obtain ⟨used, rfl, hbreaks⟩ := hfirst hread
    refine ⟨used, rfl, hbreaks.pass ?_ ?_⟩
    · rintro ts ⟨q, hq⟩
      exact ⟨q, hone ts q hq⟩
    · intro t after _ more e he
      rw [read_chain, he, Reading.andThen_error]
  · rw [hread, Reading.andThen_ok] at h
    obtain ⟨used, rfl, hleft, hagain⟩ := hfirstLocal hread
    obtain ⟨taken, rfl, hbreaks⟩ :=
      diagnoses_chainFrom hlink hoperator hlocal hoperand hjoin (hone _ _ hleft) h
    refine ⟨used ++ taken, by rw [List.append_assoc], hbreaks.lift isSpelled_nil ?_ ?_ ?_⟩
    · intro ts hts
      rwa [List.append_nil]
    · intro t after hrest more e he
      rw [hrest] at hagain
      rw [read_chain, hagain _ (Agree.append_cons taken t after more), Reading.andThen_ok, he]
    · rw [hleft.openGroups_eq_zero, Int.zero_add]

end

/-! ### Operands -/

/-- An operand fails where its primary does, a dash in front or not. -/
theorem diagnoses_operand {p : Reader Query} (hp : Diagnoses limit p room .primary) :
    Diagnoses limit (operand p) room .operand := by
  intro ts m h
  rcases head_cases (.symbol .minus) ts with ⟨t, us, rfl, ht⟩ | hne
  · rw [read_operand_minus ht] at h
    cases hread : p.read us with
    | ok result =>
      rw [hread] at h
      cases h
    | error e =>
      rw [hread] at h
      obtain rfl := Except.error.inj h
      obtain ⟨used, rfl, hbreaks⟩ := hp hread
      refine ⟨[t] ++ used, rfl, hbreaks.lift isSpelled_nil ?_ ?_ ?_⟩
      · rintro ts ⟨q, hq⟩
        rw [List.append_nil]
        exact ⟨.exclude q, .excluded ht hq⟩
      · intro u after _ more e he
        rw [List.singleton_append, read_operand_minus ht, he]
        rfl
      · rw [openGroups_of_ne (by simp [ht]), Int.zero_add]
  · rw [read_operand_of_ne hne] at h
    obtain ⟨used, rfl, hbreaks⟩ := hp h
    refine ⟨used, rfl, hbreaks.pass ?_ ?_⟩
    · rintro ts ⟨q, hq⟩
      exact ⟨q, .included hq⟩
    · intro t after hrest more e he
      -- the first token is the same as before, so it is no dash
      rw [hrest] at hne
      rw [read_operand_of_ne ((Agree.append_cons used t after more).head_ne hne), he]

/-! ### The levels above primaries -/

section

variable (hp : Diagnoses limit (primary limit room) room .primary)
include hp

theorem diagnoses_conjunction :
    Diagnoses limit (conjunction (primary limit room)) room .conjunction :=
  diagnoses_chain andLink_isLocal (fun _ hop => openGroups_of_ne hop.ne_paren)
    (isLocal_primary limit room) hp (isLocal_operand limit room) (diagnoses_operand hp)
    (fun _ _ => .firstOperand)
    (fun _ _ _ _ _ hleft hop hright => .nextOperand hleft hop hright)

theorem diagnoses_disjunction :
    Diagnoses limit (disjunction (primary limit room)) room .disjunction :=
  diagnoses_chain orLink_isLocal (fun _ hop => openGroups_of_ne hop.ne_paren)
    (isLocal_conjunction limit room) (diagnoses_conjunction hp)
    (isLocal_conjunction limit room) (diagnoses_conjunction hp) (fun _ _ => .firstSide)
    (fun _ _ _ _ _ hleft hop hright => .nextSide hleft hop hright)

end

/-! ### The parts of a primary -/

/-- A token that is not wanted is a misfit. -/
theorem single_of_not {wanted : Kind → Bool} {fault : Fault} {make : String → Query}
    (h : ∀ t ∈ ts.head?, wanted t.kind = false) :
    single wanted fault make ts = .error ⟨fault, ts⟩ := by
  cases ts with
  | nil => rfl
  | cons t ts => rw [single, h t rfl, if_neg Bool.false_ne_true]

/-- Where a single token fails to be read, it is not wanted. -/
theorem single_eq_error {wanted : Kind → Bool} {fault : Fault} {make : String → Query}
    (h : single wanted fault make ts = .error m) :
    (∀ t ∈ ts.head?, wanted t.kind = false) ∧ m = ⟨fault, ts⟩ := by
  have hnot : ∀ t ∈ ts.head?, wanted t.kind = false := by
    intro t ht
    rw [← Bool.not_eq_true]
    intro hwanted
    obtain ⟨rest, rfl⟩ := List.head?_eq_some_iff.1 ht
    rw [single_eq_ok_iff.2 ⟨t, hwanted, rfl, rfl⟩] at h
    cases h
  rw [single_of_not hnot] at h
  exact ⟨hnot, (Except.error.inj h).symm⟩

/-- Where a single token is wanted behind those taken, the misfit is what stands there. -/
theorem diagnoses_behind {Complete : List Token → Prop} {read : List Token → Reading Query}
    {wanted : Kind → Bool} {fault : Fault} {make : String → Query} (used rest : List Token)
    (hcompletable : ∃ more, IsSpelled more ∧ Complete (used ++ more))
    (hread : ∀ us, Agree rest us → read (used ++ us) = single wanted fault make us)
    (hfault : ∀ l, fault ≠ .tooDeep l) (h : read (used ++ rest) = .error m) :
    ∃ taken, used ++ rest = taken ++ m.rest ∧ BreaksOff limit room Complete read taken m := by
  rw [hread rest rfl] at h
  obtain ⟨hnot, rfl⟩ := single_eq_error h
  refine ⟨used, rfl, hcompletable, ?_, fun l hl => absurd hl (hfault l)⟩
  rintro t after rfl more
  rw [hread (t :: more) (.cons_cons rfl)]
  exact single_of_not hnot

/-- Behind a tilde and a plus a term would do. -/
theorem diagnoses_single {wanted : Kind → Bool} {fault : Fault} {make : String → Query}
    (hterm : Derivable room .primary [t, someTerm]) (hfault : ∀ l, fault ≠ .tooDeep l)
    (h : single wanted fault make ts = .error m) :
    ∃ used, ts = used ++ m.rest ∧
      BreaksOff limit room (fun ts => Derivable room .primary (t :: ts)) (single wanted fault make)
        used m :=
  diagnoses_behind [] ts ⟨[someTerm], isSpelled_someTerm, hterm⟩ (fun _ _ => rfl) hfault h

/-- A list of close words lacks a term, or else the bracket that closes it. -/
theorem diagnoses_proximity (hless : t.kind = .symbol .less) (h : proximity ts = .error m) :
    ∃ used, ts = used ++ m.rest ∧
      BreaksOff limit room (fun ts => Derivable room .primary (t :: ts)) proximity used m := by
  obtain ⟨terms, rest, rfl, hterms, hterm⟩ := exists_terms ts
  have hread : ∀ us, Agree rest us →
      proximity (terms ++ us) = closeProximity (terms.map Token.text) us :=
    fun us hagree => proximity_append hterms (hagree.head_ne hterm)
  have hbracket : IsSpelled [.ofSymbol .greater 0] := isSpelled_symbol .greater
  by_cases hempty : terms = []
  · -- there is no term yet, so a term and the bracket are missing
    subst hempty
    have hcomplete : Derivable room .primary (t :: ([someTerm] ++ [.ofSymbol .greater 0])) :=
      ⟨_, .proximity hless rfl (List.cons_ne_nil someTerm []) (by simp [kind_someTerm])⟩
    obtain rfl := Except.error.inj ((hread rest rfl).symm.trans h)
    refine ⟨[], rfl, .here ⟨_, isSpelled_someTerm.append hbracket, hcomplete⟩ ?_ (by simp)⟩
    rintro u us rfl more
    exact hread (u :: more) (.cons_cons rfl)
  · have hcomplete : Derivable room .primary (t :: (terms ++ [.ofSymbol .greater 0])) :=
      ⟨_, .proximity hless rfl hempty hterms⟩
    have hclose : ∀ us, Agree rest us → proximity (terms ++ us) = single (· = .symbol .greater)
        .unclosedProximity (fun _ => .proximity (terms.map Token.text)) us := by
      intro us hagree
      rw [hread us hagree, closeProximity, if_neg (by rwa [List.map_eq_nil_iff])]
    exact diagnoses_behind terms rest ⟨_, hbracket, hcomplete⟩ hclose (by simp) h

/-- A group that fails does so in its query, or where it should be closed. -/
theorem diagnoses_group {inside : Reader Query} (hopen : t.kind = .symbol .openParen)
    (hlocal : IsLocal inside room .disjunction) (hinside : Diagnoses limit inside room .disjunction)
    (h : group inside ts = .error m) :
    ∃ used, ts = used ++ m.rest ∧
      BreaksOff limit room (fun ts => Derivable (room + 1) .primary (t :: ts)) (group inside)
        used m := by
  have hclose : ∀ {ts : List Token} {q : Query}, Derives room .disjunction ts q →
      Derivable (room + 1) .primary (t :: (ts ++ [.ofSymbol .closeParen 0])) :=
    fun {_} {q} hq => ⟨.group q, .group hopen rfl hq⟩
  cases hread : inside.read ts with
  | error e =>
    rw [group, hread, Reading.andThen_error] at h
    obtain rfl := Except.error.inj h
    obtain ⟨used, rfl, hbreaks⟩ := hinside hread
    refine ⟨used, rfl, ?_⟩
    rw [← List.nil_append used]
    refine hbreaks.lift (isSpelled_symbol .closeParen) ?_ ?_ (Int.zero_add _)
    · rintro ts ⟨q, hq⟩
      rw [List.nil_append]
      exact hclose hq
    · intro u after _ more e he
      rw [List.nil_append, group, he, Reading.andThen_error]
  | ok result =>
    obtain ⟨inner, behind⟩ := result
    obtain ⟨used, rfl, hq, hagain⟩ := hlocal hread
    have hgroup : ∀ us, Agree behind us → group inside (used ++ us) = closeGroup inner us := by
      intro us hagree
      rw [group, hagain us hagree, Reading.andThen_ok]
    exact diagnoses_behind used behind ⟨_, isSpelled_symbol .closeParen, hclose hq⟩ hgroup
      (by simp) h

/-! ### Primaries -/

/-- What a primary fails at, by its first token. -/
theorem primary_error_cases (h : (primary limit room).read ts = .error m) :
    (ts = [] ∧ m = ⟨.noOperand, []⟩) ∨ ∃ t us, ts = t :: us ∧
      ((t.kind = .symbol .tilde ∧ thesaurus us = .error m) ∨
        (t.kind = .symbol .plus ∧ exact us = .error m) ∨
        (t.kind = .symbol .less ∧ proximity us = .error m) ∨
        (t.kind = .symbol .openParen ∧ room = 0 ∧ m = ⟨.tooDeep limit, t :: us⟩) ∨
        (t.kind = .symbol .openParen ∧ ∃ room', room = room' + 1 ∧
          group (disjunction (primary limit room')) us = .error m) ∨
        ((∀ more, (primary limit room).read (t :: more) = .error ⟨.noOperand, t :: more⟩) ∧
          m = ⟨.noOperand, t :: us⟩)) := by
  rw [primary_eq] at h ⊢
  cases ts with
  | nil => exact .inl ⟨rfl, (Except.error.inj h).symm⟩
  | cons t us =>
    refine .inr ⟨t, us, rfl, ?_⟩
    simp only [primaryWith] at h ⊢
    split at h
    · cases h
    · cases h
    · next ht => exact .inl ⟨ht, h⟩
    · next ht => exact .inr (.inl ⟨ht, h⟩)
    · next ht => exact .inr (.inr (.inl ⟨ht, h⟩))
    · next ht =>
      cases room with
      | zero => exact .inr (.inr (.inr (.inl ⟨ht, rfl, (Except.error.inj h).symm⟩)))
      | succ room => exact .inr (.inr (.inr (.inr (.inl ⟨ht, room, rfl, h⟩))))
    · exact .inr (.inr (.inr (.inr (.inr ⟨fun _ => rfl, (Except.error.inj h).symm⟩))))

/-- What a part of a primary fails at, the primary fails at, its first token in front. -/
theorem diagnoses_part {part : List Token → Reading Query} {room' : Nat}
    (hread : ∀ us, (primary limit room).read (t :: us) = part us)
    (hroom : openGroups [t] + room' = room)
    (h : ∃ used, us = used ++ m.rest ∧
      BreaksOff limit room' (fun ts => Derivable room .primary (t :: ts)) part used m) :
    ∃ used, t :: us = used ++ m.rest ∧
      BreaksOff limit room (Derivable room .primary) (primary limit room).read used m := by
  obtain ⟨used, rfl, hbreaks⟩ := h
  refine ⟨[t] ++ used, rfl, hbreaks.lift isSpelled_nil ?_ ?_ hroom⟩
  · intro ts hts
    rwa [List.append_nil]
  · intro u after _ more e he
    rw [List.singleton_append, hread, he]

/-- Primaries are diagnosed if those inside a group are. -/
theorem diagnoses_primary_of_inside
    (hinside : ∀ room', room = room' + 1 → Diagnoses limit (primary limit room') room' .primary) :
    Diagnoses limit (primary limit room) room .primary := by
  have hcompletable : ∃ more, IsSpelled more ∧ Derivable room .primary more :=
    ⟨_, isSpelled_someTerm, derivable_someTerm⟩
  intro ts m h
  rcases primary_error_cases h with ⟨rfl, rfl⟩ | ⟨t, us, rfl, ⟨ht, hus⟩ | ⟨ht, hus⟩ | ⟨ht, hus⟩ |
    ⟨ht, rfl, rfl⟩ | ⟨ht, room', rfl, hus⟩ | ⟨hread, rfl⟩⟩
  · exact ⟨[], rfl, .here hcompletable (by simp) (by simp)⟩
  · refine diagnoses_part (fun us => ?_) ?_
      (diagnoses_single ⟨_, .thesaurus ht kind_someTerm⟩ (by simp) hus)
    · simp only [primary_eq, primaryWith, ht, thesaurus]
    · rw [openGroups_of_ne (by simp [ht]), Int.zero_add]
  · refine diagnoses_part (fun us => ?_) ?_
      (diagnoses_single ⟨_, .exact ht (.inl kind_someTerm)⟩ (by simp) hus)
    · simp only [primary_eq, primaryWith, ht, exact]
    · rw [openGroups_of_ne (by simp [ht]), Int.zero_add]
  · refine diagnoses_part (fun us => ?_) ?_ (diagnoses_proximity ht hus)
    · simp only [primary_eq, primaryWith, ht]
    · rw [openGroups_of_ne (by simp [ht]), Int.zero_add]
  · -- there is no room for the group
    refine ⟨[], rfl, hcompletable, ?_, ?_⟩
    · rintro u after ⟨⟩ more
      simp only [List.nil_append, primary, primaryWith, ht]
    · rintro l ⟨⟩
      exact ⟨rfl, ⟨t, us, rfl, ht⟩, rfl⟩
  · refine diagnoses_part (fun us => primary_openParen ht) ?_
      (diagnoses_group ht (isLocal_disjunction limit room')
        (diagnoses_disjunction (hinside room' rfl)) hus)
    rw [openGroups_openParen ht]
    omega
  · refine ⟨[], rfl, .here hcompletable ?_ (by simp)⟩
    rintro u after ⟨⟩ more
    exact hread more

/-- **Where a primary fails there is a misfit.** -/
theorem diagnoses_primary (limit : Limit) (room : Nat) :
    Diagnoses limit (primary limit room) room .primary := by
  induction room with
  | zero => exact diagnoses_primary_of_inside fun room' h => absurd h (by omega)
  | succ room ih =>
    apply diagnoses_primary_of_inside
    intro room' h
    obtain rfl : room = room' := by omega
    exact ih

end Reader

/-! ### Whole lists of tokens -/

namespace Query

/-- Whether the parser accepts a list of tokens. -/
def Accepts (limit : Limit) (ts : List Token) : Prop := ∃ q, ofTokens limit ts = .ok q

theorem accepts_of_derivable (h : Derivable limit.room .disjunction ts) : Accepts limit ts := by
  obtain ⟨q, hq⟩ := h
  obtain ⟨t, us, rfl, -⟩ := hq.exists_head
  exact ⟨q, (ofTokens_eq_ok_iff (List.cons_ne_nil t us)).2 hq⟩

theorem ofTokens_eq_of_ne_nil (hne : ts ≠ []) :
    ofTokens limit ts =
      match (Reader.disjunction (Reader.primary limit limit.room)).read ts with
      | .error e => .error e
      | .ok (q, []) => .ok q
      | .ok (_, rest) => .error ⟨.trailingInput, rest⟩ := by
  cases ts with
  | nil => exact absurd rfl hne
  | cons t ts => rfl

/-- **Where the parser fails there is a misfit.** -/
theorem exists_breaksOff (h : ofTokens limit ts = .error m) :
    ∃ used, ts = used ++ m.rest ∧
      BreaksOff limit limit.room (Accepts limit) (ofTokens limit) used m := by
  have hne : ts ≠ [] := by
    rintro rfl
    cases h
  rw [ofTokens_eq_of_ne_nil hne] at h
  split at h
  · next hread =>
    obtain rfl := Except.error.inj h
    obtain ⟨used, rfl, hbreaks⟩ :=
      Reader.diagnoses_disjunction (Reader.diagnoses_primary limit limit.room) hread
    refine ⟨used, rfl, hbreaks.pass (fun _ => accepts_of_derivable) ?_⟩
    intro t after _ more e he
    rw [ofTokens_eq_of_ne_nil (by simp), he]
  · cases h
  · next q rest hrest hread =>
    -- a whole query is read, and some tokens are left
    obtain rfl := Except.error.inj h
    obtain ⟨used, rfl, hq, hagain⟩ := Reader.isLocal_disjunction limit limit.room hread
    refine ⟨used, rfl, ⟨[], isSpelled_nil, ?_⟩, ?_, nofun⟩
    · rw [List.append_nil]
      exact accepts_of_derivable ⟨q, hq⟩
    · rintro t after hafter more
      obtain rfl : rest = t :: after := hafter
      rw [ofTokens_eq_of_ne_nil (by simp), hagain _ (Agree.cons_cons rfl)]

/-- Where columns go up, a column tells where its token stands. -/
theorem split_unique {before before' after after' : List Token}
    (hup : (before ++ t :: after).Pairwise fun t u => t.column < u.column)
    (heq : before ++ t :: after = before' ++ u :: after') (hcolumn : t.column = u.column) :
    before = before' ∧ t = u := by
  induction before generalizing before' with
  | nil =>
    cases before' with
    | nil => exact ⟨rfl, (List.cons.inj heq).1⟩
    | cons v before' =>
      obtain ⟨rfl, rfl⟩ := List.cons.inj heq
      have := (List.pairwise_cons.1 hup).1 u (by simp)
      omega
  | cons v before ih =>
    cases before' with
    | nil =>
      obtain ⟨rfl, rfl⟩ := List.cons.inj heq
      have := (List.pairwise_cons.1 hup).1 t (by simp)
      omega
    | cons w before' =>
      obtain ⟨rfl, htail⟩ := List.cons.inj heq
      obtain ⟨rfl, rfl⟩ := ih (List.pairwise_cons.1 hup).2 htail
      exact ⟨rfl, rfl⟩

variable {text : String}

/-- A syntactic error is the misfit of the tokens. -/
theorem ofTokens_of_parse (htok : tokenize text = .ok ts)
    (h : parse limit text = .error (.syntactic text m)) : ofTokens limit ts = .error m := by
  rw [parse_of_tokenize htok] at h
  cases hts : ofTokens limit ts with
  | ok q =>
    rw [hts] at h
    cases h
  | error m =>
    rw [hts] at h
    exact congrArg _ (ParseError.syntactic.inj (Except.error.inj h)).2

/-- No token starts at the end of the text. -/
theorem column_lt_length (htok : tokenize text = .ok ts) (ht : t ∈ ts) :
    t.column < text.length := by
  have := ((layout_of_tokenize htok).column_bounds t ht).2
  rwa [String.length_toList, Nat.zero_add] at this

/-- **A syntactic error is reported where the query becomes hopeless.**  The column is
that of the end of the text or that of a token.  At the end of the text, the tokens are
no query, and more of them could make one.  At a token, some tokens behind those in
front of it make a query, and none do behind it; and if groups are nested too deep, it
opens a group while as many are open as there may be. -/
theorem parse_error_column (limit : Limit) {text : String} {ts : List Token} {misfit : Misfit}
    {column : Int} (htok : tokenize text = .ok ts)
    (h : parse limit text = .error (.syntactic text misfit))
    (hcolumn : (ParseError.syntactic text misfit).report.column = some column) :
    (column = text.length ∨ ∃ t ∈ ts, column = t.column) ∧
    (column = text.length →
      ¬ Accepts limit ts ∧ ∃ more, IsSpelled more ∧ Accepts limit (ts ++ more)) ∧
    (∀ before t after, ts = before ++ t :: after → column = t.column →
      (∃ more, IsSpelled more ∧ Accepts limit (before ++ more)) ∧
      (∀ more, ¬ Accepts limit (before ++ t :: more)) ∧
      (∀ l, misfit.fault = .tooDeep l →
        t.kind = .symbol .openParen ∧ openGroups before = limit.room)) ∧
    (∀ l, misfit.fault = .tooDeep l → column ≠ text.length) := by
  have herror := ofTokens_of_parse htok h
  obtain ⟨used, hused, hbreaks⟩ := exists_breaksOff herror
  have hlt : ∀ t ∈ ts, (t.column : Int) ≠ text.length := by
    intro t ht
    have := column_lt_length htok ht
    omega
  have hsyntactic : (misfit.report text.length).column = some column := hcolumn
  unfold Misfit.report at hsyntactic
  cases hrest : misfit.rest with
  | nil =>
    rw [hrest] at hused hsyntactic
    obtain rfl := Option.some.inj hsyntactic
    rw [List.append_nil] at hused
    refine ⟨.inl rfl, fun _ => ⟨?_, ?_⟩, ?_, ?_⟩
    · rintro ⟨q, hq⟩
      rw [herror] at hq
      cases hq
    · rw [hused]
      exact hbreaks.completable
    · intro before t after hts hcolumn
      exact absurd hcolumn.symm (hlt t (by simp [hts]))
    · intro l hl
      obtain ⟨-, ⟨t, after, ht, -⟩, -⟩ := hbreaks.tooDeep l hl
      rw [hrest] at ht
      cases ht
  | cons t after =>
    rw [hrest] at hused hsyntactic
    obtain rfl := Option.some.inj hsyntactic
    have hne := hlt t (by simp [hused])
    refine ⟨.inr ⟨t, by simp [hused], rfl⟩, fun heq => absurd heq hne, ?_, fun _ _ => hne⟩
    intro before u after' hts hcolumn
    have hup := (layout_of_tokenize htok).pairwise_column
    rw [hused] at hup
    obtain ⟨rfl, rfl⟩ := split_unique hup (hused.symm.trans hts) (Int.ofNat_inj.1 hcolumn)
    refine ⟨hbreaks.completable, ?_, ?_⟩
    · rintro more ⟨q, hq⟩
      rw [hbreaks.hopeless t after hrest more] at hq
      cases hq
    · intro l hl
      obtain ⟨-, ⟨v, after'', hv, hparen⟩, hopen⟩ := hbreaks.tooDeep l hl
      rw [hrest] at hv
      obtain ⟨rfl, -⟩ := List.cons.inj hv
      exact ⟨hparen, hopen⟩

/-- With room for two groups, the third parenthesis is the one that is too many, though
the group in front of them is closed. -/
theorem parse_error_column_tooDeep :
    let before : List Token :=
      [⟨.symbol .openParen, "(", 0⟩, ⟨.term, "a", 1⟩, ⟨.symbol .closeParen, ")", 2⟩,
        ⟨.symbol .openParen, "(", 4⟩, ⟨.term, "b", 5⟩, ⟨.or, "or", 7⟩,
        ⟨.symbol .openParen, "(", 10⟩]
    let paren : Token := ⟨.symbol .openParen, "(", 11⟩
    let after : List Token := [⟨.term, "c", 12⟩]
    let misfit : Misfit := ⟨.tooDeep (.count 2), paren :: after⟩
    tokenize "(a) (b or ((c" = .ok (before ++ paren :: after) ∧
      parse (.count 2) "(a) (b or ((c" = .error (.syntactic "(a) (b or ((c" misfit) ∧
      (ParseError.syntactic "(a) (b or ((c" misfit).report.column = some 11 ∧
      (∃ more, IsSpelled more ∧ Accepts (.count 2) (before ++ more)) ∧
      (∀ more, ¬ Accepts (.count 2) (before ++ paren :: more)) ∧ openGroups before = 2 := by
  intro before paren after misfit
  have htok : tokenize "(a) (b or ((c" = .ok (before ++ paren :: after) := rfl
  have hparse : parse (.count 2) "(a) (b or ((c" = .error (.syntactic "(a) (b or ((c" misfit) := rfl
  have hcolumn : (ParseError.syntactic "(a) (b or ((c" misfit).report.column = some 11 := rfl
  obtain ⟨hmore, hnone, hdeep⟩ :=
    (parse_error_column (.count 2) htok hparse hcolumn).2.2.1 before paren after rfl rfl
  exact ⟨htok, hparse, hcolumn, hmore, hnone, (hdeep (.count 2) rfl).2⟩

end Query

end FullText
