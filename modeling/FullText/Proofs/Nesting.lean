/-
FullText/Proofs/Nesting.lean

The limit on nesting cuts texts off, changes nothing else, and does so at the first
parenthesis for which there is no room.

Design.  Two parsers with different room read in step.  `Follows` says of their readings
of the same tokens that they are the same, unless the one with less room finds a group
too deep; then the other one, if it has more room, comes further (`Beyond`).  This passes
through chains and groups, and for primaries it is an induction on the room.  A reading
that has come further stays so, because readers leave no more tokens than they were given,
also where they fail.

Which parenthesis it is, is a matter of the grammar: a text derived with some room opens
no group where as many as that are open (`Derives.fits`), and what stands in front of a
misfit can be completed to such a text (`Proofs/Diagnosis.lean`).

Main result: `Query.parse_limit_cuts_off`.
-/
import FullText.Proofs.Diagnosis

namespace FullText

variable {room room' : Nat} {limit limit' : Limit} {level : Level} {q : Query} {m : Misfit}
variable {t u : Token} {ts us before after rest : List Token}

/-! ### The nesting of queries -/

/-- How many groups lie inside each other in a query, at most. -/
def Query.nesting : Query → Nat
  | or left right | and left right => max left.nesting right.nesting
  | exclude inner => inner.nesting
  | group inner => inner.nesting + 1
  | _ => 0

namespace Derives

/-- A query has no more groups inside each other than there is room for. -/
theorem nesting_le (h : Derives room level ts q) : q.nesting ≤ room := by
  induction h with
  | leaf _ | phrase _ | thesaurus _ _ | exact _ _ | proximity _ _ _ _ => exact Nat.zero_le _
  | group _ _ _ ih => exact Nat.succ_le_succ ih
  | included _ ih | excluded _ _ ih | firstOperand _ ih | firstSide _ ih => exact ih
  | nextOperand _ _ _ ihq ihr | nextSide _ _ _ ihq ihr => exact Nat.max_le.2 ⟨ihq, ihr⟩

/-- As much room as the query is nested is enough. -/
theorem of_nesting_le (h : Derives room level ts q) (hle : q.nesting ≤ room') :
    Derives room' level ts q := by
  induction h generalizing room' with
  | leaf h => exact .leaf h
  | phrase h => exact .phrase h
  | thesaurus htilde h => exact .thesaurus htilde h
  | exact hplus h => exact .exact hplus h
  | group hleft hright _ ih =>
    obtain ⟨more, rfl⟩ : ∃ more, room' = more + 1 := ⟨room' - 1, by
      simp only [Query.nesting] at hle
      omega⟩
    exact .group hleft hright (ih (Nat.le_of_succ_le_succ hle))
  | proximity hleft hright hne h => exact .proximity hleft hright hne h
  | included _ ih => exact .included (ih hle)
  | excluded hminus _ ih => exact .excluded hminus (ih hle)
  | firstOperand _ ih => exact .firstOperand (ih hle)
  | nextOperand _ hop _ ihq ihr =>
    obtain ⟨hq, hr⟩ := Nat.max_le.1 hle
    exact .nextOperand (ihq hq) hop (ihr hr)
  | firstSide _ ih => exact .firstSide (ih hle)
  | nextSide _ hop _ ihq ihr =>
    obtain ⟨hq, hr⟩ := Nat.max_le.1 hle
    exact .nextSide (ihq hq) hop (ihr hr)

end Derives

/-! ### Groups that find room -/

/-- `Fits room ts`: as the tokens go on, no group is closed that is not open, and none is
opened while `room` groups are open. -/
def Fits (room : Nat) (ts : List Token) : Prop :=
  ∀ before after, ts = before ++ after → 0 ≤ openGroups before ∧
    ∀ t ∈ after.head?, t.kind = .symbol .openParen → openGroups before < room

theorem Fits.of_append (h : Fits room (ts ++ us)) : Fits room ts := by
  rintro before after rfl
  obtain ⟨hopen, hroom⟩ := h before (after ++ us) (List.append_assoc before after us)
  refine ⟨hopen, fun t ht => hroom t ?_⟩
  obtain ⟨after, rfl⟩ := List.head?_eq_some_iff.1 ht
  rfl

/-- Tokens that close all their groups, and tokens behind them. -/
theorem Fits.append (ht : Fits room ts) (hopen : openGroups ts = 0) (hu : Fits room us) :
    Fits room (ts ++ us) := by
  intro before after h
  rcases List.append_eq_append_iff.1 h with ⟨between, rfl, rfl⟩ | ⟨between, rfl, rfl⟩
  · -- the place is in the second part
    obtain ⟨hbetween, hroom⟩ := hu between after rfl
    rw [openGroups_append, hopen, Int.zero_add]
    exact ⟨hbetween, hroom⟩
  · cases between with
    | nil =>
      rw [List.append_nil] at hopen
      refine ⟨by omega, fun t ht hk => ?_⟩
      have := (hu [] us rfl).2 t ht hk
      rw [hopen]
      exact this
    | cons u between =>
      obtain ⟨hbefore, hroom⟩ := ht before (u :: between) rfl
      exact ⟨hbefore, hroom⟩

/-- Tokens that open and close nothing. -/
theorem fits_of_ne
    (h : ∀ t ∈ ts, t.kind ≠ .symbol .openParen ∧ t.kind ≠ .symbol .closeParen) :
    Fits room ts := by
  rintro before after rfl
  have hbefore : openGroups before = 0 := openGroups_of_ne fun t ht => h t (by simp [ht])
  refine ⟨by omega, fun t ht hk => ?_⟩
  exact absurd hk (h t (List.mem_append_right _ (List.mem_of_mem_head? ht))).1

/-- Two parts with an operator between them. -/
theorem Fits.joined {op : List Token} (ht : Fits room ts) (hopen : openGroups ts = 0)
    (hop : ∀ t ∈ op, t.kind ≠ .symbol .openParen ∧ t.kind ≠ .symbol .closeParen)
    (hu : Fits room us) : Fits room (ts ++ op ++ us) :=
  (ht.append hopen (fits_of_ne hop)).append
    (by rw [openGroups_append, hopen, openGroups_of_ne hop, Int.zero_add]) hu

/-- A group fits where there is room for one more. -/
theorem Fits.group (hleft : t.kind = .symbol .openParen) (hright : u.kind = .symbol .closeParen)
    (h : Fits room ts) (hopen : openGroups ts = 0) : Fits (room + 1) (t :: ts ++ [u]) := by
  intro before after heq
  cases before with
  | nil => exact ⟨Int.le_refl 0, fun _ _ _ => Int.natCast_pos.2 (Nat.succ_pos room)⟩
  | cons v before =>
    obtain ⟨rfl, hinside⟩ := List.cons.inj heq
    have hinside : ts ++ [u] = before ++ after := hinside
    rw [← List.singleton_append, openGroups_append, openGroups_openParen hleft]
    have hu {v : Token} (hv : v ∈ [u].head?) : v.kind ≠ .symbol .openParen := by
      obtain rfl := Option.some.inj hv
      rw [hright]
      nofun
    rcases List.append_eq_append_iff.1 hinside with ⟨between, rfl, hlast⟩ | ⟨between, rfl, rfl⟩
    · -- behind the query there is nothing but the parenthesis that closes the group
      rw [openGroups_append, hopen]
      cases between with
      | nil =>
        obtain rfl : [u] = after := hlast
        exact ⟨by decide, fun v hv hk => absurd hk (hu hv)⟩
      | cons w between =>
        obtain ⟨rfl, hnil⟩ := List.cons.inj hlast
        obtain ⟨rfl, rfl⟩ := List.append_eq_nil_iff.1 hnil.symm
        rw [openGroups_closeParen hright]
        exact ⟨by decide, fun v hv => by cases hv⟩
    · obtain ⟨hbefore, hroom⟩ := h before between rfl
      refine ⟨by omega, fun v hv hk => ?_⟩
      cases between with
      | nil => exact absurd hk (hu hv)
      | cons w between =>
        have := hroom v hv hk
        omega

/-- **What is derived with some room finds room for each of its groups.** -/
theorem Derives.fits (h : Derives room level ts q) : Fits room ts := by
  induction h with
  | leaf h | phrase h => exact fits_of_ne (by simp [h])
  | thesaurus htilde h => exact fits_of_ne (by simp [htilde, h])
  | exact hplus h =>
    rcases h with h | ⟨quote, h⟩ <;> exact fits_of_ne (by simp [hplus, h])
  | group hleft hright hq ih => exact ih.group hleft hright hq.openGroups_eq_zero
  | @proximity room left right ts hleft hright hne h =>
    refine fits_of_ne fun t ht => ?_
    rcases List.mem_append.1 ht with ht | ht
    · rcases List.mem_cons.1 ht with rfl | ht
      · simp [hleft]
      · simp [h t ht]
    · rw [List.mem_singleton.1 ht, hright]
      exact ⟨nofun, nofun⟩
  | included _ ih | firstOperand _ ih | firstSide _ ih => exact ih
  | @excluded room minus ts q hminus hq ih =>
    have hdash : Fits room [minus] := fits_of_ne (by simp [hminus])
    exact hdash.append (openGroups_of_ne (by simp [hminus])) ih
  | nextOperand hq hop _ ihq ihr | nextSide hq hop _ ihq ihr =>
    exact ihq.joined hq.openGroups_eq_zero hop.ne_paren ihr

/-! ### Readings in step -/

/-- Whether a group is too deep. -/
def Misfit.IsTooDeep (m : Misfit) : Prop := ∃ l, m.fault = .tooDeep l

/-- `Beyond us r`: the reading `r` has come further than to the tokens `us`. -/
def Beyond {α : Type} (us : List Token) : Reading α → Prop
  | .ok (_, rest) => rest.length < us.length
  | .error m => m.rest.length < us.length

/-- `Follows more r r'`: the readings are the same, unless `r` has found a group too deep;
then `r'` has come further if `more` holds. -/
inductive Follows {α : Type} (more : Prop) : Reading α → Reading α → Prop
  | ok (a : α) (rest : List Token) : Follows more (.ok (a, rest)) (.ok (a, rest))
  | error {m : Misfit} (h : ¬ m.IsTooDeep) : Follows more (.error m) (.error m)
  | further {m : Misfit} {r : Reading α} (h : m.IsTooDeep) (hr : more → Beyond m.rest r) :
    Follows more (.error m) r

namespace Follows

variable {α β : Type} {more : Prop} {r r' : Reading α} {next next' : α → List Token → Reading β}

theorem refl (h : ∀ m, r = .error m → ¬ m.IsTooDeep) : Follows more r r := by
  rcases r with m | ⟨a, rest⟩
  · exact .error (h m rfl)
  · exact .ok a rest

/-- **What goes on behind readings in step is in step**, if it does not go back. -/
theorem andThen (h : Follows more r r')
    (hnext : ∀ a rest, r = .ok (a, rest) → Follows more (next a rest) (next' a rest))
    (hbeyond : ∀ (us : List Token) a (rest : List Token), rest.length < us.length →
      Beyond us (next' a rest)) :
    Follows more (Reading.andThen r next) (Reading.andThen r' next') := by
  cases h with
  | ok a rest => exact hnext a rest rfl
  | error hm => exact .error hm
  | further hm hr =>
    refine .further hm fun hmore => ?_
    have hfurther := hr hmore
    rcases r' with m' | ⟨a, rest⟩
    · exact hfurther
    · exact hbeyond _ a rest hfurther

end Follows

namespace Reader

/-- `InStep more reader reader'`: whatever tokens they read, the second follows the
first. -/
def InStep (more : Prop) (reader reader' : Reader Query) : Prop :=
  ∀ ts, Follows more (reader.read ts) (reader'.read ts)

/-- A reader that fails leaves no more tokens than it was given. -/
def Advances (reader : Reader Query) : Prop :=
  ∀ ts m, reader.read ts = .error m → m.rest.length ≤ ts.length

theorem advances_of_diagnoses {reader : Reader Query} (h : Diagnoses limit reader room level) :
    Advances reader := by
  intro ts m hread
  obtain ⟨used, rfl, -⟩ := h hread
  rw [List.length_append]
  exact Nat.le_add_left _ _

section

variable {more : Prop} {join : Query → Query → Query} {link : Link} {left : Query}
variable {first first' operand operand' : Reader Query}

/-- A chain advances as its operands do. -/
theorem beyond_chainFrom (h : Advances operand) (hlt : ts.length < us.length) :
    Beyond us (chainFrom join link operand left ts) := by
  -- each turn takes an operand, so there are fewer tokens left for the next one
  induction hn : ts.length using Nat.strongRecOn generalizing left ts with
  | ind n ih =>
    rw [chainFrom_eq]
    split
    · exact hlt
    · next next hnext =>
      have hle := link.le hnext
      split
      · next hread =>
        have := h _ _ hread
        show _ < us.length
        omega
      · next right rest hread =>
        have := operand.shorter hread
        exact ih rest.length (by omega) (by omega) rfl

/-- Chains are in step if their operands are. -/
theorem follows_chainFrom (h : InStep more operand operand') (hadv : Advances operand')
    (left : Query) (ts : List Token) :
    Follows more (chainFrom join link operand left ts) (chainFrom join link operand' left ts) := by
  induction hn : ts.length using Nat.strongRecOn generalizing left ts with
  | ind n ih =>
    cases hnext : link.next? ts with
    | none =>
      rw [chainFrom_of_next?_eq_none hnext, chainFrom_of_next?_eq_none hnext]
      exact .ok left ts
    | some next =>
      have hle := link.le hnext
      rw [chainFrom_of_next? hnext, chainFrom_of_next? hnext]
      refine (h next).andThen (fun right rest hread => ?_) fun _ _ _ => beyond_chainFrom hadv
      have := operand.shorter hread
      exact ih rest.length (by omega) _ rest rfl

theorem inStep_chain (hfirst : InStep more first first') (h : InStep more operand operand')
    (hadv : Advances operand') :
    InStep more (chain join link first operand) (chain join link first' operand') := by
  intro ts
  rw [read_chain, read_chain]
  exact (hfirst ts).andThen (fun left rest _ => follows_chainFrom h hadv left rest)
    fun _ _ _ => beyond_chainFrom hadv

end

section

variable {more : Prop}

theorem inStep_operand {p p' : Reader Query} (h : InStep more p p') :
    InStep more (operand p) (operand p') := by
  intro ts
  rcases head_cases (.symbol .minus) ts with ⟨t, us, rfl, ht⟩ | hne
  · rw [read_operand_minus ht, read_operand_minus ht]
    exact (h us).andThen (fun q rest _ => .ok (Query.exclude q) rest) fun _ _ _ hlt => hlt
  · rw [read_operand_of_ne hne, read_operand_of_ne hne]
    exact h ts

/-- What stands behind the query of a group is a parenthesis or a misfit. -/
theorem beyond_closeGroup (inner : Query) (hlt : ts.length < us.length) :
    Beyond us (closeGroup inner ts) := by
  cases hread : closeGroup inner ts with
  | error m =>
    obtain ⟨-, rfl⟩ := single_eq_error hread
    exact hlt
  | ok result =>
    obtain ⟨q, rest⟩ := result
    exact Nat.lt_trans (lt_of_single hread) hlt

/-- A group is read in step with another if their queries are. -/
theorem follows_group {inside inside' : Reader Query} (h : InStep more inside inside')
    (ts : List Token) : Follows more (group inside ts) (group inside' ts) := by
  refine (h ts).andThen (fun inner rest _ => .refl fun m hm => ?_) fun _ inner _ hlt =>
    beyond_closeGroup inner hlt
  obtain ⟨-, rfl⟩ := single_eq_error hm
  rintro ⟨l, ⟨⟩⟩

/-- The levels above primaries are in step if primaries are. -/
theorem inStep_disjunction (h : InStep more (primary limit room) (primary limit' room')) :
    InStep more (disjunction (primary limit room)) (disjunction (primary limit' room')) := by
  have hoperand := advances_of_diagnoses (diagnoses_operand (diagnoses_primary limit' room'))
  have hadv := advances_of_diagnoses (diagnoses_conjunction (diagnoses_primary limit' room'))
  have hconjunction : InStep more (conjunction (primary limit room))
      (conjunction (primary limit' room')) := inStep_chain h (inStep_operand h) hoperand
  exact inStep_chain hconjunction hconjunction hadv

end

/-! ### Primaries in step -/

/-- Without a group no limit is asked for. -/
theorem read_primary_of_ne (h : ∀ t ∈ ts.head?, t.kind ≠ .symbol .openParen) :
    (primary limit room).read ts = (primary limit' room').read ts := by
  rw [primary_eq, primary_eq]
  cases ts with
  | nil => rfl
  | cons t us =>
    have ht := h t rfl
    simp only [primaryWith]
    split
    case h_6 hk => exact absurd hk ht
    all_goals rfl

/-- Only a group can be too deep. -/
theorem not_isTooDeep_of_ne (h : ∀ t ∈ ts.head?, t.kind ≠ .symbol .openParen)
    (hread : (primary limit room).read ts = .error m) : ¬ m.IsTooDeep := by
  rintro ⟨l, hl⟩
  -- a group that is too deep is so for the limit in force, and here any limit may be
  have hlimit (other : Limit) : l = other := by
    have hother : (primary other room).read ts = .error m := (read_primary_of_ne h).trans hread
    obtain ⟨used, -, hbreaks⟩ := diagnoses_primary other room hother
    exact (hbreaks.tooDeep l hl).1
  cases (hlimit (.flag true)).symm.trans (hlimit (.flag false))

/-- Without a group primaries are read alike. -/
theorem follows_primary_of_ne {more : Prop} (h : ∀ t ∈ ts.head?, t.kind ≠ .symbol .openParen) :
    Follows more ((primary limit room).read ts) ((primary limit' room').read ts) := by
  rw [read_primary_of_ne h]
  exact .refl fun m hread => not_isTooDeep_of_ne h hread

theorem read_primary_zero (h : t.kind = .symbol .openParen) (ts : List Token) :
    (primary limit 0).read (t :: ts) = .error ⟨.tooDeep limit, t :: ts⟩ := by
  simp only [primary, primaryWith, h]

/-- A group that has room comes further than to its parenthesis. -/
theorem beyond_group (ht : t.kind = .symbol .openParen) (limit : Limit) (room : Nat)
    (ts : List Token) : Beyond (t :: ts) (group (disjunction (primary limit room)) ts) := by
  cases hread : group (disjunction (primary limit room)) ts with
  | error m =>
    obtain ⟨used, rfl, -⟩ := diagnoses_group ht (isLocal_disjunction limit room)
      (diagnoses_disjunction (diagnoses_primary limit room)) hread
    show m.rest.length < _
    rw [List.length_cons, List.length_append]
    omega
  | ok result =>
    obtain ⟨q, rest⟩ := result
    exact Nat.lt_succ_of_lt (lt_of_group hread)

/-- **Primaries are in step**, whatever the room for groups. -/
theorem inStep_primary (limit limit' : Limit) {more : Prop} (hle : room ≤ room')
    (hmore : more → room < room') : InStep more (primary limit room) (primary limit' room') := by
  induction room generalizing room' with
  | zero =>
    intro ts
    rcases head_cases (.symbol .openParen) ts with ⟨t, us, rfl, ht⟩ | hne
    · rw [read_primary_zero ht]
      refine .further ⟨limit, rfl⟩ fun h => ?_
      obtain ⟨room, rfl⟩ := Nat.exists_eq_add_of_lt (hmore h)
      rw [Nat.zero_add, primary_openParen ht]
      exact beyond_group ht limit' room us
    · exact follows_primary_of_ne hne
  | succ room ih =>
    intro ts
    rcases head_cases (.symbol .openParen) ts with ⟨t, us, rfl, ht⟩ | hne
    · obtain ⟨room', rfl⟩ := Nat.exists_eq_succ_of_ne_zero (Nat.ne_zero_of_lt hle)
      rw [primary_openParen ht, primary_openParen ht]
      exact follows_group (inStep_disjunction
        (ih (Nat.le_of_succ_le_succ hle) fun h => Nat.lt_of_succ_lt_succ (hmore h))) us
    · exact follows_primary_of_ne hne

end Reader

/-! ### Whole lists of tokens -/

/-- `FirstBeyond room before t`: the token `t` behind the tokens `before` is the first one
that opens a group while `room` groups are open. -/
structure FirstBeyond (room : Nat) (before : List Token) (t : Token) : Prop where
  opens : t.kind = .symbol .openParen
  full : openGroups before = room
  earlier : ∀ front u back, before = front ++ u :: back → u.kind = .symbol .openParen →
    openGroups front < room
  /-- No group is closed that is not open. -/
  nonneg : ∀ front back, before = front ++ back → 0 ≤ openGroups front

namespace Query

/-- Two parsers in step: they give the same answer, unless the one with less room finds a
group too deep; then the other one, if it has more room, does not fail so early. -/
theorem ofTokens_cases (hle : limit.room ≤ limit'.room) (ts : List Token) :
    (∃ q, ofTokens limit ts = .ok q ∧ ofTokens limit' ts = .ok q) ∨
    (∃ m, ¬ m.IsTooDeep ∧ ofTokens limit ts = .error m ∧ ofTokens limit' ts = .error m) ∨
    ∃ m, m.IsTooDeep ∧ ofTokens limit ts = .error m ∧
      (limit.room < limit'.room →
        ∀ m', ofTokens limit' ts = .error m' → m'.rest.length < m.rest.length) := by
  by_cases hne : ts = []
  · subst hne
    exact .inl ⟨.empty, rfl, rfl⟩
  rw [ofTokens_eq_of_ne_nil hne, ofTokens_eq_of_ne_nil hne]
  have hfollows := Reader.inStep_disjunction (Reader.inStep_primary limit limit' hle id) ts
  generalize (Reader.disjunction (Reader.primary limit limit.room)).read ts = r at hfollows
  generalize (Reader.disjunction (Reader.primary limit' limit'.room)).read ts = r' at hfollows
  cases hfollows with
  | ok q rest =>
    cases rest with
    | nil => exact .inl ⟨q, rfl, rfl⟩
    | cons t rest => exact .inr (.inl ⟨⟨.trailingInput, t :: rest⟩, nofun, rfl, rfl⟩)
  | @error m hm => exact .inr (.inl ⟨m, hm, rfl, rfl⟩)
  | @further m r' hm hr =>
    refine .inr (.inr ⟨m, hm, rfl, fun hmore m' hm' => ?_⟩)
    have hbeyond := hr hmore
    rcases r' with e | ⟨q, _ | ⟨t, rest⟩⟩
    · obtain rfl := Except.error.inj hm'
      exact hbeyond
    · cases hm'
    · obtain rfl := Except.error.inj hm'
      exact hbeyond

/-- **The group that is too deep is the first for which there is no room.** -/
theorem exists_firstBeyond (h : ofTokens limit ts = .error m) (hm : m.IsTooDeep) :
    ∃ before t after, ts = before ++ t :: after ∧ m.rest = t :: after ∧
      FirstBeyond limit.room before t := by
  obtain ⟨l, hl⟩ := hm
  obtain ⟨before, hts, hbreaks⟩ := exists_breaksOff h
  obtain ⟨-, ⟨t, after, hrest, ht⟩, hopen⟩ := hbreaks.tooDeep l hl
  obtain ⟨more, -, q, hq⟩ := hbreaks.completable
  have hfits : Fits limit.room before := by
    by_cases hne : before ++ more = []
    · rw [(List.append_eq_nil_iff.1 hne).1]
      exact fits_of_ne (by simp)
    · exact ((ofTokens_eq_ok_iff hne).1 hq).fits.of_append
  refine ⟨before, t, after, by rw [hts, hrest], hrest, ht, hopen, ?_, ?_⟩
  · rintro front u back rfl hu
    exact (hfits front (u :: back) rfl).2 u rfl hu
  · intro front back hbefore
    exact (hfits front back hbefore).1

end Query

/-! ### Whole texts -/

theorem Limit.room_le_room (h : limit.value ≤ limit'.value) : limit.room ≤ limit'.room :=
  Int.toNat_le_toNat h

/-- Whether a text is no query because a group is too deep. -/
def ParseError.IsTooDeep : ParseError → Prop
  | lexical _ _ => False
  | syntactic _ m => m.IsTooDeep

/-- Where columns go up, the token with fewer tokens behind it has the larger column. -/
theorem column_lt_of_length_lt {before' after' : List Token}
    (hup : (before ++ t :: after).Pairwise fun t u => t.column < u.column)
    (heq : before ++ t :: after = before' ++ u :: after')
    (hlt : after'.length < after.length) : t.column < u.column := by
  have hu : u ∈ after := by
    rcases List.append_eq_append_iff.1 heq with ⟨between, rfl, hbehind⟩ | ⟨between, rfl, hbehind⟩
    · cases between with
      | nil =>
        obtain ⟨rfl, rfl⟩ := List.cons.inj hbehind
        exact absurd hlt (Nat.lt_irrefl _)
      | cons v between =>
        rw [(List.cons.inj hbehind).2]
        simp
    · have := congrArg List.length hbehind
      simp only [List.length_append, List.length_cons] at this
      omega
  exact (List.pairwise_cons.1 (List.pairwise_append.1 hup).2.1).1 u hu

namespace Query

variable {text : String}

/-- A misfit with fewer tokens behind it is reported at a larger column. -/
theorem column_lt_report_column (htok : tokenize text = .ok (before ++ t :: after))
    (h : ofTokens limit (before ++ t :: after) = .error m)
    (hlt : m.rest.length < (t :: after).length) :
    ∃ column, (ParseError.syntactic text m).report.column = some column ∧ t.column < column := by
  obtain ⟨used, hused, -⟩ := exists_breaksOff h
  show ∃ column, (m.report text.length).column = some column ∧ _
  unfold Misfit.report
  cases hrest : m.rest with
  | nil =>
    have := column_lt_length htok (by simp : t ∈ before ++ t :: after)
    exact ⟨text.length, rfl, by omega⟩
  | cons u rest =>
    rw [hrest] at hused hlt
    have := column_lt_of_length_lt (layout_of_tokenize htok).pairwise_column hused
      (Nat.lt_of_succ_lt_succ hlt)
    exact ⟨u.column, rfl, by omega⟩

/-- Two parsers of the same text in step. -/
theorem parse_cases (hle : limit.room ≤ limit'.room) (text : String) :
    (∃ q, parse limit text = .ok q ∧ parse limit' text = .ok q) ∨
    (∃ e, ¬ e.IsTooDeep ∧ parse limit text = .error e ∧ parse limit' text = .error e) ∨
    ∃ ts m, tokenize text = .ok ts ∧ m.IsTooDeep ∧ ofTokens limit ts = .error m ∧
      parse limit text = .error (.syntactic text m) ∧
      (limit.room < limit'.room →
        ∀ m', ofTokens limit' ts = .error m' → m'.rest.length < m.rest.length) := by
  cases htok : tokenize text with
  | error fault =>
    refine .inr (.inl ⟨.lexical text fault, id, ?_, ?_⟩) <;> simp only [parse, htok]
  | ok ts =>
    rw [parse_of_tokenize htok, parse_of_tokenize htok]
    rcases ofTokens_cases hle ts with ⟨q, hq, hq'⟩ | ⟨m, hm, he, he'⟩ | ⟨m, hm, he, hfurther⟩
    · rw [hq, hq']
      exact .inl ⟨q, rfl, rfl⟩
    · rw [he, he']
      exact .inr (.inl ⟨.syntactic text m, hm, rfl, rfl⟩)
    · refine .inr (.inr ⟨ts, m, rfl, hm, he, ?_, hfurther⟩)
      rw [he]
      rfl

/-- A text that is a query within some limit is one within a limit just if there is room
for its groups. -/
theorem exists_parse_iff_nesting_le {other : Limit} (h : parse other text = .ok q) :
    (∃ r, parse limit text = .ok r) ↔ q.nesting ≤ limit.room := by
  obtain ⟨ts, htok, ⟨rfl, rfl⟩ | ⟨hne, hq⟩⟩ := exists_of_parse h
  · rw [parse_of_tokenize htok]
    exact iff_of_true ⟨.empty, rfl⟩ (Nat.zero_le _)
  · constructor
    · rintro ⟨r, hr⟩
      obtain ⟨us, hus, ⟨rfl, -⟩ | ⟨-, hr⟩⟩ := exists_of_parse hr
      · exact absurd (Except.ok.inj (htok.symm.trans hus)) hne
      · obtain rfl := Except.ok.inj (htok.symm.trans hus)
        rw [hq.unique hr]
        exact hr.nesting_le
    · intro hle
      exact ⟨q, parse_of_derives htok (hq.of_nesting_le hle)⟩

/-- **The limit on nesting only ever cuts off, and at the right place.**  What is a query
within a limit is the same query within a larger one, and any error other than that a group
is too deep stays as it is.  A group that is too deep is the first one opened while as many
are open as there may be; with more room, the text is a query or goes wrong further on.  So
a query is within a limit just if its groups are. -/
theorem parse_limit_cuts_off (hle : limit.value ≤ limit'.value) (text : String) :
    (∀ q, parse limit text = .ok q → parse limit' text = .ok q) ∧
    (∀ e, parse limit text = .error e → ¬ e.IsTooDeep → parse limit' text = .error e) ∧
    (∀ e, parse limit text = .error e → e.IsTooDeep → ∃ before t after,
      tokenize text = .ok (before ++ t :: after) ∧ e.report.column = some t.column ∧
      FirstBeyond limit.room before t ∧
      (limit.room < limit'.room →
        (∃ q, parse limit' text = .ok q) ∨
        ∃ e' column, parse limit' text = .error e' ∧ e'.report.column = some column ∧
          t.column < column)) ∧
    (∀ other q, parse other text = .ok q →
      ((∃ r, parse limit text = .ok r) ↔ q.nesting ≤ limit.room)) := by
  have hcases := parse_cases (Limit.room_le_room hle) text
  refine ⟨fun q hq => ?_, fun e he hshallow => ?_, fun e he hdeep => ?_,
    fun other q hq => exists_parse_iff_nesting_le hq⟩
  · rcases hcases with ⟨r, hr, hr'⟩ | ⟨e, -, he, -⟩ | ⟨ts, m, -, -, -, he, -⟩
    · rw [hr', ← hr, hq]
    · cases hq.symm.trans he
    · cases hq.symm.trans he
  · rcases hcases with ⟨r, hr, -⟩ | ⟨e', -, he', hsame⟩ | ⟨ts, m, -, hm, -, he', -⟩
    · cases he.symm.trans hr
    · rw [hsame, ← he', he]
    · obtain rfl := Except.error.inj (he.symm.trans he')
      exact absurd hm hshallow
  · rcases hcases with ⟨r, hr, -⟩ | ⟨e', hshallow, he', -⟩ | ⟨ts, m, htok, hm, hts, he', hfurther⟩
    · cases he.symm.trans hr
    · obtain rfl := Except.error.inj (he.symm.trans he')
      exact absurd hdeep hshallow
    · obtain rfl := Except.error.inj (he.symm.trans he')
      obtain ⟨before, t, after, rfl, hrest, hfirst⟩ := exists_firstBeyond hts hm
      refine ⟨before, t, after, htok, ?_, hfirst, fun hmore => ?_⟩
      · show (m.report text.length).column = some ↑t.column
        simp only [Misfit.report, hrest]
      · rw [parse_of_tokenize htok]
        cases hts' : ofTokens limit' (before ++ t :: after) with
        | ok q => exact .inl ⟨q, rfl⟩
        | error m' =>
          have hlt := hfurther hmore m' hts'
          rw [hrest] at hlt
          obtain ⟨column, hcolumn, hcolumnlt⟩ := column_lt_report_column htok hts' hlt
          exact .inr ⟨.syntactic text m', column, rfl, hcolumn, hcolumnlt⟩

/-- With room for one group the second parenthesis is too many.  With room for two it is
not, nor is the third, as the group in front of that is closed, but the fourth is. -/
theorem parse_limit_cuts_off_siblings :
    (Limit.count 1).value ≤ (Limit.count 2).value ∧
      ∃ before t after, tokenize "((a) (b or (c" = .ok (before ++ t :: after) ∧ t.column = 1 ∧
        FirstBeyond 1 before t ∧
        ∃ e column, parse (.count 2) "((a) (b or (c" = .error e ∧
          e.report.column = some column ∧ 1 < column ∧ column = 11 := by
  let rest : List Token := [⟨.symbol .openParen, "(", 11⟩, ⟨.term, "c", 12⟩]
  have hle : (Limit.count 1).value ≤ (Limit.count 2).value := by decide
  have herror : parse (.count 1) "((a) (b or (c" = .error (.syntactic "((a) (b or (c"
      ⟨.tooDeep (.count 1), [⟨.symbol .openParen, "(", 1⟩, ⟨.term, "a", 2⟩,
        ⟨.symbol .closeParen, ")", 3⟩, ⟨.symbol .openParen, "(", 5⟩, ⟨.term, "b", 6⟩,
        ⟨.or, "or", 8⟩] ++ rest⟩) := rfl
  have herror' : parse (.count 2) "((a) (b or (c" = .error (.syntactic "((a) (b or (c"
      ⟨.tooDeep (.count 2), rest⟩) := rfl
  obtain ⟨before, t, after, htok, hcolumn, hfirst, hfurther⟩ :=
    (parse_limit_cuts_off hle "((a) (b or (c").2.2.1 _ herror ⟨.count 1, rfl⟩
  have hone : t.column = 1 := Int.ofNat_inj.1 (Option.some.inj hcolumn).symm
  refine ⟨hle, before, t, after, htok, hone, hfirst, ?_⟩
  rcases hfurther (by decide) with ⟨q, hq⟩ | ⟨e, column, he, hcolumn', hlt⟩
  · cases herror'.symm.trans hq
  · obtain rfl := Except.error.inj (herror'.symm.trans he)
    rw [hone] at hlt
    exact ⟨_, column, herror', hcolumn', hlt, (Option.some.inj hcolumn').symm⟩

end Query

end FullText
