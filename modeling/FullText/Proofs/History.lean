/-
FullText/Proofs/History.lean

What a translator answers, told from the requests made before.

Design.  A translator makes its parser and its writer once, when they are first needed,
and they keep the settings of that moment.  A *history* knows nothing of what is made:
it is the settings at first and the requests in order.  From it the settings of any
moment are put together (`History.now`), those of the first request that needs a parser
or a writer (`atFirst`), and the queries that were kept; and `History.Answers` says what
the next reply has to be.

A session after some requests is the one that their history tells of
(`History.session_foldl`), because each step keeps this up (`History.step_session`).  Whether
a translation needs the writer depends on the limit of the parser, which is fixed by the
time it matters: without a parser no text has been translated yet
(`History.limit_cases`).

Main result: `Session.run_answers`.
-/
import FullText.Translator.Session

namespace FullText

/-! ### What a request does and needs -/

/-- The settings that a request leaves. -/
def Settings.after (s : Settings) : Request → Settings
  | .set c =>
    match Session.change s c with
    | .ok settings => settings
    | .error _ => s
  | _ => s

namespace Request

/-- Whether a request needs a parser: to parse a text, be it missing, or to translate
one that is there. -/
def needsParser : Request → Bool
  | parse _ _ | translate (some _) => true
  | _ => false

/-- Whether a request needs the writer: to write a query in no mode of its own, or the
translation of a text that is a query for the parser. -/
def needsWriter (limit : Option Limit) : Request → Bool
  | compile _ .null => true
  | translate (some text) => limit.any fun limit => (Query.parse limit text).isOk
  | _ => false

/-- The query that is kept at a request, under its name. -/
def kept? (limit : Option Limit) : Request → Option (String × Query)
  | parse text name =>
    limit.bind fun limit => (Query.ofText limit text).toOption.map fun q => (name, q)
  | _ => none

variable {r : Request}

theorem needsWriter_translate (limit : Limit) (text : String) :
    (translate (some text)).needsWriter (some limit) = (Query.parse limit text).isOk := rfl

theorem needsWriter_of_not_needsParser (h : r.needsParser = false) (limit limit' : Option Limit) :
    r.needsWriter limit = r.needsWriter limit' := by
  cases r with
  | translate text =>
    cases text with
    | none => rfl
    | some text => cases h
  | compile source mode => cases mode <;> rfl
  | _ => rfl

theorem kept?_of_not_needsParser (h : r.needsParser = false) (limit : Option Limit) :
    r.kept? limit = none := by
  cases r with
  | parse text name => cases h
  | _ => rfl

end Request

/-- The settings when the first of some requests is made that needs something. -/
def atFirst (needs : Request → Bool) : Settings → List Request → Option Settings
  | _, [] => none
  | s, r :: rs => if needs r then some s else atFirst needs (s.after r) rs

section

variable {needs needs' : Request → Bool} {s : Settings} {rs : List Request}

/-- The settings stay those of the first request in need, else the last one may be it. -/
theorem atFirst_append_singleton (needs : Request → Bool) (s : Settings) (rs : List Request)
    (r : Request) :
    atFirst needs s (rs ++ [r])
      = (atFirst needs s rs).or (if needs r then some (rs.foldl Settings.after s) else none) := by
  induction rs generalizing s with
  | nil => simp [atFirst]
  | cons r' rs ih =>
    simp only [List.cons_append, atFirst, List.foldl_cons]
    split
    · rfl
    · exact ih (s.after r')

/-- Only what the given requests need counts. -/
theorem atFirst_congr (h : ∀ r ∈ rs, needs r = needs' r) :
    atFirst needs s rs = atFirst needs' s rs := by
  induction rs generalizing s with
  | nil => rfl
  | cons r rs ih =>
    rw [atFirst, atFirst, h r (by simp), ih fun r hr => h r (by simp [hr])]

theorem not_needs_of_atFirst_eq_none (h : atFirst needs s rs = none) :
    ∀ r ∈ rs, needs r = false := by
  induction rs generalizing s with
  | nil => simp
  | cons r rs ih =>
    rw [atFirst] at h
    split at h
    · cases h
    · next hr =>
      intro r' hr'
      rcases List.mem_cons.1 hr' with rfl | hr'
      · exact Bool.eq_false_iff.2 hr
      · exact ih h r' hr'

end

/-! ### Histories -/

/-- The settings that a translator starts with, and the requests made of it. -/
structure History where
  settings : Settings
  requests : List Request

namespace History

/-- The settings in force after the requests. -/
def now (h : History) : Settings := h.requests.foldl Settings.after h.settings

/-- The limit in force at the first request that needs a parser. -/
def limit (h : History) : Option Limit :=
  (atFirst Request.needsParser h.settings h.requests).map (·.maxDepth)

/-- The phrase mode in force at the first request that needs a writer. -/
def mode (h : History) : Option PhraseMode :=
  (atFirst (Request.needsWriter h.limit) h.settings h.requests).map (·.phraseMode)

/-- The queries kept under names, the last one first. -/
def kept (h : History) : List (String × Query) :=
  (h.requests.filterMap (Request.kept? h.limit)).reverse

/-- The query that a request is about. -/
def find (h : History) : QuerySource → Query
  | .given q => q
  | .kept name => (h.kept.lookup name).getD .absent

/-- A history with one more request. -/
def add (h : History) (r : Request) : History := ⟨h.settings, h.requests ++ [r]⟩

/-- `h.Answers r reply`: the reply to `r` that the requests made before call for. -/
inductive Answers (h : History) : Request → Except Error Reply → Prop
  /-- Texts are parsed with the limit at the first need of a parser. -/
  | parse {text : Option String} {name : String} {limit : Limit}
      (hlimit : (h.add (.parse text name)).limit = some limit) :
    Answers h (.parse text name) ((Query.ofText limit text).map .query)
  /-- Queries are written in the mode at the first need of a writer. -/
  | compile {source : QuerySource} {mode : PhraseMode}
      (hmode : (h.add (.compile source .null)).mode = some mode) :
    Answers h (.compile source .null) (((h.find source).compile mode).map .condition)
  /-- In a mode of its own a query is written in that. -/
  | compileIn {source : QuerySource} {given : Value} (hgiven : given ≠ .null) :
    Answers h (.compile source given)
      ((PhraseMode.ofValue given >>= fun mode => (h.find source).compile mode).map .condition)
  /-- Words are required with the mode and the stop words of the moment. -/
  | requireWords {text : String} :
    Answers h (.requireWords (some text))
      (.ok (.condition (FullText.requireWords h.now.phraseMode h.now.stopwords.toList text)))
  | requireNothing : Answers h (.requireWords none) (.error .textRequired)
  /-- A text that is a query is parsed and written like any other. -/
  | translate {text : String} {limit : Limit} {q : Query} {mode : PhraseMode}
      (hlimit : (h.add (.translate (some text))).limit = some limit)
      (hq : Query.parse limit text = .ok q)
      (hmode : (h.add (.translate (some text))).mode = some mode) :
    Answers h (.translate (some text))
      ((q.compile mode).map fun condition => .translation ⟨condition, true, []⟩)
  /-- Of a text that is none the words are required, as they would be at the moment. -/
  | fallBack {text : String} {limit : Limit} {cause : ParseError}
      (hlimit : (h.add (.translate (some text))).limit = some limit)
      (hcause : Query.parse limit text = .error cause) :
    Answers h (.translate (some text))
      (.ok (.translation ⟨FullText.requireWords h.now.phraseMode h.now.stopwords.toList text,
        false, [⟨text, cause⟩]⟩))
  | translateNothing : Answers h (.translate none) (.error .textRequired)
  | set {change : Change} {settings : Settings}
      (hchange : Session.change h.now change = .ok settings) :
    Answers h (.set change) (.ok .done)
  | refuse {change : Change} {e : Error} (hchange : Session.change h.now change = .error e) :
    Answers h (.set change) (.error e)
  | settings : Answers h .settings (.ok (.settings h.now))
  | display : Answers h .display (.ok (.shown (Translator.new h.now).display))
  | clone : Answers h .clone
      ((Settings.ofEntries h.now.entries).map fun settings => .same (settings = h.now))
  | made : Answers h .made (.ok (.made h.limit h.mode))

/-! ### One more request -/

variable {h : History} {r : Request}

theorem now_add (h : History) (r : Request) : (h.add r).now = h.now.after r := by
  simp only [now, add, List.foldl_append, List.foldl_cons, List.foldl_nil]

/-- The limit in force stays once it is set. -/
theorem limit_add (h : History) (r : Request) :
    (h.add r).limit = h.limit.or (if r.needsParser then some h.now.maxDepth else none) := by
  simp only [limit, add, atFirst_append_singleton, now, Option.map_or]
  split <;> rfl

theorem limit_add_of_needsParser (hr : r.needsParser = true) :
    (h.add r).limit = some (h.limit.getD h.now.maxDepth) := by
  rw [limit_add, if_pos hr]
  cases h.limit <;> rfl

theorem limit_add_of_not_needsParser (hr : r.needsParser = false) :
    (h.add r).limit = h.limit := by
  rw [limit_add, hr]
  cases h.limit <;> rfl

/-- What was told with the limit before is told with the limit now: it is the same, or
no request has needed a parser before. -/
theorem limit_cases (h : History) (r : Request) :
    (h.add r).limit = h.limit ∨ ∀ r' ∈ h.requests, r'.needsParser = false := by
  cases hlimit : h.limit with
  | some limit =>
    left
    rw [limit_add, hlimit]
    rfl
  | none => exact .inr (not_needs_of_atFirst_eq_none (Option.map_eq_none_iff.1 hlimit))

/-- The mode in force stays once it is set.  Whether a request sets it is told by the limit
that the request leaves. -/
theorem mode_add (h : History) (r : Request) :
    (h.add r).mode
      = h.mode.or (if r.needsWriter (h.add r).limit then some h.now.phraseMode else none) := by
  have hbefore : atFirst (Request.needsWriter (h.add r).limit) h.settings h.requests
      = atFirst (Request.needsWriter h.limit) h.settings h.requests := by
    rcases limit_cases h r with hlimit | hnone
    · rw [hlimit]
    · exact atFirst_congr fun r' hr' =>
        Request.needsWriter_of_not_needsParser (hnone r' hr') _ _
  rw [mode, show (h.add r).requests = h.requests ++ [r] from rfl, atFirst_append_singleton,
    show (h.add r).settings = h.settings from rfl, hbefore, Option.map_or, mode, now]
  split <;> rfl

theorem kept_add (h : History) (r : Request) :
    (h.add r).kept = (r.kept? (h.add r).limit).toList ++ h.kept := by
  have hbefore : h.requests.filterMap (Request.kept? (h.add r).limit)
      = h.requests.filterMap (Request.kept? h.limit) := by
    rcases limit_cases h r with hlimit | hnone
    · rw [hlimit]
    · have hnil : ∀ limit, h.requests.filterMap (Request.kept? limit) = [] := fun limit =>
        List.filterMap_eq_nil_iff.2 fun r' hr' =>
          Request.kept?_of_not_needsParser (hnone r' hr') limit
      rw [hnil, hnil]
  rw [kept, show (h.add r).requests = h.requests ++ [r] from rfl, List.filterMap_append, hbefore,
    List.reverse_append, kept]
  cases hr : r.kept? (h.add r).limit <;> simp [hr]

theorem mode_add_of_needsWriter (hr : r.needsWriter (h.add r).limit = true) :
    (h.add r).mode = some (h.mode.getD h.now.phraseMode) := by
  rw [mode_add, if_pos hr]
  cases h.mode <;> rfl

theorem mode_add_of_not_needsWriter (hr : r.needsWriter (h.add r).limit = false) :
    (h.add r).mode = h.mode := by
  rw [mode_add, hr]
  cases h.mode <;> rfl

/-! ### Sessions and histories -/

/-- The session that a history tells of. -/
def session (h : History) : Session := ⟨⟨h.now, h.limit, h.mode⟩, h.kept⟩

/-- A session finds the queries that its history keeps. -/
theorem find_session (h : History) (source : QuerySource) :
    h.session.find source = h.find source := by
  cases source <;> rfl

theorem session_add (h : History) (r : Request) :
    (h.add r).session = ⟨⟨h.now.after r, (h.add r).limit, (h.add r).mode⟩,
      (r.kept? (h.add r).limit).toList ++ h.kept⟩ := by
  rw [session, now_add, kept_add]

/-- A request that needs nothing changes the settings at most. -/
theorem session_add_of_needs_nothing (hparser : r.needsParser = false)
    (hwriter : ∀ limit, r.needsWriter limit = false) :
    (h.add r).session = { h.session with translator := ⟨h.now.after r, h.limit, h.mode⟩ } := by
  rw [session_add, limit_add_of_not_needsParser hparser, mode_add_of_not_needsWriter (hwriter _),
    Request.kept?_of_not_needsParser hparser]
  rfl

/-- **Each step leaves the session that the history tells of.** -/
theorem step_session (h : History) (r : Request) : (h.session.step r).2 = (h.add r).session := by
  cases r with
  | translate text =>
    cases text with
    | none => rw [session_add_of_needs_nothing rfl fun _ => rfl]; rfl
    | some text =>
      have hlimit := limit_add_of_needsParser (h := h) (r := .translate (some text)) rfl
      cases hq : Query.parse (h.limit.getD h.now.maxDepth) text with
      | error cause =>
        have hmode := mode_add_of_not_needsWriter (h := h) (r := .translate (some text))
          (by rw [hlimit, Request.needsWriter_translate, hq]; rfl)
        rw [session_add, hlimit, hmode]
        simp only [Session.step, session, Translator.translate, Translator.needParser, hq]
        rfl
      | ok q =>
        have hmode := mode_add_of_needsWriter (h := h) (r := .translate (some text))
          (by rw [hlimit, Request.needsWriter_translate, hq]; rfl)
        rw [session_add, hlimit, hmode]
        simp only [Session.step, session, Translator.translate, Translator.needParser,
          Translator.needWriter, hq]
        rfl
  | parse text name =>
    have hlimit := limit_add_of_needsParser (h := h) (r := .parse text name) rfl
    have hmode := mode_add_of_not_needsWriter (h := h) (r := .parse text name) rfl
    rw [session_add, hlimit, hmode]
    simp only [Session.step, session, Translator.parse, Translator.needParser, Request.kept?,
      Option.bind_some]
    cases Query.ofText (h.limit.getD h.now.maxDepth) text <;> rfl
  | compile source mode =>
    cases mode with
    | null =>
      have hlimit := limit_add_of_not_needsParser (h := h) (r := .compile source .null) rfl
      have hmode := mode_add_of_needsWriter (h := h) (r := .compile source .null) rfl
      rw [session_add, hlimit, hmode]
      rfl
    | _ => rw [session_add_of_needs_nothing rfl fun _ => rfl]; rfl
  | set c =>
    rw [session_add_of_needs_nothing rfl fun _ => rfl]
    simp only [Session.step, Settings.after, session]
    cases Session.change h.now c <;> rfl
  | requireWords text =>
    rw [session_add_of_needs_nothing rfl fun _ => rfl]
    cases text <;> rfl
  | settings | display | clone | made =>
    rw [session_add_of_needs_nothing rfl fun _ => rfl]
    rfl

/-- An answer is the reply of the session. -/
theorem Answers.eq_step {reply : Except Error Reply} (hreply : h.Answers r reply) :
    reply = (h.session.step r).1 := by
  cases hreply with
  | @parse text name limit hlimit =>
    rw [limit_add_of_needsParser rfl] at hlimit
    obtain rfl := Option.some.inj hlimit
    simp only [Session.step, session, Translator.parse, Translator.needParser]
    cases Query.ofText (h.limit.getD h.now.maxDepth) text <;> rfl
  | @compile source mode hmode =>
    rw [mode_add_of_needsWriter rfl] at hmode
    obtain rfl := Option.some.inj hmode
    rw [← find_session]
    rfl
  | @compileIn source given hgiven =>
    rw [← find_session]
    cases given with
    | null => exact absurd rfl hgiven
    | _ => rfl
  | @translate text limit q mode hlimit hq hmode =>
    rw [mode_add_of_needsWriter (by rw [hlimit, Request.needsWriter_translate, hq]; rfl)] at hmode
    rw [limit_add_of_needsParser rfl] at hlimit
    obtain rfl := Option.some.inj hlimit
    obtain rfl := Option.some.inj hmode
    simp only [Session.step, session, Translator.translate, Translator.needParser,
      Translator.needWriter, hq]
    cases q.compile (h.mode.getD h.now.phraseMode) <;> rfl
  | @fallBack text limit cause hlimit hcause =>
    rw [limit_add_of_needsParser rfl] at hlimit
    obtain rfl := Option.some.inj hlimit
    simp only [Session.step, session, Translator.translate, Translator.needParser, hcause]
    rfl
  | set hchange | refuse hchange => simp only [Session.step, session, hchange]
  | clone =>
    simp only [Session.step, session, Translator.clone]
    cases Settings.ofEntries h.now.entries <;> rfl
  | requireWords | requireNothing | translateNothing | settings | display | made => rfl

/-- Each request has an answer. -/
theorem exists_answer (h : History) (r : Request) : ∃ reply, h.Answers r reply := by
  cases r with
  | translate text =>
    cases text with
    | none => exact ⟨_, .translateNothing⟩
    | some text =>
      have hlimit := limit_add_of_needsParser (h := h) (r := .translate (some text)) rfl
      cases hq : Query.parse (h.limit.getD h.now.maxDepth) text with
      | error cause => exact ⟨_, .fallBack hlimit hq⟩
      | ok q =>
        have hmode := mode_add_of_needsWriter (h := h) (r := .translate (some text))
          (by rw [hlimit, Request.needsWriter_translate, hq]; rfl)
        exact ⟨_, .translate hlimit hq hmode⟩
  | parse text name => exact ⟨_, .parse (limit_add_of_needsParser rfl)⟩
  | compile source mode =>
    cases mode with
    | null => exact ⟨_, .compile (mode_add_of_needsWriter rfl)⟩
    | _ => exact ⟨_, .compileIn nofun⟩
  | requireWords text =>
    cases text with
    | none => exact ⟨_, .requireNothing⟩
    | some text => exact ⟨_, .requireWords⟩
  | set c =>
    cases hchange : Session.change h.now c with
    | error e => exact ⟨_, .refuse hchange⟩
    | ok settings => exact ⟨_, .set hchange⟩
  | settings => exact ⟨_, .settings⟩
  | display => exact ⟨_, .display⟩
  | clone => exact ⟨_, .clone⟩
  | made => exact ⟨_, .made⟩

/-- **The reply of a session is what its history calls for**, and nothing else is. -/
theorem answers_iff {reply : Except Error Reply} :
    h.Answers r reply ↔ reply = (h.session.step r).1 := by
  refine ⟨Answers.eq_step, ?_⟩
  rintro rfl
  obtain ⟨reply, hreply⟩ := exists_answer h r
  rwa [← hreply.eq_step]

/-- **A session after some more requests is the one that their history tells of.** -/
theorem session_foldl (h : History) (requests : List Request) :
    requests.foldl (fun s r => (s.step r).2) h.session
      = session ⟨h.settings, h.requests ++ requests⟩ := by
  induction requests generalizing h with
  | nil => rw [List.foldl_nil, List.append_nil]
  | cons r requests ih =>
    rw [List.foldl_cons, step_session, ih, add, List.append_assoc, List.singleton_append]

end History

/-! ### Runs -/

namespace Session

/-- A run of some requests in front of others. -/
theorem run_append (s : Session) (before after : List Request) :
    s.run (before ++ after)
      = s.run before ++ (before.foldl (fun s r => (s.step r).2) s).run after := by
  induction before generalizing s with
  | nil => rfl
  | cons r before ih =>
    simp only [List.cons_append, run, List.foldl_cons]
    rw [ih]

theorem length_run (s : Session) (requests : List Request) :
    (s.run requests).length = requests.length := by
  induction requests generalizing s with
  | nil => rfl
  | cons r requests ih =>
    simp only [run, List.length_cons]
    rw [ih]

/-- **Over any run, a translator replies as the requests made before dictate**, and in
no other way.  Whatever the settings at first and the requests, each request has one
reply, which is the one answer that its history calls for: texts are parsed with the
limit in force when a parser was first needed, queries are written in the phrase mode in
force when a writer was first needed, or in a mode of their own, and words are required
as the settings of the moment say. -/
theorem run_answers (settings : Settings) (before : List Request) (r : Request)
    (after : List Request) :
    ∃ reply, (run ⟨.new settings, []⟩ (before ++ r :: after))[before.length]? = some reply ∧
      ∀ other, History.Answers ⟨settings, before⟩ r other ↔ other = reply := by
  refine ⟨((History.session ⟨settings, before⟩).step r).1, ?_, fun other => History.answers_iff⟩
  rw [run_append, List.getElem?_append_right (Nat.le_of_eq (length_run _ before)), length_run,
    Nat.sub_self]
  have hsession := History.session_foldl ⟨settings, []⟩ before
  rw [List.nil_append] at hsession
  rw [show (⟨.new settings, []⟩ : Session) = History.session ⟨settings, []⟩ from rfl, hsession]
  rfl

/-- The parser has the limit of the moment a text was missing, though it was raised
since, so words are required, as the mode and the stop words of now say. -/
theorem run_answers_late :
    let settings : Settings := ⟨.inflectional, .ofList ["b"], .count 0⟩
    let before : List Request :=
      [.parse none "", .set ⟨some (.str "PREFIX"), some ["A"], some (.count 5)⟩]
    let misfit : Misfit := ⟨.tooDeep (.count 0),
      [⟨.symbol .openParen, "(", 2⟩, ⟨.term, "b", 3⟩, ⟨.symbol .closeParen, ")", 4⟩]⟩
    (run ⟨.new settings, []⟩ (before ++ .translate (some "a (b)") :: []))[2]?
      = some (.ok (.translation ⟨"\"b*\"", false, [⟨"a (b)", .syntactic "a (b)" misfit⟩]⟩)) := by
  intro settings before misfit
  obtain ⟨reply, hreply, hanswers⟩ := run_answers settings before (.translate (some "a (b)")) []
  have hcause : Query.parse (.count 0) "a (b)" = .error (.syntactic "a (b)" misfit) := rfl
  have hanswer : History.Answers ⟨settings, before⟩ (.translate (some "a (b)"))
      (.ok (.translation ⟨"\"b*\"", false, [⟨"a (b)", .syntactic "a (b)" misfit⟩]⟩)) :=
    .fallBack rfl hcause
  rw [(hanswers _).1 hanswer]
  exact hreply

end Session

end FullText
