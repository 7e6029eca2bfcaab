/-
FullText/Translator/Session.lean

A session: one translator, asked again and again, and the queries that it has
parsed, kept by name.  Requests and replies are data, so a whole session is a
function of the requests made (`Session.run`).  A request that fails does not
end the session.
-/
import FullText.Translator.Basic

namespace FullText

/-! ### Requests and replies -/

/-- Where the query of a request comes from. -/
inductive QuerySource where
  /-- The query given with the request. -/
  | given (q : Query)
  /-- The query kept under a name. -/
  | kept (name : String)

/-- New values for some of the settings, put in as they are given. -/
structure Change where
  phraseMode : Option Value
  stopwords : Option (List String)
  maxDepth : Option Limit

/-- What a session is asked to do. -/
inductive Request where
  | translate (text : Option String)
  /-- Parse a text, and keep the query under a name. -/
  | parse (text : Option String) (name : String)
  | compile (source : QuerySource) (mode : Value)
  | requireWords (text : Option String)
  | settings
  | display
  | set (change : Change)
  /-- Does a translator made from the settings have the same settings? -/
  | clone
  /-- What is made so far? -/
  | made

/-- What a session answers. -/
inductive Reply where
  | translation (t : Translation)
  | query (q : Query)
  | condition (text : String)
  | settings (s : Settings)
  | shown (text : String)
  | done
  | same (b : Bool)
  | made (parser : Option Limit) (writer : Option PhraseMode)

/-! ### Sessions -/

/-- A translator and the queries kept by name, the last one first. -/
structure Session where
  translator : Translator
  kept : List (String × Query)

namespace Session

/-- The session that a dictionary of settings opens. -/
def ofEntries (entries : List (String × Value)) : Except Error Session :=
  (Settings.ofEntries entries).map fun settings => ⟨.new settings, []⟩

/-- The query that a request is about. -/
def find (s : Session) : QuerySource → Query
  | .given q => q
  | .kept name => (s.kept.lookup name).getD .absent

/-- Settings with some of them changed. -/
def change (settings : Settings) (c : Change) : Except Error Settings := do
  let phraseMode ← match c.phraseMode with
    | some given => PhraseMode.ofValue given
    | none => .ok settings.phraseMode
  return {
    phraseMode
    stopwords := (c.stopwords.map WordSet.ofList).getD settings.stopwords
    maxDepth := c.maxDepth.getD settings.maxDepth }

/-- The reply to a request, and the session that it leaves. -/
def step (s : Session) : Request → Except Error Reply × Session
  | .translate text =>
    let (result, t) := s.translator.translate text
    (result.map .translation, { s with translator := t })
  | .parse text name =>
    let (result, t) := s.translator.parse text
    match result with
    | .ok q => (.ok (.query q), ⟨t, (name, q) :: s.kept⟩)
    | .error e => (.error e, { s with translator := t })
  | .compile source mode =>
    let (result, t) := s.translator.compile mode (s.find source)
    (result.map .condition, { s with translator := t })
  | .requireWords text =>
    match text with
    | some text => (.ok (.condition (s.translator.requireWords text)), s)
    | none => (.error .textRequired, s)
  | .settings => (.ok (.settings s.translator.settings), s)
  | .display => (.ok (.shown s.translator.display), s)
  | .set c =>
    match change s.translator.settings c with
    | .ok settings => (.ok .done, { s with translator := { s.translator with settings } })
    | .error e => (.error e, s)
  | .clone => (s.translator.clone.map fun t => .same (t.settings = s.translator.settings), s)
  | .made => (.ok (.made s.translator.parser s.translator.writer), s)

/-- The replies to a list of requests. -/
def run (s : Session) : List Request → List (Except Error Reply)
  | [] => []
  | request :: requests =>
    let (reply, s) := s.step request
    reply :: s.run requests

end Session

end FullText
