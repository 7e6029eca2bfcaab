/-
FullText/Proofs/Configuration.lean

Settings written out as a dictionary, and read again.

Design.  Reading such a dictionary checks the limit and turns the stop words into lower
case, and nothing else (`Settings.ofEntries_entries`).  Stop words matter by their lower
case alone, and a lower case is its own lower case, so the settings read are those written
just if the stop words are in lower case, and they drop the same words in any case.
Settings that were read before are in lower case (`Settings.of_ofEntries`).

Main result: `Translator.clone_roundTrip`.
-/
import FullText.Proofs.Extraction
import FullText.Proofs.LowerCase
import FullText.Translator.Basic

namespace FullText

open Unicode

variable {limit : Limit} {entries : List (String × Value)} {s s' : Settings}

/-! ### Plain data -/

/-- Where two steps succeed, the first one does, and the second on what it gives. -/
theorem exists_of_bind_eq_ok {α β : Type} {x : Except Error α} {f : α → Except Error β} {b : β}
    (h : (x >>= f) = .ok b) : ∃ a, x = .ok a ∧ f a = .ok b := by
  cases x with
  | error e => cases h
  | ok a => exact ⟨a, rfl, h⟩

theorem PhraseMode.ofValue_toValue (mode : PhraseMode) : ofValue mode.toValue = .ok mode := by
  rw [ofValue, ofValue?_toValue]

namespace Settings

theorem stopwordsOf_toValue (stopwords : List String) :
    stopwordsOf (stopwordsToValue stopwords) = .ok (.ofList (stopwords.map lower)) := by
  show (stopwordsOfValue (stopwordsToValue stopwords) >>= _) = _
  rw [stopwordsOfValue_toValue]
  rfl

theorem maxDepthOf_toValue (limit : Limit) :
    maxDepthOf limit.toValue
      = if 0 < limit.value then .ok limit else .error (.maxDepthNotPositive limit.toValue) := by
  rw [maxDepthOf, Limit.ofValue?_toValue]

/-- Stop words that are read are in lower case. -/
theorem lower_of_stopwordsOf {given : Value} {stopwords : WordSet}
    (h : stopwordsOf given = .ok stopwords) : ∀ w ∈ stopwords, lower w = w := by
  unfold stopwordsOf at h
  split at h
  · cases h
  · cases hgiven : stopwordsOfValue given with
    | error e =>
      rw [hgiven] at h
      cases h
    | ok ws =>
      rw [hgiven] at h
      obtain rfl := Except.ok.inj h
      intro w hw
      obtain ⟨v, -, rfl⟩ := List.mem_map.1 (WordSet.mem_ofList.1 hw)
      exact lower_lower v

/-- A limit that is read is positive. -/
theorem pos_of_maxDepthOf {given : Value} (h : maxDepthOf given = .ok limit) :
    0 < limit.value := by
  unfold maxDepthOf at h
  split at h
  · split at h
    · next hpos =>
      obtain rfl := Except.ok.inj h
      exact hpos
    · cases h
  · cases h

/-! ### Dictionaries -/

/-- Values are read in turn, each of them if it is given. -/
theorem ofEntries_eq_bind (h : unknownNames entries = []) :
    ofEntries entries
      = (entries.lookup "phrase_mode").elim (.ok .inflectional) PhraseMode.ofValue >>= fun mode =>
        (entries.lookup "stopwords").elim (.ok (.ofList defaultStopwords)) stopwordsOf >>=
          fun stopwords =>
        (entries.lookup "max_depth").elim (.ok .default) maxDepthOf >>= fun limit =>
        .ok ⟨mode, stopwords, limit⟩ := by
  unfold ofEntries
  rw [h]
  cases entries.lookup "phrase_mode" <;> cases entries.lookup "stopwords" <;>
    cases entries.lookup "max_depth" <;> rfl

/-- A dictionary with a value for each name. -/
theorem ofEntries_all (mode stopwords limit : Value) :
    ofEntries [("phrase_mode", mode), ("stopwords", stopwords), ("max_depth", limit)]
      = (do
        let mode ← PhraseMode.ofValue mode
        let stopwords ← stopwordsOf stopwords
        let limit ← maxDepthOf limit
        return ⟨mode, stopwords, limit⟩) := by
  have hnames : unknownNames
      [("phrase_mode", mode), ("stopwords", stopwords), ("max_depth", limit)] = [] := by
    simp only [unknownNames, List.map_cons, List.map_nil]
    decide +kernel
  rw [ofEntries_eq_bind hnames]
  rfl

/-- Settings given as plain data are read, if the limit is one. -/
theorem ofEntries_toValue_eq (phraseMode : PhraseMode) (stopwords : List String) (limit : Limit) :
    ofEntries [("phrase_mode", phraseMode.toValue), ("stopwords", stopwordsToValue stopwords),
        ("max_depth", limit.toValue)]
      = (maxDepthOf limit.toValue).map fun limit =>
          ⟨phraseMode, .ofList (stopwords.map lower), limit⟩ := by
  rw [ofEntries_all, PhraseMode.ofValue_toValue, stopwordsOf_toValue]
  cases maxDepthOf limit.toValue <;> rfl

/-- Settings given as plain data are read, if the limit is positive. -/
theorem ofEntries_toValue (phraseMode : PhraseMode) (stopwords : List String)
    (h : 0 < limit.value) :
    ofEntries [("phrase_mode", phraseMode.toValue), ("stopwords", stopwordsToValue stopwords),
        ("max_depth", limit.toValue)]
      = .ok ⟨phraseMode, .ofList (stopwords.map lower), limit⟩ := by
  rw [ofEntries_toValue_eq, maxDepthOf_toValue, if_pos h]
  rfl

/-- **Settings that are read** have stop words in lower case and a positive limit. -/
theorem of_ofEntries (h : ofEntries entries = .ok s) :
    (∀ w ∈ s.stopwords, lower w = w) ∧ 0 < s.maxDepth.value := by
  have hnames : unknownNames entries = [] := by
    unfold ofEntries at h
    split at h
    · cases h
    · assumption
  rw [ofEntries_eq_bind hnames] at h
  obtain ⟨phraseMode, -, h⟩ := exists_of_bind_eq_ok h
  obtain ⟨stopwords, hstopwords, h⟩ := exists_of_bind_eq_ok h
  obtain ⟨limit, hlimit, h⟩ := exists_of_bind_eq_ok h
  obtain rfl := Except.ok.inj h
  constructor
  · cases hgiven : entries.lookup "stopwords" with
    | some given =>
      rw [hgiven] at hstopwords
      exact lower_of_stopwordsOf hstopwords
    | none =>
      -- the stop words where none are given
      rw [hgiven] at hstopwords
      obtain rfl := Except.ok.inj hstopwords
      have hdefault : ∀ w ∈ defaultStopwords, lower w = w := by decide +kernel
      exact fun w hw => hdefault w (WordSet.mem_ofList.1 hw)
  · cases hgiven : entries.lookup "max_depth" with
    | some given =>
      rw [hgiven] at hlimit
      exact pos_of_maxDepthOf hlimit
    | none =>
      rw [hgiven] at hlimit
      obtain rfl := Except.ok.inj hlimit
      show (0 : Int) < 100
      decide

/-- Settings tell what dictionary they are written as, and it tells them. -/
theorem entries_inj : s.entries = s'.entries ↔ s = s' := by
  refine ⟨fun h => ?_, congrArg entries⟩
  simp only [entries, List.cons.injEq, Prod.mk.injEq, true_and, and_true] at h
  obtain ⟨hmode, hstopwords, hlimit⟩ := h
  have hmode' := congrArg PhraseMode.ofValue? hmode
  have hstopwords' := congrArg stopwordsOfValue hstopwords
  have hlimit' := congrArg Limit.ofValue? hlimit
  rw [PhraseMode.ofValue?_toValue, PhraseMode.ofValue?_toValue] at hmode'
  rw [stopwordsOfValue_toValue, stopwordsOfValue_toValue] at hstopwords'
  rw [Limit.ofValue?_toValue, Limit.ofValue?_toValue] at hlimit'
  have hwords : s.stopwords = s'.stopwords := by
    ext w
    rw [WordSet.mem_def, WordSet.mem_def, Except.ok.inj hstopwords']
  cases s
  cases s'
  congr
  · exact Option.some.inj hmode'
  · exact Option.some.inj hlimit'

/-! ### What is read of settings that are written -/

/-- Settings with their stop words in lower case. -/
def lowered (s : Settings) : Settings :=
  { s with stopwords := .ofList (s.stopwords.toList.map lower) }

theorem mem_lowered {w : String} : w ∈ s.lowered.stopwords ↔ ∃ v ∈ s.stopwords, lower v = w := by
  rw [lowered, WordSet.mem_ofList, List.mem_map]
  rfl

/-- **Written settings are read** with their stop words in lower case, if the limit is
positive. -/
theorem ofEntries_entries (s : Settings) :
    ofEntries s.entries
      = if 0 < s.maxDepth.value then .ok s.lowered
        else .error (.maxDepthNotPositive s.maxDepth.toValue) := by
  have hread := ofEntries_toValue_eq s.phraseMode s.stopwords.toList s.maxDepth
  rw [entries, hread, maxDepthOf_toValue]
  split <;> rfl

/-- **The stop words stay what they are** just if they are in lower case. -/
theorem lowered_eq_self_iff : s.lowered = s ↔ ∀ w ∈ s.stopwords, lower w = w := by
  constructor
  · intro h w hw
    -- each of them is a lower case, which is its own
    rw [← h] at hw
    obtain ⟨v, -, rfl⟩ := mem_lowered.1 hw
    exact lower_lower v
  · intro h
    have hwords : WordSet.ofList (s.stopwords.toList.map lower) = s.stopwords := by
      ext w
      show w ∈ s.lowered.stopwords ↔ _
      rw [mem_lowered]
      constructor
      · rintro ⟨v, hv, rfl⟩
        rwa [h v hv]
      · exact fun hw => ⟨w, hw, h w hw⟩
    rw [lowered, hwords]

/-- **The same words are dropped** where stop words are in lower case. -/
theorem words_lowered (s : Settings) (text : String) :
    words s.lowered.stopwords.toList text = words s.stopwords.toList text := by
  apply words_congr
  intro w
  simp only [List.mem_map, ← WordSet.mem_def, mem_lowered]
  constructor
  · rintro ⟨_, ⟨v, hv, rfl⟩, rfl⟩
    exact ⟨v, hv, (lower_lower v).symm⟩
  · rintro ⟨v, hv, rfl⟩
    exact ⟨lower v, ⟨v, hv, rfl⟩, lower_lower v⟩

end Settings

/-! ### Clones -/

namespace Translator

/-- **A clone requires the words that its original requires.**  A translator is made from
the settings of another, whatever has been set there, unless the limit is below one.  It
has the same settings just if each stop word is its own lower case, which is so as long as
nothing was set since they were read; and whether or not it has the same settings, it
requires the same words of every text. -/
theorem clone_roundTrip (t : Translator) :
    (t.settings.maxDepth.value < 1 ↔
      t.clone = .error (.maxDepthNotPositive t.settings.maxDepth.toValue)) ∧
    (1 ≤ t.settings.maxDepth.value → ∃ u, t.clone = .ok u ∧
      (u.settings.entries = t.settings.entries ↔ ∀ w ∈ t.settings.stopwords, lower w = w) ∧
      ∀ text, u.requireWords text = t.requireWords text) ∧
    (∀ entries, Settings.ofEntries entries = .ok t.settings →
      ∃ u, t.clone = .ok u ∧ u.settings.entries = t.settings.entries) := by
  have hclone : t.clone
      = if 0 < t.settings.maxDepth.value then .ok (new t.settings.lowered)
        else .error (.maxDepthNotPositive t.settings.maxDepth.toValue) := by
    rw [clone, Settings.ofEntries_entries]
    split <;> rfl
  refine ⟨⟨fun h => ?_, fun h => ?_⟩, fun h => ?_, fun entries h => ?_⟩
  · rw [hclone, if_neg (by omega)]
  · refine Int.lt_of_not_ge fun hlimit => ?_
    rw [hclone, if_pos (by omega)] at h
    cases h
  · refine ⟨new t.settings.lowered, by rw [hclone, if_pos (by omega)], ?_, fun text => ?_⟩
    · rw [Settings.entries_inj]
      exact Settings.lowered_eq_self_iff
    · show FullText.requireWords _ t.settings.lowered.stopwords.toList text = _
      unfold FullText.requireWords
      rw [Settings.words_lowered]
      rfl
  · obtain ⟨hlower, hlimit⟩ := Settings.of_ofEntries h
    refine ⟨new t.settings.lowered, by rw [hclone, if_pos hlimit], ?_⟩
    rw [new, Settings.lowered_eq_self_iff.2 hlower]

/-- A stop word that ends in a capital sigma is changed in the clone and still drops the
same words, of which one has a sigma that is not final. -/
theorem clone_roundTrip_sigma :
    let settings : Settings := ⟨.prefixed, .ofList ["ΟΔΟΣ", "İ", "x"], .count 1⟩
    let roomless : Settings := { settings with maxDepth := .count 0 }
    let fresh : Settings := ⟨.inflectional, .ofList ["οδος"], .flag true⟩
    (1 : Int) ≤ 1 ∧ (0 : Int) < 1 ∧
      Settings.ofEntries [("phrase_mode", .str "inflectional"),
          ("stopwords", .list [.str "ΟΔΟΣ"]), ("max_depth", .bool true)] = .ok fresh ∧
      (∃ u, (new settings).clone = .ok u ∧ u.settings.entries ≠ settings.entries ∧
        u.requireWords "Οδος X ΟΔΟσ i̇" = "\"ΟΔΟσ*\"") ∧
      (new roomless).clone = .error (.maxDepthNotPositive (.int 0)) ∧
      ∃ u, (new fresh).clone = .ok u ∧ u.settings.entries = fresh.entries := by
  intro settings roomless fresh
  have hpos : 0 < (Limit.flag true).value := by decide
  have hread := Settings.ofEntries_toValue .inflectional ["ΟΔΟΣ"] hpos
  have hfresh :
      (⟨.inflectional, .ofList (["ΟΔΟΣ"].map lower), .flag true⟩ : Settings) = fresh := by
    decide +kernel
  rw [hfresh] at hread
  have hcapital : "ΟΔΟΣ" ∈ settings.stopwords := WordSet.mem_ofList.2 List.mem_cons_self
  obtain ⟨-, hclone, -⟩ := clone_roundTrip (new settings)
  obtain ⟨u, hu, hsame, hrequire⟩ := hclone (by decide)
  refine ⟨by decide, by decide, hread, ⟨u, hu, fun h => ?_, ?_⟩, ?_, ?_⟩
  · exact absurd (hsame.1 h "ΟΔΟΣ" hcapital) (by decide +kernel)
  · rw [hrequire]
    decide +kernel
  · exact (clone_roundTrip (new roomless)).1.1 (by decide)
  · exact (clone_roundTrip (new fresh)).2.2 _ hread

end Translator

end FullText
