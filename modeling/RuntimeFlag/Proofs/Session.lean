import RuntimeFlag.Command
import RuntimeFlag.Proofs.Confinement
/-!
# What a session needs

A session starts with a settings file, a token and an endpoint, and its first request needs a token
that can be sent. `Session.Barrier` tells what is in the way, in the order in which it is looked for,
with the failure that is reported; `Session.Ready` says that nothing is.
-/
namespace RuntimeFlag

namespace Dialogue

variable {α β : Type}

/-- The dialogue has its result whatever the outcomes are: it asks for nothing and prints nothing. -/
def Settles (dialogue : Dialogue α) (result : Except Failure α) : Prop :=
  ∀ wire, Runs dialogue wire result [] "" wire

namespace Settles

private theorem pure (a : α) : Settles (Pure.pure a : Dialogue α) (.ok a) := fun _ => Runs.pure a

private theorem fail_bind (failure : Failure) (next : α → Dialogue β) :
    Settles (Dialogue.fail failure >>= next) (.error failure) :=
  fun _ => (Runs.fail failure).bind_error next

private theorem ofExcept (result : Except Failure α) : Settles (Dialogue.ofExcept result) result :=
  fun _ => ⟨rfl, rfl, rfl, rfl⟩

private theorem log (level : LogLevel) (source : LogSource) (text : String) :
    Settles (Dialogue.log level source text) (.ok ()) :=
  fun _ => ⟨rfl, rfl, rfl, rfl⟩

private theorem bind {dialogue : Dialogue α} {next : α → Dialogue β} {result : Except Failure α}
    {last : α → Except Failure β} (hd : Settles dialogue result)
    (hn : ∀ a, Settles (next a) (last a)) : Settles (dialogue >>= next) (result.bind last) := by
  intro wire
  cases result with
  | ok a => exact (hd wire).bind (hn a wire)
  | error failure => exact (hd wire).bind_error next

theorem runs_bind {dialogue : Dialogue α} {a : α} (hd : Settles dialogue (.ok a))
    (next : α → Dialogue β) (wire : List Outcome) :
    Runs (dialogue >>= next) wire (next a wire).result (next a wire).requests
      (next a wire).output (next a wire).unused := by
  have hnext : Runs (next a) wire (next a wire).result (next a wire).requests
      (next a wire).output (next a wire).unused :=
    ⟨rfl, rfl, rfl, rfl⟩
  have h := (hd wire).bind hnext
  rwa [List.nil_append, String.empty_append] at h

theorem refuses {dialogue : Dialogue α} {failure : Failure} (h : Settles dialogue (.error failure)) :
    Refuses failure dialogue :=
  fun wire => ⟨(h wire).result, (h wire).requests⟩

theorem refuses_bind {dialogue : Dialogue α} {next : α → Dialogue β} {a : α} {failure : Failure}
    (hd : Settles dialogue (.ok a)) (hn : Refuses failure (next a)) :
    Refuses failure (dialogue >>= next) := by
  intro wire
  have h := hd.runs_bind next wire
  exact ⟨h.result.trans (hn wire).1, h.requests.trans (hn wire).2⟩

end Settles

end Dialogue

namespace Session

open Dialogue

variable {surroundings : Surroundings} {options : CommandLine.Options}

/-! ## Starting -/

def loaded (surroundings : Surroundings) (options : CommandLine.Options) :
    Except Failure Settings := do
  let path ← settingsPath surroundings options.settingsPath
  let file ← Settings.ofFile path (surroundings.entry path)
  pure (file.withEndpoint options.endpoint)

def opened (surroundings : Surroundings) (options : CommandLine.Options) :
    Except Failure Client := do
  let settings ← loaded surroundings options
  if settings.isLoggedIn then Client.ofSettings settings else throw .notLoggedIn

private theorem settings_settles (surroundings : Surroundings) (options : CommandLine.Options) :
    Settles (settings surroundings options) (loaded surroundings options) := by
  refine (Settles.ofExcept _).bind fun path => (Settles.ofExcept _).bind fun file => ?_
  exact (Settles.log _ _ _).bind fun _ => Settles.pure _

private theorem warnIfExpired_settles (now : Int) (settings : Settings) :
    Settles (warnIfExpired now settings) (.ok ()) := by
  unfold warnIfExpired
  split
  · exact Settles.log _ _ _
  · exact Settles.pure ()

/-- A session starts, or fails to, without asking for anything and without printing anything. -/
theorem start_settles (surroundings : Surroundings) (options : CommandLine.Options) :
    Settles (start surroundings options) (opened surroundings options) := by
  refine (settings_settles surroundings options).bind fun settings => ?_
  cases h : settings.isLoggedIn with
  | true =>
    exact (warnIfExpired_settles surroundings.now settings).bind fun _ => Settles.ofExcept _
  | false => exact Settles.fail_bind _ _

/-! ## What is in the way -/

/-- The settings that a session starts with: the file is there, can be read and makes sense. -/
def Loads (surroundings : Surroundings) (options : CommandLine.Options) (settings : Settings) :
    Prop :=
  ∃ path bytes text file, settingsPath surroundings options.settingsPath = .ok path ∧
    surroundings.entry path = .content bytes ∧ Utf8.decodeChars? bytes = some text ∧
    Settings.ofText text = .ok file ∧ settings = file.withEndpoint options.endpoint

/-- What is in the way of a session and its first request, with the failure that it is. Each assumes
that nothing before it is in the way. -/
inductive Barrier (surroundings : Surroundings) (options : CommandLine.Options) : Failure → Prop
  | noPath (hn : options.settingsPath = none) (hh : surroundings.home = none) :
    Barrier surroundings options (.settings (.invalid "Could not determine home directory"))
  | missing {path : String} (hp : settingsPath surroundings options.settingsPath = .ok path)
    (he : surroundings.entry path = .missing) :
    Barrier surroundings options (.settings (.missingFile path))
  | unreadable {path reason : String}
    (hp : settingsPath surroundings options.settingsPath = .ok path)
    (he : surroundings.entry path = .unreadable reason) : Barrier surroundings options (.io reason)
  | illFormed {path : String} {bytes : Bytes}
    (hp : settingsPath surroundings options.settingsPath = .ok path)
    (he : surroundings.entry path = .content bytes) (hd : Utf8.decodeChars? bytes = none) :
    Barrier surroundings options (.io "stream did not contain valid UTF-8")
  | unparsable {path : String} {bytes : Bytes} {text : List Char} {fault : Yaml.Fault}
    (hp : settingsPath surroundings options.settingsPath = .ok path)
    (he : surroundings.entry path = .content bytes) (hd : Utf8.decodeChars? bytes = some text)
    (ht : Settings.ofText text = .error fault) :
    Barrier surroundings options (.settings (.unparsable fault.message))
  | loggedOut {settings : Settings} (hl : Loads surroundings options settings)
    (ht : settings.token? = none) : Barrier surroundings options .notLoggedIn
  | noEndpoint {settings : Settings} (hl : Loads surroundings options settings)
    (ht : settings.token? ≠ none)
    (he : ∀ endpoint, settings.endpoint = some endpoint → Text.trim endpoint = "") :
    Barrier surroundings options (.settings .missingEndpoint)
  | badEndpoint {settings : Settings} {endpoint : String} {fault : UrlFault}
    (hl : Loads surroundings options settings) (ht : settings.token? ≠ none)
    (he : settings.endpoint = some endpoint) (hn : Text.trim endpoint ≠ "")
    (hu : Url.parse (Text.trim endpoint) = .error fault) :
    Barrier surroundings options (.settings (.invalid
      ("api_endpoint '" ++ Text.trim endpoint ++ "': " ++ fault.message)))
  | badToken {settings : Settings} {endpoint : String} {base : Url} {value : String}
    (hl : Loads surroundings options settings) (he : settings.endpoint = some endpoint)
    (hn : Text.trim endpoint ≠ "") (hu : Url.parse (Text.trim endpoint) = .ok base)
    (hv : settings.authorization = .ok value)
    (hh : Token.isHeaderValue value = false) :
    Barrier surroundings options
      (.settings (.invalid "access token contains characters not allowed in a header"))

/-- Nothing is in the way of the first request. -/
structure Ready (surroundings : Surroundings) (options : CommandLine.Options) (client : Client)
    (value : String) : Prop where
  loads : Loads surroundings options client.settings
  token : ∃ stored, client.settings.accessToken = some stored ∧ Text.allBlank stored = false
  endpoint : ∃ given, client.settings.endpoint = some given ∧
    Text.trim given ≠ "" ∧ Url.parse (Text.trim given) = .ok client.base
  authorization : client.settings.authorization = .ok value
  header : Token.isHeaderValue value = true

end Session

/-! ## Settings -/

namespace Settings

variable {settings : Settings}

private theorem isLoggedIn_iff : settings.isLoggedIn = true ↔ settings.token? ≠ none :=
  Option.isSome_iff_ne_none

private theorem exists_stored (h : settings.token? ≠ none) :
    ∃ stored, settings.accessToken = some stored ∧ Text.allBlank stored = false := by
  cases hs : settings.accessToken with
  | none => exact (h (by rw [token?, hs]; rfl)).elim
  | some stored =>
    refine ⟨stored, rfl, Bool.eq_false_iff.mpr fun hb => h ?_⟩
    rw [token?, hs, Option.bind_some, usable?_of_allBlank hb]

private theorem token?_of_authorization {value : String} (h : settings.authorization = .ok value) :
    settings.token? ≠ none := by
  intro hnone
  rw [authorization, hnone] at h
  cases h

private theorem exists_authorization (h : settings.token? ≠ none) :
    ∃ value, settings.authorization = .ok value := by
  obtain ⟨token, htoken⟩ := Option.ne_none_iff_exists'.mp h
  exact ⟨_, by rw [authorization, htoken]⟩

private theorem credential_of_illegal {value : String} (hv : settings.authorization = .ok value)
    (hh : Token.isHeaderValue value = false) : settings.credential =
      .error (.settings (.invalid "access token contains characters not allowed in a header")) := by
  rw [credential, hv]
  change (if Token.isHeaderValue value then _ else _) = _
  rw [hh]
  rfl

private theorem baseUrl_of_none
    (h : ∀ endpoint, settings.endpoint = some endpoint → Text.trim endpoint = "") :
    settings.baseUrl = .error (.settings .missingEndpoint) := by
  have hnone : (settings.endpoint.map Text.trim).filter (· ≠ "") = none := by
    cases he : settings.endpoint with
    | none => rfl
    | some endpoint => simp [h endpoint he]
  rw [baseUrl, hnone]

private theorem baseUrl_of_some {endpoint : String} (he : settings.endpoint = some endpoint)
    (hn : Text.trim endpoint ≠ "") :
    settings.baseUrl = (Url.parse (Text.trim endpoint)).mapError fun fault =>
      .settings (.invalid ("api_endpoint '" ++ Text.trim endpoint ++ "': " ++ fault.message)) := by
  have hsome : (settings.endpoint.map Text.trim).filter (· ≠ "") = some (Text.trim endpoint) := by
    simp [he, hn]
  rw [baseUrl, hsome]
  cases hu : Url.parse (Text.trim endpoint) <;> simp only [hu] <;> rfl

end Settings

/-! ## The first thing in the way -/

namespace Session

variable {surroundings : Surroundings} {options : CommandLine.Options} {failure : Failure}

private theorem opened_of_unread {path : String}
    (hp : settingsPath surroundings options.settingsPath = .ok path)
    (hf : Settings.ofFile path (surroundings.entry path) = .error failure) :
    opened surroundings options = .error failure := by
  rw [opened, loaded, hp]
  simp only [bind, Except.bind, hf]

private theorem Loads.opened {settings : Settings} (h : Loads surroundings options settings) :
    opened surroundings options =
      if settings.isLoggedIn then Client.ofSettings settings else .error .notLoggedIn := by
  obtain ⟨path, bytes, text, file, hp, he, hd, ht, rfl⟩ := h
  have hf : Settings.ofFile path (surroundings.entry path) = .ok file := by
    simp only [he, Settings.ofFile, hd, ht, mapError_ok]
  rw [Session.opened, loaded, hp]
  simp only [bind, Except.bind, hf]
  rfl

private theorem Loads.opened_of_token {settings : Settings}
    (h : Loads surroundings options settings) (ht : settings.token? ≠ none) :
    Session.opened surroundings options =
      settings.baseUrl.map fun base => ⟨settings, base⟩ := by
  rw [h.opened, if_pos (Settings.isLoggedIn_iff.mpr ht)]
  rfl

theorem Barrier.stops (h : Barrier surroundings options failure) :
    opened surroundings options = .error failure ∨ ∃ client,
      opened surroundings options = .ok client ∧ client.settings.credential = .error failure := by
  cases h with
  | noPath hn hh =>
    left
    rw [opened, loaded, settingsPath, hn, hh]
    rfl
  | missing hp he => exact .inl (opened_of_unread hp (by rw [he, Settings.ofFile]))
  | unreadable hp he => exact .inl (opened_of_unread hp (by rw [he, Settings.ofFile]))
  | illFormed hp he hd =>
    exact .inl (opened_of_unread hp (by simp only [he, Settings.ofFile, hd]))
  | unparsable hp he hd ht =>
    exact .inl (opened_of_unread hp (by simp only [he, Settings.ofFile, hd, ht, mapError_error]))
  | loggedOut hl ht =>
    left
    rw [hl.opened, if_neg (mt Settings.isLoggedIn_iff.mp (not_not.mpr ht))]
  | noEndpoint hl ht he =>
    left
    rw [hl.opened_of_token ht, Settings.baseUrl_of_none he]
    rfl
  | badEndpoint hl ht he hn hu =>
    left
    rw [hl.opened_of_token ht, Settings.baseUrl_of_some he hn, hu]
    rfl
  | @badToken settings _ base _ hl he hn hu hv hh =>
    refine .inr ⟨⟨settings, base⟩, ?_, Settings.credential_of_illegal hv hh⟩
    rw [hl.opened_of_token (Settings.token?_of_authorization hv), Settings.baseUrl_of_some he hn, hu]
    rfl

private theorem loads_or_barrier (surroundings : Surroundings) (options : CommandLine.Options) :
    (∃ settings, Loads surroundings options settings) ∨
      ∃ failure, Barrier surroundings options failure := by
  cases hp : settingsPath surroundings options.settingsPath with
  | error fault =>
    have hnone : options.settingsPath.or (surroundings.home.map Settings.defaultPath) = none := by
      unfold settingsPath at hp
      split at hp
      · cases hp
      · assumption
    obtain ⟨hn, hh⟩ := Option.or_eq_none_iff.mp hnone
    exact .inr ⟨_, .noPath hn (Option.map_eq_none_iff.mp hh)⟩
  | ok path =>
    cases he : surroundings.entry path with
    | missing => exact .inr ⟨_, .missing hp he⟩
    | unreadable reason => exact .inr ⟨_, .unreadable hp he⟩
    | content bytes =>
      cases hd : Utf8.decodeChars? bytes with
      | none => exact .inr ⟨_, .illFormed hp he hd⟩
      | some text =>
        cases ht : Settings.ofText text with
        | error fault => exact .inr ⟨_, .unparsable hp he hd ht⟩
        | ok file => exact .inl ⟨_, path, bytes, text, file, hp, he, hd, ht, rfl⟩

/-- Unless something is in the way, everything is there that a request needs. -/
theorem ready_or_barrier (surroundings : Surroundings) (options : CommandLine.Options) :
    (∃ client value, Ready surroundings options client value) ∨
      ∃ failure, Barrier surroundings options failure := by
  rcases loads_or_barrier surroundings options with ⟨settings, hl⟩ | hbarrier
  · by_cases ht : settings.token? = none
    · exact .inr ⟨_, .loggedOut hl ht⟩
    · by_cases hnone : ∀ endpoint, settings.endpoint = some endpoint → Text.trim endpoint = ""
      · exact .inr ⟨_, .noEndpoint hl ht hnone⟩
      · simp only [not_forall] at hnone
        obtain ⟨endpoint, he, hn⟩ := hnone
        obtain ⟨value, hv⟩ := Settings.exists_authorization ht
        cases hu : Url.parse (Text.trim endpoint) with
        | error fault => exact .inr ⟨_, .badEndpoint hl ht he hn hu⟩
        | ok base =>
          cases hh : Token.isHeaderValue value with
          | false => exact .inr ⟨_, .badToken hl he hn hu hv hh⟩
          | true =>
            exact .inl ⟨⟨settings, base⟩, value,
              ⟨hl, Settings.exists_stored ht, ⟨endpoint, he, hn, hu⟩, hv, hh⟩⟩
  · exact .inr hbarrier

end Session

end RuntimeFlag
