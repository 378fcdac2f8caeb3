import RuntimeFlag.Program
import RuntimeFlag.Proofs.Confinement
/-!
# The token is told to nobody else

Two sessions whose settings differ in the token only: whatever a command is answered, it does the
same in both, up to the credential of its requests. `Dialogue.Mirrors` relates two dialogues that do the
same; each step of a command keeps it.
-/
namespace RuntimeFlag

/-! ## Doing the same -/

/-- The request without the value of its credential. -/
def Request.blind (request : Request) : Request :=
  { request with credential := request.credential.map fun _ => "" }

/-- The event without the value of a credential. -/
def Event.blind : Event → Event
  | .sent request => .sent request.blind
  | .logged entry => .logged entry
  | .printed text => .printed text

@[simp] theorem Event.entry?_blind (event : Event) : event.blind.entry? = event.entry? := by
  cases event <;> rfl

@[simp] theorem Event.text?_blind (event : Event) : event.blind.text? = event.text? := by
  cases event <;> rfl

@[simp] theorem Event.request?_blind (event : Event) :
    event.blind.request? = event.request?.map Request.blind := by
  cases event <;> rfl

namespace Dialogue

variable {α β γ δ : Type}

/-- Results that are related, or the same failure. -/
inductive Related (R : α → β → Prop) : Except Failure α → Except Failure β → Prop
  | ok {a : α} {b : β} (h : R a b) : Related R (.ok a) (.ok b)
  | error (failure : Failure) : Related R (.error failure) (.error failure)

private theorem Related.eq {result answer : Except Failure α} (h : Related Eq result answer) :
    result = answer := by
  cases h with
  | ok h => rw [h]
  | error failure => rfl

/-- Reports of dialogues that did the same, up to credentials. -/
structure Mirror (R : α → β → Prop) (report : Report α) (other : Report β) : Prop where
  result : Related R report.result other.result
  events : other.events.map Event.blind = report.events.map Event.blind
  unused : other.unused = report.unused

/-- Dialogues that do the same, up to credentials, on the same outcomes. -/
def Mirrors (R : α → β → Prop) (dialogue : Dialogue α) (other : Dialogue β) : Prop :=
  ∀ wire, Mirror R (dialogue wire) (other wire)

namespace Mirror

variable {R : α → β → Prop} {report : Report α} {other : Report β}

private theorem after (h : Mirror R report other) {events more : List Event}
    (he : more.map Event.blind = events.map Event.blind) :
    Mirror R (report.after events) (other.after more) := by
  refine ⟨h.result, ?_, h.unused⟩
  rw [Report.after, Report.after, List.map_append, List.map_append, he, h.events]

private theorem log_eq (h : Mirror R report other) : other.log = report.log := by
  have hlog {γ : Type} (report : Report γ) :
      (report.events.map Event.blind).filterMap Event.entry? = report.log := by
    simp only [Report.log, List.filterMap_map, Function.comp_def, Event.entry?_blind]
  rw [← hlog, h.events, hlog]

private theorem output_eq (h : Mirror R report other) : other.output = report.output := by
  have htexts {γ : Type} (report : Report γ) :
      (report.events.map Event.blind).filterMap Event.text? =
        report.events.filterMap Event.text? := by
    simp only [List.filterMap_map, Function.comp_def, Event.text?_blind]
  rw [Report.output, Report.output, ← htexts, h.events, htexts]

private theorem requests_eq (h : Mirror R report other) :
    other.requests.map Request.blind = report.requests.map Request.blind := by
  have hrequests {γ : Type} (report : Report γ) :
      (report.events.map Event.blind).filterMap Event.request? =
        report.requests.map Request.blind := by
    simp only [Report.requests, List.filterMap_map, List.map_filterMap, Function.comp_def,
      Event.request?_blind]
  rw [← hrequests, h.events, hrequests]

end Mirror

namespace Mirrors

variable {R : α → β → Prop} {S : γ → δ → Prop} {dialogue same : Dialogue α} {other : Dialogue β}

private theorem rfl : Mirrors Eq dialogue dialogue := by
  intro wire
  refine ⟨?_, Eq.refl _, Eq.refl _⟩
  cases (dialogue wire).result with
  | ok a => exact .ok (Eq.refl a)
  | error failure => exact .error failure

private theorem pure {a : α} {b : β} (h : R a b) : Mirrors R (Pure.pure a) (Pure.pure b) :=
  fun _ => ⟨.ok h, Eq.refl _, Eq.refl _⟩

private theorem ofExcept {result : Except Failure α} {answer : Except Failure β}
    (h : Related R result answer) :
    Mirrors R (Dialogue.ofExcept result) (Dialogue.ofExcept answer) :=
  fun _ => ⟨h, Eq.refl _, Eq.refl _⟩

private theorem send {request twin : Request} (h : twin.blind = request.blind) :
    Mirrors Eq (Dialogue.send request) (Dialogue.send twin) := by
  have hevents : [Event.sent twin].map Event.blind = [Event.sent request].map Event.blind :=
    congrArg (fun blind => [Event.sent blind]) h
  intro wire
  cases wire with
  | nil => exact ⟨.error _, hevents, Eq.refl _⟩
  | cons outcome rest =>
    cases outcome with
    | ok body => exact ⟨.ok (Eq.refl body), hevents, Eq.refl _⟩
    | error fault => exact ⟨.error _, hevents, Eq.refl _⟩

private theorem bind {next : α → Dialogue γ} {last : β → Dialogue δ} (hd : Mirrors R dialogue other)
    (hn : ∀ a b, R a b → Mirrors S (next a) (last b)) :
    Mirrors S (dialogue >>= next) (other >>= last) := by
  intro wire
  obtain ⟨hresult, hevents, hunused⟩ := hd wire
  generalize ha : (dialogue wire).result = result at hresult
  generalize hb : (other wire).result = answer at hresult
  cases hresult with
  | ok h =>
    rw [bind_of_ok ha, bind_of_ok hb, hunused]
    exact (hn _ _ h _).after hevents
  | error failure =>
    rw [bind_of_error ha, bind_of_error hb]
    exact ⟨.error failure, hevents, hunused⟩

private theorem seq {next last : α → Dialogue γ} (hd : Mirrors Eq dialogue same)
    (hn : ∀ a, Mirrors Eq (next a) (last a)) : Mirrors Eq (dialogue >>= next) (same >>= last) := by
  refine hd.bind ?_
  rintro a b ⟨⟩
  exact hn a

private theorem attempt (h : Mirrors Eq dialogue same) :
    Mirrors Eq (Dialogue.attempt dialogue) (Dialogue.attempt same) := by
  intro wire
  obtain ⟨hresult, hevents, hunused⟩ := h wire
  exact ⟨.ok hresult.eq, hevents, hunused⟩

end Mirrors

end Dialogue

/-! ## Sessions -/

/-- Settings that differ in the token only, where both tokens can be sent and tell the same about
their user and their end. -/
structure Settings.Twins (now : Int) (settings other : Settings) : Prop where
  same : other = { settings with accessToken := other.accessToken }
  credential : ∃ value, settings.credential = .ok value
  credential' : ∃ value, other.credential = .ok value
  displayName : other.displayName = settings.displayName
  expiredAt : other.expiredAt? now = settings.expiredAt? now

structure Client.Twins (now : Int) (client other : Client) : Prop where
  base : other.base = client.base
  settings : client.settings.Twins now other.settings

open Dialogue

/-- Requests that differ in the credential only. -/
def Request.Twins (request other : Request) : Prop := other.blind = request.blind

private theorem Request.Twins.sent {request other : Request} (h : request.Twins other) :
    (Event.sent other).blind = (Event.sent request).blind :=
  congrArg Event.sent h

namespace Walk

variable {α : Type} {walk other : Walk α}

/-- A walk goes on as another one does, when their requests differ in the credential only. -/
theorem mirror_go (hrequest : ∀ cursor, Related Request.Twins (walk.request cursor)
    (other.request cursor)) (hparse : other.parse = walk.parse) (wire : List Outcome)
    (cursor : Cursor) (seen : List String) (records : List α) (pages : Nat) :
    Mirror Eq (walk.go cursor seen records pages wire)
      (other.go cursor seen records pages wire) := by
  have hasked {request twin : Request} (h : request.Twins twin) (more : List Event) :
      ([debug ("GET " ++ twin.url.text), .sent twin] ++ more).map Event.blind =
        ([debug ("GET " ++ request.url.text), .sent request] ++ more).map Event.blind := by
    have hblind : twin.blind = request.blind := h
    have hurl := congrArg Request.url hblind
    change twin.url = request.url at hurl
    rw [hurl, List.map_append, List.map_append, List.map_cons, List.map_singleton, h.sent]
    rfl
  -- Both walks read the same page and so go on to the same cursor.
  induction wire generalizing cursor seen records pages with
  | nil =>
    have h := hrequest cursor
    rw [go, go]
    generalize walk.request cursor = asked, other.request cursor = asked' at h
    cases h with
    | error failure => exact ⟨.error failure, rfl, rfl⟩
    | ok h => exact ⟨.error _, hasked h [], rfl⟩
  | cons outcome rest ih =>
    have h := hrequest cursor
    rw [go, go, hparse]
    generalize walk.request cursor = asked, other.request cursor = asked' at h
    cases h with
    | error failure => exact ⟨.error failure, rfl, rfl⟩
    | ok h =>
      dsimp only
      cases (outcome.mapError Failure.api).bind walk.parse with
      | error failure => exact ⟨.error failure, hasked h [], rfl⟩
      | ok page =>
        dsimp only
        cases page.next with
        | none => exact ⟨.ok rfl, hasked h [_, _], rfl⟩
        | some next =>
          dsimp only
          split
          · exact ⟨.error _, hasked h _, rfl⟩
          · exact (ih _ _ _ _).after (hasked h _)

private theorem mirrors_all (hrequest : ∀ cursor, Related Request.Twins (walk.request cursor)
    (other.request cursor)) (hparse : other.parse = walk.parse) :
    Mirrors Eq walk.all other.all :=
  fun wire => mirror_go hrequest hparse wire _ _ _ _

end Walk

namespace Client.Twins

variable {now : Int} {client other : Client} (h : client.Twins now other)
include h

private theorem query_eq (collection : Collection) :
    other.query collection = client.query collection := by
  rw [Client.query, Client.query, h.base, h.settings.same]
  rfl

private theorem walk {α : Type} (query : Query) (record : Json.Decoder α) :
    Mirrors Eq (client.walk query record) (other.walk query record) := by
  obtain ⟨value, hvalue⟩ := h.settings.credential
  obtain ⟨value', hvalue'⟩ := h.settings.credential'
  rw [Client.walk, Client.walk, hvalue, hvalue', ofExcept_ok_bind, ofExcept_ok_bind]
  refine Walk.mirrors_all (fun cursor => ?_) rfl
  dsimp only
  cases query.request cursor with
  | error failure => exact .error failure
  | ok request => exact .ok rfl

private theorem findApplication (name : String) :
    Mirrors Eq (client.findApplication name) (other.findApplication name) := by
  obtain ⟨value, hvalue⟩ := h.settings.credential
  obtain ⟨value', hvalue'⟩ := h.settings.credential'
  have hquery : other.lookupQuery name = client.lookupQuery name := by
    rw [Client.lookupQuery, Client.lookupQuery, h.query_eq, h.settings.same]
  rw [Client.findApplication, Client.findApplication, hvalue, hvalue', hquery, ofExcept_ok_bind,
    ofExcept_ok_bind]
  refine Mirrors.rfl.seq fun request => (Mirrors.send (by rfl)).seq fun body => ?_
  exact Mirrors.rfl

private theorem setFlag (guid : String) (enabled : Bool) :
    Mirrors Eq (client.setFlag guid enabled) (other.setFlag guid enabled) := by
  obtain ⟨value, hvalue⟩ := h.settings.credential
  obtain ⟨value', hvalue'⟩ := h.settings.credential'
  rw [Client.setFlag, Client.setFlag, hvalue, hvalue', h.base, ofExcept_ok_bind, ofExcept_ok_bind]
  refine Mirrors.rfl.seq fun request => Mirrors.rfl.seq fun _ => (Mirrors.send (by rfl)).seq ?_
  exact fun _ => Mirrors.rfl

private theorem lookup (name : String) :
    Mirrors Eq (Toggle.lookup client name) (Toggle.lookup other name) :=
  (h.findApplication name).seq fun _ => Mirrors.rfl

private theorem toggle (palette : Palette) (target : FlagTarget) :
    Mirrors Eq (Toggle.run palette client target) (Toggle.run palette other target) := by
  have hset : Mirrors Eq (Toggle.set client target) (Toggle.set other target) :=
    (h.lookup target.app).seq fun app => Mirrors.rfl.seq fun _ => h.setFlag app.guid target.enabled
  have hverify : Mirrors Eq (Toggle.verify client target) (Toggle.verify other target) :=
    Mirrors.rfl.seq fun _ => (h.lookup target.app).seq fun _ => Mirrors.rfl
  refine Mirrors.rfl.seq fun _ => hset.seq fun _ => Mirrors.rfl.seq fun _ => ?_
  exact Mirrors.rfl.seq fun _ => hverify.seq fun _ => Mirrors.rfl

private theorem rows (runtime : Runtime) :
    Mirrors Eq (Listing.rows client runtime) (Listing.rows other runtime) := by
  have hlist {α : Type} (collection : Collection) (filter : Option Filter)
      (record : Json.Decoder α) :
      Mirrors Eq (client.walk { client.query collection with filter := filter } record)
        (other.walk { other.query collection with filter := filter } record) := by
    rw [h.query_eq]
    exact h.walk _ record
  have horganizations (spaces : List Space) : Mirrors Eq (Listing.organizationsFor client spaces)
      (Listing.organizationsFor other spaces) := by
    unfold Listing.organizationsFor
    split
    · exact (Mirrors.attempt (hlist .organizations none Catalog.organization)).seq
        fun _ => Mirrors.rfl
    · exact Mirrors.rfl
  refine (hlist .apps _ Catalog.application).seq fun apps => Mirrors.rfl.seq fun _ => ?_
  refine (hlist .spaces none Catalog.space).seq fun spaces => ?_
  exact (horganizations spaces).seq fun _ => Mirrors.rfl

private theorem listApps (palette : Palette) (timestamp : String) (format : Listing.Format)
    (runtime : Runtime) :
    Mirrors Eq (CommandLine.Command.listApps palette timestamp format client runtime)
      (CommandLine.Command.listApps palette timestamp format other runtime) := by
  rw [CommandLine.Command.listApps, CommandLine.Command.listApps, h.settings.displayName]
  cases format with
  | table =>
    exact Mirrors.rfl.seq fun _ => (h.rows runtime).seq fun _ => Mirrors.rfl
  | json => exact (h.rows runtime).seq fun _ => Mirrors.rfl

end Client.Twins

namespace Settings.Twins

variable {now : Int} {settings other : Settings} (h : settings.Twins now other)
include h

private theorem withEndpoint (endpoint : Option String) :
    (settings.withEndpoint endpoint).Twins now (other.withEndpoint endpoint) := by
  refine ⟨?_, h.credential, h.credential', h.displayName, h.expiredAt⟩
  rw [h.same]
  rfl

private theorem ofSettings : Related (Client.Twins now) (Client.ofSettings settings)
    (Client.ofSettings other) := by
  have hbase : other.baseUrl = settings.baseUrl := by
    rw [h.same]
    rfl
  rw [Client.ofSettings, Client.ofSettings, hbase]
  cases settings.baseUrl with
  | error failure => exact .error failure
  | ok base => exact .ok ⟨rfl, h⟩

end Settings.Twins

private theorem Settings.isLoggedIn_of_credential {settings : Settings} {value : String}
    (h : settings.credential = .ok value) : settings.isLoggedIn = true := by
  have ha := (credential_eq_ok.mp h).1
  unfold authorization at ha
  split at ha
  · next htoken => rw [isLoggedIn, htoken, Option.isSome_some]
  · cases ha

namespace Session

private theorem mirrors_start {surroundings : Surroundings} {options : CommandLine.Options}
    {path : String} {config other : Settings} {entry : String → FileEntry}
    (hpath : settingsPath surroundings options.settingsPath = .ok path)
    (hfile : Settings.ofFile path (surroundings.entry path) = .ok config)
    (hother : Settings.ofFile path (entry path) = .ok other)
    (h : config.Twins surroundings.now other) :
    Mirrors (Client.Twins surroundings.now) (start surroundings options)
      (start { surroundings with entry := entry } options) := by
  have hsettings : Mirrors (Settings.Twins surroundings.now) (settings surroundings options)
      (settings { surroundings with entry := entry } options) := by
    have hpath' :
        settingsPath { surroundings with entry := entry } options.settingsPath = .ok path :=
      hpath
    rw [settings, settings, hpath, hpath', ofExcept_ok_bind, ofExcept_ok_bind, hfile, hother,
      ofExcept_ok_bind, ofExcept_ok_bind]
    exact Mirrors.rfl.bind fun _ _ _ => Mirrors.pure (h.withEndpoint options.endpoint)
  refine hsettings.bind fun config other h => ?_
  obtain ⟨value, hvalue⟩ := h.credential
  obtain ⟨value', hvalue'⟩ := h.credential'
  rw [Settings.isLoggedIn_of_credential hvalue, Settings.isLoggedIn_of_credential hvalue']
  have hwarn : Mirrors Eq (warnIfExpired surroundings.now config)
      (warnIfExpired surroundings.now other) := by
    rw [warnIfExpired, warnIfExpired, h.expiredAt]
    exact Mirrors.rfl
  exact hwarn.bind fun _ _ _ => Mirrors.ofExcept h.ofSettings

end Session

section Runs

variable (surroundings : Surroundings) (entry : String → FileEntry) {path : String}
  {config other : Settings}

private theorem CommandLine.Command.mirrors_perform (options : Options)
    (hpath : Session.settingsPath surroundings options.settingsPath = .ok path)
    (hfile : Settings.ofFile path (surroundings.entry path) = .ok config)
    (hother : Settings.ofFile path (entry path) = .ok other)
    (h : config.Twins surroundings.now other) (command : Command) :
    Mirrors Eq (command.perform surroundings options)
      (command.perform { surroundings with entry := entry } options) := by
  refine (Session.mirrors_start hpath hfile hother h).bind fun client twin htwin => ?_
  cases command with
  | set app enabled => exact htwin.toggle _ _
  | check app => exact ((htwin.lookup app).seq fun _ => Mirrors.rfl).seq fun _ => Mirrors.rfl
  | list runtime => exact htwin.listApps _ _ _ runtime

/-- Whichever of two tokens the settings have, a command does and tells the same; only the
credential of its requests is another one. -/
theorem CommandLine.Command.token_only_in_credential (options : Options)
    (hpath : Session.settingsPath surroundings options.settingsPath = .ok path)
    (hfile : Settings.ofFile path (surroundings.entry path) = .ok config)
    (hother : Settings.ofFile path (entry path) = .ok other)
    (h : config.Twins surroundings.now other) (command : Command) (wire : List Outcome) :
    let report := command.perform surroundings options wire
    let shadow := command.perform { surroundings with entry := entry } options wire
    shadow.result = report.result ∧ shadow.output = report.output ∧ shadow.log = report.log ∧
      shadow.requests.map Request.blind = report.requests.map Request.blind := by
  have hmirror := command.mirrors_perform surroundings entry options hpath hfile hother h wire
  exact ⟨hmirror.result.eq.symm, hmirror.output_eq, hmirror.log_eq, hmirror.requests_eq⟩

/-- The settings of one user, before and after a log-in: another token with the same claims. -/
def Settings.ofLogin (number : String) : Settings :=
  { Settings.empty with
    accessToken := some ("bearer h.eyJ1c2VyX25hbWUiOiJhbm4ifQ." ++ number)
    endpoint := some "http://[::1]:9" }

/-- The file of those settings. -/
def fileOfLogin (number : String) : FileEntry :=
  .content (Utf8.encode
    ("access_token: bearer h.eyJ1c2VyX25hbWUiOiJhbm4ifQ." ++ number ++
      "\napi_endpoint: 'http://[::1]:9'"))

/-- A listing before and after a log-in, with the name of the user from the token. -/
theorem CommandLine.Command.token_only_in_credential_login :
    let surroundings : Surroundings :=
      ⟨⟨⟨none, none, none, none⟩, none, none, none⟩, some "/", fun _ => fileOfLogin "1", 0, ""⟩
    let options : Options := ⟨.table, none, none⟩
    let command : Command := .list .dea
    let wire : List Outcome := [.error .unauthorized]
    let report := command.perform surroundings options wire
    let shadow :=
      command.perform { surroundings with entry := fun _ => fileOfLogin "2" } options wire
    (Settings.ofLogin "1").Twins 0 (Settings.ofLogin "2") ∧
      report.output = "Getting apps on the DEA runtime as ann...\n" ∧ report.requests.length = 1 ∧
      shadow.result = report.result ∧ shadow.output = report.output ∧ shadow.log = report.log ∧
      shadow.requests.map Request.blind = report.requests.map Request.blind := by
  intro surroundings options command wire report shadow
  have htwins : (Settings.ofLogin "1").Twins 0 (Settings.ofLogin "2") :=
    ⟨rfl, ⟨_, rfl⟩, ⟨_, rfl⟩, by decide +kernel, by decide +kernel⟩
  have hfile (number : String) (h : number = "1" ∨ number = "2") :
      Settings.ofFile "/.diego-enabler/config.yaml" (fileOfLogin number) =
        .ok (Settings.ofLogin number) := by
    rcases h with rfl | rfl <;> decide +kernel
  obtain ⟨hresult, houtput, hlog, hrequests⟩ := token_only_in_credential surroundings
    (fun _ => fileOfLogin "2") options rfl (hfile "1" (.inl rfl)) (hfile "2" (.inr rfl)) htwins
    command wire
  exact ⟨htwins, by decide +kernel, by decide +kernel, hresult, houtput, hlog, hrequests⟩

/-- A run of the program writes the same with either token, and ends in the same way. -/
theorem Program.writings_of_twins {args : List Bytes} {invocation : CommandLine.Invocation}
    (hparse : CommandLine.parse surroundings.environment.options args = .ok invocation)
    (hpath : Session.settingsPath surroundings invocation.options.settingsPath = .ok path)
    (hfile : Settings.ofFile path (surroundings.entry path) = .ok config)
    (hother : Settings.ofFile path (entry path) = .ok other)
    (h : config.Twins surroundings.now other) (wire : List Outcome) :
    let shadow := run { surroundings with entry := entry } args wire
    shadow.writings = (run surroundings args wire).writings ∧
      shadow.exitCode = (run surroundings args wire).exitCode := by
  have hmirror := invocation.command.mirrors_perform surroundings entry invocation.options hpath
    hfile hother h wire
  have hevents (display : Display) (events : List Event) :
      (events.map Event.blind).flatMap display.event = events.flatMap display.event := by
    rw [List.flatMap_map]
    congr 1
    funext event
    cases event <;> rfl
  simp only [run, plan, hparse, planForInvocation, Job.run, ← hmirror.result.eq,
    ← hevents _ (Report.events _), hmirror.events]
  exact ⟨rfl, trivial⟩

end Runs

end RuntimeFlag
