import Mathlib.Data.List.TakeWhile
import RuntimeFlag.Listing.Rows
import RuntimeFlag.Proofs.Request
import RuntimeFlag.Proofs.Text.Blank
import RuntimeFlag.Proofs.Walk
import RuntimeFlag.Toggle
/-!
# The credential stays with the control plane

Whatever a client is asked to do, and whatever it is answered, its requests go to the origin of its
endpoint and carry the credential of its session and nothing else. Without a usable credential it
asks for nothing.
-/
namespace RuntimeFlag

namespace Settings

/-- There is no token, it is blank, or a header may not hold it. -/
def LacksCredential (settings : Settings) : Prop :=
  settings.accessToken = none ∨
    (∃ stored, settings.accessToken = some stored ∧ Text.allBlank stored = true) ∨
    ∀ value, settings.authorization = .ok value → Token.isHeaderValue value = false

theorem credential_eq_ok {settings : Settings} {value : String} :
    settings.credential = .ok value ↔
      settings.authorization = .ok value ∧ Token.isHeaderValue value = true := by
  rw [credential, bind_eq_ok]
  constructor
  · rintro ⟨sent, ha, h⟩
    split at h
    · next hv =>
      cases h
      exact ⟨ha, hv⟩
    · cases h
  · rintro ⟨ha, hv⟩
    exact ⟨value, ha, if_pos hv⟩

theorem usable?_of_allBlank {stored : String} (h : Text.allBlank stored = true) :
    Token.usable? stored.toList = none := by
  have htrim : Text.trimChars stored.toList = [] :=
    Text.trimChars_eq_nil_iff.mpr (List.all_eq_true.mp h)
  rw [Token.usable?, htrim]
  rfl

private theorem credential_of_lacks {settings : Settings} (h : settings.LacksCredential) :
    ∃ failure, settings.credential = .error failure := by
  cases hc : settings.credential with
  | error failure => exact ⟨failure, rfl⟩
  | ok value =>
    obtain ⟨ha, hv⟩ := credential_eq_ok.mp hc
    rcases h with h | ⟨stored, h, hb⟩ | h
    · rw [authorization, token?, h] at ha
      cases ha
    · rw [authorization, token?, h, Option.bind_some, usable?_of_allBlank hb] at ha
      cases ha
    · rw [h value ha] at hv
      cases hv

theorem exists_parse_of_baseUrl {settings : Settings} {base : Url}
    (h : settings.baseUrl = .ok base) : ∃ text, Url.parse text = .ok base := by
  unfold baseUrl at h
  split at h
  · cases h
  · next endpoint _ =>
    split at h
    · next hparse =>
      cases h
      exact ⟨endpoint, hparse⟩
    · cases h

end Settings

/-! ## Requests that keep the credential -/

/-- A request that tells a credential to the server of an endpoint only. -/
structure Request.Confined (base : Url) (value : String) (request : Request) : Prop where
  origin : ∃ origin, base.origin? = some origin ∧ request.url.origin? = some origin
  server : request.url.IsWeb → request.url.scheme = base.scheme ∧ request.url.host = base.host ∧
    request.url.effectivePort? = base.effectivePort?
  headers : request.headers = [⟨"authorization", value, true⟩]

private theorem confined_withCredential {base : Url} {request : Request} (hw : base.IsWeb)
    (ho : ∃ origin, base.origin? = some origin ∧ request.url.origin? = some origin)
    (value : String) : (request.withCredential value).Confined base value := by
  obtain ⟨origin, hb, hr⟩ := ho
  exact ⟨⟨origin, hb, hr⟩, fun h => Url.server_of_origin? h hw hr hb, rfl⟩

namespace Client

/-- The request is confined to the endpoint of the client, with the credential of its session. -/
def Permits (client : Client) (request : Request) : Prop :=
  ∃ value, client.settings.credential = .ok value ∧ request.Confined client.base value

variable {client : Client}

open Dialogue

private theorem sends_walk {α : Type} (h : client.base.IsEndpoint) {query : Query}
    (hq : query.base = client.base) (record : Json.Decoder α) :
    Sends client.Permits (client.walk query record) := by
  refine Sends.ofExcept_bind fun value hv => Walk.sends_all fun cursor request hr => ?_
  obtain ⟨plain, hplain, rfl⟩ := map_eq_ok.mp hr
  have ho := Query.origin?_of_request (hq ▸ h) hplain
  rw [hq] at ho
  exact ⟨value, hv, confined_withCredential h.web ho value⟩

private theorem sends_findApplication (h : client.base.IsEndpoint) (name : String) :
    Sends client.Permits (client.findApplication name) := by
  refine Sends.ofExcept_bind fun value hv => Sends.ofExcept_bind fun request hr => ?_
  have hb : (client.lookupQuery name).base.IsEndpoint := h
  have ho := Query.origin?_of_request hb hr
  refine (Sends.send ⟨value, hv, confined_withCredential h.web ho value⟩).bind fun body => ?_
  exact (Sends.ofExcept _).bind fun page => (Sends.log _ _ _).bind fun _ => Sends.pure _

private theorem sends_setFlag (h : client.base.IsEndpoint) (guid : String) (enabled : Bool) :
    Sends client.Permits (client.setFlag guid enabled) := by
  refine Sends.ofExcept_bind fun value hv => Sends.ofExcept_bind fun request hr => ?_
  obtain ⟨url, hurl, hsite⟩ := flagRequest_spec h guid enabled
  cases hurl.symm.trans hr
  have ho := h.origin?_of_site hsite
  refine (Sends.log _ _ _).bind fun _ => ?_
  exact (Sends.send ⟨value, hv, confined_withCredential h.web ho value⟩).bind fun _ => Sends.pure _

private theorem sends_rows (h : client.base.IsEndpoint) (runtime : Runtime) :
    Sends client.Permits (Listing.rows client runtime) := by
  have horganizations (spaces : List Space) :
      Sends client.Permits (Listing.organizationsFor client spaces) := by
    unfold Listing.organizationsFor
    split
    · refine (Sends.attempt (sends_walk h rfl Catalog.organization)).bind fun result => ?_
      cases result with
      | ok organizations => exact Sends.pure _
      | error failure => exact (Sends.log _ _ _).bind fun _ => Sends.pure _
    · exact Sends.pure _
  refine (sends_walk h rfl Catalog.application).bind fun apps => (Sends.log _ _ _).bind fun _ => ?_
  refine (sends_walk h rfl Catalog.space).bind fun spaces => ?_
  exact (horganizations spaces).bind fun _ => (Sends.log _ _ _).bind fun _ => Sends.pure _

private theorem sends_lookup (h : client.base.IsEndpoint) (name : String) :
    Sends client.Permits (Toggle.lookup client name) := by
  refine (sends_findApplication h name).bind fun summary => ?_
  split
  · exact Sends.pure _
  · exact Sends.fail _

private theorem sends_run (h : client.base.IsEndpoint) (palette : Palette) (target : FlagTarget) :
    Sends client.Permits (Toggle.run palette client target) := by
  have hset : Sends client.Permits (Toggle.set client target) :=
    (sends_lookup h target.app).bind fun app => (Sends.log _ _ _).bind fun _ =>
      sends_setFlag h app.guid target.enabled
  have hverify : Sends client.Permits (Toggle.verify client target) :=
    (Sends.log _ _ _).bind fun _ => (sends_lookup h target.app).bind fun _ =>
      (Sends.log _ _ _).bind fun _ => Sends.pure _
  refine (Sends.print _).bind fun _ => hset.bind fun _ => (Sends.print _).bind fun _ => ?_
  refine (Sends.print _).bind fun _ => hverify.bind fun state => ?_
  split
  · exact Sends.print _
  · exact (Sends.log _ _ _).bind fun _ => Sends.fail _

/-! ## Clients without a credential -/

theorem refuses_walk {α : Type} {failure : Failure} (h : client.settings.credential = .error failure)
    (query : Query) (record : Json.Decoder α) : Refuses failure (client.walk query record) :=
  Refuses.ofExcept_bind h _

theorem refuses_lookup {failure : Failure} (h : client.settings.credential = .error failure)
    (name : String) : Refuses failure (Toggle.lookup client name) :=
  (Refuses.ofExcept_bind h _).bind _

/-! ## Sequences of calls -/

/-- What a client may be asked to do. -/
inductive Call
  | listApplications (flag : Bool)
  | listSpaces
  | listOrganizations
  | findApplication (name : String)
  | setFlag (guid : String) (enabled : Bool)
  | rows (runtime : Runtime)
  | isEnabled (name : String)
  | toggle (target : FlagTarget)
  deriving DecidableEq, Repr

def perform (palette : Palette) (client : Client) : Call → Dialogue Unit
  | .listApplications flag => do let _ ← client.listApplications flag
  | .listSpaces => do let _ ← client.listSpaces
  | .listOrganizations => do let _ ← client.listOrganizations
  | .findApplication name => do let _ ← client.findApplication name
  | .setFlag guid enabled => client.setFlag guid enabled
  | .rows runtime => do let _ ← Listing.rows client runtime
  | .isEnabled name => do let _ ← Toggle.isEnabled client name
  | .toggle target => Toggle.run palette client target

def performAll (palette : Palette) (client : Client) :
    List Call → Dialogue (List (Except Failure Unit))
  | [] => pure []
  | call :: calls => do
    let result ← Dialogue.attempt (client.perform palette call)
    let results ← client.performAll palette calls
    pure (result :: results)

private theorem sends_perform (h : client.base.IsEndpoint) (palette : Palette) (call : Call) :
    Sends client.Permits (client.perform palette call) := by
  cases call with
  | listApplications flag => exact (sends_walk h rfl _).bind fun _ => Sends.pure _
  | listSpaces => exact (sends_walk h rfl _).bind fun _ => Sends.pure _
  | listOrganizations => exact (sends_walk h rfl _).bind fun _ => Sends.pure _
  | findApplication name => exact (sends_findApplication h name).bind fun _ => Sends.pure _
  | setFlag guid enabled => exact sends_setFlag h guid enabled
  | rows runtime => exact (sends_rows h runtime).bind fun _ => Sends.pure _
  | isEnabled name =>
    exact ((sends_lookup h name).bind fun _ => Sends.pure _).bind fun _ => Sends.pure _
  | toggle target => exact sends_run h palette target

theorem refuses_perform {failure : Failure} (h : client.settings.credential = .error failure)
    (palette : Palette) (call : Call) : Refuses failure (client.perform palette call) := by
  cases call with
  | listApplications flag => exact (refuses_walk h _ _).bind _
  | listSpaces => exact (refuses_walk h _ _).bind _
  | listOrganizations => exact (refuses_walk h _ _).bind _
  | findApplication name => exact (Refuses.ofExcept_bind h _).bind _
  | setFlag guid enabled => exact Refuses.ofExcept_bind h _
  | rows runtime => exact ((refuses_walk h _ _).bind _).bind _
  | isEnabled name => exact ((refuses_lookup h name).bind _).bind _
  | toggle target =>
    have hset := (refuses_lookup h target.app).bind fun app => do
      Toggle.debug target (FlagState.setting.name ++ " guid=" ++ app.guid ++ " desired=" ++
        Text.truth target.enabled)
      client.setFlag app.guid target.enabled
    exact (hset.bind _).print_bind _

private theorem sends_performAll (h : client.base.IsEndpoint) (palette : Palette)
    (calls : List Call) :
    Sends client.Permits (client.performAll palette calls) := by
  induction calls with
  | nil => exact Sends.pure _
  | cons call calls ih =>
    exact (Sends.attempt (sends_perform h palette call)).bind fun _ => ih.bind fun _ => Sends.pure _

private theorem performAll_refuses {failure : Failure}
    (h : client.settings.credential = .error failure) (palette : Palette) (calls : List Call)
    (wire : List Outcome) :
    let report := client.performAll palette calls wire
    report.result = .ok (calls.map fun _ => .error failure) ∧ report.requests = [] := by
  induction calls generalizing wire with
  | nil => exact ⟨rfl, rfl⟩
  | cons call calls ih =>
    obtain ⟨hresult, hrequests⟩ := refuses_perform h palette call wire
    have hattempt : (attempt (client.perform palette call) wire).result = .ok (.error failure) :=
      congrArg Except.ok hresult
    obtain ⟨hrest, hnone⟩ := ih (attempt (client.perform palette call) wire).unused
    dsimp only
    rw [performAll, bind_of_ok hattempt, bind_of_ok hrest]
    refine ⟨rfl, ?_⟩
    rw [Report.requests_after, Report.requests_after]
    change (client.perform palette call wire).requests ++ (_ ++ []) = []
    rw [hrequests]
    exact (List.append_nil _).trans hnone

theorem ofSettings_spec {settings : Settings} (h : ofSettings settings = .ok client) :
    client.settings = settings ∧ ∃ text, Url.parse text = .ok client.base := by
  obtain ⟨base, hbase, rfl⟩ := map_eq_ok.mp h
  exact ⟨rfl, Settings.exists_parse_of_baseUrl hbase⟩

/-- Every request of every sequence of calls goes to the origin of the endpoint, with the credential
of the session as its only header. Without a usable credential every call fails and asks nothing. -/
theorem performAll_confined (palette : Palette) (settings : Settings) (calls : List Call)
    (wire : List Outcome) (hc : ofSettings settings = .ok client) (hw : client.base.IsWeb) :
    let report := client.performAll palette calls wire
    (∀ request ∈ report.requests, ∃ value, settings.authorization = .ok value ∧
      request.Confined client.base value) ∧
    (settings.LacksCredential → report.requests = [] ∧
      ∃ failure, report.result = .ok (calls.map fun _ => .error failure)) := by
  obtain ⟨rfl, text, hparse⟩ := ofSettings_spec hc
  constructor
  · intro request hr
    obtain ⟨value, hv, hconfined⟩ :=
      sends_performAll (isEndpoint_of_parse hparse hw) palette calls wire request hr
    exact ⟨value, (Settings.credential_eq_ok.mp hv).1, hconfined⟩
  · intro hlacks
    obtain ⟨failure, hf⟩ := Settings.credential_of_lacks hlacks
    obtain ⟨hresult, hrequests⟩ := performAll_refuses hf palette calls wire
    exact ⟨hrequests, failure, hresult⟩

end Client

/-- A session with a control plane on the own machine. -/
def Settings.loopback : Settings :=
  { Settings.empty with
    endpoint := some "https://[::1]:8443/x"
    accessToken := some "bearer abc" }

def Client.loopback : Client :=
  ⟨.loopback, ⟨"https".toList, [], none, some (.ipv6 [0, 0, 0, 0, 0, 0, 0, 1]), some 8443,
    .segments ["x".toList], none, none⟩⟩

/-- Three requests stay with the endpoint, although a guid and a page lead to another host. -/
theorem Client.performAll_confined_loopback :
    let calls : List Call := [.setFlag "../../..//[::2]/%2e" true, .listSpaces, .isEnabled "web"]
    let wire : List Outcome :=
      [.ok [], .ok "\x7b\"next_url\":\"\\\\\\\\[::2]/v2\",\"resources\":[]\x7d".toUTF8.toList,
        .error .forbidden]
    let report := loopback.performAll .plain calls wire
    ofSettings .loopback = .ok loopback ∧ loopback.base.IsWeb ∧ report.requests.length = 3 ∧
      ∀ request ∈ report.requests, ∃ value, Settings.loopback.authorization = .ok value ∧
        request.Confined loopback.base value := by
  have hc : ofSettings .loopback = .ok loopback := by decide +kernel
  have hw : loopback.base.IsWeb := by decide +kernel
  exact ⟨hc, hw, by decide +kernel, (performAll_confined .plain .loopback _ _ hc hw).1⟩

end RuntimeFlag
