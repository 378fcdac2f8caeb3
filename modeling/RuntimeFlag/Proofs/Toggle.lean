import RuntimeFlag.Proofs.Confinement
import RuntimeFlag.Proofs.Lookup
/-!
# Setting a flag and verifying it

A toggle looks the application up, writes the flag of what it finds, and looks the application up
again. The answers to these requests decide which of them are sent, what is printed and how the
toggle ends.
-/
namespace RuntimeFlag.Toggle

open Dialogue

variable {client : Client} {value : String} {target : FlagTarget} {wire : List Outcome}
  {ask write : Request}

/-! ## Steps -/

theorem set_runs_of_error {failure : Failure} (hv : client.settings.credential = .ok value)
    (ha : (client.lookupQuery target.app).request .first = .ok ask)
    (hs : sought target.app (answer wire 0) = .error failure) :
    Runs (set client target) wire (.error failure) [ask.withCredential value] "" wire.tail := by
  have hlook := Client.lookup_runs hv ha wire
  rw [hs] at hlook
  exact hlook.bind_error _

theorem set_runs_of_ok {summary : AppSummary} (hv : client.settings.credential = .ok value)
    (ha : (client.lookupQuery target.app).request .first = .ok ask)
    (hs : sought target.app (answer wire 0) = .ok summary)
    (hw : flagRequest client.base summary.guid target.enabled = .ok write) :
    Runs (set client target) wire (((answer wire 1).mapError .api).map fun _ => ())
      [ask.withCredential value, write.withCredential value] "" wire.tail.tail := by
  have hlook := Client.lookup_runs hv ha wire
  have hset := Client.setFlag_runs hv hw wire.tail
  rw [hs] at hlook
  rw [answer_tail] at hset
  refine hlook.bind (?_ : Runs _ wire.tail _ [write.withCredential value] "" wire.tail.tail)
  exact Runs.log_seq hset

theorem verify_runs (hv : client.settings.credential = .ok value)
    (ha : (client.lookupQuery target.app).request .first = .ok ask) (wire : List Outcome) :
    Runs (verify client target) wire
      ((sought target.app (answer wire 0)).map fun summary =>
        if summary.diego = target.enabled then FlagState.converged else .diverged)
      [ask.withCredential value] "" wire.tail := by
  have hlook := Client.lookup_runs hv ha wire
  refine Runs.log_seq ?_
  cases hs : sought target.app (answer wire 0) with
  | error failure =>
    rw [hs] at hlook
    exact hlook.bind_error _
  | ok summary =>
    rw [hs] at hlook
    refine hlook.bind (?_ : Runs _ wire.tail _ [] "" wire.tail)
    exact Runs.log_seq (Runs.pure _)

/-! ## Courses -/

/-- The line that tells what will be set. -/
def opening (target : FlagTarget) : String :=
  "Setting " ++ target.app ++ " Diego support to " ++ Text.truth target.enabled ++ "\n"

def checking (target : FlagTarget) : String :=
  "Verifying " ++ target.app ++ " Diego support is set to " ++ Text.truth target.enabled ++ "\n"

/-- The mark of a step that succeeded, on a line of its own. -/
def done (palette : Palette) : String := palette.success ++ "\n\n"

/-- What a toggle does when the application is verified. -/
def finish (palette : Palette) (target : FlagTarget) : FlagState → Dialogue Unit
  | .converged => markSuccess palette
  | state => do
    Dialogue.log .debug .toggleCommand (target.app ++ " ended in " ++ state.name)
    Dialogue.fail (.diverged target.app target.enabled)

theorem finish_runs_converged (palette : Palette) (target : FlagTarget) (wire : List Outcome) :
    Runs (finish palette target .converged) wire (.ok ()) [] (done palette) wire :=
  Runs.print (done palette)

theorem finish_runs_diverged (palette : Palette) (target : FlagTarget) (wire : List Outcome) :
    Runs (finish palette target .diverged) wire
      (.error (.diverged target.app target.enabled)) [] "" wire :=
  Runs.log_seq (Runs.fail _)

private theorem run_eq (palette : Palette) (client : Client) (target : FlagTarget) :
    run palette client target = (do
      print (opening target)
      set client target
      print (done palette)
      print (checking target)
      let state ← verify client target
      finish palette target state) := by
  have hopen : "Setting " ++ (target.app ++ " Diego support ") ++ "to " ++
      Text.truth target.enabled ++ "\n" = opening target := by
    simp only [opening, String.append_assoc]
    rfl
  have hcheck : "Verifying " ++ (target.app ++ " Diego support ") ++ "is set to " ++
      Text.truth target.enabled ++ "\n" = checking target := by
    simp only [checking, String.append_assoc]
    rfl
  rw [← hopen, ← hcheck]
  rfl

theorem run_runs_of_error (palette : Palette) {failure : Failure} {sent : List Request}
    {rest : List Outcome} (h : Runs (set client target) wire (.error failure) sent "" rest) :
    Runs (run palette client target) wire (.error failure) sent (opening target) rest := by
  rw [run_eq]
  exact (Runs.print_seq _ (h.bind_error _)).reads String.append_empty

theorem run_runs_of_ok {palette : Palette} {sent more : List Request} {rest left : List Outcome}
    {ending : Except Failure Unit} {text : String}
    (h : Runs (set client target) wire (.ok ()) sent "" rest)
    (hs : Runs (verify client target >>= finish palette target) rest ending more text left) :
    Runs (run palette client target) wire ending (sent ++ more)
      (opening target ++ done palette ++ checking target ++ text) left := by
  rw [run_eq]
  refine (Runs.print_seq _ (h.seq (Runs.print_seq _ (Runs.print_seq _ hs)))).reads ?_
  simp only [String.append_assoc, String.empty_append]

/-- The ways that a toggle can go: its result, what it sends and what it prints. -/
inductive Course (palette : Palette) (target : FlagTarget) (wire : List Outcome)
    (ask write : Request) : Except Failure Unit → List Request → String → Prop
  | unfound {failure : Failure} (first : sought target.app (answer wire 0) = .error failure) :
    Course palette target wire ask write (.error failure) [ask] (opening target)
  | refused {summary : AppSummary} {fault : ApiFault}
    (first : sought target.app (answer wire 0) = .ok summary)
    (second : answer wire 1 = .error fault) :
    Course palette target wire ask write (.error (.api fault)) [ask, write] (opening target)
  | lost {summary : AppSummary} {body : Bytes} {failure : Failure}
    (first : sought target.app (answer wire 0) = .ok summary) (second : answer wire 1 = .ok body)
    (third : sought target.app (answer wire 2) = .error failure) :
    Course palette target wire ask write (.error failure) [ask, write, ask]
      (opening target ++ done palette ++ checking target)
  | converged {summary other : AppSummary} {body : Bytes}
    (first : sought target.app (answer wire 0) = .ok summary) (second : answer wire 1 = .ok body)
    (third : sought target.app (answer wire 2) = .ok other) (flag : other.diego = target.enabled) :
    Course palette target wire ask write (.ok ()) [ask, write, ask]
      (opening target ++ done palette ++ checking target ++ done palette)
  | diverged {summary other : AppSummary} {body : Bytes}
    (first : sought target.app (answer wire 0) = .ok summary) (second : answer wire 1 = .ok body)
    (third : sought target.app (answer wire 2) = .ok other) (flag : other.diego ≠ target.enabled) :
    Course palette target wire ask write (.error (.diverged target.app target.enabled))
      [ask, write, ask] (opening target ++ done palette ++ checking target)

/-- Every toggle with a credential goes one of the ways. -/
theorem run_course (palette : Palette) (h : client.base.IsEndpoint)
    (hv : client.settings.credential = .ok value)
    (ha : (client.lookupQuery target.app).request .first = .ok ask) (wire : List Outcome) :
    ∃ write : Request, (∀ summary, sought target.app (answer wire 0) = .ok summary →
        flagRequest client.base summary.guid target.enabled = .ok write) ∧
      ∃ result sent printed, Course palette target wire (ask.withCredential value)
          (write.withCredential value) result sent printed ∧
        ∃ rest, Runs (run palette client target) wire result sent printed rest := by
  cases hfirst : sought target.app (answer wire 0) with
  | error failure =>
    have hset := set_runs_of_error hv ha hfirst
    -- nothing is written on this course, so any request stands in for the write
    exact ⟨ask, fun _ h => (nomatch h), _, _, _, .unfound hfirst, _, run_runs_of_error palette hset⟩
  | ok summary =>
    obtain ⟨url, hw, -⟩ := flagRequest_spec h summary.guid target.enabled
    refine ⟨_, fun _ h => Except.ok.inj h ▸ hw, ?_⟩
    have hset := set_runs_of_ok hv ha hfirst hw
    have hverify := verify_runs hv ha wire.tail.tail
    rw [answer_tail, answer_tail] at hverify
    cases hsecond : answer wire 1 with
    | error fault =>
      rw [hsecond] at hset
      exact ⟨_, _, _, .refused hfirst hsecond, _, run_runs_of_error palette hset⟩
    | ok body =>
      rw [hsecond] at hset
      cases hthird : sought target.app (answer wire 2) with
      | error failure =>
        rw [hthird] at hverify
        have hrun := run_runs_of_ok hset (hverify.bind_error (finish palette target))
        exact ⟨_, _, _, .lost hfirst hsecond hthird, _, hrun.reads String.append_empty⟩
      | ok other =>
        rw [hthird] at hverify
        by_cases hflag : other.diego = target.enabled
        · rw [Except.map, if_pos hflag] at hverify
          have hrun := run_runs_of_ok hset (hverify.bind (finish_runs_converged palette target _))
          rw [String.empty_append] at hrun
          exact ⟨_, _, _, .converged hfirst hsecond hthird hflag, _, hrun⟩
        · rw [Except.map, if_neg hflag] at hverify
          have hrun := run_runs_of_ok hset (hverify.bind (finish_runs_diverged palette target _))
          exact ⟨_, _, _, .diverged hfirst hsecond hthird hflag, _, hrun.reads String.append_empty⟩

/-! ## What the answers say -/

/-- The first look-up finds the application. -/
def Found (target : FlagTarget) (wire : List Outcome) : Prop :=
  ∃ app, Finds target.app (answer wire 0) app

/-- The flag is written, and the write is answered with success. -/
def Accepted (target : FlagTarget) (wire : List Outcome) : Prop :=
  Found target wire ∧ ∃ body, answer wire 1 = .ok body

/-- After an accepted write, the second look-up finds the application with a flag. -/
def Sees (target : FlagTarget) (wire : List Outcome) (flag : Bool) : Prop :=
  Accepted target wire ∧ ∃ app, Finds target.app (answer wire 2) app ∧ app.diego = flag

/-- What is sent, printed and reported when a flag is set and verified, with the request `ask` of
a look-up and the request `write` of the change. -/
structure Exact (palette : Palette) (client : Client) (value : String) (target : FlagTarget)
    (wire : List Outcome) (ask write : Request) (result : Except Failure Unit)
    (sent : List Request) (printed : String) : Prop where
  asks : client.Asks value target.app ask
  writes : ∀ app, Finds target.app (answer wire 0) app →
    client.Writes value app.guid target.enabled write
  asked : [ask] <+: sent
  requests : sent <+: [ask, write, ask]
  written_iff : [ask, write] <+: sent ↔ Found target wire
  reread_iff : sent = [ask, write, ask] ↔ Accepted target wire
  ok_iff : result = .ok () ↔ Sees target wire target.enabled
  error_iff : ∀ failure, result = .error failure ↔
    failure = .diverged target.app target.enabled ∧ Sees target wire (!target.enabled) ∨
    failure = .appNotFound target.app ∧
      (Lacks target.app (answer wire 0) ∨
        Accepted target wire ∧ Lacks target.app (answer wire 2)) ∨
    ∃ fault, failure = .api fault ∧
      (Fails (answer wire 0) fault ∨ Found target wire ∧ answer wire 1 = .error fault ∨
        Accepted target wire ∧ Fails (answer wire 2) fault)
  output_unwritten : ¬ Accepted target wire → printed = opening target
  output_unverified : Accepted target wire → ¬ Sees target wire target.enabled →
    printed = opening target ++ done palette ++ checking target
  output_verified : Sees target wire target.enabled →
    printed = opening target ++ done palette ++ checking target ++ done palette

private theorem found_iff :
    Found target wire ↔ ∃ summary, sought target.app (answer wire 0) = .ok summary := by
  simp only [Found, sought_eq_ok]
  constructor
  · rintro ⟨app, hf⟩
    exact ⟨_, app, hf, rfl⟩
  · rintro ⟨_, app, hf, -⟩
    exact ⟨app, hf⟩

private theorem sees_iff {flag : Bool} : Sees target wire flag ↔ Accepted target wire ∧
    ∃ summary, sought target.app (answer wire 2) = .ok summary ∧ summary.diego = flag := by
  simp only [Sees, sought_eq_ok]
  constructor
  · rintro ⟨ha, app, hf, hflag⟩
    exact ⟨ha, _, ⟨app, hf, rfl⟩, hflag⟩
  · rintro ⟨ha, _, ⟨app, hf, rfl⟩, hflag⟩
    exact ⟨ha, app, hf, hflag⟩

private theorem found_of_ok {summary : AppSummary}
    (h : sought target.app (answer wire 0) = .ok summary) :
    Found target wire :=
  found_iff.mpr ⟨summary, h⟩

private theorem not_found_of_error {failure : Failure}
    (h : sought target.app (answer wire 0) = .error failure) : ¬ Found target wire := by
  rw [found_iff]
  rintro ⟨summary, hs⟩
  cases h.symm.trans hs

private theorem accepted_of_ok {summary : AppSummary} {body : Bytes}
    (h : sought target.app (answer wire 0) = .ok summary) (ha : answer wire 1 = .ok body) :
    Accepted target wire :=
  ⟨found_of_ok h, body, ha⟩

private theorem not_accepted_of_error {fault : ApiFault} (h : answer wire 1 = .error fault) :
    ¬ Accepted target wire := by
  rintro ⟨-, body, ha⟩
  cases h.symm.trans ha

section Course

variable {palette : Palette} {result : Except Failure Unit} {sent : List Request}
  {printed : String}

private theorem Course.sent_eq (h : Course palette target wire ask write result sent printed) :
    sent = [ask] ∧ ¬ Found target wire ∨
      sent = [ask, write] ∧ Found target wire ∧ ¬ Accepted target wire ∨
        sent = [ask, write, ask] ∧ Accepted target wire := by
  cases h with
  | unfound first => exact .inl ⟨rfl, not_found_of_error first⟩
  | refused first second =>
    exact .inr (.inl ⟨rfl, found_of_ok first, not_accepted_of_error second⟩)
  | lost first second third => exact .inr (.inr ⟨rfl, accepted_of_ok first second⟩)
  | converged first second third flag => exact .inr (.inr ⟨rfl, accepted_of_ok first second⟩)
  | diverged first second third flag => exact .inr (.inr ⟨rfl, accepted_of_ok first second⟩)

private theorem Course.ok_iff (h : Course palette target wire ask write result sent printed) :
    result = .ok () ↔ Sees target wire target.enabled := by
  rw [sees_iff]
  cases h with
  | unfound first => simp [Accepted, not_found_of_error first]
  | refused first second => simp [not_accepted_of_error second]
  | lost first second third => simp [third]
  | converged first second third flag => simp [accepted_of_ok first second, third, flag]
  | diverged first second third flag => simp [third, flag]

private theorem Course.error_iff (h : Course palette target wire ask write result sent printed)
    (failure : Failure) :
    result = .error failure ↔
      failure = .diverged target.app target.enabled ∧ Sees target wire (!target.enabled) ∨
      failure = .appNotFound target.app ∧
        (Lacks target.app (answer wire 0) ∨
          Accepted target wire ∧ Lacks target.app (answer wire 2)) ∨
      ∃ fault, failure = .api fault ∧
        (Fails (answer wire 0) fault ∨ Found target wire ∧ answer wire 1 = .error fault ∨
          Accepted target wire ∧ Fails (answer wire 2) fault) := by
  rw [sees_iff]
  simp only [Accepted, found_iff, lacks_iff, fails_iff target.app]
  cases h with
  | unfound first =>
    -- the failure of a look-up is of one of two kinds, and this tells the clauses apart
    rcases sought_eq_error.mp first with ⟨-, rfl⟩ | ⟨fault, -, rfl⟩ <;> simp [first, eq_comm]
  | refused first second => simp [first, second, eq_comm]
  | lost first second third =>
    rcases sought_eq_error.mp third with ⟨-, rfl⟩ | ⟨fault, -, rfl⟩ <;>
      simp [first, second, third, eq_comm]
  | converged first second third flag => simp [first, second, third, flag]
  | diverged first second third flag => simp [first, second, third, Bool.eq_not.mpr flag, eq_comm]

private theorem Course.printed_eq (h : Course palette target wire ask write result sent printed) :
    (¬ Accepted target wire → printed = opening target) ∧
    (Accepted target wire → ¬ Sees target wire target.enabled →
      printed = opening target ++ done palette ++ checking target) ∧
    (Sees target wire target.enabled →
      printed = opening target ++ done palette ++ checking target ++ done palette) := by
  have hsees := h.ok_iff
  cases h with
  | unfound first =>
    have hnot : ¬ Accepted target wire := fun ha => not_found_of_error first ha.1
    exact ⟨fun _ => rfl, fun ha => (hnot ha).elim, fun hs => (hnot hs.1).elim⟩
  | refused first second =>
    have hnot : ¬ Accepted target wire := not_accepted_of_error second
    exact ⟨fun _ => rfl, fun ha => (hnot ha).elim, fun hs => (hnot hs.1).elim⟩
  | lost first second third =>
    have ha : Accepted target wire := accepted_of_ok first second
    exact ⟨fun hn => (hn ha).elim, fun _ _ => rfl, fun hs => nomatch hsees.mpr hs⟩
  | converged first second third flag =>
    have hs := hsees.mp rfl
    exact ⟨fun hn => (hn hs.1).elim, fun _ hn => (hn hs).elim, fun _ => rfl⟩
  | diverged first second third flag =>
    have ha : Accepted target wire := accepted_of_ok first second
    exact ⟨fun hn => (hn ha).elim, fun _ _ => rfl, fun hs => nomatch hsees.mpr hs⟩

private theorem exact_of_course (ha : client.Asks value target.app ask)
    (hw : ∀ app, Finds target.app (answer wire 0) app →
      client.Writes value app.guid target.enabled write)
    (h : Course palette target wire ask write result sent printed) :
    Exact palette client value target wire ask write result sent printed := by
  obtain ⟨hunwritten, hunverified, hverified⟩ := h.printed_eq
  have hsent : [ask] <+: sent ∧ sent <+: [ask, write, ask] ∧
      ([ask, write] <+: sent ↔ Found target wire) ∧
      (sent = [ask, write, ask] ↔ Accepted target wire) := by
    rcases h.sent_eq with ⟨rfl, hf⟩ | ⟨rfl, hf, hn⟩ | ⟨rfl, hacc⟩
    · simp [hf, Accepted]
    · simp [hf, hn]
    · simp [hacc, hacc.1]
  obtain ⟨hasked, hrequests, hwritten, hreread⟩ := hsent
  exact ⟨ha, hw, hasked, hrequests, hwritten, hreread, h.ok_iff, h.error_iff, hunwritten,
    hunverified, hverified⟩

end Course

/-- What a toggle sends and prints and how it ends is exactly what the answers say. -/
theorem run_exact (palette : Palette) (settings : Settings) (target : FlagTarget)
    (wire : List Outcome) (hc : Client.ofSettings settings = .ok client) (hw : client.base.IsWeb)
    (hv : settings.credential = .ok value) :
    let report := run palette client target wire
    ∃ ask write, Exact palette client value target wire ask write report.result report.requests
      report.output := by
  obtain ⟨rfl, text, hparse⟩ := Client.ofSettings_spec hc
  have hbase := isEndpoint_of_parse hparse hw
  have hlookup : (client.lookupQuery target.app).base.IsEndpoint := hbase
  obtain ⟨url, hurl, -⟩ := (client.lookupQuery target.app).firstUrl_spec hlookup
  have hask : (client.lookupQuery target.app).request .first = .ok ⟨.fetch, url, none⟩ := by
    rw [Query.request, hurl]
    rfl
  obtain ⟨plain, hplain, result, sent, printed, hcourse, rest, hruns⟩ :=
    run_course palette hbase hv hask wire
  obtain ⟨rfl, rfl, rfl, -⟩ := hruns
  refine ⟨_, _, exact_of_course (Client.asks_withCredential hask value) ?_ hcourse⟩
  intro app hf
  exact Client.writes_withCredential (hplain _ (sought_of_finds hf)) value

/-- A page with one application, "web". -/
def webPage (guid : String) (diego : Bool) : Bytes :=
  ("\x7b\"resources\":[\x7b\"metadata\":\x7b\"guid\":\"" ++ guid ++
    "\"\x7d,\"entity\":\x7b\"name\":\"web\",\"space_guid\":\"s\",\"diego\":" ++
    Text.truth diego ++ "\x7d\x7d]\x7d").toUTF8.toList

/-- A toggle whose write is accepted and whose flag is then found unchanged. -/
theorem run_exact_diverged :
    let target : FlagTarget := ⟨"web", true⟩
    let wire : List Outcome := [.ok (webPage "a" false), .ok [], .ok (webPage "a" false)]
    let report := run .plain .loopback target wire
    Client.ofSettings .loopback = .ok .loopback ∧ Client.loopback.base.IsWeb ∧
      Settings.loopback.credential = .ok "bearer abc" ∧
      report.result = .error (.diverged "web" true) ∧
      ∃ ask write, Exact .plain .loopback "bearer abc" target wire ask write report.result
        report.requests report.output := by
  have hc : Client.ofSettings .loopback = .ok .loopback := by decide +kernel
  have hw : Client.loopback.base.IsWeb := by decide +kernel
  have hv : Settings.loopback.credential = .ok "bearer abc" := by decide +kernel
  exact ⟨hc, hw, hv, by decide +kernel, run_exact .plain .loopback _ _ hc hw hv⟩

/-! ## What convergence says -/

/-- Sets the flag, then reads it again. -/
def setAndVerify (client : Client) (target : FlagTarget) : Dialogue FlagState := do
  set client target
  verify client target

/-- All applications with the name, in both answers, have one guid. -/
def Steady (name : String) (earlier later : Outcome) : Prop :=
  ∀ apps others, Lists earlier apps → Lists later others → ∀ app ∈ apps, ∀ other ∈ others,
    app.name = name → other.name = name → other.guid = app.guid

private theorem guid_eq_of_steady {name : String} {earlier later : Outcome}
    {app other : Application} (h : Steady name earlier later) (ha : Finds name earlier app)
    (ho : Finds name later other) :
    other.guid = app.guid := by
  obtain ⟨before, behind, hlists, hname, -⟩ := ha.first
  obtain ⟨front, back, hlater, hsame, -⟩ := ho.first
  exact h _ _ hlists hlater app (by simp) other (by simp) hname hsame

private theorem set_inv (h : (set client target wire).result = .ok ()) :
    ∃ value ask write app body, client.settings.credential = .ok value ∧
      (client.lookupQuery target.app).request .first = .ok ask ∧
      Finds target.app (answer wire 0) app ∧
      flagRequest client.base app.guid target.enabled = .ok write ∧ answer wire 1 = .ok body := by
  obtain ⟨summary, hlook, hset⟩ := exists_of_bind_ok h
  obtain ⟨⟨⟩, -, hset⟩ := exists_of_bind_ok hset
  obtain ⟨value, ask, hv, ha⟩ := Client.exists_ask_of_lookup hlook
  obtain ⟨write, hw⟩ := Client.exists_write_of_setFlag hset
  have hs : sought target.app (answer wire 0) = .ok summary :=
    (Client.lookup_runs hv ha wire).result.symm.trans hlook
  obtain ⟨app, hf, rfl⟩ := sought_eq_ok.mp hs
  have hanswer := (set_runs_of_ok hv ha hs hw).result.symm.trans h
  obtain ⟨body, hb, -⟩ := map_eq_ok.mp hanswer
  exact ⟨value, ask, write, app, body, hv, ha, hf, hw, mapError_eq_ok.mp hb⟩

/-- A flag that has converged was written to the first application with the name in the answer to
the first look-up, and read from the first one in the answer to the second. These two have one guid
when the name stands for one application. -/
theorem converged_of_name (h : (setAndVerify client target wire).result = .ok .converged) :
    ∃ value ask write app other, client.settings.credential = .ok value ∧
      client.Asks value target.app ask ∧
      client.Writes value app.guid target.enabled write ∧
      (setAndVerify client target wire).requests = [ask, write, ask] ∧
      Finds target.app (answer wire 0) app ∧ Finds target.app (answer wire 2) other ∧
      other.diego = target.enabled ∧
      (Steady target.app (answer wire 0) (answer wire 2) → other.guid = app.guid) := by
  obtain ⟨⟨⟩, hset, hverify⟩ := exists_of_bind_ok h
  obtain ⟨value, ask, write, app, body, hv, ha, hf, hw, hanswer⟩ := set_inv hset
  have hsetRuns := set_runs_of_ok hv ha (sought_of_finds hf) hw
  rw [hanswer] at hsetRuns
  have hverifyRuns := verify_runs hv ha wire.tail.tail
  rw [answer_tail, answer_tail] at hverifyRuns
  rw [hsetRuns.unused, hverifyRuns.result] at hverify
  obtain ⟨summary, hs, hstate⟩ := map_eq_ok.mp hverify
  obtain ⟨other, ho, rfl⟩ := sought_eq_ok.mp hs
  have hflag : other.diego = target.enabled := by
    by_cases hflag : other.diego = target.enabled
    · exact hflag
    · cases (if_neg hflag).symm.trans hstate
  exact ⟨value, _, _, app, other, hv, Client.asks_withCredential ha value,
    Client.writes_withCredential hw value, (hsetRuns.seq hverifyRuns).requests, hf, ho, hflag,
    fun hsteady => guid_eq_of_steady hsteady hf ho⟩

/-- The flag of the one application, written and read again. -/
theorem converged_of_name_web :
    let target : FlagTarget := ⟨"web", true⟩
    let wire : List Outcome := [.ok (webPage "a" false), .ok [], .ok (webPage "a" true)]
    let report := setAndVerify .loopback target wire
    report.result = .ok .converged ∧ Steady "web" (answer wire 0) (answer wire 2) ∧
      ∃ ask write app other, Client.loopback.Asks "bearer abc" "web" ask ∧
        Client.loopback.Writes "bearer abc" app.guid true write ∧
        report.requests = [ask, write, ask] ∧ Finds "web" (answer wire 0) app ∧
        Finds "web" (answer wire 2) other ∧ other.diego = true ∧ other.guid = app.guid := by
  have hconverged : (setAndVerify .loopback ⟨"web", true⟩
      [.ok (webPage "a" false), .ok [], .ok (webPage "a" true)]).result = .ok .converged := by
    decide +kernel
  have hfirst : Lists (.ok (webPage "a" false)) [⟨"a", "web", "s", false⟩] :=
    ⟨_, ⟨_, none⟩, rfl, by decide +kernel, rfl⟩
  have hthird : Lists (.ok (webPage "a" true)) [⟨"a", "web", "s", true⟩] :=
    ⟨_, ⟨_, none⟩, rfl, by decide +kernel, rfl⟩
  have hsteady : Steady "web" (.ok (webPage "a" false)) (.ok (webPage "a" true)) := by
    intro apps others happs hothers app ha other ho _ _
    rw [hfirst.unique happs, List.mem_singleton] at ha
    rw [hthird.unique hothers, List.mem_singleton] at ho
    rw [ha, ho]
  have hvalue : Client.loopback.settings.credential = .ok "bearer abc" := by decide +kernel
  obtain ⟨value, ask, write, app, other, hv, hask, hwrite, hsent, hf, ho, hflag, hguid⟩ :=
    converged_of_name hconverged
  cases hvalue.symm.trans hv
  exact ⟨hconverged, hsteady, ask, write, app, other, hask, hwrite, hsent, hf, ho, hflag,
    hguid hsteady⟩

/-- A flag that has converged need not be that of the application that was written: the name may
stand for another one when it is read again. -/
theorem converged_of_another :
    let target : FlagTarget := ⟨"web", true⟩
    let wire : List Outcome := [.ok (webPage "a" false), .ok [], .ok (webPage "b" true)]
    let report := setAndVerify .loopback target wire
    report.result = .ok .converged ∧ (run .plain .loopback target wire).result = .ok () ∧
      (∃ request ∈ report.requests, request.method = "PUT" ∧
        request.url.text = "https://[::1]:8443/v2/apps/a") ∧
      ∃ app other, Finds "web" (answer wire 0) app ∧ Finds "web" (answer wire 2) other ∧
        app.guid = "a" ∧ other.guid = "b" ∧ other.guid ≠ app.guid := by
  have hput : (setAndVerify .loopback ⟨"web", true⟩
      [.ok (webPage "a" false), .ok [], .ok (webPage "b" true)]).requests.any
        (fun request => request.method = "PUT" ∧
          request.url.text = "https://[::1]:8443/v2/apps/a") = true := by
    decide +kernel
  obtain ⟨request, hr, hsent⟩ := List.any_eq_true.mp hput
  have hfirst : Lists (.ok (webPage "a" false)) [⟨"a", "web", "s", false⟩] :=
    ⟨_, ⟨_, none⟩, rfl, by decide +kernel, rfl⟩
  have hthird : Lists (.ok (webPage "b" true)) [⟨"b", "web", "s", true⟩] :=
    ⟨_, ⟨_, none⟩, rfl, by decide +kernel, rfl⟩
  exact ⟨by decide +kernel, by decide +kernel, ⟨request, hr, of_decide_eq_true hsent⟩,
    _, _, hfirst.finds (by decide), hthird.finds (by decide), rfl, rfl, by decide⟩

end RuntimeFlag.Toggle
