import Mathlib.Data.List.Basic
import RuntimeFlag.Program
import RuntimeFlag.Proofs.Session
/-!
# A run of the program

What a run writes to its two channels and how it ends. A run fails closed: it sends nothing unless
its arguments are accepted and its session has all that a request needs, and what it reports is the
first thing that is in the way.
-/
namespace RuntimeFlag

namespace CommandLine.Command

open Dialogue

variable {client : Client} {failure : Failure}

private theorem refuses_checkFlag (h : client.settings.credential = .error failure) (app : String) :
    Refuses failure (checkFlag client app) :=
  ((Client.refuses_lookup h app).bind _).bind _

private theorem refuses_listApps (h : client.settings.credential = .error failure)
    (palette : Palette) (timestamp : String) (format : Listing.Format) (runtime : Runtime) :
    Refuses failure (listApps palette timestamp format client runtime) := by
  have hrows : Refuses failure (Listing.rows client runtime) := (Client.refuses_walk h _ _).bind _
  cases format with
  | table => exact (hrows.bind _).print_bind _
  | json => exact hrows.bind _

/-- A command with something in its way fails before it asks for anything. -/
theorem refuses_perform {surroundings : Surroundings} {options : Options}
    (h : Session.Barrier surroundings options failure) (command : Command) :
    Refuses failure (command.perform surroundings options) := by
  have hstart := Session.start_settles surroundings options
  rcases h.stops with hopened | ⟨client, hopened, hcredential⟩
  · rw [hopened] at hstart
    exact hstart.refuses.bind _
  · rw [hopened] at hstart
    refine hstart.refuses_bind ?_
    cases command with
    | set app enabled =>
      exact Client.refuses_perform hcredential _ (.toggle ⟨app, enabled⟩)
    | check app => exact refuses_checkFlag hcredential app
    | list runtime => exact refuses_listApps hcredential _ _ _ runtime

end CommandLine.Command

namespace Program

variable {surroundings : Surroundings} {args : List Bytes} {wire : List Outcome}
  {invocation : CommandLine.Invocation} {rejection : CommandLine.Rejection}

/-! ## Channels -/

namespace Run

private theorem event_output (display : Display) (event : Event) :
    ((display.event event).filter (·.channel = .output)).map (·.text) = event.text?.toList := by
  cases event with
  | sent request => rfl
  | printed text => rfl
  | logged entry => cases h : display.filter.shows entry <;> simp [Display.event, h, Event.text?]

/-- What a command prints is all that is written to the channel for results. -/
theorem text_output (job : Job) (report : Report Unit) :
    (job.run report).text .output = report.output := by
  have hopening : job.opening.filter (·.channel = .output) = [] := by simp [Job.opening]
  have hresult : (job.display.result report.result).filter (·.channel = .output) = [] := by
    cases report.result <;> simp [Display.result]
  simp only [text, Job.run, List.filter_append, hopening, hresult, List.nil_append,
    List.append_nil, List.filter_flatMap, List.map_flatMap, event_output, Report.output,
    List.filterMap_eq_flatMap_toList]

/-- The errors end with the mark of a failure, what it says, and the lines that it carries. -/
def Tells (run : Run) (palette : Palette) (failure : Failure) : Prop :=
  ∃ before lead, (lead = "" ∨ lead = "Error: ") ∧ run.text .errors =
    before ++ palette.failure ++ "\n" ++ lead ++ failure.message ++ "\n" ++
      String.join (failure.outputLines.map (· ++ "\n"))

private theorem tells_of_error (job : Job) {report : Report Unit} {failure : Failure}
    (h : report.result = .error failure) :
    (job.run report).Tells job.display.palette failure := by
  have hlines : (job.display.result report.result).filter (·.channel = .errors) =
      job.display.result report.result := by
    simp [h, Display.result]
  have htext : (job.display.result report.result).map (·.text) =
      (job.display.failureLines failure).map (· ++ "\n") := by
    simp [h, Display.result]
  obtain ⟨lead, hlead, hline⟩ :
      ∃ lead, (lead = "" ∨ lead = "Error: ") ∧
        Display.failureLine failure = lead ++ failure.message := by
    cases failure <;> simp [Display.failureLine]
  refine ⟨String.join (((job.opening ++ report.events.flatMap job.display.event).filter
    (·.channel = .errors)).map (·.text)), lead, hlead, ?_⟩
  rw [text, Job.run, List.filter_append, List.map_append, String.join_append, hlines, htext]
  simp [Display.failureLines, hline, String.join_cons, String.append_assoc]

end Run

/-! ## Endings -/

theorem exitCode_eq_zero_iff {result : Except Failure Unit} :
    exitCode result = 0 ↔ result = .ok () := by
  cases result <;> simp [exitCode]

private theorem run_of_rejected (h : CommandLine.parse surroundings.environment.options args =
    .error rejection) (wire : List Outcome) : ∃ code writing,
      planForRejection surroundings.environment.textPalette args rejection = .stop code writing ∧
      run surroundings args wire = ⟨code, [writing], []⟩ ∧
      (code = 0 ↔ rejection.problem = .helpWanted ∨ rejection.problem = .versionWanted) := by
  rw [run, plan, h]
  simp only [planForRejection]
  cases husage : CommandLine.usageFor (args.map Utf8.decodeLossy) rejection.problem with
  | some usage =>
    refine ⟨1, _, rfl, rfl, iff_of_false nofun ?_⟩
    rintro (hproblem | hproblem) <;> rw [hproblem] at husage <;> cases husage
  | none =>
    refine ⟨rejection.problem.exitCode, _, rfl, rfl, ?_⟩
    cases rejection.problem <;> simp [CommandLine.Problem.exitCode]

theorem run_of_accepted (h : CommandLine.parse surroundings.environment.options args =
    .ok invocation) (wire : List Outcome) :
    ∃ job : Job, job.display.palette = surroundings.environment.palette ∧
      run surroundings args wire =
        job.run (invocation.command.perform surroundings invocation.options wire) := by
  rw [run, plan, h]
  exact ⟨_, rfl, rfl⟩

private theorem ready_of_requests (h : (run surroundings args wire).requests ≠ []) :
    ∃ invocation client value,
      CommandLine.parse surroundings.environment.options args = .ok invocation ∧
        Session.Ready surroundings invocation.options client value := by
  cases hparse : CommandLine.parse surroundings.environment.options args with
  | error rejection =>
    obtain ⟨code, writing, -, hrun, -⟩ := run_of_rejected hparse wire
    rw [hrun] at h
    exact (h rfl).elim
  | ok invocation =>
    rcases Session.ready_or_barrier surroundings invocation.options with
      ⟨client, value, hready⟩ | ⟨failure, hbarrier⟩
    · exact ⟨invocation, client, value, rfl, hready⟩
    · obtain ⟨job, -, hrun⟩ := run_of_accepted hparse wire
      rw [hrun] at h
      exact (h (CommandLine.Command.refuses_perform hbarrier invocation.command wire).2).elim

private theorem exitCode_run_eq_zero_iff : (run surroundings args wire).exitCode = 0 ↔
    (∃ rejection, CommandLine.parse surroundings.environment.options args = .error rejection ∧
      (rejection.problem = .helpWanted ∨ rejection.problem = .versionWanted)) ∨
    ∃ invocation, CommandLine.parse surroundings.environment.options args = .ok invocation ∧
      (invocation.command.perform surroundings invocation.options wire).result = .ok () := by
  cases hparse : CommandLine.parse surroundings.environment.options args with
  | error rejection =>
    obtain ⟨code, writing, -, hrun, hcode⟩ := run_of_rejected hparse wire
    rw [hrun, hcode]
    simp
  | ok invocation =>
    obtain ⟨job, -, hrun⟩ := run_of_accepted hparse wire
    rw [hrun, Job.run, exitCode_eq_zero_iff]
    simp

/-- A run asks for something only with accepted arguments and a session that has all it needs. What
is wrong first is what is reported: the arguments, or else what stands in the way of the session. The
exit code is zero only for help, for the version, and for a command that succeeds, and every command
that fails is told to fail. -/
theorem run_closed (surroundings : Surroundings) (args : List Bytes) (wire : List Outcome) :
    let parsed := CommandLine.parse surroundings.environment.options args
    let handled := fun invocation : CommandLine.Invocation =>
      (invocation.command.perform surroundings invocation.options wire).result
    let outcome := run surroundings args wire
    (outcome.requests ≠ [] → ∃ invocation client value, parsed = .ok invocation ∧
      Session.Ready surroundings invocation.options client value) ∧
    (∀ rejection, parsed = .error rejection → outcome.requests = [] ∧ ∃ code writing,
      planForRejection surroundings.environment.textPalette args rejection = .stop code writing ∧
        outcome.exitCode = code ∧ outcome.writings = [writing]) ∧
    (∀ invocation failure, parsed = .ok invocation →
      Session.Barrier surroundings invocation.options failure →
        outcome.requests = [] ∧ handled invocation = .error failure) ∧
    (outcome.exitCode = 0 ↔
      (∃ rejection, parsed = .error rejection ∧
        (rejection.problem = .helpWanted ∨ rejection.problem = .versionWanted)) ∨
      ∃ invocation, parsed = .ok invocation ∧ handled invocation = .ok ()) ∧
    ∀ invocation failure, parsed = .ok invocation → handled invocation = .error failure →
      outcome.exitCode = 1 ∧ outcome.Tells surroundings.environment.palette failure := by
  refine ⟨ready_of_requests, ?_, ?_, exitCode_run_eq_zero_iff, ?_⟩
  · intro rejection hparse
    obtain ⟨code, writing, hplan, hrun, -⟩ := run_of_rejected hparse wire
    rw [hrun]
    exact ⟨rfl, code, writing, hplan, rfl, rfl⟩
  · intro invocation failure hparse hbarrier
    obtain ⟨job, -, hrun⟩ := run_of_accepted hparse wire
    rw [hrun]
    exact (CommandLine.Command.refuses_perform hbarrier invocation.command wire).symm
  · intro invocation failure hparse hfailure
    obtain ⟨job, hpalette, hrun⟩ := run_of_accepted hparse wire
    rw [hrun, ← hpalette]
    exact ⟨congrArg exitCode hfailure, Run.tells_of_error job hfailure⟩

/-- Settings without a token, and settings with all that a request needs. -/
def twoSettings : Surroundings where
  environment := ⟨⟨none, none, none, none⟩, none, none, none⟩
  home := none
  entry := fun path =>
    if path = "blank" then .content (Utf8.encode "access_token: ' '")
    else if path = "good" then
      .content (Utf8.encode "access_token: abc\napi_endpoint: 'http://[::1]:9'")
    else .missing
  now := 0
  timestamp := ""

/-- A blank token is told although the endpoint is wrong as well; with good settings a request is
sent. -/
theorem run_closed_blank :
    let args := ["dea-apps", "--config", "blank", "--api", "nowhere"].map Utf8.encode
    let outcome := run twoSettings args []
    let sending := run twoSettings (["dea-apps", "--config", "good"].map Utf8.encode) []
    (outcome.requests = [] ∧ outcome.exitCode = 1 ∧ outcome.Tells .plain .notLoggedIn) ∧
      sending.requests.length = 1 ∧ ∃ options client value,
        Session.Ready twoSettings options client value := by
  intro args outcome sending
  let options : CommandLine.Options := ⟨.table, some "blank", some "nowhere"⟩
  have hparse : CommandLine.parse twoSettings.environment.options args =
      .ok ⟨.list .dea, options, false⟩ := by
    decide +kernel
  have hloads : Session.Loads twoSettings options
      { Settings.empty with accessToken := some " ", endpoint := some "nowhere" } :=
    ⟨"blank", Utf8.encode "access_token: ' '", "access_token: ' '".toList,
      { Settings.empty with accessToken := some " " }, rfl, rfl, by decide +kernel,
      by decide +kernel, rfl⟩
  have hbarrier : Session.Barrier twoSettings options .notLoggedIn :=
    .loggedOut hloads (by decide +kernel)
  obtain ⟨-, -, hstops, -, htells⟩ := run_closed twoSettings args []
  obtain ⟨hrequests, hfailure⟩ := hstops _ _ hparse hbarrier
  obtain ⟨hcode, htold⟩ := htells _ _ hparse hfailure
  have hsends : sending.requests.length = 1 := by decide +kernel
  have hasks : sending.requests ≠ [] := List.ne_nil_of_length_pos (by omega)
  obtain ⟨invocation, client, value, -, hready⟩ := (run_closed twoSettings _ []).1 hasks
  exact ⟨⟨hrequests, hcode, htold⟩, hsends, invocation.options, client, value, hready⟩

end Program

end RuntimeFlag
