import Mathlib.Data.List.Basic
import RuntimeFlag.Proofs.Program
/-!
# What is shown of the log

A run that is debugged logs the same whatever is wished for, but the wish says what is shown of it:
a directive about sources keeps back what it does not allow, and a pattern what it is not found in.
-/
namespace RuntimeFlag

namespace Log

/-! ## The directive that counts -/

private theorem size_le_of_foldl {directives : List Directive} {start : Option Directive}
    {best : Directive}
    (h : directives.foldl
      (fun best d => if best.all (·.size ≤ d.size) then some d else best) start = some best) :
    (best ∈ directives ∨ start = some best) ∧ (∀ d ∈ directives, d.size ≤ best.size) ∧
      ∀ d, start = some d → d.size ≤ best.size := by
  -- The start stands for the best directive so far.
  induction directives generalizing start with
  | nil =>
    cases h
    refine ⟨.inr rfl, nofun, fun d hd => ?_⟩
    exact Nat.le_of_eq (congrArg Directive.size (Option.some.inj hd)).symm
  | cons first rest ih =>
    obtain ⟨hmem, hrest, hstart⟩ := ih h
    dsimp only at hmem hstart
    by_cases hc : start.all (·.size ≤ first.size) = true
    · rw [if_pos hc] at hmem hstart
      have hfirst := hstart first rfl
      refine ⟨.inl ?_, List.forall_mem_cons.mpr ⟨hfirst, hrest⟩, ?_⟩
      · rcases hmem with hmem | hmem
        · exact List.mem_cons_of_mem first hmem
        · rw [Option.some.inj hmem]
          exact List.mem_cons_self
      · rintro d rfl
        have hd : d.size ≤ first.size := by simpa using hc
        exact Nat.le_trans hd hfirst
    · rw [if_neg hc] at hmem hstart
      refine ⟨hmem.imp_left (List.mem_cons_of_mem first), ?_, hstart⟩
      refine List.forall_mem_cons.mpr ⟨?_, hrest⟩
      cases start with
      | none => exact (hc rfl).elim
      | some d =>
        have hd : ¬ d.size ≤ first.size := by simpa using hc
        have hbest := hstart d rfl
        omega

namespace Filter

variable {filter : Filter} {source : LogSource} {directive d : Directive}

/-- The directive that counts is about the source, and no longer one is. -/
theorem of_directiveFor?_eq_some (h : filter.directiveFor? source = some d) :
    d ∈ filter.directives ∧ d.covers source = true ∧
      ∀ other ∈ filter.directives, other.covers source = true → other.size ≤ d.size := by
  obtain ⟨hmem, hsize, -⟩ := size_le_of_foldl h
  have hd : d ∈ filter.directives.filter (·.covers source) := hmem.resolve_right nofun
  obtain ⟨hd, hcovers⟩ := List.mem_filter.mp hd
  exact ⟨hd, hcovers, fun other ho hc => hsize other (List.mem_filter.mpr ⟨ho, hc⟩)⟩

private theorem exists_directiveFor? (source : LogSource) (hd : d ∈ filter.directives)
    (hc : d.covers source = true) :
    ∃ best, filter.directiveFor? source = some best := by
  have hsome {directives : List Directive} {start : Option Directive}
      (h : directives ≠ [] ∨ start.isSome = true) :
      (directives.foldl (fun best d => if best.all (·.size ≤ d.size) then some d else best)
        start).isSome = true := by
    induction directives generalizing start with
    | nil => simpa using h
    | cons first rest ih =>
      apply ih
      right
      cases start with
      | none => rfl
      | some b =>
        dsimp only
        split <;> rfl
  apply Option.isSome_iff_exists.mp
  exact hsome (.inl (List.ne_nil_of_mem (List.mem_filter.mpr ⟨hd, hc⟩)))

private theorem mem_insert (filter : Filter) (directive : Directive) :
    directive ∈ (filter.insert directive).directives := by
  rw [insert]
  dsimp only
  split
  · next h =>
    obtain ⟨known, hk, hs⟩ := List.any_eq_true.mp h
    refine List.mem_map.mpr ⟨known, hk, if_pos (by simpa using hs)⟩
  · simp

private theorem mem_of_mem_insert (h : d ∈ (filter.insert directive).directives) :
    d = directive ∨ d ∈ filter.directives := by
  rw [insert] at h
  dsimp only at h
  split at h
  · obtain ⟨known, hk, rfl⟩ := List.mem_map.mp h
    split
    · exact .inl rfl
    · exact .inr hk
  · exact (List.mem_append.mp h).symm.imp_left List.mem_singleton.mp

private theorem eq_of_mem_insert (h : d ∈ (filter.insert directive).directives)
    (hs : d.start = directive.start) : d = directive := by
  rw [insert] at h
  dsimp only at h
  split at h
  · obtain ⟨known, -, rfl⟩ := List.mem_map.mp h
    split at hs
    · next hk => exact if_pos hk
    · next hk => exact (hk hs).elim
  · next hn =>
    rcases List.mem_append.mp h with hd | hd
    · exact (hn (List.any_eq_true.mpr ⟨d, hd, by simpa using hs⟩)).elim
    · exact List.mem_singleton.mp hd

/-- With a limit for all sources, an entry within it is shown unless a directive about its source
keeps it back, or the pattern is not in it. -/
theorem shows_insert_iff {limit : LogLevel} {entry : LogEntry}
    (hlimit : entry.level.rank ≤ limit.rank) :
    (filter.insert ⟨none, some limit⟩).shows entry = true ↔
      (∀ d, (filter.insert ⟨none, some limit⟩).directiveFor? entry.source = some d →
        d.start ≠ none → allows d.limit entry.level = true) ∧
      filter.pattern.all (·.isFoundIn entry.text) = true := by
  have hmem := mem_insert filter ⟨none, some limit⟩
  have hempty : (filter.insert ⟨none, some limit⟩).directives.isEmpty = false := by
    rw [List.isEmpty_eq_false_iff]
    exact List.ne_nil_of_mem hmem
  obtain ⟨best, hbest⟩ := exists_directiveFor? entry.source hmem rfl
  -- There is one directive without a name, the one that was put in, and it allows the entry.
  have hallows : best.start = none → allows best.limit entry.level = true := by
    intro hs
    rw [eq_of_mem_insert (of_directiveFor?_eq_some hbest).1 hs]
    simpa [allows] using hlimit
  rw [shows, limitFor, hempty, hbest, Bool.and_eq_true]
  simp only [Option.some.injEq, forall_eq', Option.bind_some]
  refine and_congr_left fun _ => ?_
  constructor
  · intro h _
    exact h
  · intro h
    by_cases hs : best.start = none
    · exact hallows hs
    · exact h hs

end Filter

end Log

/-! ## Levels -/

/-- Nothing is logged that a debugged run would not want. -/
def Event.IsAudible (event : Event) : Prop :=
  ∀ entry, event.entry? = some entry → entry.level.rank ≤ LogLevel.debug.rank

namespace Dialogue

variable {α β : Type}

/-- All that the dialogue logs is worth debugging, whatever the outcomes are. -/
def Audible (dialogue : Dialogue α) : Prop :=
  ∀ wire, ∀ event ∈ (dialogue wire).events, event.IsAudible

namespace Audible

private theorem of_silent {dialogue : Dialogue α} (h : ∀ wire, (dialogue wire).events = []) :
    Audible dialogue := by
  intro wire event he
  rw [h wire] at he
  cases he

private theorem pure (a : α) : Audible (Pure.pure a : Dialogue α) := of_silent fun _ => rfl

private theorem fail (failure : Failure) : Audible (Dialogue.fail failure : Dialogue α) :=
  of_silent fun _ => rfl

private theorem ofExcept (result : Except Failure α) : Audible (Dialogue.ofExcept result) :=
  of_silent fun _ => rfl

private theorem print (text : String) : Audible (Dialogue.print text) := by
  intro wire event he
  rw [List.mem_singleton.mp he]
  rintro entry ⟨⟩

private theorem log {level : LogLevel} (h : level.rank ≤ LogLevel.debug.rank) (source : LogSource)
    (text : String) : Audible (Dialogue.log level source text) := by
  intro wire event he
  rw [List.mem_singleton.mp he]
  rintro entry ⟨⟩
  exact h

private theorem send (request : Request) : Audible (Dialogue.send request) := by
  intro wire event he
  have hsent : event = .sent request := by
    cases wire <;> exact List.mem_singleton.mp he
  rw [hsent]
  rintro entry ⟨⟩

private theorem bind {dialogue : Dialogue α} {next : α → Dialogue β} (hd : Audible dialogue)
    (hn : ∀ a, Audible (next a)) : Audible (dialogue >>= next) := by
  intro wire event he
  cases h : (dialogue wire).result with
  | ok a =>
    rw [bind_of_ok h] at he
    rcases List.mem_append.mp he with he | he
    · exact hd wire event he
    · exact hn a _ event he
  | error failure =>
    rw [bind_of_error h] at he
    exact hd wire event he

private theorem attempt {dialogue : Dialogue α} (h : Audible dialogue) :
    Audible (Dialogue.attempt dialogue) := h

end Audible

end Dialogue

open Dialogue

private theorem Walk.audible_all {α : Type} (walk : Walk α) : Audible walk.all := by
  have hdebug (text : String) : (debug text).IsAudible := by
    rintro entry ⟨⟩
    exact Nat.le_refl _
  have hsent (request : Request) : (Event.sent request).IsAudible := by
    rintro entry ⟨⟩
  have hgo (wire : List Outcome) (cursor : Cursor) (seen : List String) (records : List α)
      (pages : Nat) :
      ∀ event ∈ (walk.go cursor seen records pages wire).events, event.IsAudible := by
    induction wire generalizing cursor seen records pages with
    | nil =>
      rw [go]
      split
      · exact List.forall_mem_nil _
      · simp [hdebug, hsent]
    | cons outcome rest ih =>
      rw [go]
      split
      · exact List.forall_mem_nil _
      · dsimp only
        split
        · simp [hdebug, hsent]
        · split
          · simp [hdebug, hsent]
          · split
            · simp [hdebug, hsent]
            · simpa [Report.after, hdebug, hsent, or_imp, forall_and] using ih _ _ _ _
  exact fun wire => hgo wire _ _ _ _

section Commands

variable (client : Client)

private theorem audible_debug (source : LogSource) (text : String) :
    Audible (Dialogue.log .debug source text) :=
  Audible.log (Nat.le_refl _) source text

private theorem Client.audible_walk {α : Type} (query : Query) (record : Json.Decoder α) :
    Audible (client.walk query record) :=
  (Audible.ofExcept _).bind fun _ => Walk.audible_all _

private theorem Toggle.audible_lookup (name : String) : Audible (Toggle.lookup client name) := by
  have hfind : Audible (client.findApplication name) := by
    refine (Audible.ofExcept _).bind fun _ => (Audible.ofExcept _).bind fun _ => ?_
    refine (Audible.send _).bind fun _ => (Audible.ofExcept _).bind fun _ => ?_
    exact (audible_debug _ _).bind fun _ => Audible.pure _
  refine hfind.bind fun summary => ?_
  split
  · exact Audible.pure _
  · exact Audible.fail _

private theorem Toggle.audible_run (palette : Palette) (target : FlagTarget) :
    Audible (Toggle.run palette client target) := by
  have hflag (guid : String) (enabled : Bool) : Audible (client.setFlag guid enabled) := by
    refine (Audible.ofExcept _).bind fun _ => (Audible.ofExcept _).bind fun _ => ?_
    exact (audible_debug _ _).bind fun _ => (Audible.send _).bind fun _ => Audible.pure _
  have hset : Audible (Toggle.set client target) :=
    (audible_lookup client target.app).bind fun _ => (audible_debug _ _).bind fun _ => hflag _ _
  have hverify : Audible (Toggle.verify client target) :=
    (audible_debug _ _).bind fun _ => (audible_lookup client target.app).bind fun _ =>
      (audible_debug _ _).bind fun _ => Audible.pure _
  refine (Audible.print _).bind fun _ => hset.bind fun _ => (Audible.print _).bind fun _ => ?_
  refine (Audible.print _).bind fun _ => hverify.bind fun state => ?_
  split
  · exact Audible.print _
  · exact (audible_debug _ _).bind fun _ => Audible.fail _

private theorem Listing.audible_rows (runtime : Runtime) :
    Audible (Listing.rows client runtime) := by
  have horganizations (spaces : List Space) :
      Audible (Listing.organizationsFor client spaces) := by
    unfold Listing.organizationsFor
    split
    · refine (Audible.attempt (client.audible_walk _ Catalog.organization)).bind fun result => ?_
      cases result with
      | ok organizations => exact Audible.pure _
      | error failure => exact (Audible.log (by decide) _ _).bind fun _ => Audible.pure _
    · exact Audible.pure _
  refine (client.audible_walk _ _).bind fun apps => (audible_debug _ _).bind fun _ => ?_
  refine (client.audible_walk _ _).bind fun spaces => (horganizations spaces).bind fun _ => ?_
  exact (audible_debug _ _).bind fun _ => Audible.pure _

private theorem CommandLine.Command.audible_perform (surroundings : Surroundings)
    (options : Options) (command : Command) : Audible (command.perform surroundings options) := by
  have hsettings : Audible (Session.settings surroundings options) := by
    refine (Audible.ofExcept _).bind fun _ => (Audible.ofExcept _).bind fun _ => ?_
    exact (audible_debug _ _).bind fun _ => Audible.pure _
  have hwarn (settings : Settings) : Audible (Session.warnIfExpired surroundings.now settings) := by
    unfold Session.warnIfExpired
    split
    · exact Audible.log (by decide) _ _
    · exact Audible.pure _
  have hstart : Audible (Session.start surroundings options) := by
    refine hsettings.bind fun settings => ?_
    have hopen : Audible (Session.warnIfExpired surroundings.now settings >>= fun _ =>
        Dialogue.ofExcept (Client.ofSettings settings)) :=
      (hwarn settings).bind fun _ => Audible.ofExcept _
    dsimp only
    split
    · exact (Audible.fail _).bind fun _ => hopen
    · exact hopen
  refine hstart.bind fun client => ?_
  cases command with
  | set app enabled => exact Toggle.audible_run client _ _
  | check app =>
    have henabled : Audible (Toggle.isEnabled client app) :=
      (Toggle.audible_lookup client app).bind fun _ => Audible.pure _
    exact henabled.bind fun _ => Audible.print _
  | list runtime =>
    cases options.format with
    | table =>
      refine (Audible.print _).bind fun _ => (Listing.audible_rows client runtime).bind fun _ => ?_
      exact (Audible.print _).bind fun _ => Audible.print _
    | json => exact (Listing.audible_rows client runtime).bind fun _ => Audible.print _

end Commands

/-! ## Runs -/

/-- The surroundings with a wish for a log, or without one. -/
def Surroundings.withLog (surroundings : Surroundings) (log : Option String) : Surroundings :=
  { surroundings with environment := { surroundings.environment with log := log } }

namespace Program

/-- The texts that a run wrote to a channel, one by one. -/
def Run.texts (run : Run) (channel : Channel) : List String :=
  (run.writings.filter (·.channel = channel)).map (·.text)

private theorem texts_errors (job : Job) (report : Report Unit) : (job.run report).texts .errors =
    job.complaints.map Log.complaintLine ++
      (report.log.filter job.display.filter.shows).map (Log.line job.display.logPalette) ++
        (job.display.result report.result).map (·.text) := by
  have hopening : (job.opening.filter (·.channel = .errors)).map (·.text) =
      job.complaints.map Log.complaintLine := by
    have hall : job.opening.filter (·.channel = .errors) = job.opening := by
      simp [Job.opening]
    rw [hall, Job.opening, List.map_map]
    rfl
  have hresult : (job.display.result report.result).filter (·.channel = .errors) =
      job.display.result report.result := by
    cases report.result <;> simp [Display.result]
  have hevent (event : Event) :
      ((job.display.event event).filter (·.channel = .errors)).map (·.text) =
        ((event.entry?.toList.filter job.display.filter.shows).map
          (Log.line job.display.logPalette)) := by
    cases event with
    | sent request => rfl
    | printed text => rfl
    | logged entry =>
      cases h : job.display.filter.shows entry <;> simp [Display.event, h, Event.entry?]
  simp only [Run.texts, Job.run, List.filter_append, List.map_append, hopening, hresult,
    List.filter_flatMap, List.map_flatMap, hevent, Report.log, List.filterMap_eq_flatMap_toList]

/-- The job of a run that is debugged, with a wish for a log or without one. -/
def debugged (surroundings : Surroundings) (invocation : CommandLine.Invocation)
    (log : Option String) : Job where
  display := ⟨(Log.filterFor log true).1, surroundings.environment.palette,
    surroundings.environment.textPalette⟩
  complaints := (Log.filterFor log true).2
  dialogue := invocation.command.perform surroundings invocation.options

variable {surroundings : Surroundings} {args : List Bytes} {invocation : CommandLine.Invocation}

private theorem run_withLog
    (h : CommandLine.parse surroundings.environment.options args = .ok invocation)
    (hdebug : invocation.debug = true) (log : Option String) (wire : List Outcome) :
    run (surroundings.withLog log) args wire = (debugged surroundings invocation log).run
      (invocation.command.perform surroundings invocation.options wire) := by
  have hparse : CommandLine.parse (surroundings.withLog log).environment.options args =
      .ok invocation := h
  rw [run, plan, hparse]
  simp only [planForInvocation, hdebug]
  rfl

private theorem rank_le_of_mem_log {command : CommandLine.Command} {options : CommandLine.Options}
    {wire : List Outcome} {entry : LogEntry}
    (he : entry ∈ (command.perform surroundings options wire).log) :
    entry.level.rank ≤ LogLevel.debug.rank := by
  obtain ⟨event, hevent, hentry⟩ := List.mem_filterMap.mp he
  exact CommandLine.Command.audible_perform _ _ _ wire event hevent entry hentry

private theorem map_filter_eq_iff {α β : Type} {p : α → Bool} {f : α → β} {l : List α} :
    (l.filter p).map f = l.map f ↔ ∀ a ∈ l, p a = true := by
  rw [← List.filter_eq_self]
  constructor
  · intro h
    have hlength := congrArg List.length h
    rw [List.length_map, List.length_map] at hlength
    exact List.filter_sublist.eq_of_length hlength
  · intro h
    rw [h]

private theorem shows_of_unnamed {filter : Log.Filter} {entry : LogEntry}
    (h : entry.level.rank ≤ LogLevel.debug.rank)
    (hstart : ∀ directive ∈ filter.directives, directive.start = none)
    (hpattern : filter.pattern = none) :
    (filter.insert ⟨none, some .debug⟩).shows entry = true := by
  rw [Log.Filter.shows_insert_iff h, hpattern]
  refine ⟨fun d hd hs => ?_, rfl⟩
  rcases Log.Filter.mem_of_mem_insert (Log.Filter.of_directiveFor?_eq_some hd).1 with rfl | hmem
  · exact (hs rfl).elim
  · exact (hs (hstart d hmem)).elim

/-- What a debugged run tells when its command has ended. -/
def endingOf (surroundings : Surroundings) (invocation : CommandLine.Invocation)
    (wire : List Outcome) : List String :=
  ((debugged surroundings invocation none).display.result
    (invocation.command.perform surroundings invocation.options wire).result).map (·.text)

private theorem texts_debugged_unset (surroundings : Surroundings)
    (invocation : CommandLine.Invocation) (wire : List Outcome) :
    let report := invocation.command.perform surroundings invocation.options wire
    ((debugged surroundings invocation none).run report).texts .errors =
      report.log.map (Log.line surroundings.environment.textPalette) ++
        endingOf surroundings invocation wire := by
  intro report
  have hfilter : (Log.filterFor none true).1 = Log.Filter.empty.insert ⟨none, some .debug⟩ := by
    decide +kernel
  have hnone : (Log.filterFor none true).2 = [] := by decide +kernel
  have hcomplaints : (debugged surroundings invocation none).complaints = [] := hnone
  have hshown : report.log.filter (Log.filterFor none true).1.shows = report.log := by
    refine List.filter_eq_self.mpr fun entry he => ?_
    rw [hfilter]
    exact shows_of_unnamed (rank_le_of_mem_log he) nofun rfl
  rw [texts_errors, hcomplaints]
  exact congrArg (List.map (Log.line surroundings.environment.textPalette) · ++ _) hshown

/-- A debugged run logs the same whatever is wished for. But the wish is heard first: an entry is
kept back when a directive about its source does not allow it, or when the pattern is not in it. A
wish with neither leaves the whole log. -/
theorem debug_log_kept_back
    (h : CommandLine.parse surroundings.environment.options args = .ok invocation)
    (hdebug : invocation.debug = true) (spec : String) (wire : List Outcome) :
    let outcome := run (surroundings.withLog (some spec)) args wire
    let plain := run (surroundings.withLog none) args wire
    let log := (invocation.command.perform surroundings invocation.options wire).log
    let wish := Log.filterOf spec
    let filter := wish.1.insert ⟨none, some .debug⟩
    let line := Log.line surroundings.environment.textPalette
    (outcome.text .output = plain.text .output ∧ outcome.exitCode = plain.exitCode ∧
      outcome.requests = plain.requests) ∧
    (∃ ending, plain.texts .errors = log.map line ++ ending ∧
      outcome.texts .errors =
        wish.2.map Log.complaintLine ++ (log.filter filter.shows).map line ++ ending) ∧
    (∀ entry ∈ log, filter.shows entry = true ↔
      (∀ directive, filter.directiveFor? entry.source = some directive →
        directive.start ≠ none → Log.allows directive.limit entry.level = true) ∧
      wish.1.pattern.all (·.isFoundIn entry.text) = true) ∧
    ((log.filter filter.shows).map line = log.map line ↔
      ∀ entry ∈ log, filter.shows entry = true) ∧
    ((∀ directive ∈ wish.1.directives, directive.start = none) → wish.1.pattern = none →
      outcome.texts .errors = wish.2.map Log.complaintLine ++ plain.texts .errors) := by
  intro outcome plain log wish filter line
  have houtcome : outcome = _ := run_withLog h hdebug (some spec) wire
  have hunset : plain = _ := run_withLog h hdebug none wire
  have hplainTexts : plain.texts .errors =
      log.map line ++ endingOf surroundings invocation wire := by
    rw [hunset]
    exact texts_debugged_unset surroundings invocation wire
  have htexts : outcome.texts .errors = wish.2.map Log.complaintLine ++
      (log.filter filter.shows).map line ++ endingOf surroundings invocation wire := by
    rw [houtcome, texts_errors]
    rfl
  refine ⟨⟨?_, ?_, ?_⟩, ⟨_, hplainTexts, htexts⟩,
    fun entry he => Log.Filter.shows_insert_iff (rank_le_of_mem_log he), map_filter_eq_iff, ?_⟩
  · rw [houtcome, hunset, Run.text_output, Run.text_output]
  · rw [houtcome, hunset]
    rfl
  · rw [houtcome, hunset]
    rfl
  · intro hstart hpattern
    have hshown : (log.filter filter.shows).map line = log.map line :=
      map_filter_eq_iff.mpr fun entry he =>
        shows_of_unnamed (rank_le_of_mem_log he) hstart hpattern
    rw [htexts, hplainTexts, hshown, List.append_assoc]

/-- A settings file without a token. -/
def tokenless : Surroundings where
  environment := ⟨⟨none, none, none, none⟩, none, none, none⟩
  home := none
  entry := fun _ => .content (Utf8.encode "api_endpoint: ''")
  now := 0
  timestamp := ""

/-- The line that tells which file was read, kept back by a directive about the program. -/
theorem debug_log_kept_back_warn :
    let args := ["--debug", "--config", "c", "dea-apps"].map Utf8.encode
    let invocation : CommandLine.Invocation := ⟨.list .dea, ⟨.table, some "c", none⟩, true⟩
    let outcome := run (tokenless.withLog (some "diego_enabler=warn")) args []
    let plain := run (tokenless.withLog none) args []
    CommandLine.parse tokenless.environment.options args = .ok invocation ∧
      invocation.debug = true ∧ ∃ ending,
        plain.texts .errors =
          "[DEBUG diego_enabler::config] Loaded configuration from c\n" :: ending ∧
        outcome.texts .errors = ending := by
  intro args invocation outcome plain
  have hparse : CommandLine.parse tokenless.environment.options args = .ok invocation := by
    decide +kernel
  obtain ⟨-, ⟨ending, hplain, houtcome⟩, -⟩ :=
    debug_log_kept_back hparse rfl "diego_enabler=warn" []
  have hlog : (invocation.command.perform tokenless invocation.options []).log =
      [⟨.debug, .settings, "Loaded configuration from c"⟩] := by
    decide +kernel
  have hkept : (Log.filterOf "diego_enabler=warn").2 = [] ∧
      ((Log.filterOf "diego_enabler=warn").1.insert ⟨none, some .debug⟩).shows
        ⟨.debug, .settings, "Loaded configuration from c"⟩ = false := by
    decide +kernel
  have hline : Log.line tokenless.environment.textPalette
      ⟨.debug, .settings, "Loaded configuration from c"⟩ =
        "[DEBUG diego_enabler::config] Loaded configuration from c\n" := by
    decide +kernel
  refine ⟨hparse, rfl, ending, ?_, ?_⟩
  · rw [hlog, List.map_singleton, hline, List.singleton_append] at hplain
    exact hplain
  · rw [hlog, hkept.1, List.filter_singleton, hkept.2, cond_false, List.map_nil,
      List.map_nil, List.nil_append, List.nil_append] at houtcome
    exact houtcome

/-- So a debugged run does not always show its log. -/
theorem debug_log_not_always_shown : ¬ ∀ (surroundings : Surroundings) (args : List Bytes)
    (invocation : CommandLine.Invocation) (spec : String) (wire : List Outcome),
      Utf8.encode "--debug" ∈ args →
      CommandLine.parse surroundings.environment.options args = .ok invocation →
        (run (surroundings.withLog none) args wire).texts .errors ⊆
          (run (surroundings.withLog (some spec)) args wire).texts .errors := by
  intro h
  have hparse : CommandLine.parse tokenless.environment.options
      (["--debug", "--config", "c", "dea-apps"].map Utf8.encode) =
        .ok ⟨.list .dea, ⟨.table, some "c", none⟩, true⟩ := by
    decide +kernel
  have hsub := h tokenless _ _ "diego_enabler=warn" [] (by decide) hparse
  have hline : "[DEBUG diego_enabler::config] Loaded configuration from c\n" ∈
      (run (tokenless.withLog none) (["--debug", "--config", "c", "dea-apps"].map Utf8.encode)
        []).texts .errors := by
    decide +kernel
  have hmissing := hsub hline
  revert hmissing
  decide +kernel

end Program

end RuntimeFlag
