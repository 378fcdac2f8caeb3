import RuntimeFlag.Client
import RuntimeFlag.Proofs.Dialogue
import RuntimeFlag.Proofs.Walk
/-!
# Collections of a client

With a credential, a client gets a collection by a walk. `Walk.Gives` and `Walk.Stops` say in one
proposition each how a walk can end; `Dialogue.Fetches` says all that a dialogue does that prints
nothing, with the warnings that it logs.
-/
namespace RuntimeFlag

namespace Report

variable {α : Type}

def warnings (report : Report α) : List LogEntry := report.log.filter (·.level = .warn)

@[simp] theorem warnings_after (report : Report α) (events : List Event) :
    (report.after events).warnings =
      (events.filterMap Event.entry?).filter (·.level = .warn) ++ report.warnings := by
  simp only [warnings, log, after, List.filterMap_append, List.filter_append]

end Report

/-- An event that neither prints nor warns. -/
def Event.IsQuiet : Event → Prop
  | .sent _ => True
  | .logged entry => entry.level ≠ .warn
  | .printed _ => False

private theorem Report.quiet {α : Type} {report : Report α}
    (h : ∀ event ∈ report.events, event.IsQuiet) :
    report.output = "" ∧ report.warnings = [] := by
  constructor
  · have hnone : report.events.filterMap Event.text? = [] := by
      rw [List.filterMap_eq_nil_iff]
      intro event he
      cases event with
      | sent request => rfl
      | logged entry => rfl
      | printed text => exact (h _ he).elim
    rw [output, hnone]
    rfl
  · rw [warnings, log, List.filter_eq_nil_iff]
    intro entry he
    obtain ⟨event, he, hentry⟩ := List.mem_filterMap.mp he
    cases event with
    | sent request => cases hentry
    | logged other =>
      cases hentry
      simpa [Event.IsQuiet] using h _ he
    | printed text => cases hentry

namespace Walk

variable {α : Type} {walk : Walk α} {wire rest : List Outcome} {records : List α}
  {sent : List Request} {failure : Failure}

theorem answers_concat (visits : List (Visit walk)) (visit : Visit walk) :
    answers (visits ++ [visit]) = answers visits ++ [.ok visit.body] :=
  List.map_append

theorem Begun.concat {start : Cursor} {names : List String} {visits : List (Visit walk)}
    {visit : Visit walk} {name : String} (h : Begun start names visits visit.cursor)
    (hnext : visit.page.next = some name) (hn : name ∉ names) :
    Begun start (names ++ [name]) (visits ++ [visit]) (.next name) := by
  refine ⟨?_, ?_, ?_⟩
  · rw [List.map_append, List.map_singleton, h.cursors, List.map_append]
    rfl
  · rw [List.map_append, h.named, List.map_append, List.map_singleton, hnext]
    rfl
  · rw [List.nodup_append]
    refine ⟨h.distinct, List.nodup_cons.mpr ⟨List.not_mem_nil, List.nodup_nil⟩, ?_⟩
    rintro other ho _ hlast rfl
    exact hn (List.mem_singleton.mp hlast ▸ ho)

theorem Begun.whole {start : Cursor} {names : List String} {visits : List (Visit walk)}
    {visit : Visit walk} (h : Begun start names visits visit.cursor)
    (hnext : visit.page.next = none) : Whole start names (visits ++ [visit]) := by
  refine ⟨?_, ?_, h.distinct⟩
  · rw [List.map_append, List.map_singleton, h.cursors]
  · rw [List.map_append, h.named, List.map_singleton, hnext]

/-- Behind the beginning of a chain, the request at its end is still to be answered. -/
theorem Begun.requests_all {names : List String} {visits : List (Visit walk)} {stop : Cursor}
    {request : Request} (h : Begun .first names visits stop)
    (built : walk.request stop = .ok request) :
    (walk.all (answers visits)).requests = visits.map (·.request) ++ [request] := by
  have hend := (all_of_begun h (Breaks.unanswered built)).2.1
  rwa [List.append_nil] at hend

/-- The outcomes answer a whole chain of pages with these records, by these requests. -/
def Gives (walk : Walk α) (wire : List Outcome) (records : List α) (sent : List Request)
    (rest : List Outcome) : Prop :=
  ∃ names, ∃ visits : List (Visit walk), Whole .first names visits ∧ wire = answers visits ++ rest ∧
    records = visits.flatMap (·.page.records) ∧ sent = visits.map (·.request)

/-- Behind the beginning of a chain of pages a step fails. -/
def Stops (walk : Walk α) (wire : List Outcome) (failure : Failure) (sent : List Request)
    (rest : List Outcome) : Prop :=
  ∃ names, ∃ visits : List (Visit walk), ∃ stop left more, Begun .first names visits stop ∧
    wire = answers visits ++ left ∧ Breaks walk names stop left failure more rest ∧
    sent = visits.map (·.request) ++ more

private theorem gives_iff : walk.Gives wire records sent rest ↔
    (walk.all wire).result = .ok records ∧ (walk.all wire).requests = sent ∧
      (walk.all wire).unused = rest :=
  (all_ok_iff walk wire records sent rest).symm

private theorem stops_iff : walk.Stops wire failure sent rest ↔
    (walk.all wire).result = .error failure ∧ (walk.all wire).requests = sent ∧
      (walk.all wire).unused = rest :=
  (all_error_iff walk wire failure sent rest).symm

theorem gives_two {request follow : Request} {first last : Bytes} {page final : Page α}
    {name : String} (built : walk.request .first = .ok request)
    (read : walk.parse first = .ok page) (next : page.next = some name)
    (followed : walk.request (.next name) = .ok follow) (ended : walk.parse last = .ok final)
    (none : final.next = none) :
    walk.Gives [.ok first, .ok last] (page.records ++ final.records) [request, follow] [] := by
  have hwhole : Whole .first [name] [Visit.mk .first request first page built read,
      .mk (.next name) follow last final followed ended] :=
    ⟨rfl, by simp [next, none], by simp⟩
  refine ⟨_, _, hwhole, rfl, ?_, rfl⟩
  rw [List.flatMap_cons, List.flatMap_singleton]

theorem gives_or_stops (walk : Walk α) (wire : List Outcome) :
    (∃ records sent rest, walk.Gives wire records sent rest) ∨
      ∃ failure sent rest, walk.Stops wire failure sent rest := by
  cases h : (walk.all wire).result with
  | ok records => exact .inl ⟨records, _, _, gives_iff.mpr ⟨h, rfl, rfl⟩⟩
  | error failure => exact .inr ⟨failure, _, _, stops_iff.mpr ⟨h, rfl, rfl⟩⟩

theorem Gives.unique {others : List α} {more : List Request} {left : List Outcome}
    (h : walk.Gives wire records sent rest) (ho : walk.Gives wire others more left) :
    others = records ∧ more = sent ∧ left = rest := by
  obtain ⟨hr, rfl, rfl⟩ := gives_iff.mp h
  obtain ⟨hro, rfl, rfl⟩ := gives_iff.mp ho
  exact ⟨Except.ok.inj (hro.symm.trans hr), rfl, rfl⟩

theorem Gives.not_stops {more : List Request} {left : List Outcome}
    (h : walk.Gives wire records sent rest) : ¬ walk.Stops wire failure more left := by
  intro hs
  cases (gives_iff.mp h).1.symm.trans (stops_iff.mp hs).1

private theorem go_quiet (walk : Walk α) (cursor : Cursor) (seen : List String) (records : List α)
    (pages : Nat) (wire : List Outcome) :
    ∀ event ∈ (go walk cursor seen records pages wire).events, event.IsQuiet := by
  induction wire generalizing cursor seen records pages with
  | nil => cases built : walk.request cursor <;> simp [go, built, debug, Event.IsQuiet]
  | cons outcome rest ih =>
    cases built : walk.request cursor with
    | error failure => simp [go, built]
    | ok request =>
      cases read : (outcome.mapError .api).bind walk.parse with
      | error failure => simp [go, built, read, debug, Event.IsQuiet]
      | ok page =>
        cases next : page.next with
        | none => simp [go, built, read, next, debug, Event.IsQuiet]
        | some name =>
          by_cases known : name ∈ seen
          · simp [go, built, read, next, known, debug, Event.IsQuiet]
          · have hlater := ih (.next name) (name :: seen) (records ++ page.records) (pages + 1)
            simpa [go, built, read, next, known, debug, Event.IsQuiet, Report.after] using hlater

end Walk

namespace Dialogue

variable {α β : Type}

/-- How a dialogue goes on some outcomes that prints nothing: its result, what it sends, what it
warns of, and the outcomes that it leaves. -/
structure Fetches (dialogue : Dialogue α) (wire : List Outcome) (ending : Except Failure α)
    (sent : List Request) (warned : List LogEntry) (rest : List Outcome) : Prop
    extends Runs dialogue wire ending sent "" rest where
  warnings : (dialogue wire).warnings = warned

namespace Fetches

variable {dialogue : Dialogue α} {wire rest left : List Outcome} {sent more : List Request}
  {warned added : List LogEntry}

theorem pure (a : α) : Fetches (Pure.pure a : Dialogue α) wire (.ok a) [] [] wire :=
  ⟨Runs.pure a, rfl⟩

theorem bind {a : α} {next : α → Dialogue β} {result : Except Failure β}
    (hd : Fetches dialogue wire (.ok a) sent [] rest)
    (hn : Fetches (next a) rest result more added left) :
    Fetches (dialogue >>= next) wire result (sent ++ more) added left := by
  refine ⟨(hd.toRuns.bind hn.toRuns).reads String.append_empty, ?_⟩
  obtain ⟨⟨hresult, -, -, rfl⟩, hquiet⟩ := hd
  obtain ⟨-, rfl⟩ := hn
  rw [bind_of_ok hresult, Report.warnings_after]
  exact congrArg (· ++ _) hquiet

theorem bind_pure {a : α} {next : α → Dialogue β} {result : Except Failure β}
    (hd : Fetches dialogue wire (.ok a) sent warned rest)
    (hn : Fetches (next a) rest result [] [] rest) :
    Fetches (dialogue >>= next) wire result sent warned rest := by
  have hruns := hd.toRuns.bind hn.toRuns
  rw [List.append_nil] at hruns
  refine ⟨hruns.reads String.append_empty, ?_⟩
  obtain ⟨⟨hresult, -, -, rfl⟩, rfl⟩ := hd
  rw [bind_of_ok hresult, Report.warnings_after, hn.warnings]
  exact List.append_nil _

theorem bind_error {failure : Failure}
    (h : Fetches dialogue wire (.error failure) sent warned rest) (next : α → Dialogue β) :
    Fetches (dialogue >>= next) wire (.error failure) sent warned rest := by
  refine ⟨h.toRuns.bind_error next, ?_⟩
  obtain ⟨⟨hresult, -, -, -⟩, rfl⟩ := h
  rw [bind_of_error hresult]
  rfl

theorem attempt {ending : Except Failure α}
    (h : Fetches dialogue wire ending sent warned rest) :
    Fetches (Dialogue.attempt dialogue) wire (.ok ending) sent warned rest := by
  obtain ⟨⟨rfl, rfl, houtput, rfl⟩, rfl⟩ := h
  exact ⟨⟨rfl, rfl, houtput, rfl⟩, rfl⟩

theorem log_seq {level : LogLevel} {source : LogSource} {entry : String} {second : Dialogue β}
    {ending : Except Failure β} (hs : Fetches second wire ending sent warned rest) :
    Fetches (Dialogue.log level source entry >>= fun _ => second) wire ending sent
      ([⟨level, source, entry⟩].filter (·.level = .warn) ++ warned) rest := by
  refine ⟨hs.toRuns.log_seq, ?_⟩
  obtain ⟨-, rfl⟩ := hs
  rw [Dialogue.log, emit_bind, Report.warnings_after]
  rfl

theorem debug_seq {source : LogSource} {entry : String} {second : Dialogue β}
    {ending : Except Failure β} (hs : Fetches second wire ending sent warned rest) :
    Fetches (Dialogue.log .debug source entry >>= fun _ => second) wire ending sent warned rest :=
  hs.log_seq

end Fetches

end Dialogue

namespace Walk

open Dialogue

variable {α : Type} {walk : Walk α} {wire rest : List Outcome} {sent : List Request}

private theorem Gives.fetches {records : List α} (h : walk.Gives wire records sent rest) :
    Fetches walk.all wire (.ok records) sent [] rest := by
  obtain ⟨hresult, hrequests, hunused⟩ := gives_iff.mp h
  obtain ⟨houtput, hwarnings⟩ := Report.quiet (go_quiet walk .first [] [] 0 wire)
  exact ⟨⟨hresult, hrequests, houtput, hunused⟩, hwarnings⟩

private theorem Stops.fetches {failure : Failure} (h : walk.Stops wire failure sent rest) :
    Fetches walk.all wire (.error failure) sent [] rest := by
  obtain ⟨hresult, hrequests, hunused⟩ := stops_iff.mp h
  obtain ⟨houtput, hwarnings⟩ := Report.quiet (go_quiet walk .first [] [] 0 wire)
  exact ⟨⟨hresult, hrequests, houtput, hunused⟩, hwarnings⟩

end Walk

/-- The walk of a collection, with a credential. -/
def Query.walk {α : Type} (query : Query) (value : String) (record : Json.Decoder α) : Walk α where
  request cursor := (query.request cursor).map (·.withCredential value)
  parse body := (Catalog.decodePage record body).mapError .api

theorem Query.request_walk {α : Type} {query : Query} {cursor : Cursor} {request : Request}
    (value : String) (record : Json.Decoder α) (h : query.request cursor = .ok request) :
    (query.walk value record).request cursor = .ok (request.withCredential value) :=
  congrArg (Except.map _) h

theorem Query.request_walk_next {α : Type} {query : Query} {next : String} {url : Url}
    (value : String) (record : Json.Decoder α) (h : query.nextUrl next = .ok url) :
    (query.walk value record).request (.next next) = .ok ⟨.fetch, url, some value⟩ := by
  have hrequest : query.request (.next next) = .ok ⟨.fetch, url, none⟩ :=
    congrArg (Except.map _) h
  exact Query.request_walk value record hrequest

theorem Query.parse_walk {α : Type} {record : Json.Decoder α} {body : Bytes} {page : Page α}
    (query : Query) (value : String) (h : Catalog.decodePage record body = .ok page) :
    (query.walk value record).parse body = .ok page :=
  congrArg (Except.mapError Failure.api) h

namespace Client

open Dialogue

variable {α : Type} {client : Client} {value : String} {query : Query} {record : Json.Decoder α}
  {wire rest : List Outcome} {sent : List Request}

theorem walk_eq (hv : client.settings.credential = .ok value) (query : Query)
    (record : Json.Decoder α) : client.walk query record = (query.walk value record).all := by
  rw [walk, hv, Dialogue.ofExcept_ok_bind]
  rfl

theorem walk_fetches_of_gives {records : List α} (hv : client.settings.credential = .ok value)
    (h : (query.walk value record).Gives wire records sent rest) :
    Fetches (client.walk query record) wire (.ok records) sent [] rest := by
  rw [walk_eq hv]
  exact h.fetches

theorem walk_fetches_of_stops {failure : Failure} (hv : client.settings.credential = .ok value)
    (h : (query.walk value record).Stops wire failure sent rest) :
    Fetches (client.walk query record) wire (.error failure) sent [] rest := by
  rw [walk_eq hv]
  exact h.fetches

end Client

end RuntimeFlag
