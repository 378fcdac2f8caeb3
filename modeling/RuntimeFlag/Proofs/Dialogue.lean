import RuntimeFlag.Dialogue
/-!
# Requests and output of dialogues

How the report of a dialogue is made of the reports of its steps. `Dialogue.Sends` says of all
requests of a dialogue that they have a property, whatever the outcomes are; `Dialogue.Refuses`
says that a dialogue fails before it asks for anything; `Dialogue.Runs` says all that a dialogue
does on given outcomes.
-/
namespace RuntimeFlag

namespace Event

@[simp] theorem request?_sent (request : Request) : (sent request).request? = some request := rfl

@[simp] theorem request?_logged (entry : LogEntry) : (logged entry).request? = none := rfl

@[simp] theorem request?_printed (text : String) : (printed text).request? = none := rfl

end Event

namespace Report

variable {α : Type}

@[simp] theorem result_after (report : Report α) (events : List Event) :
    (report.after events).result = report.result := rfl

@[simp] theorem unused_after (report : Report α) (events : List Event) :
    (report.after events).unused = report.unused := rfl

@[simp] theorem requests_after (report : Report α) (events : List Event) :
    (report.after events).requests = events.filterMap Event.request? ++ report.requests := by
  simp only [requests, after, List.filterMap_append]

@[simp] theorem output_after (report : Report α) (events : List Event) :
    (report.after events).output =
      String.join (events.filterMap Event.text?) ++ report.output := by
  simp only [output, after, List.filterMap_append, String.join_append]

end Report

namespace Dialogue

variable {α β : Type}

/-! ## Steps -/

theorem bind_of_ok {dialogue : Dialogue α} {wire : List Outcome} {a : α}
    (h : (dialogue wire).result = .ok a) (next : α → Dialogue β) :
    (dialogue >>= next) wire =
      (next a (dialogue wire).unused).after (dialogue wire).events := by
  rcases hd : dialogue wire with ⟨result, events, rest⟩
  rw [hd] at h
  change result = .ok a at h
  subst h
  simp only [bind, hd]

theorem bind_of_error {dialogue : Dialogue α} {wire : List Outcome} {failure : Failure}
    (h : (dialogue wire).result = .error failure) (next : α → Dialogue β) :
    (dialogue >>= next) wire = ⟨.error failure, (dialogue wire).events, (dialogue wire).unused⟩ := by
  rcases hd : dialogue wire with ⟨result, events, rest⟩
  rw [hd] at h
  change result = .error failure at h
  subst h
  simp only [bind, hd]

theorem exists_of_bind_ok {dialogue : Dialogue α} {next : α → Dialogue β} {wire : List Outcome}
    {b : β} (h : ((dialogue >>= next) wire).result = .ok b) :
    ∃ a, (dialogue wire).result = .ok a ∧ (next a (dialogue wire).unused).result = .ok b := by
  cases hd : (dialogue wire).result with
  | ok a =>
    rw [bind_of_ok hd] at h
    exact ⟨a, rfl, h⟩
  | error failure =>
    rw [bind_of_error hd] at h
    cases h

@[simp] theorem pure_apply (a : α) (wire : List Outcome) :
    (pure a : Dialogue α) wire = ⟨.ok a, [], wire⟩ := rfl

@[simp] theorem fail_apply (failure : Failure) (wire : List Outcome) :
    (fail failure : Dialogue α) wire = ⟨.error failure, [], wire⟩ := rfl

@[simp] theorem ofExcept_ok_bind (a : α) (next : α → Dialogue β) :
    (ofExcept (.ok a) >>= next) = next a := by
  funext wire
  rw [bind_of_ok rfl]
  rfl

@[simp] theorem emit_bind (event : Event) (next : Unit → Dialogue β) (wire : List Outcome) :
    (emit event >>= next) wire = (next () wire).after [event] := rfl

/-! ## What all requests have in common -/

/-- Every request of the dialogue has a property, whatever the outcomes are. -/
def Sends (P : Request → Prop) (dialogue : Dialogue α) : Prop :=
  ∀ wire, ∀ request ∈ (dialogue wire).requests, P request

namespace Sends

variable {P : Request → Prop}

theorem pure (a : α) : Sends P (Pure.pure a : Dialogue α) := by
  intro wire request hr
  simp [Report.requests] at hr

theorem fail (failure : Failure) : Sends P (Dialogue.fail failure : Dialogue α) := by
  intro wire request hr
  simp [Report.requests] at hr

theorem ofExcept (result : Except Failure α) : Sends P (Dialogue.ofExcept result) := by
  intro wire request hr
  simp [Report.requests, Dialogue.ofExcept] at hr

theorem log (level : LogLevel) (source : LogSource) (text : String) :
    Sends P (Dialogue.log level source text) := by
  intro wire request hr
  simp [Report.requests, Dialogue.log, emit] at hr

theorem print (text : String) : Sends P (Dialogue.print text) := by
  intro wire request hr
  simp [Report.requests, Dialogue.print, emit] at hr

theorem send {request : Request} (h : P request) : Sends P (Dialogue.send request) := by
  intro wire sent hr
  cases wire <;> simp [Report.requests, Dialogue.send] at hr <;> exact hr ▸ h

theorem bind {dialogue : Dialogue α} {next : α → Dialogue β} (hd : Sends P dialogue)
    (hn : ∀ a, Sends P (next a)) : Sends P (dialogue >>= next) := by
  intro wire request hr
  cases h : (dialogue wire).result with
  | ok a =>
    rw [bind_of_ok h, Report.requests_after] at hr
    rcases List.mem_append.mp hr with hr | hr
    · exact hd wire request hr
    · exact hn a _ request hr
  | error failure =>
    rw [bind_of_error h] at hr
    exact hd wire request hr

theorem ofExcept_bind {result : Except Failure α} {next : α → Dialogue β}
    (h : ∀ a, result = .ok a → Sends P (next a)) :
    Sends P (Dialogue.ofExcept result >>= next) := by
  cases result with
  | ok a =>
    rw [ofExcept_ok_bind]
    exact h a rfl
  | error failure => exact Sends.fail failure

theorem attempt {dialogue : Dialogue α} (h : Sends P dialogue) :
    Sends P (Dialogue.attempt dialogue) := h

end Sends

/-! ## Failures before any request -/

/-- The dialogue fails before it asks for anything, whatever the outcomes are. -/
def Refuses (failure : Failure) (dialogue : Dialogue α) : Prop :=
  ∀ wire, (dialogue wire).result = .error failure ∧ (dialogue wire).requests = []

namespace Refuses

variable {failure : Failure}

private theorem fail : Refuses failure (Dialogue.fail failure : Dialogue α) := by
  intro wire
  exact ⟨rfl, rfl⟩

theorem bind {dialogue : Dialogue α} (h : Refuses failure dialogue) (next : α → Dialogue β) :
    Refuses failure (dialogue >>= next) := by
  intro wire
  rw [bind_of_error (h wire).1]
  exact ⟨rfl, (h wire).2⟩

theorem ofExcept_bind {result : Except Failure α} (h : result = .error failure)
    (next : α → Dialogue β) : Refuses failure (Dialogue.ofExcept result >>= next) := by
  subst h
  exact Refuses.fail

theorem print_bind {dialogue : Dialogue α} (text : String) (h : Refuses failure dialogue) :
    Refuses failure (Dialogue.print text >>= fun _ => dialogue) := by
  intro wire
  rw [Dialogue.print, emit_bind, Report.requests_after]
  exact ⟨(h wire).1, by simpa using (h wire).2⟩

end Refuses

/-! ## Courses -/

/-- What becomes of the request with a number, counted from zero. -/
def answer (wire : List Outcome) (number : Nat) : Outcome := wire.getD number (.error silence)

@[simp] theorem answer_tail (wire : List Outcome) (number : Nat) :
    answer wire.tail number = answer wire (number + 1) := by
  cases wire <;> rfl

/-- How a dialogue goes on some outcomes: its result, what it sends and prints, and the outcomes
that it leaves. -/
structure Runs (dialogue : Dialogue α) (wire : List Outcome) (ending : Except Failure α)
    (sent : List Request) (printed : String) (rest : List Outcome) : Prop where
  result : (dialogue wire).result = ending
  requests : (dialogue wire).requests = sent
  output : (dialogue wire).output = printed
  unused : (dialogue wire).unused = rest

namespace Runs

variable {dialogue : Dialogue α} {wire rest left : List Outcome} {sent more : List Request}
  {text added : String}

theorem pure (a : α) : Runs (Pure.pure a : Dialogue α) wire (.ok a) [] "" wire :=
  ⟨rfl, rfl, rfl, rfl⟩

theorem fail (failure : Failure) :
    Runs (Dialogue.fail failure : Dialogue α) wire (.error failure) [] "" wire :=
  ⟨rfl, rfl, rfl, rfl⟩

theorem print (text : String) : Runs (Dialogue.print text) wire (.ok ()) [] text wire :=
  ⟨rfl, rfl, String.empty_append, rfl⟩

theorem send (request : Request) :
    Runs (Dialogue.send request) wire ((answer wire 0).mapError .api) [request] "" wire.tail := by
  cases wire <;> exact ⟨rfl, rfl, rfl, rfl⟩

theorem reads {ending : Except Failure α} (h : Runs dialogue wire ending sent text rest)
    (ht : text = added) : Runs dialogue wire ending sent added rest :=
  ht ▸ h

theorem bind {a : α} {next : α → Dialogue β} {result : Except Failure β}
    (hd : Runs dialogue wire (.ok a) sent text rest)
    (hn : Runs (next a) rest result more added left) :
    Runs (dialogue >>= next) wire result (sent ++ more) (text ++ added) left := by
  obtain ⟨hresult, rfl, rfl, rfl⟩ := hd
  obtain ⟨rfl, rfl, rfl, rfl⟩ := hn
  have h := bind_of_ok hresult next
  constructor
  · rw [h, Report.result_after]
  · rw [h, Report.requests_after]
    rfl
  · rw [h, Report.output_after]
    rfl
  · rw [h, Report.unused_after]

theorem bind_error {failure : Failure}
    (h : Runs dialogue wire (.error failure) sent text rest) (next : α → Dialogue β) :
    Runs (dialogue >>= next) wire (.error failure) sent text rest := by
  obtain ⟨hresult, rfl, rfl, rfl⟩ := h
  have h := bind_of_error hresult next
  constructor <;> rw [h] <;> rfl

theorem ofExcept_bind {result : Except Failure α} {a : α} {next : α → Dialogue β}
    {ending : Except Failure β} (h : result = .ok a)
    (hn : Runs (next a) wire ending sent text rest) :
    Runs (Dialogue.ofExcept result >>= next) wire ending sent text rest := by
  rw [h, ofExcept_ok_bind]
  exact hn

theorem seq {first : Dialogue Unit} {second : Dialogue β} {ending : Except Failure β}
    (hf : Runs first wire (.ok ()) sent text rest) (hs : Runs second rest ending more added left) :
    Runs (first >>= fun _ => second) wire ending (sent ++ more) (text ++ added) left :=
  hf.bind hs

theorem print_seq {second : Dialogue β} {ending : Except Failure β} (text : String)
    (hs : Runs second wire ending sent added rest) :
    Runs (Dialogue.print text >>= fun _ => second) wire ending sent (text ++ added) rest :=
  (print text).seq hs

theorem log_seq {level : LogLevel} {source : LogSource} {entry : String}
    {second : Dialogue β} {ending : Except Failure β}
    (hs : Runs second wire ending sent text rest) :
    Runs (Dialogue.log level source entry >>= fun _ => second) wire ending sent text rest := by
  obtain ⟨rfl, rfl, rfl, rfl⟩ := hs
  exact ⟨rfl, rfl, rfl, rfl⟩

end Runs

end Dialogue

end RuntimeFlag
