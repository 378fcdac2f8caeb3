import RuntimeFlag.Proofs.Text.Decimal
import RuntimeFlag.Proofs.Text.Lines
import RuntimeFlag.Transport.Response
/-!
# What is shown of a response

Some responses without success are shown line by line. Main statement: `outputLines_exact`, what is
shown are the lines of the body, except that a blank body is replaced by a text that no server sent.
-/
namespace RuntimeFlag.Transport.Response

open Text

/-! ## Which responses are shown -/

def IsSuccess (response : Response) : Prop := 200 ≤ response.status ∧ response.status < 300

/-- The response is of a kind that is shown. -/
def IsShown (response : Response) : Prop :=
  response.status = 400 ∨ response.status = 404 ∨ response.status = 422 ∨
    500 ≤ response.status ∧ response.status < 600

instance (response : Response) : Decidable response.IsShown :=
  inferInstanceAs (Decidable (_ ∨ _ ∨ _ ∨ _ ∧ _))

def text (response : Response) : String := Utf8.decodeLossy response.body

/-- The lines are what there is to be shown of the body. -/
def Shows (response : Response) (lines : List String) : Prop :=
  (response.IsShown → Lined response.text.toList (lines.map String.toList)) ∧
    (¬ response.IsShown → lines = [])

/-- The text that stands for a blank body. -/
def substitute (response : Response) : String :=
  if response.status = 404 then "Resource not found"
  else if response.status = 400 ∨ response.status = 422 then "Bad request"
  else "Server error: " ++ statusText response.status

variable {response : Response}

private theorem outcome_of_not_success (h : ¬ response.IsSuccess) :
    response.outcome = .error response.fault := by
  have hc : (200 ≤ response.status && response.status < 300) = false := by
    simpa [IsSuccess] using h
  rw [outcome, hc]
  rfl

private theorem body?_of_isShown (h : response.IsShown) :
    response.fault.body? = some (response.textOr response.substitute) := by
  unfold fault substitute
  unfold IsShown at h
  dsimp only
  split
  · next h401 => exact absurd (h401 ▸ h) (by decide)
  · next h403 => exact absurd (h403 ▸ h) (by decide)
  · next h404 => simp [ApiFault.body?, h404]
  · next h400 => simp [ApiFault.body?, h400]
  · next h422 => simp [ApiFault.body?, h422]
  · next code h401 h403 h404 h400 h422 =>
    have hserver : (500 ≤ response.status && response.status < 600) = true := by
      simpa using ((h.resolve_left h400).resolve_left h404).resolve_left h422
    rw [hserver, if_neg h404, if_neg (not_or.mpr ⟨h400, h422⟩)]
    rfl

private theorem body?_of_not_isShown (h : ¬ response.IsShown) : response.fault.body? = none := by
  unfold fault
  dsimp only
  unfold IsShown at h
  split
  · rfl
  · rfl
  · next h404 => exact absurd (.inr (.inl h404)) h
  · next h400 => exact absurd (.inl h400) h
  · next h422 => exact absurd (.inr (.inr (.inl h422))) h
  · next code h401 h403 h404 h400 h422 =>
    have hserver : (500 ≤ response.status && response.status < 600) = false := by
      simp
      omega
    rw [hserver]
    rfl

/-! ## The text that stands for a blank body -/

private theorem feed_not_mem_reason {code : Nat} {reason : String}
    (h : reason? code = some reason) :
    '\n' ∉ reason.toList := by
  unfold reason? at h
  split at h <;> cases h <;> decide

private theorem feed_not_mem_statusText (code : Nat) : '\n' ∉ (statusText code).toList := by
  have hdigits : '\n' ∉ (decimal code).toList := by
    intro hm
    exact absurd (isDigit_of_mem_decimal hm) (by decide)
  have hreason : '\n' ∉ ((reason? code).getD "<unknown status code>").toList := by
    cases h : reason? code with
    | none => decide
    | some reason => exact feed_not_mem_reason h
  simp [statusText, hdigits, hreason]

private theorem feed_not_mem_substitute (response : Response) :
    '\n' ∉ response.substitute.toList := by
  unfold substitute
  split
  · decide
  · split
    · decide
    · simp [feed_not_mem_statusText]

private theorem exists_mem_substitute (response : Response) :
    ∃ c ∈ response.substitute.toList, isBlank c = false := by
  unfold substitute
  split
  · exact ⟨'R', by decide, by decide⟩
  · split
    · exact ⟨'B', by decide, by decide⟩
    · exact ⟨'S', by simp, by decide⟩

/-! ## What is shown -/

private theorem textOr_eq (response : Response) (other : String) :
    response.textOr other = if allBlank response.text = true then other else response.text := rfl

private theorem outputLines_fault (response : Response) : (Failure.api response.fault).outputLines =
    (response.fault.body?.map lines).getD [] := rfl

private theorem lines_substitute (response : Response) :
    lines response.substitute = [response.substitute] := by
  obtain ⟨c, hc, -⟩ := response.exists_mem_substitute
  exact lines_eq_iff.mpr (.unended (List.ne_nil_of_mem hc) response.feed_not_mem_substitute)

private theorem not_lined_of_allBlank {shown : List (List Char)} {line : List Char}
    (hblank : allBlank response.text = true) (hm : line ∈ shown)
    (hc : ∃ c ∈ line, isBlank c = false) : ¬ Lined response.text.toList shown := by
  intro h
  obtain ⟨c, hc, hnot⟩ := hc
  have hall := List.all_eq_true.mp hblank c ((h.isInfix hm).subset hc)
  rw [hnot] at hall
  cases hall

private theorem outputLines_of_told (h : ¬ (response.IsShown ∧ allBlank response.text = true)) :
    response.Shows (Failure.api response.fault).outputLines := by
  rw [outputLines_fault]
  constructor
  · intro hshown
    have hblank : allBlank response.text ≠ true := fun hb => h ⟨hshown, hb⟩
    rw [body?_of_isShown hshown, Option.map_some, Option.getD_some, textOr_eq, if_neg hblank]
    exact lines_eq_iff.mp rfl
  · intro hshown
    rw [body?_of_not_isShown hshown]
    rfl

private theorem outputLines_of_blank (hs : response.IsShown) (hb : allBlank response.text = true) :
    (Failure.api response.fault).outputLines = [response.substitute] := by
  rw [outputLines_fault, body?_of_isShown hs, Option.map_some, Option.getD_some, textOr_eq,
    if_pos hb, lines_substitute]

private theorem Shows.isInfix {lines : List String} {line : String} (h : response.Shows lines)
    (hm : line ∈ lines) : line.toList <:+: response.text.toList := by
  by_cases hs : response.IsShown
  · exact (h.1 hs).isInfix (List.mem_map_of_mem hm)
  · rw [h.2 hs] at hm
    cases hm

/-- What is shown of a response without success are the lines of its body, where it is of a kind
that is shown, and nothing otherwise. Just a blank body of such a response is told wrongly: a
substitute is shown for it, and this is the only text that the server did not send. -/
theorem outputLines_exact (response : Response) (h : ¬ response.IsSuccess) :
    ∃ fault, response.outcome = .error fault ∧
      (response.Shows (Failure.api fault).outputLines ↔
        ¬ (response.IsShown ∧ allBlank response.text = true)) ∧
      (response.IsShown → allBlank response.text = true →
        (Failure.api fault).outputLines = [response.substitute]) ∧
      ∀ line ∈ (Failure.api fault).outputLines, line.toList <:+: response.text.toList ∨
        allBlank response.text = true ∧ line = response.substitute := by
  refine ⟨response.fault, outcome_of_not_success h, ⟨?_, outputLines_of_told⟩,
    outputLines_of_blank, ?_⟩
  · rintro hshows ⟨hs, hb⟩
    rw [outputLines_of_blank hs hb] at hshows
    exact not_lined_of_allBlank hb List.mem_cons_self response.exists_mem_substitute (hshows.1 hs)
  · intro line hm
    by_cases hboth : response.IsShown ∧ allBlank response.text = true
    · rw [outputLines_of_blank hboth.1 hboth.2] at hm
      exact .inr ⟨hboth.2, List.mem_singleton.mp hm⟩
    · exact .inl ((outputLines_of_told hboth).isInfix hm)

/-- A body of three lines with two kinds of line ends, and a blank body with a line of its own. -/
theorem outputLines_exact_gateway :
    let told : Response := ⟨422, Utf8.encode "no\r\n\n such app"⟩
    let blank : Response := ⟨502, Utf8.encode " \n"⟩
    ¬ told.IsSuccess ∧ ¬ blank.IsSuccess ∧
      (∃ fault, told.outcome = .error fault ∧ told.Shows (Failure.api fault).outputLines) ∧
      ∃ fault, blank.outcome = .error fault ∧ ¬ blank.Shows (Failure.api fault).outputLines ∧
        (Failure.api fault).outputLines = [blank.substitute] := by
  intro told blank
  have htold : ¬ told.IsSuccess := fun h => absurd h.2 (by decide)
  have hblank : ¬ blank.IsSuccess := fun h => absurd h.2 (by decide)
  have hkept : ¬ (told.IsShown ∧ allBlank told.text = true) := by decide +kernel
  have hlost : blank.IsShown ∧ allBlank blank.text = true := by decide +kernel
  obtain ⟨fault, hfault, hshows, -, -⟩ := outputLines_exact told htold
  obtain ⟨other, hother, hshown, hlines, -⟩ := outputLines_exact blank hblank
  exact ⟨htold, hblank, ⟨fault, hfault, hshows.mpr hkept⟩, other, hother,
    fun h => hshown.mp h hlost, hlines hlost.1 hlost.2⟩

/-- A response without a body may be shown by a line. -/
theorem outputLines_of_empty_body :
    ¬ ∀ response : Response, ¬ response.IsSuccess → ∀ fault, response.outcome = .error fault →
      response.Shows (Failure.api fault).outputLines := by
  intro h
  have hshows := h ⟨404, []⟩ (fun h => absurd h.2 (by decide)) _ rfl
  exact absurd (lines_eq_iff.mpr (hshows.1 (by decide))) (by decide +kernel)

end RuntimeFlag.Transport.Response
