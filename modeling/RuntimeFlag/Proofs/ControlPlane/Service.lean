import RuntimeFlag.Proofs.Dialogue
/-!
# Dialogues with a server that keeps a state

A server answers one request after the other, and each may change what it holds. The dialogue is
held again with one outcome more for each request, as with answers that depend on the request alone.
-/
namespace RuntimeFlag.Dialogue

variable {α σ : Type} {respond : σ → Request → Outcome × σ} {state : σ}

/-- Holds a dialogue with a server, for at most `limit` more requests, and gives its report and the
state that the server is left in. -/
def serve (respond : σ → Request → Outcome × σ) (dialogue : Dialogue α) :
    Nat → σ → List Outcome → Report α × σ
  | 0, state, known => (dialogue known, state)
  | limit + 1, state, known =>
    match (dialogue known).requests[known.length]? with
    | none => (dialogue known, state)
    | some request =>
      let (outcome, next) := respond state request
      serve respond dialogue limit next (known ++ [outcome])

theorem serve_done {dialogue : Dialogue α} {known : List Outcome}
    (h : (dialogue known).requests[known.length]? = none) (limit : Nat) :
    serve respond dialogue limit state known = (dialogue known, state) := by
  cases limit with
  | zero => rfl
  | succ limit => rw [serve, h]

theorem serve_ask (dialogue : Dialogue α) (known : List Outcome) {request : Request}
    {outcome : Outcome} {next : σ} (h : (dialogue known).requests[known.length]? = some request)
    (hr : respond state request = (outcome, next)) (limit : Nat) :
    serve respond dialogue (limit + 1) state known =
      serve respond dialogue limit next (known ++ [outcome]) := by
  rw [serve, h]
  dsimp only
  rw [hr]

/-- The outcomes that a dialogue with a server gets, for at most `limit` more requests. -/
def heard (respond : σ → Request → Outcome × σ) (dialogue : Dialogue α) :
    Nat → σ → List Outcome → List Outcome
  | 0, _, known => known
  | limit + 1, state, known =>
    match (dialogue known).requests[known.length]? with
    | none => known
    | some request =>
      let (outcome, next) := respond state request
      heard respond dialogue limit next (known ++ [outcome])

/-- A dialogue with a server is the dialogue on the outcomes that it gets. -/
theorem serve_eq_heard (dialogue : Dialogue α) (limit : Nat) (state : σ) (known : List Outcome) :
    (serve respond dialogue limit state known).1 =
      dialogue (heard respond dialogue limit state known) := by
  induction limit generalizing state known with
  | zero => rfl
  | succ limit ih =>
    rw [serve, heard]
    cases (dialogue known).requests[known.length]? with
    | none => rfl
    | some request => exact ih _ _

/-- What holds at the start and is kept by every answer holds of all outcomes of a dialogue. -/
theorem heard_induction {dialogue : Dialogue α} {P : List Outcome → Prop} {known : List Outcome}
    (start : P known)
    (step : ∀ known state request, P known →
      (dialogue known).requests[known.length]? = some request →
      P (known ++ [(respond state request).1]))
    (limit : Nat) (state : σ) : P (heard respond dialogue limit state known) := by
  induction limit generalizing state known with
  | zero => exact start
  | succ limit ih =>
    rw [heard]
    cases hasked : (dialogue known).requests[known.length]? with
    | none => exact start
    | some request => exact ih (step known state request start hasked) _

/-- A dialogue whose requests are all answered does not change when the server answers more. -/
theorem serve_settled {dialogue : Dialogue α} {limit : Nat} {known : List Outcome}
    (h : (serve respond dialogue limit state known).1.requests.length ≤ known.length + limit)
    (more : Nat) :
    serve respond dialogue (limit + more) state known =
      serve respond dialogue limit state known := by
  induction limit generalizing state known with
  | zero => exact serve_done (List.getElem?_eq_none h) _
  | succ limit ih =>
    rw [Nat.add_right_comm, serve, serve]
    rw [serve] at h
    cases hasked : (dialogue known).requests[known.length]? with
    | none => rfl
    | some request =>
      rw [hasked] at h
      refine ih ?_
      rw [List.length_append, List.length_singleton]
      dsimp only at h
      omega

end RuntimeFlag.Dialogue
