import Mathlib.Data.Finset.Card
import RuntimeFlag.Proofs.ControlPlane.Service
import RuntimeFlag.Proofs.Cycle
/-!
# How long a walk can be

A walk has no counter, but it follows every name at most once. With each page that it goes on from,
one name less is left to follow, so a server that has finitely many names to give, in whatever order
and however often, ends every walk.
-/
namespace RuntimeFlag

namespace Walk

open Dialogue

variable {α σ : Type} {walk : Walk α}

/-- The name of the next page in an outcome, if it is a page that names one. -/
def nameIn? (walk : Walk α) : Outcome → Option String
  | .ok body =>
    match walk.parse body with
    | .ok page => page.next
    | .error _ => none
  | .error _ => none

def namesIn (walk : Walk α) (wire : List Outcome) : List String := wire.filterMap walk.nameIn?

private theorem nameIn?_of_read {body : Bytes} {page : Page α} (h : walk.parse body = .ok page) :
    walk.nameIn? (.ok body) = page.next := by
  rw [nameIn?, h]

private theorem namesIn_answers (visits : List (Visit walk)) :
    walk.namesIn (answers visits) = (visits.map (·.page.next)).filterMap id := by
  rw [namesIn, answers, List.filterMap_map, List.filterMap_map]
  exact List.filterMap_congr fun visit _ => nameIn?_of_read visit.read

/-! ## What is left to follow -/

/-- The number of names that a walk has still to follow. -/
def remaining (names : Finset String) (seen : List String) : Nat :=
  (names.filter (· ∉ seen)).card

private theorem remaining_nil (names : Finset String) : remaining names [] = names.card := by
  simp [remaining]

private theorem remaining_cons_lt {names : Finset String} {seen : List String} {name : String}
    (hmem : name ∈ names) (hnew : name ∉ seen) :
    remaining names (name :: seen) < remaining names seen := by
  have hsub : names.filter (· ∉ name :: seen) ⊆ names.filter (· ∉ seen) := by
    intro other ho
    rw [Finset.mem_filter, List.mem_cons, not_or] at ho
    exact Finset.mem_filter.mpr ⟨ho.1, ho.2.2⟩
  apply Finset.card_lt_card
  rw [Finset.ssubset_iff_of_subset hsub]
  refine ⟨name, Finset.mem_filter.mpr ⟨hmem, hnew⟩, ?_⟩
  simp

/-! ## Steps -/

private theorem Breaks.length_sent_le {names : List String} {stop : Cursor}
    {wire left : List Outcome} {failure : Failure} {sent : List Request}
    (h : Breaks walk names stop wire failure sent left) :
    sent.length ≤ 1 := by
  cases h <;> simp

/-! ## Runs -/

/-- A walk sends at most one request for each name that it has not seen, and one more. -/
theorem length_requests_go_le {names : Finset String} {wire : List Outcome}
    (h : ∀ name ∈ walk.namesIn wire, name ∈ names) (cursor : Cursor) (seen : List String)
    (records : List α) (pages : Nat) :
    (go walk cursor seen records pages wire).requests.length ≤ remaining names seen + 1 := by
  induction wire generalizing cursor seen records pages with
  | nil =>
    obtain ⟨failure, sent, hbreaks⟩ := exists_breaks_nil walk cursor seen
    rw [(go_of_breaks hbreaks).2.1]
    exact Nat.le_trans hbreaks.length_sent_le (Nat.le_add_left 1 _)
  | cons outcome rest ih =>
    obtain ⟨failure, sent, left, hbreaks⟩ | ⟨visit, rfl, rfl, hlast | ⟨name, hnext, hnew⟩⟩ :=
      exists_step walk cursor seen outcome rest
    · rw [(go_of_breaks hbreaks).2.1]
      exact Nat.le_trans hbreaks.length_sent_le (Nat.le_add_left 1 _)
    · rw [go_last visit rest hlast]
      simp [Report.requests, List.filterMap_cons, debug]
    · have hmem : name ∈ names := by
        refine h name (List.mem_filterMap.mpr ⟨_, List.mem_cons_self, ?_⟩)
        rw [nameIn?_of_read visit.read, hnext]
      have hrest : ∀ other ∈ walk.namesIn rest, other ∈ names := by
        intro other ho
        obtain ⟨outcome, hout, hname⟩ := List.mem_filterMap.mp ho
        exact h other (List.mem_filterMap.mpr ⟨outcome, List.mem_cons_of_mem _ hout, hname⟩)
      have hless := remaining_cons_lt hmem hnew
      have hgo := ih hrest (.next name) (name :: seen) (records ++ visit.page.records) (pages + 1)
      rw [go_next visit rest hnext hnew, Report.requests_after]
      simp only [List.filterMap_cons, debug, Event.request?_logged, Event.request?_sent,
        List.filterMap_nil, List.length_append, List.length_singleton]
      omega

private theorem length_requests_all_le {names : Finset String} {wire : List Outcome}
    (h : ∀ name ∈ walk.namesIn wire, name ∈ names) :
    (walk.all wire).requests.length ≤ names.card + 1 := by
  have hgo := length_requests_go_le h .first [] [] 0
  rwa [remaining_nil] at hgo

/-! ## Walks with a server -/

variable {respond : σ → Request → Outcome × σ} {state : σ}

private theorem heard_of_whole {limit : Nat} {names : List String} {visits : List (Visit walk)}
    {rest : List Outcome} (h : Whole .first names visits)
    (hw : heard respond walk.all limit state [] = answers visits ++ rest) : rest = [] := by
  -- no beginning of what the walk gets answers a whole chain
  have hnone : ∀ rest, heard respond walk.all limit state [] = answers visits ++ rest →
      rest = [] := by
    refine heard_induction (P := fun known => ∀ rest, known = answers visits ++ rest → rest = [])
      (fun rest hrest => ?_) (fun known state request hknown hasked rest hrest => ?_) limit state
    · exact (List.append_eq_nil_iff.mp hrest.symm).2
    · rcases List.eq_nil_or_concat rest with rfl | ⟨front, last, rfl⟩
      · rfl
      · rw [List.concat_eq_append, ← List.append_assoc] at hrest
        obtain ⟨rfl, -⟩ := List.append_inj' hrest rfl
        obtain rfl := hknown front rfl
        rw [(all_of_whole h []).2.1] at hasked
        simp [length_answers] at hasked
  exact hnone rest hw

private theorem namesIn_heard_of_ok {limit : Nat} {records : List α}
    (h : (serve respond walk.all limit state []).1.result = .ok records) :
    (walk.namesIn (heard respond walk.all limit state [])).Nodup ∧
      (walk.namesIn (heard respond walk.all limit state [])).length + 1 =
        (serve respond walk.all limit state []).1.requests.length := by
  rw [serve_eq_heard] at h ⊢
  obtain ⟨names, visits, hwhole, hwire, -, hrequests⟩ :=
    (all_ok_iff walk _ records _ _).mp ⟨h, rfl, rfl⟩
  have hheard := hwire
  rw [heard_of_whole hwhole hwire, List.append_nil] at hheard
  have hnames : walk.namesIn (heard respond walk.all limit state []) = names := by
    rw [hheard, namesIn_answers, hwhole.named, List.filterMap_append, List.filterMap_map]
    simp
  have hlength : visits.length = names.length + 1 := by
    have hcursors := congrArg List.length hwhole.cursors
    simpa using hcursors
  rw [hnames, hrequests, List.length_map, hlength]
  exact ⟨hwhole.distinct, rfl⟩

private theorem namesIn_heard_subset {names : Finset String}
    (h : ∀ state request, ∀ name ∈ walk.nameIn? (respond state request).1, name ∈ names)
    (limit : Nat) (state : σ) :
    ∀ name ∈ walk.namesIn (heard respond walk.all limit state []), name ∈ names := by
  refine heard_induction (P := fun known => ∀ name ∈ walk.namesIn known, name ∈ names)
    (fun name hn => by cases hn) (fun known state request hknown _ name hn => ?_) limit state
  rw [namesIn, List.filterMap_append, List.mem_append] at hn
  rcases hn with hn | hn
  · exact hknown name hn
  · obtain ⟨outcome, ho, hname⟩ := List.mem_filterMap.mp hn
    rw [List.mem_singleton.mp ho] at hname
    exact h state request name hname

/-- A walk of a server that has `k` names to give ends after at most `k + 1` requests, whatever the
server answers and however it changes: longer dialogues with it are all the same. A walk that gives
a listing has got one name less than it has sent requests, and none twice. -/
theorem serve_all_bounded (walk : Walk α) (respond : σ → Request → Outcome × σ) (state : σ)
    (names : Finset String)
    (h : ∀ limit, ∀ name ∈ walk.namesIn (heard respond walk.all limit state []), name ∈ names) :
    (∀ limit, (serve respond walk.all limit state []).1.requests.length ≤ names.card + 1) ∧
    (∀ limit > names.card, serve respond walk.all limit state [] =
      serve respond walk.all (names.card + 1) state []) ∧
    ∀ limit records, (serve respond walk.all limit state []).1.result = .ok records →
      (walk.namesIn (heard respond walk.all limit state [])).toFinset.card + 1 =
        (serve respond walk.all limit state []).1.requests.length := by
  have hbound (limit : Nat) :
      (serve respond walk.all limit state []).1.requests.length ≤ names.card + 1 := by
    rw [serve_eq_heard]
    exact length_requests_all_le (h limit)
  refine ⟨hbound, fun limit hlimit => ?_, fun limit records hok => ?_⟩
  · obtain ⟨more, rfl⟩ := Nat.exists_eq_add_of_le (Nat.succ_le_of_lt hlimit)
    refine serve_settled ?_ more
    rw [List.length_nil, Nat.zero_add]
    exact hbound _
  · obtain ⟨hnodup, hlength⟩ := namesIn_heard_of_ok hok
    rw [List.toFinset_card_of_nodup hnodup, hlength]

end Walk

namespace Client

/-- A server that answers by turns with two pages, whatever it is asked. -/
def takeTurns : Bool → Request → Outcome × Bool
  | true, _ => (.ok upperPage, false)
  | false, _ => (.ok lowerPage, true)

/-- One name to give: at most two requests, and two for the listing. -/
theorem serve_all_bounded_turns :
    let walk := loopback.lookupWalk "bearer abc" "web"
    (∀ limit, ∀ name ∈ walk.namesIn (Dialogue.heard takeTurns walk.all limit true []),
      name ∈ ({"/v2/apps?page=2"} : Finset String)) ∧
    (∀ limit, (Dialogue.serve takeTurns walk.all limit true []).1.requests.length ≤ 2) ∧
    (Dialogue.serve takeTurns walk.all 7 true []).1.result = .ok [upper, lower] ∧
    (walk.namesIn (Dialogue.heard takeTurns walk.all 7 true [])).toFinset.card + 1 =
      (Dialogue.serve takeTurns walk.all 7 true []).1.requests.length := by
  intro walk
  have hupper : walk.parse upperPage = .ok ⟨[upper], some "/v2/apps?page=2"⟩ :=
    Query.parse_walk (loopback.lookupQuery "web") "bearer abc" decodePage_upperPage
  have hlower : walk.parse lowerPage = .ok ⟨[lower], none⟩ :=
    Query.parse_walk (loopback.lookupQuery "web") "bearer abc" decodePage_lowerPage
  have hnames : ∀ limit, ∀ name ∈ walk.namesIn (Dialogue.heard takeTurns walk.all limit true []),
      name ∈ ({"/v2/apps?page=2"} : Finset String) := by
    refine fun limit => Walk.namesIn_heard_subset (fun first request name hname => ?_) limit true
    cases first with
    | true =>
      have hturn : walk.nameIn? (takeTurns true request).1 = some "/v2/apps?page=2" :=
        Walk.nameIn?_of_read hupper
      rw [hturn] at hname
      cases hname
      exact Finset.mem_singleton_self _
    | false =>
      have hturn : walk.nameIn? (takeTurns false request).1 = none := Walk.nameIn?_of_read hlower
      rw [hturn] at hname
      cases hname
  have hok : (Dialogue.serve takeTurns walk.all 7 true []).1.result = .ok [upper, lower] := by
    decide +kernel
  obtain ⟨hbound, -, hexact⟩ := Walk.serve_all_bounded walk takeTurns true _ hnames
  exact ⟨hnames, hbound, hok, hexact 7 _ hok⟩

end Client

end RuntimeFlag
