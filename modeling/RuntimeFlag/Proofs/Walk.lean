import RuntimeFlag.Proofs.Dialogue
import RuntimeFlag.Proofs.Result
import RuntimeFlag.Walk
/-!
# What a walk gives

A walk succeeds exactly on the outcomes that answer a whole chain of pages: each page but the last
names the next one, by a name of its own, and the last names none. On all other outcomes it ends
with the failure of the first step that fails, behind the beginning of a chain.
-/
namespace RuntimeFlag.Walk

variable {α : Type}

/-- A page as a walk gets it: asked for, answered and read. -/
structure Visit (walk : Walk α) where
  cursor : Cursor
  request : Request
  body : Bytes
  page : Page α
  built : walk.request cursor = .ok request
  read : walk.parse body = .ok page

variable {walk : Walk α}

/-- The outcomes that answer the requests of visits. -/
def answers (visits : List (Visit walk)) : List Outcome := visits.map fun visit => .ok visit.body

@[simp] theorem answers_cons (visit : Visit walk) (visits : List (Visit walk)) :
    answers (visit :: visits) = .ok visit.body :: answers visits := rfl

/-- The pages follow one another from a cursor on: each but the last names the next one, the last
names none, and all names differ. -/
structure Whole (start : Cursor) (names : List String) (visits : List (Visit walk)) : Prop where
  cursors : visits.map (·.cursor) = start :: names.map .next
  named : visits.map (·.page.next) = names.map some ++ [none]
  distinct : names.Nodup

/-- The pages follow one another from a cursor on: each names the next one, the last leads to the
cursor `stop`, and all names differ. Without pages, `stop` is where they would start. -/
structure Begun (start : Cursor) (names : List String) (visits : List (Visit walk))
    (stop : Cursor) : Prop where
  cursors : visits.map (·.cursor) ++ [stop] = start :: names.map .next
  named : visits.map (·.page.next) = names.map some
  distinct : names.Nodup

/-- The step at a cursor fails, when the outcomes `wire` are left and some names were given before:
the failure, the requests that it sends, and the outcomes that are left after it. -/
inductive Breaks (walk : Walk α) (names : List String) (stop : Cursor) :
    List Outcome → Failure → List Request → List Outcome → Prop
  | unbuilt {wire : List Outcome} {failure : Failure} (built : walk.request stop = .error failure) :
    Breaks walk names stop wire failure [] wire
  | unanswered {request : Request} (built : walk.request stop = .ok request) :
    Breaks walk names stop [] (.api silence) [request] []
  | refused {request : Request} {fault : ApiFault} {rest : List Outcome}
    (built : walk.request stop = .ok request) :
    Breaks walk names stop (.error fault :: rest) (.api fault) [request] rest
  | unread {request : Request} {body : Bytes} {failure : Failure} {rest : List Outcome}
    (built : walk.request stop = .ok request) (read : walk.parse body = .error failure) :
    Breaks walk names stop (.ok body :: rest) failure [request] rest
  | repeated {request : Request} {body : Bytes} {page : Page α} {name : String}
    {rest : List Outcome} (built : walk.request stop = .ok request)
    (read : walk.parse body = .ok page) (next : page.next = some name) (known : name ∈ names) :
    Breaks walk names stop (.ok body :: rest) (loopFailure name) [request] rest

/-! ## Chains -/

private theorem Whole.last {visit : Visit walk} (h : visit.page.next = none) :
    Whole visit.cursor [] [visit] :=
  ⟨rfl, by rw [List.map_cons, h]; rfl, List.nodup_nil⟩

private theorem Whole.cons {visit : Visit walk} {name : String} {names : List String}
    {visits : List (Visit walk)} (h : visit.page.next = some name)
    (hw : Whole (.next name) names visits) (hn : name ∉ names) :
    Whole visit.cursor (name :: names) (visit :: visits) :=
  ⟨by rw [List.map_cons, hw.cursors, List.map_cons],
    by rw [List.map_cons, h, hw.named, List.map_cons, List.cons_append],
    List.nodup_cons.mpr ⟨hn, hw.distinct⟩⟩

theorem Begun.here (start : Cursor) : Begun start [] ([] : List (Visit walk)) start :=
  ⟨rfl, rfl, List.nodup_nil⟩

private theorem Begun.cons {visit : Visit walk} {name : String} {names : List String}
    {visits : List (Visit walk)} {stop : Cursor} (h : visit.page.next = some name)
    (hb : Begun (.next name) names visits stop) (hn : name ∉ names) :
    Begun visit.cursor (name :: names) (visit :: visits) stop :=
  ⟨by rw [List.map_cons, List.cons_append, hb.cursors, List.map_cons],
    by rw [List.map_cons, h, hb.named, List.map_cons],
    List.nodup_cons.mpr ⟨hn, hb.distinct⟩⟩

theorem Whole.uncons {start : Cursor} {names : List String} {visit : Visit walk}
    {visits : List (Visit walk)} (h : Whole start names (visit :: visits)) :
    visit.cursor = start ∧
      (visit.page.next = none ∧ names = [] ∧ visits = [] ∨
        ∃ name others, visit.page.next = some name ∧ names = name :: others ∧ name ∉ others ∧
          Whole (.next name) others visits) := by
  obtain ⟨hc, hn, hd⟩ := h
  rw [List.map_cons, List.cons.injEq] at hc
  refine ⟨hc.1, ?_⟩
  cases names with
  | nil =>
    rw [List.map_cons, List.map_nil, List.nil_append, List.cons.injEq] at hn
    exact .inl ⟨hn.1, rfl, List.map_eq_nil_iff.mp hn.2⟩
  | cons name others =>
    rw [List.map_cons, List.map_cons, List.cons_append, List.cons.injEq] at hn
    have hd := List.nodup_cons.mp hd
    exact .inr ⟨name, others, hn.1, rfl, hd.1, hc.2, hn.2, hd.2⟩

private theorem Begun.uncons {start stop : Cursor} {names : List String} {visit : Visit walk}
    {visits : List (Visit walk)} (h : Begun start names (visit :: visits) stop) :
    visit.cursor = start ∧
      ∃ name others, visit.page.next = some name ∧ names = name :: others ∧ name ∉ others ∧
        Begun (.next name) others visits stop := by
  obtain ⟨hc, hn, hd⟩ := h
  rw [List.map_cons, List.cons_append, List.cons.injEq] at hc
  refine ⟨hc.1, ?_⟩
  cases names with
  | nil => cases hn
  | cons name others =>
    rw [List.map_cons, List.map_cons, List.cons.injEq] at hn
    have hd := List.nodup_cons.mp hd
    exact ⟨name, others, hn.1, rfl, hd.1, hc.2, hn.2, hd.2⟩

private theorem Begun.unnil {start stop : Cursor} {names : List String}
    (h : Begun start names ([] : List (Visit walk)) stop) : stop = start ∧ names = [] := by
  have hn : names = [] := List.map_eq_nil_iff.mp h.named.symm
  subst hn
  exact ⟨(List.cons.inj h.cursors).1, rfl⟩

private theorem Breaks.mono {names others : List String} {stop : Cursor} {wire left : List Outcome}
    {failure : Failure} {sent : List Request} (hsub : ∀ name ∈ names, name ∈ others)
    (h : Breaks walk names stop wire failure sent left) :
    Breaks walk others stop wire failure sent left := by
  cases h with
  | unbuilt built => exact .unbuilt built
  | unanswered built => exact .unanswered built
  | refused built => exact .refused built
  | unread built read => exact .unread built read
  | repeated built read next known => exact .repeated built read next (hsub _ known)

/-! ## Steps of a walk -/

variable {seen : List String} {records : List α} {pages : Nat}

theorem go_last (visit : Visit walk) (rest : List Outcome) (h : visit.page.next = none) :
    go walk visit.cursor seen records pages (.ok visit.body :: rest) =
      ⟨.ok (records ++ visit.page.records),
        [debug ("GET " ++ visit.request.url.text), .sent visit.request,
          debug (pageText (pages + 1) visit.page),
          debug (doneText (records ++ visit.page.records).length (pages + 1))], rest⟩ := by
  simp only [go, visit.built, mapError_ok, Except.bind, visit.read, h]
  rfl

theorem go_next (visit : Visit walk) (rest : List Outcome) {name : String}
    (h : visit.page.next = some name) (hs : name ∉ seen) :
    go walk visit.cursor seen records pages (.ok visit.body :: rest) =
      (go walk (.next name) (name :: seen) (records ++ visit.page.records) (pages + 1) rest).after
        [debug ("GET " ++ visit.request.url.text), .sent visit.request,
          debug (pageText (pages + 1) visit.page)] := by
  have hc : seen.contains name = false := by simpa using hs
  simp only [go, visit.built, mapError_ok, Except.bind, visit.read, h, hc]
  rfl

/-- A step that fails ends the walk, and gives nothing of what was read before. -/
theorem go_of_breaks {stop : Cursor} {wire left : List Outcome} {failure : Failure}
    {sent : List Request} (h : Breaks walk seen stop wire failure sent left) :
    let report := go walk stop seen records pages wire
    report.result = .error failure ∧ report.requests = sent ∧ report.unused = left := by
  cases h with
  | unbuilt built => cases wire <;> simp [go, built, Report.requests]
  | unanswered built => simp [go, built, Report.requests, List.filterMap_cons, debug]
  | refused built =>
    simp [go, built, Report.requests, List.filterMap_cons, debug, Except.bind]
  | unread built read =>
    simp [go, built, Report.requests, List.filterMap_cons, debug, Except.bind, read]
  | repeated built read next known =>
    simp [go, built, Report.requests, List.filterMap_cons, debug, Except.bind,
      read, next, known]

theorem exists_breaks_nil (walk : Walk α) (cursor : Cursor) (seen : List String) :
    ∃ failure sent, Breaks walk seen cursor [] failure sent [] := by
  cases built : walk.request cursor with
  | error failure => exact ⟨failure, [], .unbuilt built⟩
  | ok request => exact ⟨.api silence, [request], .unanswered built⟩

/-- At a cursor a walk fails, or it gets a page, which is the last one or has a name that the walk
has not seen. -/
theorem exists_step (walk : Walk α) (cursor : Cursor) (seen : List String) (outcome : Outcome)
    (rest : List Outcome) :
    (∃ failure sent left, Breaks walk seen cursor (outcome :: rest) failure sent left) ∨
    ∃ visit : Visit walk, visit.cursor = cursor ∧ outcome = .ok visit.body ∧
      (visit.page.next = none ∨ ∃ name, visit.page.next = some name ∧ name ∉ seen) := by
  cases built : walk.request cursor with
  | error failure => exact .inl ⟨_, _, _, .unbuilt built⟩
  | ok request =>
    cases outcome with
    | error fault => exact .inl ⟨_, _, _, .refused built⟩
    | ok body =>
      cases read : walk.parse body with
      | error failure => exact .inl ⟨_, _, _, .unread built read⟩
      | ok page =>
        cases next : page.next with
        | none => exact .inr ⟨⟨cursor, request, body, page, built, read⟩, rfl, rfl, .inl next⟩
        | some name =>
          by_cases known : name ∈ seen
          · exact .inl ⟨_, _, _, .repeated built read next known⟩
          · exact .inr ⟨⟨cursor, request, body, page, built, read⟩, rfl, rfl,
              .inr ⟨name, next, known⟩⟩

private theorem Breaks.head?_sent {names : List String} {stop : Cursor} {wire left : List Outcome}
    {failure : Failure} {sent : List Request}
    (h : Breaks walk names stop wire failure sent left) :
    sent.head? = (walk.request stop).toOption := by
  cases h <;> simp [*, Except.toOption]

theorem head?_requests_go (cursor : Cursor) (wire : List Outcome) :
    (go walk cursor seen records pages wire).requests.head? =
      (walk.request cursor).toOption := by
  have hbreaks {failure : Failure} {sent : List Request} {left : List Outcome}
      (h : Breaks walk seen cursor wire failure sent left) :
      (go walk cursor seen records pages wire).requests.head? =
        (walk.request cursor).toOption := by
    rw [(go_of_breaks h).2.1]
    exact h.head?_sent
  cases wire with
  | nil =>
    obtain ⟨failure, sent, h⟩ := exists_breaks_nil walk cursor seen
    exact hbreaks h
  | cons outcome rest =>
    obtain ⟨failure, sent, left, h⟩ | ⟨visit, rfl, rfl, next | ⟨name, next, known⟩⟩ :=
      exists_step walk cursor seen outcome rest
    · exact hbreaks h
    · rw [go_last visit rest next, visit.built]
      rfl
    · rw [go_next visit rest next known, Report.requests_after, visit.built]
      rfl

/-! ## Runs of a walk -/

private theorem unseen_of_cons {name : String} {names : List String} (hname : name ∉ names)
    (h : ∀ other ∈ name :: names, other ∉ seen) : ∀ other ∈ names, other ∉ name :: seen := by
  intro other ho hm
  rcases List.mem_cons.mp hm with rfl | hm
  · exact hname ho
  · exact h other (List.mem_cons_of_mem _ ho) hm

private theorem unseen_cons {name : String} {names : List String} (hname : name ∉ seen)
    (h : ∀ other ∈ names, other ∉ name :: seen) : ∀ other ∈ name :: names, other ∉ seen :=
  List.forall_mem_cons.mpr
    ⟨hname, fun other ho hm => h other ho (List.mem_cons_of_mem _ hm)⟩

private theorem go_of_whole {start : Cursor} {names : List String} {visits : List (Visit walk)}
    (h : Whole start names visits) (hseen : ∀ name ∈ names, name ∉ seen) (rest : List Outcome) :
    let report := go walk start seen records pages (answers visits ++ rest)
    report.result = .ok (records ++ visits.flatMap (·.page.records)) ∧
      report.requests = visits.map (·.request) ∧ report.unused = rest := by
  induction visits generalizing start names seen records pages with
  | nil => cases h.cursors
  | cons visit visits ih =>
    obtain ⟨rfl, ⟨hnext, rfl, rfl⟩ | ⟨name, others, hnext, rfl, hname, hw⟩⟩ := h.uncons
    · rw [answers_cons, List.cons_append, go_last visit _ hnext]
      exact ⟨by simp, by simp [Report.requests, List.filterMap_cons, debug], rfl⟩
    · obtain ⟨hresult, hrequests, hunused⟩ := ih hw (unseen_of_cons hname hseen)
      rw [answers_cons, List.cons_append,
        go_next visit _ hnext (hseen name List.mem_cons_self)]
      refine ⟨hresult.trans ?_, ?_, hunused⟩
      · rw [List.flatMap_cons, List.append_assoc]
      · rw [Report.requests_after, List.map_cons]
        simpa [List.filterMap_cons, debug] using hrequests

private theorem go_of_begun {start stop : Cursor} {names : List String} {visits : List (Visit walk)}
    {rest left : List Outcome} {failure : Failure} {sent : List Request}
    (h : Begun start names visits stop) (hseen : ∀ name ∈ names, name ∉ seen)
    (hb : Breaks walk (names ++ seen) stop rest failure sent left) :
    let report := go walk start seen records pages (answers visits ++ rest)
    report.result = .error failure ∧ report.requests = visits.map (·.request) ++ sent ∧
      report.unused = left := by
  induction visits generalizing start names seen records pages with
  | nil =>
    obtain ⟨rfl, rfl⟩ := h.unnil
    exact go_of_breaks hb
  | cons visit visits ih =>
    obtain ⟨rfl, name, others, hnext, rfl, hname, hbegun⟩ := h.uncons
    -- the name has moved from those of the chain to those that the walk has seen
    have hmoved : ∀ other ∈ name :: others ++ seen, other ∈ others ++ name :: seen :=
      fun other ho => List.perm_middle.mem_iff.mpr ho
    obtain ⟨hresult, hrequests, hunused⟩ :=
      ih hbegun (unseen_of_cons hname hseen) (hb.mono hmoved)
    rw [answers_cons, List.cons_append,
      go_next visit _ hnext (hseen name (by simp))]
    refine ⟨hresult, ?_, hunused⟩
    rw [Report.requests_after, List.map_cons]
    simpa [List.filterMap_cons, debug] using hrequests

/-- Outcomes answer a whole chain, or the beginning of one behind which a step fails. -/
theorem exists_course (walk : Walk α) (wire : List Outcome) (start : Cursor)
    (seen : List String) :
    (∃ names, ∃ visits : List (Visit walk), ∃ rest, Whole start names visits ∧
      (∀ name ∈ names, name ∉ seen) ∧ wire = answers visits ++ rest) ∨
    ∃ names, ∃ visits : List (Visit walk), ∃ stop rest failure sent left,
      Begun start names visits stop ∧ (∀ name ∈ names, name ∉ seen) ∧
      wire = answers visits ++ rest ∧ Breaks walk (names ++ seen) stop rest failure sent left := by
  induction wire generalizing start seen with
  | nil =>
    obtain ⟨failure, sent, hbreaks⟩ := exists_breaks_nil walk start seen
    exact .inr ⟨[], [], start, [], failure, sent, [], .here start, by simp, rfl, hbreaks⟩
  | cons outcome rest ih =>
    have hhere {failure : Failure} {sent : List Request} {left : List Outcome}
        (h : Breaks walk seen start (outcome :: rest) failure sent left) :
        ∃ names, ∃ visits : List (Visit walk), ∃ stop rest' failure sent left,
          Begun start names visits stop ∧ (∀ name ∈ names, name ∉ seen) ∧
          outcome :: rest = answers visits ++ rest' ∧
          Breaks walk (names ++ seen) stop rest' failure sent left :=
      ⟨[], [], start, outcome :: rest, failure, sent, left, .here start, by simp, rfl, h⟩
    obtain ⟨failure, sent, left, hbreaks⟩ | ⟨visit, rfl, rfl, next | ⟨name, next, known⟩⟩ :=
      exists_step walk start seen outcome rest
    · exact .inr (hhere hbreaks)
    · exact .inl ⟨[], [visit], rest, Whole.last next, by simp, rfl⟩
    · rcases ih (.next name) (name :: seen) with
        ⟨names, visits, left, hw, hs, rfl⟩ |
        ⟨names, visits, stop, rest, failure, sent, left, hb, hs, rfl, hf⟩
      · have hname : name ∉ names := fun hn => hs name hn List.mem_cons_self
        exact .inl ⟨name :: names, visit :: visits, left,
          Whole.cons next hw hname, unseen_cons known hs, rfl⟩
      · have hname : name ∉ names := fun hn => hs name hn List.mem_cons_self
        exact .inr ⟨name :: names, visit :: visits, stop, rest, failure, sent, left,
          Begun.cons next hb hname, unseen_cons known hs, rfl,
          hf.mono fun other ho => List.perm_middle.mem_iff.mp ho⟩

/-! ## Walks from the first page on -/

theorem all_of_whole {names : List String} {visits : List (Visit walk)}
    (h : Whole .first names visits) (rest : List Outcome) :
    let report := walk.all (answers visits ++ rest)
    report.result = .ok (visits.flatMap (·.page.records)) ∧
      report.requests = visits.map (·.request) ∧ report.unused = rest :=
  go_of_whole h (fun _ _ => List.not_mem_nil) rest

theorem all_of_begun {names : List String} {visits : List (Visit walk)} {stop : Cursor}
    {rest left : List Outcome} {failure : Failure} {sent : List Request}
    (h : Begun .first names visits stop) (hb : Breaks walk names stop rest failure sent left) :
    let report := walk.all (answers visits ++ rest)
    report.result = .error failure ∧ report.requests = visits.map (·.request) ++ sent ∧
      report.unused = left :=
  go_of_begun h (fun _ _ => List.not_mem_nil) (by rwa [List.append_nil])

private theorem exists_course_of_all (walk : Walk α) (wire : List Outcome) :
    (∃ names, ∃ visits : List (Visit walk), ∃ rest, Whole .first names visits ∧
      wire = answers visits ++ rest) ∨
    ∃ names, ∃ visits : List (Visit walk), ∃ stop rest failure sent left,
      Begun .first names visits stop ∧ wire = answers visits ++ rest ∧
      Breaks walk names stop rest failure sent left := by
  rcases exists_course walk wire .first [] with
    ⟨names, visits, rest, hw, -, hwire⟩ |
    ⟨names, visits, stop, rest, failure, sent, left, hb, -, hwire, hf⟩
  · exact .inl ⟨names, visits, rest, hw, hwire⟩
  · rw [List.append_nil] at hf
    exact .inr ⟨names, visits, stop, rest, failure, sent, left, hb, hwire, hf⟩

theorem all_ok_iff (walk : Walk α) (wire : List Outcome) (records : List α)
    (requests : List Request) (unused : List Outcome) :
    ((walk.all wire).result = .ok records ∧ (walk.all wire).requests = requests ∧
      (walk.all wire).unused = unused) ↔
    ∃ names, ∃ visits : List (Visit walk), Whole .first names visits ∧
      wire = answers visits ++ unused ∧ records = visits.flatMap (·.page.records) ∧
      requests = visits.map (·.request) := by
  constructor
  · rintro ⟨h, rfl, rfl⟩
    rcases exists_course_of_all walk wire with
      ⟨names, visits, rest, hw, rfl⟩ | ⟨names, visits, stop, rest, failure, sent, left, hb, rfl, hf⟩
    · obtain ⟨hr, hrequests, hunused⟩ := all_of_whole hw rest
      exact ⟨names, visits, hw, by rw [hunused], Except.ok.inj (h.symm.trans hr), hrequests⟩
    · have hr := (all_of_begun hb hf).1
      cases h.symm.trans hr
  · rintro ⟨names, visits, hw, rfl, rfl, rfl⟩
    exact all_of_whole hw unused

theorem all_error_iff (walk : Walk α) (wire : List Outcome) (failure : Failure)
    (requests : List Request) (unused : List Outcome) :
    ((walk.all wire).result = .error failure ∧ (walk.all wire).requests = requests ∧
      (walk.all wire).unused = unused) ↔
    ∃ names, ∃ visits : List (Visit walk), ∃ stop rest sent, Begun .first names visits stop ∧
      wire = answers visits ++ rest ∧ Breaks walk names stop rest failure sent unused ∧
      requests = visits.map (·.request) ++ sent := by
  constructor
  · rintro ⟨h, rfl, rfl⟩
    rcases exists_course_of_all walk wire with
      ⟨names, visits, rest, hw, rfl⟩ | ⟨names, visits, stop, rest, other, sent, left, hb, rfl, hf⟩
    · have hr := (all_of_whole hw rest).1
      cases h.symm.trans hr
    · obtain ⟨hr, hrequests, hunused⟩ := all_of_begun hb hf
      cases h.symm.trans hr
      exact ⟨names, visits, stop, rest, sent, hb, rfl, by rwa [hunused], hrequests⟩
  · rintro ⟨names, visits, stop, rest, sent, hb, rfl, hf, rfl⟩
    exact all_of_begun hb hf

theorem sends_all {P : Request → Prop}
    (h : ∀ cursor request, walk.request cursor = .ok request → P request) :
    Dialogue.Sends P walk.all := by
  intro wire request hr
  have hvisit (visits : List (Visit walk)) (hm : request ∈ visits.map (·.request)) : P request := by
    obtain ⟨visit, -, rfl⟩ := List.mem_map.mp hm
    exact h visit.cursor visit.request visit.built
  rcases exists_course_of_all walk wire with
    ⟨names, visits, rest, hw, rfl⟩ | ⟨names, visits, stop, rest, failure, sent, left, hb, rfl, hf⟩
  · rw [(all_of_whole hw rest).2.1] at hr
    exact hvisit visits hr
  · rw [(all_of_begun hb hf).2.1] at hr
    rcases List.mem_append.mp hr with hr | hr
    · exact hvisit visits hr
    · cases hf with
      | unbuilt => cases hr
      | unanswered built => exact h stop _ (List.mem_singleton.mp hr ▸ built)
      | refused built => exact h stop _ (List.mem_singleton.mp hr ▸ built)
      | unread built => exact h stop _ (List.mem_singleton.mp hr ▸ built)
      | repeated built => exact h stop _ (List.mem_singleton.mp hr ▸ built)

/-- A walk that succeeds has got a whole chain from the first page on, and gives the records of its
pages in order; it has sent the requests of the chain and no other. A walk that fails does so with
the first step that fails, after the requests up to that step. -/
theorem all_exact (walk : Walk α) (wire : List Outcome) :
    (∀ records, (walk.all wire).result = .ok records ↔
      ∃ names, ∃ visits : List (Visit walk), ∃ rest, Whole .first names visits ∧
        wire = answers visits ++ rest ∧ records = visits.flatMap (·.page.records)) ∧
    (∀ records requests unused,
      ((walk.all wire).result = .ok records ∧ (walk.all wire).requests = requests ∧
        (walk.all wire).unused = unused) ↔
      ∃ names, ∃ visits : List (Visit walk), Whole .first names visits ∧
        wire = answers visits ++ unused ∧ records = visits.flatMap (·.page.records) ∧
        requests = visits.map (·.request)) ∧
    (∀ failure requests unused,
      ((walk.all wire).result = .error failure ∧ (walk.all wire).requests = requests ∧
        (walk.all wire).unused = unused) ↔
      ∃ names, ∃ visits : List (Visit walk), ∃ stop rest sent, Begun .first names visits stop ∧
        wire = answers visits ++ rest ∧ Breaks walk names stop rest failure sent unused ∧
        requests = visits.map (·.request) ++ sent) := by
  refine ⟨fun records => ?_, all_ok_iff walk wire, all_error_iff walk wire⟩
  constructor
  · intro h
    obtain ⟨names, visits, hw, hwire, hrecords, -⟩ :=
      (all_ok_iff walk wire records _ _).mp ⟨h, rfl, rfl⟩
    exact ⟨names, visits, _, hw, hwire, hrecords⟩
  · rintro ⟨names, visits, rest, hw, rfl, rfl⟩
    exact (all_of_whole hw rest).1

end RuntimeFlag.Walk
