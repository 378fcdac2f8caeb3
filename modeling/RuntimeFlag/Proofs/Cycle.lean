import Mathlib.Data.List.Nodup
import Mathlib.Data.Option.Basic
import RuntimeFlag.Proofs.Collection
import RuntimeFlag.Proofs.FirstPage
/-!
# Walks of a consistent server

A walk compares the names of pages as texts, while a server tells pages by their URLs, of which it
never sees the fragment. Where equal URLs get equal answers this is enough: two visits of one page
would get the same name for the next one, so no page is counted twice, and a cycle of pages is
noticed at the latest when a name comes back.
-/
namespace RuntimeFlag

/-- The URL as a server sees it. -/
def Url.sent (url : Url) : Url := { url with fragment := none }

namespace Dialogue

variable {α : Type} {dialogue : Dialogue α} {answer : Request → Outcome} {known : List Outcome}

private theorem converse_done (h : (dialogue known).requests[known.length]? = none) (limit : Nat) :
    converse answer dialogue limit known = dialogue known := by
  cases limit with
  | zero => rfl
  | succ limit => rw [converse, h]

private theorem converse_ask {request : Request}
    (h : (dialogue known).requests[known.length]? = some request) (limit : Nat) :
    converse answer dialogue (limit + 1) known =
      converse answer dialogue limit (known ++ [answer request]) := by
  rw [converse, h]

end Dialogue

namespace Walk

open Dialogue

variable {α : Type} {walk : Walk α} {serve : Url → Outcome} {names : List String}
  {visits : List (Visit walk)} {start stop : Cursor}

/-- The walk, held with a server that answers at most `limit` requests, each by its URL. -/
def heldWith (walk : Walk α) (serve : Url → Outcome) (limit : Nat) : Report (List α) :=
  converse (fun request => serve request.url.sent) walk.all limit []

namespace Visit

/-- The URL of a visit, as the server sees it. -/
def url (visit : Visit walk) : Url := visit.request.url.sent

/-- The page of a visit is the one that the server gives. -/
def ServedBy (visit : Visit walk) (serve : Url → Outcome) : Prop :=
  serve visit.url = .ok visit.body

private theorem page_eq_of_url_eq {visit other : Visit walk} (hv : visit.ServedBy serve)
    (ho : other.ServedBy serve) (h : visit.url = other.url) : visit.page = other.page := by
  have hserve : serve visit.url = .ok other.body := h ▸ ho
  have hbody : visit.body = other.body := Except.ok.inj (hv.symm.trans hserve)
  have hread : walk.parse visit.body = .ok other.page := hbody ▸ other.read
  exact Except.ok.inj (visit.read.symm.trans hread)

end Visit

private theorem nodup_url_of_nodup_next (hs : ∀ visit ∈ visits, visit.ServedBy serve)
    (h : (visits.map (·.page.next)).Nodup) : (visits.map (·.url)).Nodup := by
  induction visits with
  | nil => exact List.nodup_nil
  | cons visit visits ih =>
    rw [List.map_cons, List.nodup_cons] at h ⊢
    refine ⟨fun hm => h.1 ?_, ih (fun other ho => hs other (List.mem_cons_of_mem _ ho)) h.2⟩
    obtain ⟨other, ho, hurl⟩ := List.mem_map.mp hm
    have hpage := Visit.page_eq_of_url_eq (hs other (List.mem_cons_of_mem _ ho))
      (hs visit List.mem_cons_self) hurl
    exact List.mem_map.mpr ⟨other, ho, congrArg Page.next hpage⟩

private theorem Whole.nodup_next (h : Whole start names visits) :
    (visits.map (·.page.next)).Nodup := by
  rw [h.named, List.nodup_append]
  refine ⟨h.distinct.map (Option.some_injective _), List.nodup_singleton _, ?_⟩
  rintro _ hn _ hlast rfl
  obtain ⟨name, -, hname⟩ := List.mem_map.mp hn
  rw [List.mem_singleton] at hlast
  cases hname.trans hlast

private theorem Begun.nodup_next (h : Begun start names visits stop) :
    (visits.map (·.page.next)).Nodup := by
  rw [h.named]
  exact h.distinct.map (Option.some_injective _)

/-! ## Steps with a server -/

theorem length_answers (visits : List (Visit walk)) : (answers visits).length = visits.length :=
  List.length_map _

private theorem Begun.not_ok (h : Begun .first names visits stop) (records : List α) :
    (walk.all (answers visits)).result ≠ .ok records := by
  have hstop : ∃ failure, (walk.all (answers visits)).result = .error failure := by
    cases built : walk.request stop with
    | error failure =>
      have hbreaks : Breaks walk names stop [] failure [] [] := .unbuilt built
      have hend := (all_of_begun h hbreaks).1
      rw [List.append_nil] at hend
      exact ⟨failure, hend⟩
    | ok request =>
      have hend := (all_of_begun h (Breaks.unanswered built)).1
      rw [List.append_nil] at hend
      exact ⟨_, hend⟩
  obtain ⟨failure, hfailure⟩ := hstop
  intro hok
  cases hfailure.symm.trans hok

section

variable (serve)

private theorem Begun.converse_ask (h : Begun .first names visits stop) {request : Request}
    (built : walk.request stop = .ok request) (limit : Nat) :
    converse (fun request => serve request.url.sent) walk.all (limit + 1) (answers visits) =
      converse (fun request => serve request.url.sent) walk.all limit
        (answers visits ++ [serve request.url.sent]) := by
  have hrequest : (walk.all (answers visits)).requests[(answers visits).length]? =
      some request := by
    rw [h.requests_all built, length_answers, List.getElem?_append_right (by simp)]
    simp
  exact Dialogue.converse_ask hrequest limit

/-- A step that fails ends the walk, however many requests the server would still answer. -/
theorem Begun.converse_of_breaks (h : Begun .first names visits stop) {outcome : Outcome}
    {failure : Failure} {request : Request}
    (hb : Breaks walk names stop [outcome] failure [request] []) (limit : Nat) :
    (converse (fun request => serve request.url.sent) walk.all limit
      (answers visits ++ [outcome])).result = .error failure := by
  obtain ⟨hresult, hrequests, -⟩ := all_of_begun h hb
  rw [converse_done (by simp [hrequests, length_answers]), hresult]

end

/-! ## Listings -/

/-- A listing that is got from a server is a whole chain of its pages. -/
theorem Begun.whole_of_converse (h : Begun .first names visits stop)
    (hs : ∀ visit ∈ visits, visit.ServedBy serve) {limit : Nat} {records : List α}
    (hok : (converse (fun request => serve request.url.sent) walk.all limit
      (answers visits)).result = .ok records) :
    ∃ others, ∃ chain : List (Visit walk), Whole .first others chain ∧
      (∀ visit ∈ chain, visit.ServedBy serve) ∧
      (converse (fun request => serve request.url.sent) walk.all limit
        (answers visits)).requests = chain.map (·.request) := by
  induction limit generalizing names visits stop with
  | zero => exact (h.not_ok records hok).elim
  | succ limit ih =>
    cases built : walk.request stop with
    | error failure =>
      have hbreaks : Breaks walk names stop [] failure [] [] := .unbuilt built
      obtain ⟨-, hrequests, -⟩ := all_of_begun h hbreaks
      rw [List.append_nil] at hrequests
      rw [converse_done (by simp [hrequests, length_answers])] at hok
      exact (h.not_ok records hok).elim
    | ok request =>
      rw [h.converse_ask serve built] at hok ⊢
      have hbroken {failure : Failure}
          (hb : Breaks walk names stop [serve request.url.sent] failure [request] []) : False := by
        have herror := h.converse_of_breaks serve hb limit
        cases hok.symm.trans herror
      cases answered : serve request.url.sent with
      | error fault =>
        rw [answered] at hbroken
        exact (hbroken (.refused built)).elim
      | ok body =>
        rw [answered] at hok hbroken
        cases read : walk.parse body with
        | error failure => exact (hbroken (.unread built read)).elim
        | ok page =>
          obtain ⟨visit, rfl, rfl, rfl, rfl⟩ : ∃ visit : Visit walk, visit.cursor = stop ∧
              visit.request = request ∧ visit.body = body ∧ visit.page = page :=
            ⟨⟨stop, request, body, page, built, read⟩, rfl, rfl, rfl, rfl⟩
          have hserved : ∀ other ∈ visits ++ [visit], other.ServedBy serve := by
            intro other ho
            rcases List.mem_append.mp ho with ho | ho
            · exact hs other ho
            · rw [List.mem_singleton.mp ho]
              exact answered
          rw [← answers_concat] at hok ⊢
          cases next : visit.page.next with
          | none =>
            have hwhole := h.whole next
            obtain ⟨-, hrequests, -⟩ := all_of_whole hwhole []
            rw [List.append_nil] at hrequests
            refine ⟨_, _, hwhole, hserved, ?_⟩
            rw [converse_done (by simp [hrequests, length_answers]), hrequests]
          | some name =>
            by_cases known : name ∈ names
            · exact (hbroken (.repeated built read next known)).elim
            · exact ih (h.concat next known) hserved hok

/-! ## Cycles -/

/-- Pages of a server that follow one another from the first one to a cursor. -/
inductive Trail (walk : Walk α) (serve : Url → Outcome) : List (Visit walk) → Cursor → Prop
  | first : Trail walk serve [] .first
  | next {visits : List (Visit walk)} {visit : Visit walk} {name : String}
    (trail : Trail walk serve visits visit.cursor) (served : visit.ServedBy serve)
    (named : visit.page.next = some name) : Trail walk serve (visits ++ [visit]) (.next name)

private theorem Trail.served (h : Trail walk serve visits stop) :
    ∀ visit ∈ visits, visit.ServedBy serve := by
  induction h with
  | first => exact fun visit hv => nomatch hv
  | next _ served _ ih =>
    intro visit hv
    rcases List.mem_append.mp hv with hv | hv
    · exact ih visit hv
    · rw [List.mem_singleton.mp hv]
      exact served

private theorem Trail.extend (h : Trail walk serve visits stop) {request : Request} {body : Bytes}
    {page : Page α} {name : String} (built : walk.request stop = .ok request)
    (served : serve request.url.sent = .ok body) (read : walk.parse body = .ok page)
    (named : page.next = some name) :
    ∃ visit : Visit walk, visit.url = request.url.sent ∧
      Trail walk serve (visits ++ [visit]) (.next name) :=
  ⟨⟨stop, request, body, page, built, read⟩, rfl, .next h served named⟩

/-- A walk follows a trail without a listing, either to its end or until a name comes back. -/
theorem Trail.course (h : Trail walk serve visits stop) :
    (∀ limit ≤ visits.length, ∀ records, (walk.heldWith serve limit).result ≠ .ok records) ∧
    ((∃ names, Begun .first names visits stop ∧
        ∀ limit, walk.heldWith serve (visits.length + limit) =
          converse (fun request => serve request.url.sent) walk.all limit (answers visits)) ∨
      ∀ limit, ∃ name, (walk.heldWith serve (visits.length + limit)).result =
        .error (loopFailure name)) := by
  induction h with
  | first =>
    refine ⟨fun limit hlimit => ?_, .inl ⟨[], .here .first, fun limit => ?_⟩⟩
    · rw [Nat.le_zero.mp hlimit]
      exact (Begun.here .first).not_ok
    · rw [List.length_nil, Nat.zero_add]
      rfl
  | @next visits visit name trail served named ih =>
    obtain ⟨hshort, hcourse⟩ := ih
    have hlength : (visits ++ [visit]).length = visits.length + 1 := by simp
    -- what holds at the new end and before it holds of all limits up to it
    have hupTo (hend : ∀ records,
        (walk.heldWith serve (visits.length + 1)).result ≠ .ok records) :
        ∀ limit ≤ (visits ++ [visit]).length, ∀ records,
          (walk.heldWith serve limit).result ≠ .ok records := by
      intro limit hlimit
      rcases Nat.lt_or_ge visits.length limit with hlt | hle
      · rw [show limit = visits.length + 1 by omega]
        exact hend
      · exact hshort limit hle
    have hlater (limit : Nat) : (visits ++ [visit]).length + limit = visits.length + (limit + 1) := by
      omega
    rcases hcourse with ⟨names, hb, hheld⟩ | hloop
    · have hstep (limit : Nat) : walk.heldWith serve (visits.length + (limit + 1)) =
          converse (fun request => serve request.url.sent) walk.all limit
            (answers visits ++ [.ok visit.body]) := by
        have hask := hb.converse_ask serve visit.built limit
        have hanswer : serve visit.request.url.sent = .ok visit.body := served
        rw [hheld, hask, hanswer]
      by_cases known : name ∈ names
      · have hloop (limit : Nat) : (walk.heldWith serve (visits.length + (limit + 1))).result =
            .error (loopFailure name) := by
          rw [hstep]
          exact hb.converse_of_breaks serve (.repeated visit.built visit.read named known) limit
        refine ⟨hupTo fun records hok => ?_, .inr fun limit => ⟨name, ?_⟩⟩
        · cases hok.symm.trans (hloop 0)
        · rw [hlater, hloop]
      · have hconcat := hb.concat named known
        refine ⟨hupTo fun records hok => ?_, .inl ⟨_, hconcat, fun limit => ?_⟩⟩
        · rw [hstep 0, ← answers_concat] at hok
          exact hconcat.not_ok records hok
        · rw [hlater, hstep, answers_concat]
    · refine ⟨hupTo fun records hok => ?_, .inr fun limit => ?_⟩
      · obtain ⟨name, herror⟩ := hloop 1
        cases hok.symm.trans herror
      · rw [hlater]
        exact hloop (limit + 1)

/-- A walk of a server that answers equal URLs alike asks for no URL twice when it gives a listing.
Where the pages from the first one on come to a page for the second time, it never gives one, and
fails once the server has answered so many requests. -/
theorem heldWith_consistent (walk : Walk α) (serve : Url → Outcome) :
    (∀ limit records, (walk.heldWith serve limit).result = .ok records →
      ((walk.heldWith serve limit).requests.map (·.url.sent)).Nodup) ∧
    ∀ visits stop, Trail walk serve visits stop → ¬ (visits.map (·.url)).Nodup →
      (∀ limit records, (walk.heldWith serve limit).result ≠ .ok records) ∧
      ∀ limit ≥ visits.length, ∃ text,
        (walk.heldWith serve limit).result = .error (.api (.invalidResponse text)) := by
  constructor
  · intro limit records hok
    obtain ⟨names, visits, hwhole, hserved, hrequests⟩ :=
      (Begun.here .first).whole_of_converse (fun visit hv => nomatch hv) hok
    have hnodup := nodup_url_of_nodup_next hserved hwhole.nodup_next
    have hheld : (walk.heldWith serve limit).requests = visits.map (·.request) := hrequests
    rw [hheld, List.map_map]
    exact hnodup
  · intro visits stop htrail hcycle
    obtain ⟨hshort, hcourse⟩ := htrail.course
    have hloop : ∀ limit, ∃ name, (walk.heldWith serve (visits.length + limit)).result =
        .error (loopFailure name) := by
      rcases hcourse with ⟨names, hb, -⟩ | hloop
      · exact (hcycle (nodup_url_of_nodup_next htrail.served hb.nodup_next)).elim
      · exact hloop
    have hlong : ∀ limit ≥ visits.length, ∃ name, (walk.heldWith serve limit).result =
        .error (loopFailure name) := by
      intro limit hlimit
      have hname := hloop (limit - visits.length)
      rwa [Nat.add_sub_cancel' hlimit] at hname
    refine ⟨fun limit records hok => ?_, fun limit hlimit => ?_⟩
    · rcases Nat.le_total limit visits.length with hle | hge
      · exact hshort limit hle records hok
      · obtain ⟨name, herror⟩ := hlong limit hge
        cases hok.symm.trans herror
    · obtain ⟨name, herror⟩ := hlong limit hlimit
      exact ⟨_, herror⟩

end Walk

namespace Client

/-- A page that names itself, with a fragment. -/
def circularPage : Bytes :=
  Utf8.encode (Catalog.writtenPage 2 (some "/v2/apps?page=2#again")
    ([lower].map Catalog.writtenApplication)).compact

/-- A server with a first page, whose answer at the URL of the second one is given. -/
def serveSecond (second : Bytes) (url : Url) : Outcome :=
  .ok (if url = lowerUrl then second else upperPage)

private theorem serveSecond_other {url : Url} (second : Bytes) (h : url ≠ lowerUrl) :
    serveSecond second url = .ok upperPage := by
  rw [serveSecond, if_neg h]

private theorem serveSecond_lowerUrl (second : Bytes) :
    serveSecond second lowerUrl = .ok second := by
  rw [serveSecond, if_pos rfl]

/-- Two pages are listed. When the second one names itself with a fragment, the walk asks for it
twice and then notices the name. -/
theorem heldWith_consistent_circular :
    let walk := loopback.lookupWalk "bearer abc" "web"
    (walk.heldWith (serveSecond lowerPage) 2).result = .ok [upper, lower] ∧
    ((walk.heldWith (serveSecond lowerPage) 2).requests.map (·.url.sent)).Nodup ∧
    (∃ visits stop, Walk.Trail walk (serveSecond circularPage) visits stop ∧
      visits.length = 3 ∧ ¬ (visits.map (·.url)).Nodup) ∧
    ∃ text, (walk.heldWith (serveSecond circularPage) 3).result =
      .error (.api (.invalidResponse text)) := by
  intro walk
  have hok : (walk.heldWith (serveSecond lowerPage) 2).result = .ok [upper, lower] := by
    decide +kernel
  have hcircular : Catalog.decodePage Catalog.application circularPage =
      .ok ⟨[lower], some "/v2/apps?page=2#again"⟩ :=
    Catalog.decodePage_written [lower] (fun app _ => Catalog.application_written app) 2 _
  obtain ⟨plain, hplain⟩ := lookupQuery_request "web"
  have hfirst : walk.request .first = .ok (plain.withCredential "bearer abc") :=
    Query.request_walk "bearer abc" Catalog.application hplain
  have hdiffers : plain.url.sent ≠ lowerUrl := by
    intro heq
    have hne : ((loopback.lookupQuery "web").request .first).map (·.url.sent) ≠ .ok lowerUrl := by
      decide +kernel
    rw [hplain] at hne
    exact hne (congrArg Except.ok heq)
  have hagain : (loopback.lookupQuery "web").nextUrl "/v2/apps?page=2#again" =
      .ok { lowerUrl with fragment := some "again".toList } := by
    decide +kernel
  have hread {body : Bytes} {page : Page Application}
      (h : Catalog.decodePage Catalog.application body = .ok page) : walk.parse body = .ok page :=
    Query.parse_walk (loopback.lookupQuery "web") "bearer abc" h
  have hnext : walk.request (.next "/v2/apps?page=2") = .ok ⟨.fetch, lowerUrl, some "bearer abc"⟩ :=
    Query.request_walk_next "bearer abc" Catalog.application (nextUrl_lowerUrl "web")
  have hnextAgain : walk.request (.next "/v2/apps?page=2#again") =
      .ok ⟨.fetch, { lowerUrl with fragment := some "again".toList }, some "bearer abc"⟩ :=
    Query.request_walk_next "bearer abc" Catalog.application hagain
  have hsecond := serveSecond_lowerUrl circularPage
  obtain ⟨one, -, hone⟩ := Walk.Trail.first.extend hfirst
    (serveSecond_other circularPage hdiffers) (hread decodePage_upperPage) rfl
  obtain ⟨two, htwo, hpage⟩ := hone.extend hnext hsecond (hread hcircular) rfl
  obtain ⟨three, hthree, htrail⟩ := hpage.extend hnextAgain hsecond (hread hcircular) rfl
  have hcycle : ¬ ([one, two, three].map Walk.Visit.url).Nodup := by
    have hurl : two.url = three.url := htwo.trans hthree.symm
    simp [hurl]
  obtain ⟨hlisting, -⟩ := Walk.heldWith_consistent walk (serveSecond lowerPage)
  obtain ⟨-, hcycles⟩ := Walk.heldWith_consistent walk (serveSecond circularPage)
  exact ⟨hok, hlisting 2 _ hok, ⟨_, _, htrail, rfl, hcycle⟩,
    (hcycles _ _ htrail hcycle).2 3 (Nat.le_refl 3)⟩

end Client

end RuntimeFlag
