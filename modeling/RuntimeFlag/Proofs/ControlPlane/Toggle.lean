import RuntimeFlag.Proofs.ControlPlane.Basic
import RuntimeFlag.Proofs.ControlPlane.Service
import RuntimeFlag.Proofs.FirstPage
import RuntimeFlag.Proofs.Toggle
/-!
# Setting a flag on a faithful control plane

Against a control plane that does what it is asked, a toggle succeeds exactly when an application of
the session has the name. It changes the flag of the first one, and of no other.
-/
namespace RuntimeFlag

open Dialogue

/-- A control plane holds each application once, under a guid of letters, digits and hyphens. -/
structure ControlPlane.WellFormed (apps : List Application) : Prop where
  distinct : (apps.map (·.guid)).Nodup
  guids : ∀ app ∈ apps, app.guid ≠ "" ∧ IsWord app.guid

namespace ControlPlane

variable {plane : ControlPlane} {client : Client} {apps : List Application} {name guid : String}
  {enabled : Bool} {app : Application}

/-! ## The applications after a write -/

private theorem mem_of_mem_inSpace {space : Option String} (h : app ∈ inSpace space apps) :
    app ∈ apps := by
  cases space with
  | none => exact h
  | some guid => exact (List.mem_filter.mp h).1

private theorem inSpace_setFlag (space : Option String) (guid : String) (enabled : Bool)
    (apps : List Application) :
    inSpace space (setFlag guid enabled apps) = setFlag guid enabled (inSpace space apps) := by
  cases space with
  | none => rfl
  | some space =>
    change (setFlag guid enabled apps).filter (·.spaceGuid = space) =
      setFlag guid enabled (apps.filter (·.spaceGuid = space))
    have hkept : (fun app : Application => decide (app.spaceGuid = space)) ∘
        (fun app => if app.guid = guid then { app with diego := enabled } else app) =
          fun app => decide (app.spaceGuid = space) := by
      funext app
      by_cases hg : app.guid = guid <;> simp [hg]
    rw [setFlag, List.filter_map, hkept]
    rfl

private theorem firstNamed_setFlag (h : FirstNamed name apps app) (enabled : Bool) :
    FirstNamed name (setFlag app.guid enabled apps) { app with diego := enabled } := by
  obtain ⟨before, behind, rfl, hname, hbefore⟩ := h
  refine ⟨setFlag app.guid enabled before, setFlag app.guid enabled behind, ?_, hname, ?_⟩
  · simp [setFlag]
  · intro other ho
    obtain ⟨old, hold, rfl⟩ := List.mem_map.mp ho
    have hn := hbefore old hold
    by_cases hg : old.guid = app.guid <;> simpa [hg] using hn

private theorem setFlag_of_forall_ne (h : ∀ app ∈ apps, app.guid ≠ guid) (enabled : Bool) :
    setFlag guid enabled apps = apps := by
  refine (List.map_congr_left fun app ha => ?_).trans (List.map_id apps)
  exact if_neg (h app ha)

private theorem setFlag_of_mem (hw : WellFormed apps) (ha : app ∈ apps) (enabled : Bool) :
    ∃ before behind, apps = before ++ app :: behind ∧
      setFlag app.guid enabled apps = before ++ { app with diego := enabled } :: behind := by
  obtain ⟨before, behind, rfl⟩ := List.append_of_mem ha
  have hdistinct := hw.distinct
  rw [List.map_append, List.map_cons, List.nodup_append, List.nodup_cons] at hdistinct
  obtain ⟨-, ⟨hbehind, -⟩, hbefore⟩ := hdistinct
  have hfront : ∀ other ∈ before, other.guid ≠ app.guid := fun other ho =>
    hbefore _ (List.mem_map_of_mem ho) _ List.mem_cons_self
  have hback : ∀ other ∈ behind, other.guid ≠ app.guid := by
    intro other ho heq
    exact hbehind (heq ▸ List.mem_map_of_mem ho)
  refine ⟨before, behind, rfl, ?_⟩
  have hsplit : setFlag app.guid enabled (before ++ app :: behind) =
      setFlag app.guid enabled before ++
        { app with diego := enabled } :: setFlag app.guid enabled behind := by
    simp [setFlag]
  rw [hsplit, setFlag_of_forall_ne hfront, setFlag_of_forall_ne hback]

/-! ## Look-ups -/

private theorem filter_of_firstNamed (h : FirstNamed name apps app) :
    ∃ rest, apps.filter (Filter.name name).admits = app :: rest := by
  obtain ⟨before, behind, rfl, hname, hbefore⟩ := h
  have hnone : before.filter (Filter.name name).admits = [] := by
    rw [List.filter_eq_nil_iff]
    intro other ho
    simpa [Filter.admits] using hbefore other ho
  have hsome : (Filter.name name).admits app = true := by
    simpa [Filter.admits] using hname
  exact ⟨_, by rw [List.filter_append, hnone, List.nil_append, List.filter_cons_of_pos hsome]⟩

private theorem lists_body (name path : String) (size : Nat) (apps : List Application) :
    Toggle.Lists (.ok (PageAsk.body ⟨.name name, size, 1⟩ path apps))
      ((apps.filter (Filter.name name).admits).take size) := by
  refine ⟨_, _, rfl, PageAsk.decodePage_body _ path apps, ?_⟩
  change ((apps.filter _).drop (0 * size)).take size = _
  rw [Nat.zero_mul, List.drop_zero]

private theorem sought_of_firstNamed (h : FirstNamed name apps app) (hg : app.guid ≠ "")
    (path : String) {size : Nat} (hsize : 0 < size) :
    Toggle.sought name (.ok (PageAsk.body ⟨.name name, size, 1⟩ path apps)) = .ok app.summary := by
  obtain ⟨rest, hfilter⟩ := filter_of_firstNamed h
  have hlists := lists_body name path size apps
  obtain ⟨count, rfl⟩ := Nat.exists_eq_succ_of_ne_zero (Nat.ne_of_gt hsize)
  rw [hfilter, List.take_succ_cons] at hlists
  exact Toggle.sought_of_finds
    ⟨⟨[], _, hlists, h.mem.2, fun other ho => nomatch ho⟩, hg⟩

private theorem sought_of_absent (h : ∀ app ∈ apps, app.name ≠ name) (path : String) (size : Nat) :
    Toggle.sought name (.ok (PageAsk.body ⟨.name name, size, 1⟩ path apps)) =
      .error (.appNotFound name) := by
  have hfilter : apps.filter (Filter.name name).admits = [] := by
    rw [List.filter_eq_nil_iff]
    intro app ha
    simpa [Filter.admits] using h app ha
  have hlists := lists_body name path size apps
  rw [hfilter, List.take_nil] at hlists
  exact Toggle.sought_of_lacks (.absent hlists fun app ha => nomatch ha)

end ControlPlane

/-! ## What a toggle asks -/

namespace Toggle

variable {client : Client} {target : FlagTarget} {value : String} {ask write : Request}
  {summary : AppSummary}

private theorem run_of_unfound (palette : Palette) (wire : List Outcome) {failure : Failure}
    (hv : client.settings.credential = .ok value)
    (ha : (client.lookupQuery target.app).request .first = .ok ask)
    (hs : sought target.app (answer wire 0) = .error failure) :
    (run palette client target wire).result = .error failure ∧
      (run palette client target wire).requests = [ask.withCredential value] := by
  have hruns := run_runs_of_error palette (set_runs_of_error hv ha hs)
  exact ⟨hruns.result, hruns.requests⟩

section Found

variable (palette : Palette) (wire : List Outcome)
  (hv : client.settings.credential = .ok value)
  (ha : (client.lookupQuery target.app).request .first = .ok ask)
  (hs : sought target.app (answer wire 0) = .ok summary)
  (hw : flagRequest client.base summary.guid target.enabled = .ok write)

include hv ha hs hw

private theorem requests_of_refused {fault : ApiFault} (hanswer : answer wire 1 = .error fault) :
    (run palette client target wire).requests =
      [ask.withCredential value, write.withCredential value] := by
  have hset := set_runs_of_ok hv ha hs hw
  rw [hanswer] at hset
  exact (run_runs_of_error palette hset).requests

private theorem requests_of_accepted {body : Bytes} (hanswer : answer wire 1 = .ok body) :
    (run palette client target wire).requests =
      [ask.withCredential value, write.withCredential value, ask.withCredential value] := by
  have hset := set_runs_of_ok hv ha hs hw
  have hverify := verify_runs hv ha wire.tail.tail
  rw [hanswer] at hset
  cases hthird : sought target.app (answer wire.tail.tail 0) with
  | error failure =>
    rw [hthird] at hverify
    exact (run_runs_of_ok hset (hverify.bind_error (finish palette target))).requests
  | ok other =>
    rw [hthird] at hverify
    by_cases hflag : other.diego = target.enabled
    · rw [Except.map, if_pos hflag] at hverify
      exact (run_runs_of_ok hset (hverify.bind (finish_runs_converged palette target _))).requests
    · rw [Except.map, if_neg hflag] at hverify
      exact (run_runs_of_ok hset (hverify.bind (finish_runs_diverged palette target _))).requests

private theorem result_of_converged {body : Bytes} (hanswer : answer wire 1 = .ok body)
    {other : AppSummary} (hthird : sought target.app (answer wire 2) = .ok other)
    (hflag : other.diego = target.enabled) : (run palette client target wire).result = .ok () := by
  have hset := set_runs_of_ok hv ha hs hw
  have hverify := verify_runs hv ha wire.tail.tail
  rw [answer_tail, answer_tail, hthird, Except.map, if_pos hflag] at hverify
  rw [hanswer] at hset
  exact (run_runs_of_ok hset (hverify.bind (finish_runs_converged palette target _))).result

end Found

private theorem isEnabled_runs {name : String} (hv : client.settings.credential = .ok value)
    (ha : (client.lookupQuery name).request .first = .ok ask) (wire : List Outcome) :
    Runs (isEnabled client name) wire ((sought name (answer wire 0)).map (·.diego))
      [ask.withCredential value] "" wire.tail := by
  have hlook := Client.lookup_runs hv ha wire
  cases hs : sought name (answer wire 0) with
  | error failure =>
    rw [hs] at hlook
    exact hlook.bind_error _
  | ok summary =>
    rw [hs] at hlook
    refine hlook.bind (?_ : Runs _ wire.tail _ [] "" wire.tail)
    exact Runs.pure _

end Toggle

/-! ## Toggles on a control plane -/

namespace ControlPlane

variable {plane : ControlPlane} {client : Client} {apps : List Application} {app : Application}
  {name : String} {target : FlagTarget}

private theorem Hosts.respond_lookup (h : plane.Hosts client)
    (hspace : ∀ guid ∈ client.settings.spaceGuid, IsWord guid) (name : String) :
    ∃ ask, (client.lookupQuery name).request .first = .ok ask ∧
      ∀ apps, ∃ outcome,
        plane.respond apps (ask.withCredential plane.credential) = (outcome, apps) ∧
        (∀ app, FirstNamed name (inSpace client.settings.spaceGuid apps) app → app.guid ≠ "" →
          Toggle.sought name outcome = .ok app.summary) ∧
        ((∀ app ∈ inSpace client.settings.spaceGuid apps, app.name ≠ name) →
          Toggle.sought name outcome = .error (.appNotFound name)) := by
  obtain ⟨ask, ha, hrespond⟩ :=
    respond_first h.endpoint h.address (.name name) client.settings.effectivePageSize _ hspace
  refine ⟨ask, ha, fun apps => ⟨_, hrespond apps, fun app hf hg => ?_, fun hn => ?_⟩⟩
  · exact sought_of_firstNamed hf hg _ (effectivePageSize_pos client.settings)
  · exact sought_of_absent hn _ _

private theorem serve_isEnabled (h : plane.Hosts client)
    (hspace : ∀ guid ∈ client.settings.spaceGuid, IsWord guid)
    (hf : FirstNamed name (inSpace client.settings.spaceGuid apps) app) (hg : app.guid ≠ "")
    {limit : Nat} (hlimit : 1 ≤ limit) :
    (serve plane.respond (Toggle.isEnabled client name) limit apps []).1.result =
      .ok app.diego := by
  obtain ⟨ask, ha, hrespond⟩ := h.respond_lookup hspace name
  obtain ⟨outcome, hanswer, hfound, -⟩ := hrespond apps
  obtain ⟨limit, rfl⟩ := Nat.exists_eq_add_of_le' hlimit
  have hruns (wire : List Outcome) := Toggle.isEnabled_runs h.credential ha wire
  have hserve := serve_ask (Toggle.isEnabled client name) []
    (by rw [(hruns []).requests]; rfl) hanswer limit
  rw [hserve, List.nil_append, serve_done (by rw [(hruns [outcome]).requests]; rfl)]
  have hsought : Toggle.sought name (answer [outcome] 0) = .ok app.summary := hfound app hf hg
  rw [(hruns [outcome]).result, hsought]
  rfl

/-- A toggle of a name that no application has ends at its first look-up. -/
theorem serve_run_of_absent (palette : Palette) (h : plane.Hosts client)
    (hspace : ∀ guid ∈ client.settings.spaceGuid, IsWord guid)
    (hn : ∀ app ∈ inSpace client.settings.spaceGuid apps, app.name ≠ target.app) {limit : Nat}
    (hlimit : 1 ≤ limit) :
    let outcome := serve plane.respond (Toggle.run palette client target) limit apps []
    outcome.1.result = .error (.appNotFound target.app) ∧ outcome.2 = apps := by
  obtain ⟨ask, ha, hrespond⟩ := h.respond_lookup hspace target.app
  obtain ⟨outcome, hanswer, -, hlacks⟩ := hrespond apps
  obtain ⟨limit, rfl⟩ := Nat.exists_eq_add_of_le' hlimit
  have hsilent := Toggle.run_of_unfound palette [] h.credential ha rfl
  have hended := Toggle.run_of_unfound palette [outcome] h.credential ha (hlacks hn)
  have hserve := serve_ask (Toggle.run palette client target) []
    (by rw [hsilent.2]; rfl) hanswer limit
  rw [hserve, List.nil_append, serve_done (by rw [hended.2]; rfl)]
  exact ⟨hended.1, rfl⟩

/-- A toggle of a name that an application has sets the flag of the first one. -/
theorem serve_run_of_firstNamed (palette : Palette) (h : plane.Hosts client)
    (hspace : ∀ guid ∈ client.settings.spaceGuid, IsWord guid) (hw : WellFormed apps)
    (hf : FirstNamed target.app (inSpace client.settings.spaceGuid apps) app) {limit : Nat}
    (hlimit : 3 ≤ limit) :
    let outcome := serve plane.respond (Toggle.run palette client target) limit apps []
    outcome.1.result = .ok () ∧ outcome.2 = setFlag app.guid target.enabled apps := by
  have hmem : app ∈ apps := mem_of_mem_inSpace hf.mem.1
  obtain ⟨hguid, hword⟩ := hw.guids app hmem
  obtain ⟨ask, ha, hrespond⟩ := h.respond_lookup hspace target.app
  obtain ⟨write, hwrite, hreceipt⟩ :=
    respond_flagRequest h.endpoint h.address hword target.enabled
  obtain ⟨first, hfirst, hfound, -⟩ := hrespond apps
  obtain ⟨last, hlast, hrefound, -⟩ := hrespond (setFlag app.guid target.enabled apps)
  have hchanged := firstNamed_setFlag hf target.enabled
  rw [← inSpace_setFlag] at hchanged
  have hthird := hrefound _ hchanged hguid
  obtain ⟨limit, rfl⟩ := Nat.exists_eq_add_of_le' hlimit
  have hask := Toggle.run_of_unfound palette [] h.credential ha rfl
  have hput := Toggle.requests_of_refused palette [first] h.credential ha
    (hfound app hf hguid) hwrite rfl
  have hreread := Toggle.requests_of_accepted palette [first, .ok plane.receipt]
    h.credential ha (hfound app hf hguid) hwrite rfl
  have hend := Toggle.requests_of_accepted palette [first, .ok plane.receipt, last]
    h.credential ha (hfound app hf hguid) hwrite rfl
  have hresult := Toggle.result_of_converged palette [first, .ok plane.receipt, last]
    h.credential ha (hfound app hf hguid) hwrite rfl hthird rfl
  have hserve₁ := serve_ask (Toggle.run palette client target) []
    (by rw [hask.2]; rfl) hfirst (limit + 2)
  have hserve₂ := serve_ask (Toggle.run palette client target) [first]
    (by rw [hput]; rfl) (hreceipt apps ⟨app, hmem, rfl⟩) (limit + 1)
  have hserve₃ := serve_ask (Toggle.run palette client target)
    [first, .ok plane.receipt] (by rw [hreread]; rfl) hlast limit
  rw [hserve₁, List.nil_append, hserve₂, List.singleton_append, hserve₃, List.cons_append,
    List.singleton_append, serve_done (by rw [hend]; rfl)]
  exact ⟨hresult, rfl⟩

/-- Against a faithful control plane, a toggle of a name that an application of the session has
succeeds. It changes the flag of the first such application and nothing else, and the flag is then
read as it was set. A toggle of any other name finds nothing and changes nothing. -/
theorem serve_run_exact (palette : Palette) (target : FlagTarget) (h : plane.Hosts client)
    (hspace : ∀ guid ∈ client.settings.spaceGuid, IsWord guid)
    (hw : WellFormed apps) {limit : Nat} (hlimit : 3 ≤ limit) :
    let outcome := serve plane.respond (Toggle.run palette client target) limit apps []
    let scope := inSpace client.settings.spaceGuid apps
    ((∃ app ∈ scope, app.name = target.app) →
      ∃ app before behind, FirstNamed target.app scope app ∧ apps = before ++ app :: behind ∧
        outcome.1.result = .ok () ∧
        outcome.2 = before ++ { app with diego := target.enabled } :: behind ∧
        ∀ limit, 1 ≤ limit →
          (serve plane.respond (Toggle.isEnabled client target.app) limit outcome.2 []).1.result =
            .ok target.enabled) ∧
    ((¬ ∃ app ∈ scope, app.name = target.app) →
      outcome.1.result = .error (.appNotFound target.app) ∧ outcome.2 = apps) := by
  constructor
  · rintro ⟨other, hother, hname⟩
    rcases firstNamed_or_none target.app (inSpace client.settings.spaceGuid apps) with
      ⟨app, hf⟩ | hn
    · have hmem : app ∈ apps := mem_of_mem_inSpace hf.mem.1
      obtain ⟨hresult, hstate⟩ := serve_run_of_firstNamed palette h hspace hw hf hlimit
      obtain ⟨before, behind, hsplit, hset⟩ := setFlag_of_mem hw hmem target.enabled
      refine ⟨app, before, behind, hf, hsplit, hresult, hstate.trans hset, fun limit hl => ?_⟩
      have hchanged := firstNamed_setFlag hf target.enabled
      rw [← inSpace_setFlag] at hchanged
      rw [hstate]
      exact serve_isEnabled h hspace hchanged (hw.guids app hmem).1 hl
    · exact (hn other hother hname).elim
  · intro hn
    refine serve_run_of_absent palette h hspace (fun app ha hname => hn ⟨app, ha, hname⟩) ?_
    omega

/-- The second application with the name keeps its flag. -/
theorem serve_run_exact_twins :
    let apps : List Application := [⟨"d", "db", "s", true⟩, ⟨"a-1", "web", "s", false⟩,
      ⟨"b-2", "web", "t", false⟩]
    let outcome := serve loopback.respond (Toggle.run .plain .loopback ⟨"web", true⟩) 3 apps []
    loopback.Hosts .loopback ∧ (∀ guid ∈ Client.loopback.settings.spaceGuid, IsWord guid) ∧
      WellFormed apps ∧ 3 ≤ 3 ∧ outcome.1.result = .ok () ∧
      outcome.2 = [⟨"d", "db", "s", true⟩, ⟨"a-1", "web", "s", true⟩, ⟨"b-2", "web", "t", false⟩] ∧
      (serve loopback.respond (Toggle.isEnabled .loopback "web") 1 outcome.2 []).1.result =
        .ok true := by
  have hw : WellFormed [⟨"d", "db", "s", true⟩, ⟨"a-1", "web", "s", false⟩,
      ⟨"b-2", "web", "t", false⟩] := ⟨by decide, by decide⟩
  have hspace : ∀ guid ∈ Client.loopback.settings.spaceGuid, IsWord guid :=
    fun guid hg => nomatch hg
  obtain ⟨app, before, behind, hf, hsplit, hresult, hstate, hread⟩ :=
    (serve_run_exact .plain ⟨"web", true⟩ loopback_hosts hspace hw (Nat.le_refl 3)).1
      ⟨⟨"a-1", "web", "s", false⟩, by decide, rfl⟩
  have happ : app = ⟨"a-1", "web", "s", false⟩ := by
    rw [firstNamed_iff] at hf
    exact Option.some.inj (hf.symm.trans rfl)
  subst happ
  have hends : before = [⟨"d", "db", "s", true⟩] ∧ behind = [⟨"b-2", "web", "t", false⟩] := by
    clear hf hresult hstate hread
    rcases before with _ | ⟨x, _ | ⟨y, _ | ⟨z, rest⟩⟩⟩ <;> simp_all
  rw [hends.1, hends.2] at hstate
  exact ⟨loopback_hosts, hspace, hw, Nat.le_refl 3, hresult, hstate, hread 1 (Nat.le_refl 1)⟩

end ControlPlane

end RuntimeFlag
