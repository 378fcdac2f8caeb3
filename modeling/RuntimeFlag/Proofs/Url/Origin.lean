import RuntimeFlag.Proofs.Url.Site
import RuntimeFlag.Url.Origin
/-!
# Origins of URLs

The origin of a web URL is its scheme, host and port, so web URLs of one origin belong to one
server.
-/
namespace RuntimeFlag.Url

theorem origin?_of_special {url : Url} {host : Host} {port : Nat} (hk : url.kind = .special port)
    (hh : url.host = some host) :
    url.origin? = some ⟨url.scheme, host, url.port.getD port⟩ := by
  rw [origin?, originWithin.eq_def, show schemeKind url.scheme = .special port from hk, hh]

private theorem host_of_origin? {url : Url} {origin : Origin} (hw : url.IsWeb)
    (h : url.origin? = some origin) : ∃ host, url.host = some host := by
  obtain ⟨port, hk⟩ := kind_of_isWeb hw
  have hblob : url.scheme ≠ "blob".toList := by
    rcases hw with hw | hw <;> rw [hw] <;> decide
  cases hh : url.host with
  | some host => exact ⟨host, rfl⟩
  | none =>
    rw [origin?, originWithin.eq_def, show schemeKind url.scheme = .special port from hk, hh] at h
    dsimp only at h
    split at h
    · cases h
    · rw [if_neg hblob] at h
      cases h

private theorem effectivePort?_of_special {url : Url} {port : Nat} (hk : url.kind = .special port) :
    url.effectivePort? = some (url.port.getD port) := by
  rw [effectivePort?, show schemeKind url.scheme = .special port from hk]
  cases url.port <;> rfl

theorem sameOrigin_iff {a b : Url} :
    a.sameOrigin b = true ↔ ∃ origin, a.origin? = some origin ∧ b.origin? = some origin := by
  unfold sameOrigin
  cases a.origin? <;> cases b.origin? <;> simp [eq_comm]

theorem server_of_origin? {a b : Url} {origin : Origin} (ha : a.IsWeb) (hb : b.IsWeb)
    (hao : a.origin? = some origin) (hbo : b.origin? = some origin) :
    a.scheme = b.scheme ∧ a.host = b.host ∧ a.effectivePort? = b.effectivePort? := by
  obtain ⟨aport, hak⟩ := kind_of_isWeb ha
  obtain ⟨bport, hbk⟩ := kind_of_isWeb hb
  obtain ⟨ahost, hah⟩ := host_of_origin? ha hao
  obtain ⟨bhost, hbh⟩ := host_of_origin? hb hbo
  rw [origin?_of_special hak hah] at hao
  rw [origin?_of_special hbk hbh] at hbo
  have heq := Option.some.inj (hao.trans hbo.symm)
  rw [Origin.mk.injEq] at heq
  refine ⟨heq.1, ?_, ?_⟩
  · rw [hah, hbh, heq.2.1]
  · rw [effectivePort?_of_special hak, effectivePort?_of_special hbk, heq.2.2]

end RuntimeFlag.Url
