import RuntimeFlag.Proofs.Result
import RuntimeFlag.Proofs.Text.Blank
import RuntimeFlag.Url.Parser
/-!
# The site of a URL

The site of a URL is what stands before its path. A path, a query or a fragment never changes it,
so a text that begins with one slash leads to the site of its base. The URL of a scheme with a
default port always has a host and a path of segments.
-/
namespace RuntimeFlag

namespace Url

/-- What a URL says before its path. -/
structure Site where
  scheme : List Char
  username : List Char
  password : Option (List Char)
  host : Option Host
  port : Option Nat
  deriving DecidableEq

def site (url : Url) : Site := ⟨url.scheme, url.username, url.password, url.host, url.port⟩

theorem scheme_eq_of_site {a b : Url} (h : a.site = b.site) : a.scheme = b.scheme :=
  congrArg Site.scheme h

theorem host_eq_of_site {a b : Url} (h : a.site = b.site) : a.host = b.host :=
  congrArg Site.host h

theorem port_eq_of_site {a b : Url} (h : a.site = b.site) : a.port = b.port :=
  congrArg Site.port h

/-! ## Path, query and fragment -/

theorem withTail_keeps (url : Url) (tail : List Char) :
    (withTail url tail).site = url.site ∧ (withTail url tail).path = url.path := by
  unfold withTail
  split <;> exact ⟨rfl, rfl⟩

@[simp] theorem site_withPath (url : Url) (start : List (List Char)) (cs : List Char) :
    (withPath url start cs).site = url.site :=
  (withTail_keeps _ _).1

private theorem path_withPath (url : Url) (start : List (List Char)) (cs : List Char) :
    (withPath url start cs).path = .segments (follow url.kind start (splitPath cs).1) :=
  (withTail_keeps _ _).2

@[simp] theorem site_withPathAfterHost (url : Url) (cs : List Char) :
    (withPathAfterHost url cs).site = url.site := by
  unfold withPathAfterHost
  cases cs with
  | nil =>
    dsimp only
    split
    · rw [site_withPath]
    · rfl
  | cons c rest =>
    dsimp only
    split
    · rw [site_withPath]
    · split
      · rw [site_withPath]
      · split
        · exact (withTail_keeps _ _).1
        · rw [site_withPath]

private theorem path_withPathAfterHost (url : Url) (cs : List Char) :
    ∃ parts, (withPathAfterHost url cs).path = .segments parts := by
  unfold withPathAfterHost
  cases cs with
  | nil =>
    dsimp only
    split
    · exact ⟨_, path_withPath _ _ _⟩
    · exact ⟨_, rfl⟩
  | cons c rest =>
    dsimp only
    split
    · exact ⟨_, path_withPath _ _ _⟩
    · split
      · exact ⟨_, path_withPath _ _ _⟩
      · split
        · exact ⟨_, (withTail_keeps _ _).2⟩
        · exact ⟨_, path_withPath _ _ _⟩

/-! ## Authorities -/

private theorem scheme_of_readUserInfo {scheme cs rest : List Char} {url : Url}
    (h : readUserInfo scheme cs = .ok (url, rest)) : url.scheme = scheme := by
  unfold readUserInfo at h
  dsimp only at h
  split at h
  · cases h
    rfl
  · split at h
    · cases h
    · cases h
      rfl

/-- A port is the only thing that is read with it. -/
theorem withPort_keeps {url after : Url} {cs rest : List Char}
    (h : withPort url cs = .ok (after, rest)) :
    after.scheme = url.scheme ∧ after.host = url.host := by
  unfold withPort at h
  dsimp only at h
  split at h
  · split at h <;> cases h
    exact ⟨rfl, rfl⟩
  · split at h
    · cases h
    · split at h <;> cases h <;> exact ⟨rfl, rfl⟩
  · cases h

private theorem withRest_keeps {url after : Url} {cs : List Char}
    (h : withRest url cs = .ok after) :
    after.scheme = url.scheme ∧ after.host = url.host ∧ ∃ parts, after.path = .segments parts := by
  unfold withRest at h
  split at h
  · obtain ⟨⟨ported, rest⟩, hp, rfl⟩ := map_eq_ok.mp h
    have hsite := site_withPathAfterHost ported rest
    have hkept := withPort_keeps hp
    exact ⟨(scheme_eq_of_site hsite).trans hkept.1, (host_eq_of_site hsite).trans hkept.2,
      path_withPathAfterHost ported rest⟩
  · cases h
    have hsite := site_withPathAfterHost url cs
    exact ⟨scheme_eq_of_site hsite, host_eq_of_site hsite, path_withPathAfterHost url cs⟩

/-- A URL with an authority has the scheme it is read for, a host and a path of segments. -/
theorem authority_spec {scheme cs : List Char} {url : Url} (h : authority scheme cs = .ok url) :
    url.scheme = scheme ∧ (∃ host, url.host = some host) ∧ ∃ parts, url.path = .segments parts := by
  obtain ⟨⟨named, rest⟩, hu, h⟩ := bind_eq_ok.mp h
  obtain ⟨host, -, h⟩ := bind_eq_ok.mp h
  dsimp only at h
  split at h
  · cases h
  · have hkept := withRest_keeps h
    have hscheme := scheme_of_readUserInfo hu
    exact ⟨hkept.1.trans hscheme, ⟨host, hkept.2.1⟩, hkept.2.2⟩

/-! ## URLs with a host -/

/-- The schemes that a client speaks. -/
def IsWeb (url : Url) : Prop := url.scheme = "http".toList ∨ url.scheme = "https".toList

instance (url : Url) : Decidable url.IsWeb := inferInstanceAs (Decidable (_ ∨ _))

theorem kind_of_isWeb {url : Url} (h : url.IsWeb) : ∃ port, url.kind = .special port := by
  rcases h with h | h
  · exact ⟨80, by rw [kind, h]; rfl⟩
  · exact ⟨443, by rw [kind, h]; rfl⟩

/-- A URL with a host and a path of segments. -/
def Rooted (url : Url) : Prop :=
  (∃ host, url.host = some host) ∧ ∃ parts, url.path = .segments parts

private theorem rooted_withPath {url : Url} {host : Host} (h : url.host = some host)
    (start : List (List Char)) (cs : List Char) : (withPath url start cs).Rooted :=
  ⟨⟨host, (host_eq_of_site (site_withPath url start cs)).trans h⟩, _, path_withPath url start cs⟩

private theorem rooted_withPathAfterFileHost (host : Host) (cs : List Char) :
    (withPathAfterFileHost host cs).Rooted := by
  unfold withPathAfterFileHost
  dsimp only
  split
  · exact rooted_withPath rfl _ _
  · -- with or without a slash before the path
    split <;> split <;> exact rooted_withPath rfl _ _

private theorem rooted_of_file {cs : List Char} {url : Url} (h : file none cs = .ok url) :
    url.Rooted := by
  have hempty : emptyFile.Rooted := ⟨⟨_, rfl⟩, _, rfl⟩
  unfold file at h
  split at h
  · split at h
    · dsimp only at h
      split at h
      · cases h
        exact rooted_withPath rfl _ _
      · obtain ⟨host, -, h⟩ := bind_eq_ok.mp h
        cases h
        exact rooted_withPathAfterFileHost _ _
    · cases h
      exact rooted_withPath rfl _ _
  · cases h
    exact rooted_withPath rfl _ _
  · cases h
    exact hempty

/-- A URL that is read on its own has a host and a path of segments if its scheme has a default
port. -/
theorem rooted_of_parse {text : String} {url : Url} {port : Nat} (h : parse text = .ok url)
    (hk : url.kind = .special port) : url.Rooted := by
  unfold parse read at h
  dsimp only at h
  split at h
  · next scheme rest _ =>
    unfold absolute at h
    split at h
    · exact rooted_of_file h
    · exact (authority_spec h).2
    · next hother =>
      -- without an authority the kind of the scheme would have to be another one
      have hkind (h : url.scheme = scheme) : False := by
        rw [kind, h, hother] at hk
        cases hk
      split at h
      · exact (authority_spec h).2
      · cases h
        exact (hkind (scheme_eq_of_site (site_withPath _ _ _))).elim
      · cases h
        exact (hkind (scheme_eq_of_site (withTail_keeps _ _).1)).elim
  · cases h

/-! ## References -/

theorem trimmed_cons {text : String} {c : Char} {rest : List Char} (h : text.toList = c :: rest)
    (hc : 0x20 < c.toNat) :
    trimmed text = c :: Text.dropTailWhile (·.toNat ≤ 0x20) rest := by
  rw [trimmed, h, List.dropWhile_cons_of_neg (by simpa using hc)]
  exact Text.dropTailWhile_cons_of_neg (by simpa using hc) rest

theorem splitScheme_slash (cs : List Char) : splitScheme ('/' :: cs) = none := by
  rfl

private theorem relative_slash (base : Url) {c : Char} (cs : List Char) (h : isAnySlash c = false) :
    relative base ('/' :: c :: cs) = .ok (withPath base [] (c :: cs)) := by
  have hne : c ≠ '/' := by
    rintro rfl
    cases h
  unfold relative
  split
  · next heq => cases heq
  · next heq => cases heq
  · next heq => cases heq
  · next heq =>
    cases heq
    rw [if_pos (by decide : isAnySlash '/' = true)]
    split
    · next heq =>
      cases heq
      exact (hne rfl).elim
    · rw [List.head?_cons, Option.any_some, h]
      rfl

theorem join_slash {base : Url} {text : String} {c : Char} {rest : List Char} {port : Nat}
    (hroot : base.Rooted) (hk : base.kind = .special port) (h : text.toList = '/' :: c :: rest)
    (hc : 0x20 < c.toNat) (hslash : isAnySlash c = false) :
    base.join text =
      .ok (withPath base [] (c :: Path.counted (Text.dropTailWhile (·.toNat ≤ 0x20) rest))) := by
  obtain ⟨-, parts, hpath⟩ := hroot
  have hgap : Path.isGap c = false := by
    simp only [Path.isGap, Bool.or_eq_false_iff, decide_eq_false_iff_not]
    refine ⟨⟨?_, ?_⟩, ?_⟩ <;> rintro rfl <;> exact absurd hc (by decide)
  have hcounted : Path.counted (trimmed text) =
      '/' :: c :: Path.counted (Text.dropTailWhile (·.toNat ≤ 0x20) rest) := by
    rw [trimmed_cons h (by decide), Text.dropTailWhile_cons_of_neg (by simpa using hc)]
    simp [Path.counted, hgap, show Path.isGap '/' = false from rfl]
  simp only [join, read, hcounted, splitScheme_slash, hpath, hk]
  exact relative_slash base _ hslash

end Url

end RuntimeFlag
