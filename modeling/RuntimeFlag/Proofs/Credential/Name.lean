import RuntimeFlag.Proofs.Credential.Claims
/-!
# The name that is shown

A session shows the name in its settings, else the name that its token claims, else `unknown`. An
empty name in the settings counts as none. An empty name in the token is a name, and nothing else
makes a session show none.
-/
namespace RuntimeFlag

open Json

namespace Claims

/-- The text has three parts between dots, and the middle one writes claims with this name. -/
def NamedIn (stored : List Char) (name : String) : Prop :=
  ∃ (header middle signature : List Char) (payload : Bytes) (doc : Doc),
    stored.splitOn '.' = [header, middle, signature] ∧
    Base64Url.decode? (Text.dropTailWhile (· = '=') middle) = some payload ∧
    doc.Spelling payload ∧ ¬ RecordFlaw fields doc ∧ HasMember doc "user_name" (.text (.ok name))

private theorem ofToken?_eq_some_iff {stored : List Char} {claims : Claims} :
    ofToken? stored = some claims ↔ ∃ (header middle signature : List Char) (payload : Bytes),
      stored.splitOn '.' = [header, middle, signature] ∧
      Base64Url.decode? (Text.dropTailWhile (· = '=') middle) = some payload ∧
      (decode decoder payload).toOption = some claims := by
  constructor
  · intro h
    unfold ofToken? at h
    split at h
    · next header middle signature hparts =>
      obtain ⟨payload, hpayload, hclaims⟩ := Option.bind_eq_some_iff.mp h
      exact ⟨header, middle, signature, payload, hparts, hpayload, hclaims⟩
    · cases h
  · rintro ⟨header, middle, signature, payload, hparts, hpayload, hclaims⟩
    rw [ofToken?, hparts]
    exact Option.bind_eq_some_iff.mpr ⟨payload, hpayload, hclaims⟩

private theorem exists_saidBy {doc : Doc} {payload : Bytes} (hs : doc.Spelling payload)
    (hf : ¬ RecordFlaw fields doc) : ∃ claims : Claims, claims.SaidBy doc := by
  have hwhole := (Doc.spelling_iff.mp hs).2
  obtain ⟨claims, hclaims⟩ := (layout.judges layout_judges hwhole).mpr hf
  exact ⟨claims, saidBy_of_decoder hwhole hclaims⟩

private theorem namedIn_iff {stored : List Char} {name : String} :
    NamedIn stored name ↔ (ofToken? stored).bind (·.userName) = some name := by
  simp only [Option.bind_eq_some_iff, ofToken?_eq_some_iff, decode_eq_some_iff]
  constructor
  · rintro ⟨header, middle, signature, payload, doc, hparts, hpayload, hs, hf, hmember⟩
    obtain ⟨claims, hsaid⟩ := exists_saidBy hs hf
    exact ⟨claims, ⟨header, middle, signature, payload, hparts, hpayload, doc, hs, hsaid⟩,
      (hsaid.userName name).mpr hmember⟩
  · rintro ⟨claims, ⟨header, middle, signature, payload, hparts, hpayload, doc, hs, hsaid⟩, hname⟩
    exact ⟨header, middle, signature, payload, doc, hparts, hpayload, hs, hsaid.flawless,
      (hsaid.userName name).mp hname⟩

end Claims

namespace Settings

/-- The settings have no name of their own. -/
def Unnamed (settings : Settings) : Prop :=
  settings.username = none ∨ settings.username = some ""

/-- The token of the settings claims a name. -/
def TokenNames (settings : Settings) (name : String) : Prop :=
  ∃ stored : String, settings.accessToken = some stored ∧ Claims.NamedIn stored.toList name

variable {settings : Settings} {name : String}

private theorem tokenNames_iff :
    settings.TokenNames name ↔ settings.claims?.bind (·.userName) = some name := by
  cases htoken : settings.accessToken with
  | none => simp [TokenNames, claims?, token?, htoken]
  | some stored =>
    have hclaims : settings.claims? = Claims.ofToken? stored.toList := by
      rw [← claims?_withToken settings, withToken, ← htoken]
    simp [TokenNames, htoken, hclaims, Claims.namedIn_iff]

private theorem displayName_of_named (h : settings.username = some name) (hne : name ≠ "") :
    settings.displayName = name := by
  simp [displayName, h, hne, Option.filter]

private theorem displayName_of_unnamed (h : settings.Unnamed) :
    settings.displayName = (settings.claims?.bind (·.userName)).getD "unknown" := by
  have hnone : settings.username.filter (· ≠ "") = none := by
    rcases h with h | h <;> simp [h]
  rw [displayName, hnone, Option.none_or]

private theorem unnamed_or (settings : Settings) :
    settings.Unnamed ∨ ∃ name, settings.username = some name ∧ name ≠ "" := by
  cases h : settings.username with
  | none => exact .inl (.inl h)
  | some name =>
    by_cases hne : name = ""
    · exact .inl (.inr (hne ▸ h))
    · exact .inr ⟨name, rfl, hne⟩

private theorem displayName_of_tokenNames (h : settings.Unnamed) (hn : settings.TokenNames name) :
    settings.displayName = name := by
  rw [displayName_of_unnamed h, tokenNames_iff.mp hn, Option.getD_some]

private theorem displayName_of_nameless (h : settings.Unnamed)
    (hn : ∀ name, ¬ settings.TokenNames name) :
    settings.displayName = "unknown" := by
  have hnone : settings.claims?.bind (·.userName) = none :=
    Option.eq_none_iff_forall_ne_some.mpr fun name => mt tokenNames_iff.mpr (hn name)
  rw [displayName_of_unnamed h, hnone, Option.getD_none]

/-- The name in the settings is shown, unless it is empty; then the name in the token, if there is
one; then `unknown`. So a session shows no name just when the token has the empty name and the
settings have none. -/
theorem displayName_exact (settings : Settings) :
    (∀ name, settings.username = some name → name ≠ "" → settings.displayName = name) ∧
    (settings.Unnamed → (∀ name, settings.TokenNames name → settings.displayName = name) ∧
      ((∀ name, ¬ settings.TokenNames name) → settings.displayName = "unknown")) ∧
    (settings.displayName = "" ↔ settings.Unnamed ∧ settings.TokenNames "") := by
  refine ⟨fun name => displayName_of_named, ?_, ?_, ?_⟩
  · intro hu
    exact ⟨fun name => displayName_of_tokenNames hu, displayName_of_nameless hu⟩
  · intro hempty
    rcases settings.unnamed_or with hu | ⟨name, hname, hne⟩
    · refine ⟨hu, ?_⟩
      by_contra hn
      by_cases hother : ∃ name, settings.TokenNames name
      · obtain ⟨name, hname⟩ := hother
        rw [displayName_of_tokenNames hu hname] at hempty
        exact hn (hempty ▸ hname)
      · rw [displayName_of_nameless hu (not_exists.mp hother)] at hempty
        exact absurd hempty (by decide)
    · exact absurd ((displayName_of_named hname hne).symm.trans hempty) hne
  · rintro ⟨hu, hn⟩
    exact displayName_of_tokenNames hu hn

/-- A token that claims the empty name, beside an empty name in the settings; a name in the settings
is shown in its place, and a token of one part claims none. -/
theorem displayName_exact_nameless :
    let session := { empty with username := some "" }.withToken "e30.eyJ1c2VyX25hbWUiOiIifQ.s"
    let named := { session with username := some "zoë" }
    let bare := session.withToken "opaque"
    session.displayName = "" ∧ named.displayName = "zoë" ∧ bare.displayName = "unknown" := by
  intro session named bare
  have hempty : session.TokenNames "" := tokenNames_iff.mpr (by decide +kernel)
  have hnone : ∀ name, ¬ bare.TokenNames name := by
    intro name
    rw [tokenNames_iff, show bare.claims? = none by decide +kernel]
    exact Option.some_ne_none name ∘ Eq.symm
  exact ⟨(displayName_exact session).2.2.mpr ⟨.inr rfl, hempty⟩,
    (displayName_exact named).1 _ rfl (by decide),
    ((displayName_exact bare).2.1 (.inr rfl)).2 hnone⟩

/-- A session may show no name at all: the name in the token is not looked at. -/
theorem displayName_of_empty_claim :
    ¬ ∀ settings : Settings, settings.displayName ≠ "" := by
  intro h
  exact h (empty.withToken "e30.eyJ1c2VyX25hbWUiOiIifQ.s") (by decide +kernel)

end Settings

end RuntimeFlag
