import Mathlib.Data.List.TakeDrop
import RuntimeFlag.Proofs.Text.Blank
import RuntimeFlag.Proofs.Text.Utf8
import RuntimeFlag.Settings.Session
/-!
# Tokens as they are stored and as they are sent

A stored token is used unless there is nothing in it but blanks and a bare scheme. What is sent for
it has the scheme in front and no blank ends; stored in its place it is sent as it is. The scheme
and the blanks are no part of what a token says about itself: this stands between its first and its
second dot.
-/
namespace RuntimeFlag

/-! ## What a token says -/

namespace Claims

theorem length_splitOn (token : List Char) : (token.splitOn '.').length = token.count '.' + 1 := by
  induction token with
  | nil => rfl
  | cons c token ih =>
    rw [List.splitOn_cons_eq_if_modifyHead]
    by_cases hc : c = '.'
    · simp [hc, ih]
    · simp [hc, ih]

theorem ofToken?_of_count {token : List Char} (h : token.count '.' ≠ 2) :
    ofToken? token = none := by
  unfold ofToken?
  split
  · next payload _ hparts =>
    have hlength := length_splitOn token
    rw [hparts] at hlength
    simp at hlength
    omega
  · rfl

theorem ofToken?_parts {header payload signature : List Char} (hh : '.' ∉ header)
    (hp : '.' ∉ payload) (hs : '.' ∉ signature) :
    ofToken? (header ++ '.' :: (payload ++ '.' :: signature)) =
      (Base64Url.decode? (Text.dropTailWhile (· = '=') payload)).bind fun bytes =>
        (Json.decode decoder bytes).toOption := by
  rw [ofToken?, List.splitOn_append_cons_self_of_not_mem hh,
    List.splitOn_append_cons_self_of_not_mem hp, List.splitOn_eq_singleton hs]
  rfl

private theorem exists_parts {token : List Char} (h : token.count '.' = 2) :
    ∃ header payload signature, token = header ++ '.' :: (payload ++ '.' :: signature) ∧
      '.' ∉ header ∧ '.' ∉ payload ∧ '.' ∉ signature := by
  have hfirst : '.' ∈ token := List.count_pos_iff.mp (by omega)
  obtain ⟨header, rest, rfl, hheader⟩ := List.eq_append_cons_of_mem hfirst
  rw [List.count_append, List.count_eq_zero_of_not_mem hheader, List.count_cons_self] at h
  have hsecond : '.' ∈ rest := List.count_pos_iff.mp (by omega)
  obtain ⟨payload, signature, rfl, hpayload⟩ := List.eq_append_cons_of_mem hsecond
  rw [List.count_append, List.count_eq_zero_of_not_mem hpayload, List.count_cons_self] at h
  exact ⟨header, payload, signature, rfl, hheader, hpayload, List.count_eq_zero.mp (by omega)⟩

/-- What is put around a token changes nothing as long as there is no dot in it. -/
theorem ofToken?_append {front back : List Char} (hf : '.' ∉ front) (hb : '.' ∉ back)
    (token : List Char) : ofToken? (front ++ token ++ back) = ofToken? token := by
  have hcount : (front ++ token ++ back).count '.' = token.count '.' := by
    simp [List.count_eq_zero_of_not_mem hf, List.count_eq_zero_of_not_mem hb]
  by_cases h : token.count '.' = 2
  · obtain ⟨header, payload, signature, rfl, hh, hp, hs⟩ := exists_parts h
    have hsplit : front ++ (header ++ '.' :: (payload ++ '.' :: signature)) ++ back =
        (front ++ header) ++ '.' :: (payload ++ '.' :: (signature ++ back)) := by
      simp
    rw [hsplit, ofToken?_parts hh hp hs, ofToken?_parts (by simp [hf, hh]) hp (by simp [hs, hb])]
  · rw [ofToken?_of_count h, ofToken?_of_count (hcount ▸ h)]

end Claims

namespace Token

open Text

variable {token stored : List Char}

theorem dot_not_mem_of_blank {cs : List Char} (h : ∀ c ∈ cs, isBlank c = true) : '.' ∉ cs :=
  fun hm => absurd (h '.' hm) (by decide)

theorem dot_not_mem_of_isScheme {cs : List Char} (h : isScheme cs = true) : '.' ∉ cs := by
  intro hm
  have hlower := List.mem_map_of_mem (f := lowerAscii) hm
  rw [of_decide_eq_true h] at hlower
  exact absurd hlower (by decide)

private theorem ofToken?_trimChars (stored : List Char) :
    Claims.ofToken? (trimChars stored) = Claims.ofToken? stored := by
  obtain ⟨front, back, hsplit, hf, hb⟩ := exists_trimChars stored
  conv_rhs => rw [hsplit]
  rw [Claims.ofToken?_append (dot_not_mem_of_blank hf) (dot_not_mem_of_blank hb)]

/-- The ways to take the scheme off a token without blank ends: there is one, or there is none. -/
theorem withoutScheme_cases (h : Tight token) :
    (∃ first rest, token = first ++ ' ' :: rest ∧ isScheme first = true ∧
      withoutScheme token = trimChars rest) ∨ withoutScheme token = token := by
  unfold withoutScheme
  dsimp only
  rw [trimChars_of_tight h, List.span_eq_takeWhile_dropWhile]
  cases hdrop : token.dropWhile (· ≠ ' ') with
  | nil => exact .inr rfl
  | cons c rest =>
    have hhead := List.head?_dropWhile_not (· ≠ ' ') token
    have hsplit := List.takeWhile_append_dropWhile (p := (· ≠ ' ')) (l := token)
    rw [hdrop] at hhead hsplit
    obtain rfl : c = ' ' := by simpa using hhead
    by_cases hscheme : isScheme (token.takeWhile (· ≠ ' ')) = true
    · exact .inl ⟨_, rest, hsplit.symm, hscheme, if_pos hscheme⟩
    · exact .inr (if_neg hscheme)

theorem claims?_eq (stored : List Char) : claims? stored = Claims.ofToken? stored := by
  have hsame : withoutScheme stored = withoutScheme (trimChars stored) := by
    unfold withoutScheme
    rw [trimChars_of_tight (tight_trimChars stored)]
  rw [claims?, hsame, ← ofToken?_trimChars stored]
  rcases withoutScheme_cases (tight_trimChars stored) with ⟨first, rest, htoken, hscheme, h⟩ | h
  · have hfront : '.' ∉ first ++ [' '] := by
      simp [dot_not_mem_of_isScheme hscheme]
    have hjoin : first ++ ' ' :: rest = first ++ [' '] ++ rest ++ [] := by simp
    rw [h, ofToken?_trimChars, htoken, hjoin, Claims.ofToken?_append hfront List.not_mem_nil]
  · rw [h]

/-! ## Which tokens are used -/

private theorem withoutScheme_ne_nil (h : Tight token) (hne : token ≠ []) :
    withoutScheme token ≠ [] := by
  rcases withoutScheme_cases h with ⟨first, rest, rfl, -, hrest⟩ | hsame
  · rw [hrest, Ne, trimChars_eq_nil_iff]
    intro hblank
    obtain ⟨c, hc, hnot⟩ := h.exists_not_blank (List.cons_ne_nil _ _)
    rcases List.mem_cons.mp hc with rfl | hc
    · exact absurd hnot (by decide)
    · simp [hblank c hc] at hnot
  · rwa [hsame]

private theorem usable?_eq (stored : List Char) :
    usable? stored = if trimChars stored = [] ∨ isScheme (trimChars stored) = true then none
      else some (trimChars stored) := by
  unfold usable?
  by_cases hnil : trimChars stored = []
  · have hempty : withoutScheme [] = [] := rfl
    simp [hnil, hempty]
  · have hne := withoutScheme_ne_nil (tight_trimChars stored) hnil
    simp [hnil, hne]

/-! ## What is sent -/

private theorem header_eq_or (token : List Char) :
    header token = token ∨ header token = "Bearer ".toList ++ token := by
  unfold header
  split
  · exact .inl rfl
  · exact .inr rfl

/-- The form in which a token is sent: the scheme, a space and more than blanks, and no blank ends.
-/
structure Presented (token : List Char) : Prop where
  tight : Tight token
  schemed : ∃ first rest, token = first ++ ' ' :: rest ∧ isScheme first = true ∧
    ∃ c ∈ rest, isBlank c = false

private theorem eq_space_of_lowerAscii {c : Char} (h : lowerAscii c = ' ') : c = ' ' := by
  unfold lowerAscii at h
  split at h
  · next hupper =>
    simp only [Bool.and_eq_true, decide_eq_true_eq, Char.le_def, UInt32.le_iff_toNat_le] at hupper
    change 65 ≤ c.toNat ∧ c.toNat ≤ 90 at hupper
    have hnat := congrArg Char.toNat h
    rw [Utf8.toNat_char (.inl (by omega))] at hnat
    change c.toNat + 32 = 32 at hnat
    omega
  · exact h

private theorem presented_header (h : Tight token) (hne : token ≠ []) :
    Presented (header token) := by
  unfold header
  split
  · next hstart =>
    obtain ⟨first, space, htake, hfirst, hspace⟩ := List.map_eq_append_iff.mp hstart
    obtain ⟨c, rfl, hc⟩ := List.map_eq_singleton_iff.mp hspace
    obtain rfl := eq_space_of_lowerAscii hc
    have hsplit : token = first ++ ' ' :: token.drop 7 := by
      conv_lhs => rw [← List.take_append_drop 7 token, htake]
      simp
    refine ⟨h, first, token.drop 7, hsplit, decide_eq_true hfirst, ?_⟩
    rw [hsplit] at h
    obtain ⟨d, hd, hnot⟩ := h.exists_not_blank (List.cons_ne_nil _ _)
    rcases List.mem_cons.mp hd with rfl | hd
    · exact absurd hnot (by decide)
    · exact ⟨d, hd, hnot⟩
  · have hfront : ∀ c ∈ "Bearer ".toList.head?, isBlank c = false := by
      intro c hc
      obtain rfl : 'B' = c := Option.some.inj hc
      decide
    have hmore : ∃ c ∈ token, isBlank c = false := @Tight.exists_not_blank [] token h hne
    exact ⟨h.behind hne hfront, "Bearer".toList, token, rfl, by decide, hmore⟩

private theorem Presented.header_eq (h : Presented token) : header token = token := by
  obtain ⟨first, rest, rfl, hscheme, -⟩ := h.schemed
  have hfirst : first.map lowerAscii = scheme := of_decide_eq_true hscheme
  have hlength : first.length = 6 := by
    rw [← List.length_map lowerAscii, hfirst]
    rfl
  have htake : (first ++ ' ' :: rest).take 7 = first ++ [' '] := by
    simp [List.take_append, hlength, List.take_of_length_le]
  have hspace : [' '].map lowerAscii = [' '] := by decide
  rw [header, htake, List.map_append, hfirst, hspace, if_pos rfl]

private theorem Presented.usable?_eq (h : Presented token) : usable? token = some token := by
  rw [Token.usable?_eq, trimChars_of_tight h.tight]
  obtain ⟨first, rest, rfl, hscheme, c, hc, -⟩ := h.schemed
  refine if_neg ?_
  rintro (hnil | hbare)
  · simp at hnil
  · -- a bare scheme is as long as the one in front already is
    have hlong := congrArg List.length (of_decide_eq_true hbare)
    have hfirst := congrArg List.length (of_decide_eq_true hscheme)
    simp only [List.length_map, List.length_append, List.length_cons] at hlong hfirst
    omega

private theorem ofToken?_header (token : List Char) :
    Claims.ofToken? (header token) = Claims.ofToken? token := by
  rcases header_eq_or token with hsame | hfront
  · rw [hsame]
  · have hdot : '.' ∉ "Bearer ".toList := by decide
    rw [hfront, ← List.append_nil ("Bearer ".toList ++ token),
      Claims.ofToken?_append hdot List.not_mem_nil]

end Token

namespace Settings

open Text

variable {settings : Settings} {stored : String}

def withToken (settings : Settings) (stored : String) : Settings :=
  { settings with accessToken := some stored }

private theorem token?_withToken (settings : Settings) (stored : String) :
    (settings.withToken stored).token? = Token.usable? stored.toList := rfl

theorem claims?_withToken (settings : Settings) (stored : String) :
    (settings.withToken stored).claims? = Claims.ofToken? stored.toList := by
  rw [claims?, token?_withToken, Token.usable?_eq]
  by_cases hunused : trimChars stored.toList = [] ∨
      Token.isScheme (trimChars stored.toList) = true
  · have hdot : '.' ∉ trimChars stored.toList := by
      rcases hunused with hnil | hscheme
      · simp [hnil]
      · exact Token.dot_not_mem_of_isScheme hscheme
    rw [if_pos hunused, ← Token.ofToken?_trimChars, Claims.ofToken?_of_count]
    · rfl
    · simp [List.count_eq_zero_of_not_mem hdot]
  · rw [if_neg hunused, Option.bind_some, Token.claims?_eq, Token.ofToken?_trimChars]

private theorem authorization_of_token {token : List Char} (h : settings.token? = some token) :
    settings.authorization = .ok (String.ofList (Token.header token)) := by
  rw [authorization, h]

theorem displayName_withToken (settings : Settings) (stored : String) :
    (settings.withToken stored).displayName = ((settings.username.filter (· ≠ "")).or
      ((Claims.ofToken? stored.toList).bind (·.userName))).getD "unknown" := by
  rw [displayName, claims?_withToken]
  rfl

theorem expiredAt?_withToken (settings : Settings) (stored : String) (now : Int) :
    (settings.withToken stored).expiredAt? now =
      ((Claims.ofToken? stored.toList).bind Claims.expiresAt?).filter (· < now) := by
  rw [expiredAt?, claims?_withToken]

private theorem isLoggedIn_withToken_eq_false (settings : Settings) (stored : String) :
    (settings.withToken stored).isLoggedIn = false ↔
      trim stored = "" ∨ sameIgnoringCase (trim stored) "bearer" = true := by
  have hempty : trim stored = "" ↔ trimChars stored.toList = [] := by
    simp [trim, String.ext_iff]
  have hscheme : sameIgnoringCase (trim stored) "bearer" = true ↔
      Token.isScheme (trimChars stored.toList) = true := by
    have hlower : "bearer".toList.map lowerAscii = Token.scheme := by decide
    rw [sameIgnoringCase, hlower, trim, String.toList_ofList, Token.isScheme, beq_iff_eq,
      decide_eq_true_eq]
  rw [isLoggedIn, token?_withToken, Token.usable?_eq, hempty, hscheme]
  split <;> simp_all

private theorem token?_of_isLoggedIn (h : (settings.withToken stored).isLoggedIn = true) :
    (settings.withToken stored).token? = some (trimChars stored.toList) ∧
      trimChars stored.toList ≠ [] := by
  rw [isLoggedIn, token?_withToken, Token.usable?_eq] at h
  rw [token?_withToken, Token.usable?_eq]
  split at h
  · cases h
  · next hused =>
    exact ⟨if_neg hused, fun hnil => hused (.inl hnil)⟩

/-- Without a token to send a session is not logged in. Otherwise what it sends is in the form of a
header; stored in place of the token it is sent again as it is, and it tells the same name and the
same expiry. -/
theorem token_normalised (settings : Settings) (stored : String) :
    ((settings.withToken stored).isLoggedIn = false ↔
      trim stored = "" ∨ sameIgnoringCase (trim stored) "bearer" = true) ∧
    ((settings.withToken stored).isLoggedIn = false →
      (settings.withToken stored).authorization = .error .notLoggedIn) ∧
    ((settings.withToken stored).isLoggedIn = true → ∃ sent : String,
      (settings.withToken stored).authorization = .ok sent ∧
      (sent = trim stored ∨ sent = "Bearer " ++ trim stored) ∧ Token.Presented sent.toList ∧
      (settings.withToken sent).authorization = .ok sent ∧
      (settings.withToken sent).displayName = (settings.withToken stored).displayName ∧
      ∀ now, (settings.withToken sent).expiredAt? now =
        (settings.withToken stored).expiredAt? now) := by
  refine ⟨isLoggedIn_withToken_eq_false settings stored, ?_, ?_⟩
  · intro hout
    have hnone : (settings.withToken stored).token? = none :=
      Option.not_isSome_iff_eq_none.mp (Bool.eq_false_iff.mp hout)
    rw [authorization, hnone]
  · intro hin
    obtain ⟨htoken, hne⟩ := token?_of_isLoggedIn hin
    have hpresented := Token.presented_header (tight_trimChars stored.toList) hne
    obtain ⟨sent, hsent⟩ : ∃ sent : String, sent.toList = Token.header (trimChars stored.toList) :=
      ⟨_, String.toList_ofList⟩
    have hread : String.ofList (Token.header (trimChars stored.toList)) = sent := by
      rw [← hsent, String.ofList_toList]
    have hclaims : Claims.ofToken? sent.toList = Claims.ofToken? stored.toList := by
      rw [hsent, Token.ofToken?_header, Token.ofToken?_trimChars]
    refine ⟨sent, ?_, ?_, hsent ▸ hpresented, ?_, ?_, ?_⟩
    · rw [authorization_of_token htoken, hread]
    · rcases Token.header_eq_or (trimChars stored.toList) with hsame | hfront
      · exact .inl (by rw [← hread, hsame, trim])
      · exact .inr (by rw [← hread, hfront, String.ofList_append, String.ofList_toList, trim])
    · have hagain : (settings.withToken sent).token? =
          some (Token.header (trimChars stored.toList)) := by
        rw [token?_withToken, hsent, hpresented.usable?_eq]
      rw [authorization_of_token hagain, hpresented.header_eq, hread]
    · rw [displayName_withToken, displayName_withToken, hclaims]
    · intro now
      rw [expiredAt?_withToken, expiredAt?_withToken, hclaims]

/-- Two spellings of a bare scheme between blanks, and a token behind a blank that is no space. -/
theorem token_normalised_opaque :
    let bare := Settings.empty.withToken "\tBEARER\u3000"
    let given := Settings.empty.withToken "\u3000bearer\u3000of arms\n"
    bare.isLoggedIn = false ∧ bare.authorization = .error .notLoggedIn ∧ given.isLoggedIn = true ∧
      ∃ sent : String, given.authorization = .ok sent ∧
        (sent = "bearer\u3000of arms" ∨ sent = "Bearer bearer\u3000of arms") ∧
        Token.Presented sent.toList ∧ (Settings.empty.withToken sent).authorization = .ok sent ∧
        (Settings.empty.withToken sent).displayName = given.displayName ∧
        ∀ now, (Settings.empty.withToken sent).expiredAt? now = given.expiredAt? now := by
  intro bare given
  have hbare : bare.isLoggedIn = false := by decide +kernel
  have hgiven : given.isLoggedIn = true := by decide +kernel
  exact ⟨hbare, (token_normalised _ _).2.1 hbare, hgiven, (token_normalised _ _).2.2 hgiven⟩

end Settings

end RuntimeFlag
