import RuntimeFlag.Proofs.Catalog.Flaws
import RuntimeFlag.Proofs.Credential.Base64Url
import RuntimeFlag.Proofs.Credential.Token
import RuntimeFlag.Proofs.Json.Integer
/-!
# Claims are read back

The second of the three parts of a token writes the claims: a JSON text in base64 for URLs. Whatever
the other two parts are, and whatever blanks and padding there are, what is read is what the text
says, and a session shows it.
-/
namespace RuntimeFlag

open Json

namespace Claims

/-! ## What a document says -/

def fields : List Field :=
  [⟨"user_name", true, OptionalFlaw TextFlaw⟩, ⟨"exp", true, OptionalFlaw IntegerFlaw⟩]

def HasMember (doc : Doc) (name : String) (value : Doc) : Prop :=
  ∃ members, doc.members? (fields.map (·.name)) = some members ∧ (.ok name, value) ∈ members

/-- The document says just this: there is nothing wrong with it, and a claim is made when there is a
member for it that is not `null`. -/
structure SaidBy (claims : Claims) (doc : Doc) : Prop where
  flawless : ¬ RecordFlaw fields doc
  userName : ∀ name, claims.userName = some name ↔ HasMember doc "user_name" (.text (.ok name))
  expiry : ∀ second, claims.expiry = some second ↔
    ∃ value, HasMember doc "exp" value ∧ value.IsInteger second

def layout : Catalog.Layout decoder Draft where
  shape := _
  reads := rfl
  orderly := by
    refine .pair ?_ ?_ ?_
    · exact Slot.lawful_ofField Decoder.strict_text.optional fun _ _ => rfl
    · exact Slot.lawful_ofField Decoder.strict_integer.optional fun _ _ => rfl
    · exact Slot.apart_ofField (by decide) (fun _ _ => rfl) (fun _ _ => rfl) fun _ _ _ => rfl

theorem layout_judges : layout.shape.Judges fields := by
  refine ⟨layout.orderly, ?_, ?_, ?_⟩
  · exact .cons (Slot.judges_ofField Decoder.judges_text.optional)
      (.cons (Slot.judges_ofField Decoder.judges_integer.optional) .nil)
  · simp [layout, Slot.ofField]
  · simp [layout, Slot.ofField, pure, Except.pure]

private theorem SaidBy.unique {doc : Doc} {claims others : Claims} (h : claims.SaidBy doc)
    (ho : others.SaidBy doc) : claims = others := by
  have hname : claims.userName = others.userName :=
    Option.ext fun name => (h.userName name).trans (ho.userName name).symm
  have hexpiry : claims.expiry = others.expiry :=
    Option.ext fun second => (h.expiry second).trans (ho.expiry second).symm
  exact congrArg₂ Claims.mk hname hexpiry

theorem saidBy_of_decoder {doc : Doc} {claims : Claims} (hw : doc.skipFault? = none)
    (h : decoder doc = .ok claims) : claims.SaidBy doc := by
  have hsound := (layout.judges layout_judges hw).mp ⟨claims, h⟩
  obtain ⟨members, last, hmembers, hfills, hbuild⟩ := (layout_judges.decoder_eq_ok hw).mp h
  have hmember (name : String) (value : Doc) :
      HasMember doc name value ↔ (.ok name, value) ∈ members := by
    simp [HasMember, hmembers]
  cases hbuild
  refine ⟨hsound, fun name => ?_, fun second => ?_⟩
  · rw [hmember, hfills.join_eq_some_iff layout.orderly List.mem_cons_self (fun _ _ => rfl) rfl]
    simp [Decoder.text_eq_ok]
  · simp only [hmember]
    rw [hfills.join_eq_some_iff layout.orderly (List.mem_cons_of_mem _ List.mem_cons_self)
      (fun _ _ => rfl) rfl]
    simp only [Decoder.integer_eq_ok]
    constructor
    · rintro ⟨value, hm, -, hvalue⟩
      exact ⟨value, hm, hvalue⟩
    · rintro ⟨value, hm, hvalue⟩
      refine ⟨value, hm, ?_, hvalue⟩
      rintro rfl
      cases hvalue

private theorem decoder_eq_ok {doc : Doc} {claims : Claims} (hw : doc.skipFault? = none) :
    decoder doc = .ok claims ↔ claims.SaidBy doc := by
  constructor
  · exact saidBy_of_decoder hw
  · intro h
    obtain ⟨others, hothers⟩ := (layout.judges layout_judges hw).mpr h.flawless
    rwa [h.unique (saidBy_of_decoder hw hothers)]

/-- The claims of a text are those that its document says. -/
theorem decode_eq_some_iff {payload : Bytes} {claims : Claims} :
    (decode decoder payload).toOption = some claims ↔
      ∃ doc : Doc, doc.Spelling payload ∧ claims.SaidBy doc := by
  have hok : (decode decoder payload).toOption = some claims ↔
      decode decoder payload = .ok claims := by
    cases decode decoder payload <;> simp [Except.toOption]
  rw [hok, Json.decode_eq_ok layout.strict]
  constructor
  · rintro ⟨doc, hspelling, hdecoder⟩
    exact ⟨doc, hspelling, (decoder_eq_ok (Doc.spelling_iff.mp hspelling).2).mp hdecoder⟩
  · rintro ⟨doc, hspelling, hsaid⟩
    exact ⟨doc, hspelling, (decoder_eq_ok (Doc.spelling_iff.mp hspelling).2).mpr hsaid⟩

/-! ## How claims can be written -/

def written (name : String) (second : Int) : Value :=
  .object [("user_name", .text name), ("exp", .integer second)]

private theorem saidBy_written (name : String) {second : Int} (hl : -0x8000000000000000 ≤ second)
    (hu : second < 0x8000000000000000) :
    SaidBy ⟨some name, some second⟩ (written name second).doc := by
  have hinteger := isInteger_written hl hu
  have hsecond : Decoder.optional .integer (Value.integer second).doc = .ok (some second) := by
    refine Decoder.optional_eq_ok.mpr (.inr ⟨?_, second, Decoder.integer_eq_ok.mpr hinteger, rfl⟩)
    intro hnull
    rw [hnull] at hinteger
    cases hinteger
  have hfills : Shape.Fills layout.shape.slots
      [(.ok "user_name", (Value.text name).doc), (.ok "exp", (Value.integer second).doc)]
      layout.shape.empty ⟨some (some name), some (some second)⟩ :=
    .known rfl rfl rfl (.known rfl rfl (map_eq_ok.mpr ⟨_, hsecond, rfl⟩) (.nil _))
  exact saidBy_of_decoder (skipFault?_doc _) (Shape.decoder_object hfills rfl)

end Claims

namespace Token

open Text

variable {token stored header signature : List Char}

/-! ## Tokens that are stored -/

/-- A token with its claims in the middle part, with padding. -/
def assembled (header : List Char) (payload : Bytes) (padding : Nat) (signature : List Char) :
    List Char :=
  header ++ '.' :: (Base64Url.encode payload ++ List.replicate padding '=' ++ '.' :: signature)

/-- A text that holds a token: it has blanks around it, and maybe the scheme in front. -/
inductive Holds (token : List Char) : List Char → Prop
  | bare {front back : List Char} (hf : ∀ c ∈ front, isBlank c = true)
    (hb : ∀ c ∈ back, isBlank c = true) : Holds token (front ++ token ++ back)
  | schemed {front first gap back : List Char} (hf : ∀ c ∈ front, isBlank c = true)
    (hs : isScheme first = true) (hg : ∀ c ∈ gap, isBlank c = true)
    (hb : ∀ c ∈ back, isBlank c = true) : Holds token (front ++ first ++ gap ++ token ++ back)

private theorem ofToken?_of_holds (h : Holds token stored) :
    Claims.ofToken? stored = Claims.ofToken? token := by
  cases h with
  | bare hf hb =>
    exact Claims.ofToken?_append (dot_not_mem_of_blank hf) (dot_not_mem_of_blank hb) token
  | schemed hf hs hg hb =>
    apply Claims.ofToken?_append
    · simp [dot_not_mem_of_blank hf, dot_not_mem_of_isScheme hs, dot_not_mem_of_blank hg]
    · exact dot_not_mem_of_blank hb

private theorem ofToken?_assembled (hh : '.' ∉ header) (hs : '.' ∉ signature) (payload : Bytes)
    (padding : Nat) : Claims.ofToken? (assembled header payload padding signature) =
      (decode Claims.decoder payload).toOption := by
  have hpayload : '.' ∉ Base64Url.encode payload ++ List.replicate padding '=' := by
    intro hm
    rcases List.mem_append.mp hm with hm | hm
    · exact (Base64Url.ne_of_mem_encode hm).1 rfl
    · exact absurd (List.eq_of_mem_replicate hm) (by decide)
  rw [assembled, Claims.ofToken?_parts hh hpayload hs, Base64Url.dropTailWhile_padded,
    Base64Url.decode?_encode, Option.bind_some]

/-- What the middle part of a token says is read back, and nothing else is; every name and every
integer of 64 bits can be said. A session with the token shows the name, unless it has one itself,
and the expiry once it is past. A token that has not three parts says nothing. -/
theorem claims_read_back :
    (∀ {header signature stored : List Char} (payload : Bytes) (padding : Nat), '.' ∉ header →
      '.' ∉ signature → Holds (assembled header payload padding signature) stored →
      ∀ claims, claims? stored = some claims ↔
        ∃ doc : Doc, doc.Spelling payload ∧ claims.SaidBy doc) ∧
    (∀ (name : String) (second : Int), -0x8000000000000000 ≤ second →
      second < 0x8000000000000000 → ∃ (payload : Bytes) (doc : Doc), doc.Spelling payload ∧
        Claims.SaidBy ⟨some name, some second⟩ doc) ∧
    (∀ (settings : Settings) (stored : String) (claims : Claims),
      claims? stored.toList = some claims →
      (∀ name, claims.userName = some name →
        settings.username = none ∨ settings.username = some "" →
        (settings.withToken stored).displayName = name) ∧
      ∀ second, claims.expiry = some second → ∀ now,
        (settings.withToken stored).expiredAt? now =
          if Calendar.isRepresentable second = true ∧ second < now then some second else none) ∧
    ∀ stored : List Char, (stored.splitOn '.').length ≠ 3 → claims? stored = none := by
  refine ⟨?_, ?_, ?_, ?_⟩
  · intro header signature stored payload padding hh hs hstored claims
    rw [claims?_eq, ofToken?_of_holds hstored, ofToken?_assembled hh hs, Claims.decode_eq_some_iff]
  · intro name second hl hu
    exact ⟨_, _, spelling_compact (Claims.written name second), Claims.saidBy_written name hl hu⟩
  · intro settings stored claims hclaims
    rw [claims?_eq] at hclaims
    constructor
    · intro name hname husername
      have hnone : settings.username.filter (· ≠ "") = none := by
        rcases husername with h | h <;> simp [h]
      rw [Settings.displayName_withToken, hclaims, hnone, Option.none_or, Option.bind_some, hname,
        Option.getD_some]
    · intro second hsecond now
      rw [Settings.expiredAt?_withToken, hclaims, Option.bind_some, Claims.expiresAt?, hsecond]
      by_cases hdate : Calendar.isRepresentable second = true
      · by_cases hpast : second < now <;> simp [Option.filter, hdate, hpast]
      · simp [Option.filter, hdate]
  · intro stored hparts
    rw [claims?_eq, Claims.ofToken?_of_count]
    rw [Claims.length_splitOn] at hparts
    omega

/-- A name with a quote in it and the first second of the year one, in a token with padding and an
odd scheme; the least 64-bit expiry; a token of two parts. -/
theorem claims_read_back_padded :
    let payload := Utf8.encode (Claims.written "zoë \"" (-62135596800)).compact
    let token := assembled "e30".toList payload 2 []
    let stored :=
      String.ofList ("\t".toList ++ "BEARER".toList ++ " \u3000".toList ++ token ++ ['\n'])
    let session := Settings.empty.withToken stored
    claims? stored.toList = some ⟨some "zoë \"", some (-62135596800)⟩ ∧
      session.displayName = "zoë \"" ∧ session.expiredAt? 0 = some (-62135596800) ∧
      session.expiredAt? (-62135596800) = none ∧
      (∃ (payload : Bytes) (doc : Doc), doc.Spelling payload ∧
        Claims.SaidBy ⟨some "", some (-0x8000000000000000)⟩ doc) ∧
      claims? "bearer e30.e30".toList = none := by
  intro payload token stored session
  obtain ⟨hread, hwrite, hshow, hparts⟩ := claims_read_back
  have hholds : Holds token stored.toList := by
    rw [String.toList_ofList]
    have hblank {cs : List Char} (h : cs.all isBlank = true) : ∀ c ∈ cs, isBlank c = true :=
      List.all_eq_true.mp h
    exact .schemed (hblank (by decide)) (by decide) (hblank (by decide)) (hblank (by decide))
  have hclaims : claims? stored.toList = some ⟨some "zoë \"", some (-62135596800)⟩ :=
    (hread payload 2 (by decide) (by decide) hholds _).mpr
      ⟨_, spelling_compact _, Claims.saidBy_written "zoë \"" (by decide) (by decide)⟩
  obtain ⟨hname, hexpiry⟩ := hshow Settings.empty stored _ hclaims
  refine ⟨hclaims, hname _ rfl (.inl rfl), ?_, ?_, hwrite "" _ (by decide) (by decide),
    hparts _ (by decide)⟩
  · rw [hexpiry _ rfl]
    decide
  · rw [hexpiry _ rfl]
    decide

end Token

end RuntimeFlag
