import RuntimeFlag.Proofs.Json.Growth
/-!
# Where a text ends

A value between brackets is complete with its last bracket: behind it only blanks may follow, and no
start of it without this bracket is a whole text. So a text that is decoded as such a value can be
neither cut nor continued, except by blanks.
-/
namespace RuntimeFlag.Json

variable {α : Type}

/-- A value between brackets. -/
def Doc.IsBracketed : Doc → Prop
  | .list _ _ | .object _ _ => True
  | .null | .flag _ | .number _ | .text _ | .broken _ _ => False

namespace Reading

private theorem not_isBracketed_numeralDoc (read : Bytes) : ¬ (numeralDoc read).IsBracketed := by
  unfold numeralDoc
  split <;> exact id

private theorem foldl_closed (doc : Doc) (more : Bool) (bs : Bytes) :
    bs.foldl step (.closed doc more) = .closed doc (more || bs.any (!isSpace ·)) := by
  induction bs generalizing more with
  | nil => simp
  | cons b bs ih =>
    have hstep : (closed doc more).step b = .closed doc (more || !isSpace b) := by
      cases hb : isSpace b <;> simp [step, stepSpaced, hb]
    rw [List.foldl_cons, hstep, ih, List.any_cons, Bool.or_assoc]

private theorem ofBytes_of_spelling {doc : Doc} {bs : Bytes} (h : doc.Spelling bs)
    (hd : doc.IsBracketed) :
    ofBytes bs = .closed doc false := by
  obtain ⟨front, value, back, hfront, hback, hvalue, rfl⟩ := h
  have hpast := (covers_of_spells hvalue (awaits_value [])).blanks hback
  rw [ofBytes, start, List.foldl_append, List.foldl_append, foldl_blank .value trivial [] hfront]
  generalize back.foldl step (value.foldl step (inside .value [])) = r at hpast
  cases hpast with
  | whole => rfl
  | inNumeral => exact (not_isBracketed_numeralDoc _ hd).elim

end Reading

private theorem readDoc_append {doc : Doc} {bs : Bytes} (h : doc.Spelling bs) (hd : doc.IsBracketed)
    (more : Bytes) : readDoc (bs ++ more) = (doc, more.any (!isSpace ·)) := by
  rw [readDoc, Reading.ofBytes, List.foldl_append, ← Reading.ofBytes,
    Reading.ofBytes_of_spelling h hd, Reading.foldl_closed]
  rfl

/-! ## Blanks at the end -/

private theorem Blank.append {bs more : Bytes} (h : Blank bs) (hm : Blank more) :
    Blank (bs ++ more) := by
  intro b hb
  rcases List.mem_append.mp hb with hb | hb
  · exact h b hb
  · exact hm b hb

private theorem Doc.Spelling.append_blank {doc : Doc} {bs more : Bytes} (h : doc.Spelling bs)
    (hm : Blank more) : doc.Spelling (bs ++ more) := by
  obtain ⟨front, value, back, hfront, hback, hvalue, rfl⟩ := h
  exact ⟨front, value, back ++ more, hfront, hback.append hm, hvalue, List.append_assoc _ _ _⟩

private theorem exists_last_of_spells {doc : Doc} {bs : Bytes} (h : Spells (.value doc) bs)
    (hd : doc.IsBracketed) : ∃ init b, bs = init ++ [b] ∧ isSpace b = false := by
  cases h with
  | null => exact hd.elim
  | flag => exact hd.elim
  | number => exact (Reading.not_isBracketed_numeralDoc _ hd).elim
  | text => exact hd.elim
  | emptyList => exact ⟨_, 0x5D, rfl, by decide⟩
  | list => exact ⟨_, 0x5D, rfl, by decide⟩
  | emptyObject => exact ⟨_, 0x7D, rfl, by decide⟩
  | object => exact ⟨_, 0x7D, rfl, by decide⟩

private theorem Doc.Spelling.dropLast_blank {doc : Doc} {bs : Bytes} {b : UInt8}
    (h : doc.Spelling (bs ++ [b])) (hd : doc.IsBracketed) (hb : isSpace b = true) :
    doc.Spelling bs := by
  obtain ⟨front, value, back, hfront, hback, hvalue, heq⟩ := h
  rcases List.eq_nil_or_concat back with rfl | ⟨init, last, rfl⟩
  · obtain ⟨init, last, rfl, hlast⟩ := exists_last_of_spells hvalue hd
    rw [List.append_nil, ← List.append_assoc] at heq
    obtain ⟨-, rfl⟩ := List.append_inj' heq rfl |>.imp_right List.singleton_inj.mp
    rw [hb] at hlast
    cases hlast
  · rw [List.concat_eq_append, ← List.append_assoc] at heq
    obtain ⟨rfl, -⟩ := List.append_inj' heq rfl
    refine ⟨front, value, init, hfront, fun d hmem => hback d ?_, hvalue, rfl⟩
    rw [List.concat_eq_append]
    exact List.mem_append_left _ hmem

private theorem Doc.Spelling.of_append_blank {doc : Doc} {bs more : Bytes}
    (h : doc.Spelling (bs ++ more)) (hd : doc.IsBracketed) (hm : Blank more) : doc.Spelling bs := by
  induction more using List.reverseRecOn with
  | nil => rwa [List.append_nil] at h
  | append_singleton more b ih =>
    rw [← List.append_assoc] at h
    have hblank : isSpace b = true := hm b (by simp)
    exact ih (h.dropLast_blank hd hblank) fun d hmem => hm d (List.mem_append_left _ hmem)

/-! ## Decoders -/

/-- A decoder that accepts nothing but whole values between brackets. -/
structure Decoder.Bracketed (decoder : Decoder α) : Prop where
  strict : decoder.Strict
  bracketed : ∀ {doc value}, decoder doc = .ok value → doc.IsBracketed

variable {decoder : Decoder α} {bs more : Bytes} {value : α}

private theorem Decoder.Bracketed.exists_spelling (hd : decoder.Bracketed)
    (h : decode decoder bs = .ok value) :
    ∃ doc : Doc, doc.Spelling bs ∧ doc.IsBracketed ∧ decoder doc = .ok value := by
  obtain ⟨doc, hspelling, hdecoder⟩ := (decode_eq_ok hd.strict).mp h
  exact ⟨doc, hspelling, hd.bracketed hdecoder, hdecoder⟩

theorem decode_append_of_blank (hd : decoder.Bracketed) (h : decode decoder bs = .ok value)
    (hm : Blank more) : decode decoder (bs ++ more) = .ok value := by
  obtain ⟨doc, hspelling, -, hdecoder⟩ := hd.exists_spelling h
  rw [decode_of_spelling (hspelling.append_blank hm), hdecoder]

theorem decode_append_of_more (hd : decoder.Bracketed) (h : decode decoder bs = .ok value)
    (hm : ∃ b ∈ more, isSpace b = false) :
    decode decoder (bs ++ more) = .error .trailingText := by
  obtain ⟨doc, hspelling, hbracketed, hdecoder⟩ := hd.exists_spelling h
  have hany : more.any (!isSpace ·) = true := by simpa using hm
  rw [decode, readDoc_append hspelling hbracketed, hdecoder, hany]
  rfl

theorem decode_of_append_blank (hd : decoder.Bracketed)
    (h : decode decoder (bs ++ more) = .ok value) (hm : Blank more) :
    decode decoder bs = .ok value := by
  obtain ⟨doc, hspelling, hbracketed, hdecoder⟩ := hd.exists_spelling h
  rw [decode_of_spelling (hspelling.of_append_blank hbracketed hm), hdecoder]

/-- What is accepted can be accepted no earlier: otherwise its end would be too much. -/
theorem decode_of_cut (hd : decoder.Bracketed) (h : decode decoder (bs ++ more) = .ok value)
    (hm : ∃ b ∈ more, isSpace b = false) : ∃ fault, decode decoder bs = .error fault := by
  cases hcut : decode decoder bs with
  | error fault => exact ⟨fault, rfl⟩
  | ok early =>
    rw [decode_append_of_more hd hcut hm] at h
    cases h

theorem Decoder.IsRecord.bracketed {fields : List (String × Change)} (h : decoder.IsRecord fields) :
    decoder.Bracketed := by
  refine ⟨h.steady.strict, ?_⟩
  obtain ⟨shape, -, -⟩ := h
  intro doc value h
  cases doc with
  | list items ending => trivial
  | object members ending => trivial
  | _ => exact (Decoder.wrongKind_ne_ok h).elim

end RuntimeFlag.Json
