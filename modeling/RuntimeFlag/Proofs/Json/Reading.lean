import RuntimeFlag.Proofs.Json.Grammar
/-!
# Spellings are read as their documents

Wherever a value may start, the reader takes every spelling of it. The reader may still be inside a
numeral when it has taken the last byte of a value, so a value that has been read is either complete
or such a numeral.
-/
namespace RuntimeFlag.Json

namespace Reading

variable {r : Reading} {doc : Doc} {outer : List Frame}

/-! ## Blanks -/

/-- The places between the parts of a text. -/
def Between : Place → Prop
  | .value | .item _ _ | .itemEnd _ | .key _ _ | .colon _ _ | .memberEnd _ => True
  | .keyText _ _ | .word _ _ | .numeral _ _ | .text _ => False

private theorem stepSpaced_blank {b : UInt8} (hb : isSpace b = true) (r : Reading) :
    stepSpaced b r = r := by
  unfold stepSpaced
  rw [if_pos hb]

private theorem step_blank (place : Place) (hp : Between place) (outer : List Frame) {b : UInt8}
    (hb : isSpace b = true) : (inside place outer).step b = inside place outer := by
  cases place with
  | keyText => exact hp.elim
  | word => exact hp.elim
  | numeral => exact hp.elim
  | text => exact hp.elim
  | _ => exact stepSpaced_blank hb _

theorem foldl_blank (place : Place) (hp : Between place) (outer : List Frame) {ws : Bytes}
    (hw : Blank ws) : ws.foldl step (inside place outer) = inside place outer := by
  induction ws with
  | nil => rfl
  | cons b ws ih =>
    rw [List.foldl_cons, step_blank place hp outer (hw b List.mem_cons_self)]
    exact ih fun d hd => hw d (List.mem_cons_of_mem _ hd)

/-! ## Values that have been read -/

/-- A value may start here, in the given containers. -/
def Awaits (r : Reading) (outer : List Frame) : Prop :=
  ∀ b, isSpace b = false → b ≠ 0x5D → r.step b = startValue b outer

theorem awaits_value (outer : List Frame) : (inside .value outer).Awaits outer := by
  intro b hspace _
  simp only [step, stepSpaced, hspace, Bool.false_eq_true, if_false]
  rfl

private theorem awaits_item (items : List Doc) (comma : Bool) (outer : List Frame) :
    (inside (.item items comma) outer).Awaits (.list items :: outer) := by
  intro b hspace hb
  simp only [step, stepSpaced, hspace, Bool.false_eq_true, if_false, stepBetween, if_neg hb]

private theorem Awaits.list (h : r.Awaits outer) : r.step 0x5B = .inside (.item [] false) outer :=
  h 0x5B (by decide) (by decide)

private theorem Awaits.object (h : r.Awaits outer) : r.step 0x7B = .inside (.key [] false) outer :=
  h 0x7B (by decide) (by decide)

/-- The last byte of a value has been read, in the given containers. -/
inductive Past : Reading → Doc → List Frame → Prop
  | whole (doc : Doc) (outer : List Frame) : Past (complete doc outer) doc outer
  | inNumeral {read : Bytes} {place : NumeralPlace} (h : place.complete = true)
    (outer : List Frame) : Past (inside (.numeral read place) outer) (numeralDoc read) outer

private theorem step_complete (doc : Doc) (outer : List Frame) (b : UInt8) :
    (complete doc outer).step b = stepSpaced b (complete doc outer) := by
  cases outer with
  | nil => rfl
  | cons frame outer => cases frame <;> rfl

private theorem step_numeral {read : Bytes} {place : NumeralPlace} (h : place.complete = true)
    (outer : List Frame) {b : UInt8}
    (hb : isSpace b = true ∨ b = 0x2C ∨ b = 0x5D ∨ b = 0x7D) :
    (inside (.numeral read place) outer).step b =
      stepSpaced b (complete (numeralDoc read) outer) := by
  have hcases : b = 0x20 ∨ b = 0x0A ∨ b = 0x0D ∨ b = 0x09 ∨ b = 0x2C ∨ b = 0x5D ∨ b = 0x7D := by
    simpa [isSpace, or_assoc] using hb
  have hnext : place.next? b = none ∧ place.endsBefore b = true := by
    cases place with
    | sign => cases h
    | point => cases h
    | mark => cases h
    | markSign => cases h
    | _ => rcases hcases with rfl | rfl | rfl | rfl | rfl | rfl | rfl <;> exact ⟨rfl, rfl⟩
  rw [step, hnext.1]
  simp only [hnext.2, if_true]

private theorem Past.blank (h : r.Past doc outer) {b : UInt8} (hb : isSpace b = true) :
    r.step b = complete doc outer := by
  cases h with
  | whole => rw [step_complete, stepSpaced_blank hb]
  | inNumeral hc => rw [step_numeral hc outer (.inl hb), stepSpaced_blank hb]

theorem Past.blanks (h : r.Past doc outer) {ws : Bytes} (hw : Blank ws) :
    (ws.foldl step r).Past doc outer := by
  induction ws generalizing r with
  | nil => exact h
  | cons b ws ih =>
    rw [List.foldl_cons, h.blank (hw b List.mem_cons_self)]
    exact ih (.whole doc outer) fun d hd => hw d (List.mem_cons_of_mem _ hd)

private theorem Past.next (h : r.Past doc outer) {b : UInt8} (hb : b = 0x2C ∨ b = 0x5D ∨ b = 0x7D) :
    r.step b = stepSpaced b (complete doc outer) := by
  cases h with
  | whole => exact step_complete doc outer b
  | inNumeral hc => exact step_numeral hc outer (.inr hb)

private theorem Past.finish (h : r.Past doc outer) : r.finish = (complete doc outer).finish := by
  cases h with
  | whole => rfl
  | @inNumeral read _ hc =>
    simp only [Reading.finish, hc, if_true]
    cases outer with
    | nil => rfl
    | cons frame outer => cases frame <;> rfl

/-! ## Words, numerals and strings -/

private theorem foldl_word (bs : Bytes) (b : UInt8) (meant : Doc) (outer : List Frame) :
    (b :: bs).foldl step (.inside (.word (b :: bs) meant) outer) = complete meant outer := by
  induction bs generalizing b with
  | nil => simp [step]
  | cons next bs ih =>
    have hstep : (inside (.word (b :: next :: bs) meant) outer).step b =
        .inside (.word (next :: bs) meant) outer := by
      simp [step]
    rw [List.foldl_cons, hstep, ih next]

private theorem past_word (h : r.Awaits outer) {first b : UInt8} {bs : Bytes} {meant : Doc}
    (hstart : startValue first outer = .inside (.word (b :: bs) meant) outer)
    (hbegins : isSpace first = false ∧ first ≠ 0x5D) :
    ((first :: b :: bs).foldl step r).Past meant outer := by
  rw [List.foldl_cons, h first hbegins.1 hbegins.2, hstart, foldl_word]
  exact .whole meant outer

private theorem startValue_digit {b : UInt8} {place : NumeralPlace}
    (h : NumeralPlace.sign.next? b = some place) (outer : List Frame) :
    startValue b outer = .inside (.numeral [b] place) outer := by
  have hne {d : UInt8} (hd : NumeralPlace.sign.next? d = none)
      (hc : Char.ofNat b.toNat = Char.ofNat d.toNat) : False := by
    rw [TextScan.eq_of_char hc, hd] at h
    cases h
  unfold startValue
  split
  · next hc => exact (hne (d := 0x5B) rfl hc).elim
  · next hc => exact (hne (d := 0x7B) rfl hc).elim
  · next hc => exact (hne (d := 0x22) rfl hc).elim
  · next hc => exact (hne (d := 0x74) rfl hc).elim
  · next hc => exact (hne (d := 0x66) rfl hc).elim
  · next hc => exact (hne (d := 0x6E) rfl hc).elim
  · next hc => exact (hne (d := 0x2D) rfl hc).elim
  · rw [h]

private theorem foldl_numeral {bs : Bytes} {place : NumeralPlace}
    (h : NumeralPlace.Reaches bs place) (ha : r.Awaits outer) :
    bs.foldl step r = .inside (.numeral bs.reverse place) outer := by
  induction h with
  | sign => exact ha 0x2D (by decide) (by decide)
  | @digit b _ h =>
    refine (ha _ ?_ ?_).trans (startValue_digit h outer)
    · rw [Bool.eq_false_iff]
      intro hspace
      have hcases : b = 0x20 ∨ b = 0x0A ∨ b = 0x0D ∨ b = 0x09 := by
        simpa [isSpace, or_assoc] using hspace
      rcases hcases with rfl | rfl | rfl | rfl <;> cases h
    · rintro rfl
      cases h
  | more _ hstep ih =>
    rw [List.foldl_append, ih, List.foldl_cons, List.foldl_nil, List.reverse_append]
    simp only [step, hstep]
    rfl

private theorem foldl_text {scan last : TextScan} {bs : Bytes} (h : scan.Takes bs last)
    (outer : List Frame) :
    bs.foldl step (.inside (.text scan) outer) = .inside (.text last) outer := by
  induction h with
  | nil => rfl
  | cons hstep _ ih =>
    rw [List.foldl_cons, step, hstep]
    exact ih

private theorem foldl_keyText {scan last : TextScan} {bs : Bytes} (h : scan.Takes bs last)
    (members : List (Key × Doc)) (outer : List Frame) :
    bs.foldl step (.inside (.keyText members scan) outer) =
      .inside (.keyText members last) outer := by
  induction h with
  | nil => rfl
  | cons hstep _ ih =>
    rw [List.foldl_cons, step, hstep]
    exact ih

private theorem past_text (h : r.Awaits outer) {content : Except Fault String} {bs : Bytes}
    (ht : SpellsText content bs) : (bs.foldl step r).Past (.text content) outer := by
  obtain ⟨raw, last, rfl, htakes, hclosed⟩ := TextScan.takes_of_spellsText ht
  have hopen : r.step 0x22 = .inside (.text .start) outer := h 0x22 (by decide) (by decide)
  rw [List.cons_append, List.foldl_cons, hopen, List.foldl_append, foldl_text htakes,
    List.foldl_cons, List.foldl_nil, step, hclosed]
  exact .whole _ _

private theorem foldl_key (members : List (Key × Doc)) (comma : Bool) (outer : List Frame)
    {key : Key} {bs : Bytes} (h : SpellsKey key bs) :
    bs.foldl step (.inside (.key members comma) outer) =
      .inside .value (.object members key :: outer) := by
  obtain ⟨ht, hw, hm⟩ := h
  obtain ⟨raw, last, rfl, htakes, hclosed⟩ := TextScan.takes_of_spellsText ht
  have hopen : (inside (.key members comma) outer).step 0x22 =
      .inside (.keyText members .start) outer := rfl
  have htext : (0x22 :: raw ++ [0x22]).foldl step (inside (.key members comma) outer) =
      .inside (.colon members key) outer := by
    rw [List.cons_append, List.foldl_cons, hopen, List.foldl_append, foldl_keyText htakes,
      List.foldl_cons, List.foldl_nil, step, hclosed]
  have hcolon : (inside (.colon members key) outer).step 0x3A =
      .inside .value (.object members key :: outer) := rfl
  rw [List.foldl_append, List.foldl_append, htext,
    foldl_blank (.colon members key) trivial outer hw, List.foldl_cons, hcolon,
    foldl_blank .value trivial _ hm]

/-! ## Pieces -/

/-- A part of a text has been read, in the given containers. -/
def Covers (r : Reading) (outer : List Frame) : Piece → Prop
  | .value doc => r.Past doc outer
  | .items before last => r.Past last (.list before.reverse :: outer)
  | .members before key last => r.Past last (.object before.reverse key :: outer)

/-- Wherever a value may start, every spelling is read. -/
theorem covers_of_spells {piece : Piece} {bs : Bytes} (h : Spells piece bs) (ha : r.Awaits outer) :
    (bs.foldl step r).Covers outer piece := by
  induction h generalizing outer r with
  | null => exact past_word ha rfl (by decide)
  | flag b =>
    cases b with
    | false => exact past_word ha rfl (by decide)
    | true => exact past_word ha rfl (by decide)
  | number h =>
    obtain ⟨place, hreaches, hc⟩ := NumeralPlace.reaches_of_isNumeral h
    rw [foldl_numeral hreaches ha]
    exact .inNumeral hc outer
  | text h => exact past_text ha h
  | emptyList hw =>
    rw [List.cons_append, List.foldl_cons, ha.list, List.foldl_append,
      foldl_blank (.item [] false) trivial outer hw]
    exact .whole _ _
  | firstItem hw h ih =>
    rw [List.foldl_append, List.foldl_cons, ha.list,
      foldl_blank (.item [] false) trivial outer hw]
    exact ih (awaits_item [] false outer)
  | @nextItem before last doc start ws more bs hs hw hm h ihs ih =>
    have hcomma : (ws.foldl step (start.foldl step r)).step 0x2C =
        .inside (.item (last :: before.reverse) true) outer :=
      ((ihs ha).blanks hw).next (.inl rfl)
    rw [List.foldl_append, List.foldl_append, List.foldl_append, List.foldl_cons, hcomma,
      foldl_blank (.item _ true) trivial outer hm, Covers, List.reverse_append]
    exact ih (awaits_item (last :: before.reverse) true outer)
  | @list before last start ws hs hw ih =>
    have hclose : (ws.foldl step (start.foldl step r)).step 0x5D =
        complete (endList (last :: before.reverse) .closed) outer :=
      ((ih ha).blanks hw).next (.inr (.inl rfl))
    rw [List.foldl_append, List.foldl_append, List.foldl_cons, List.foldl_nil, hclose, endList,
      List.reverse_cons, List.reverse_reverse]
    exact .whole _ _
  | emptyObject hw =>
    rw [List.cons_append, List.foldl_cons, ha.object, List.foldl_append,
      foldl_blank (.key [] false) trivial outer hw]
    exact .whole _ _
  | firstMember hw hk h ih =>
    rw [List.foldl_append, List.foldl_append, List.foldl_cons, ha.object,
      foldl_blank (.key [] false) trivial outer hw, foldl_key [] false outer hk]
    exact ih (awaits_value _)
  | @nextMember before last doc first key start ws more name bs hs hw hm hk h ihs ih =>
    have hcomma : (ws.foldl step (start.foldl step r)).step 0x2C =
        .inside (.key ((first, last) :: before.reverse) true) outer :=
      ((ihs ha).blanks hw).next (.inl rfl)
    rw [List.foldl_append, List.foldl_append, List.foldl_append, List.foldl_append,
      List.foldl_cons, hcomma, foldl_blank (.key _ true) trivial outer hm,
      foldl_key _ true outer hk, Covers, List.reverse_append]
    exact ih (awaits_value _)
  | @object before key last start ws hs hw ih =>
    have hclose : (ws.foldl step (start.foldl step r)).step 0x7D =
        complete (endObject ((key, last) :: before.reverse) .closed) outer :=
      ((ih ha).blanks hw).next (.inr (.inr rfl))
    rw [List.foldl_append, List.foldl_append, List.foldl_cons, List.foldl_nil, hclose, endObject,
      List.reverse_cons, List.reverse_reverse]
    exact .whole _ _

end Reading

/-- A text is read as the document that it spells, with nothing behind it. -/
theorem readDoc_of_spelling {doc : Doc} {bs : Bytes} (h : doc.Spelling bs) :
    readDoc bs = (doc, false) := by
  obtain ⟨front, value, back, hfront, hback, hvalue, rfl⟩ := h
  have hpast := (Reading.covers_of_spells hvalue (Reading.awaits_value [])).blanks hback
  rw [readDoc, Reading.ofBytes, Reading.start, List.foldl_append, List.foldl_append,
    Reading.foldl_blank .value trivial [] hfront, hpast.finish]
  rfl

end RuntimeFlag.Json
