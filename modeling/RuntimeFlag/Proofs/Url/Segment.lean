import Mathlib.Data.List.DropRight
import Mathlib.Data.List.Flatten
import RuntimeFlag.Proofs.Url.Form
import RuntimeFlag.Url.Parser
/-!
# Texts as segments of a path

What a text becomes that is put into a path without being encoded. It is one segment, which is read
as the text again, exactly when it has no mark, no gap and no percent-encoded byte of its own and is
not made of dots: every segment that a path is read into is written with no more bytes than it has,
so it can only stand for a text that has lost nothing.
-/
namespace RuntimeFlag

/-! ## Bytes of a text -/

namespace Utf8

private theorem encodeChar_ne_nil (c : Char) : encodeChar c ≠ [] := by
  obtain ⟨b, bs, hbytes, -⟩ := next_encodeChar c []
  rw [hbytes]
  exact List.cons_ne_nil b bs

theorem encodeChars_injective {cs ds : List Char} (h : encodeChars cs = encodeChars ds) :
    cs = ds := by
  have hread := congrArg decodeChars? h
  rw [decodeChars?_encodeChars, decodeChars?_encodeChars] at hread
  exact Option.some.inj hread

private theorem length_encodeChars_le {cs ds : List Char} (h : cs.Sublist ds) :
    (encodeChars cs).length ≤ (encodeChars ds).length :=
  (h.flatMap encodeChar).length_le

private theorem eq_of_sublist {cs ds : List Char} (h : cs.Sublist ds)
    (hl : (encodeChars ds).length ≤ (encodeChars cs).length) : cs = ds := by
  induction h with
  | slnil => rfl
  | @cons cs ds c hsub ih =>
    have hlength := length_encodeChars_le hsub
    have hpos := List.length_pos_of_ne_nil (encodeChar_ne_nil c)
    rw [encodeChars_cons, List.length_append] at hl
    omega
  | @cons_cons cs ds c hsub ih =>
    rw [encodeChars_cons, encodeChars_cons, List.length_append, List.length_append] at hl
    rw [ih (by omega)]

end Utf8

/-! ## Percent-encoded bytes -/

namespace Percent

def IsHex (c : Char) : Prop := ∃ value, Text.hexValue? c = some value

/-- A text with a percent-encoded byte. -/
inductive HasEscape : List Char → Prop
  | here {high low : Char} (rest : List Char) (hhigh : IsHex high) (hlow : IsHex low) :
    HasEscape ('%' :: high :: low :: rest)
  | later {cs : List Char} (c : Char) (h : HasEscape cs) : HasEscape (c :: cs)

theorem not_hasEscape_of_not_mem {cs : List Char} (h : '%' ∉ cs) : ¬ HasEscape cs := by
  intro he
  induction he with
  | here rest hhigh hlow => exact h List.mem_cons_self
  | later c _ ih => exact ih fun hm => h (List.mem_cons_of_mem c hm)

private theorem inPath_of_isHex {c : Char} (h : IsHex c) : inPath c = false := by
  obtain ⟨value, hvalue⟩ := h
  have hascii : ∀ n < 0x80, (Text.hexValue? (Char.ofNat n)).isSome = true →
      inPath (Char.ofNat n) = false := by
    decide
  have hlow : c.toNat < 0x80 := by
    unfold Text.hexValue? at hvalue
    have hle (d : Char) (hd : c ≤ d) : c.toNat ≤ d.toNat := hd
    split at hvalue
    · next hr =>
      have hc := hle '9' (of_decide_eq_true (Bool.and_eq_true _ _ ▸ hr).2)
      exact Nat.lt_of_le_of_lt hc (by decide)
    · split at hvalue
      · next hr =>
        have hc := hle 'f' (of_decide_eq_true (Bool.and_eq_true _ _ ▸ hr).2)
        exact Nat.lt_of_le_of_lt hc (by decide)
      · split at hvalue
        · next hr =>
          have hc := hle 'F' (of_decide_eq_true (Bool.and_eq_true _ _ ▸ hr).2)
          exact Nat.lt_of_le_of_lt hc (by decide)
        · cases hvalue
  have hc := hascii c.toNat hlow
  rw [Char.ofNat_toNat, hvalue] at hc
  exact hc rfl

private theorem encode_cons (isEncoded : Char → Bool) (c : Char) (cs : List Char) :
    encode isEncoded (c :: cs) = encodeChar isEncoded c ++ encode isEncoded cs :=
  List.flatMap_cons

/-- A hexadecimal digit at the start of an encoded text stands for itself. -/
theorem cons_of_encode_eq_cons {cs rest : List Char} {c : Char} (hc : IsHex c)
    (h : encode inPath cs = c :: rest) : ∃ others, cs = c :: others ∧ rest = encode inPath others := by
  cases cs with
  | nil => cases h
  | cons d ds =>
    rw [encode_cons, encodeChar] at h
    split at h
    · -- an encoded character starts with a percent sign
      obtain ⟨b, bs, hbytes, -⟩ := Utf8.next_encodeChar d []
      rw [hbytes, List.flatMap_cons, encodeByte] at h
      have hpercent : '%' = c := (List.cons.inj h).1
      obtain ⟨value, hvalue⟩ := hpercent ▸ hc
      cases hvalue
    · obtain ⟨rfl, hrest⟩ := List.cons.inj h
      exact ⟨ds, rfl, hrest.symm⟩

private theorem decode_encode_cons (c : Char) (cs : List Char) :
    (∃ high low rest, c :: cs = '%' :: high :: low :: rest ∧ IsHex high ∧ IsHex low ∧
      ∃ b, decode (encode inPath (c :: cs)) = b :: decode (encode inPath rest)) ∨
    (¬ (∃ high low rest, c :: cs = '%' :: high :: low :: rest ∧ IsHex high ∧ IsHex low) ∧
      decode (encode inPath (c :: cs)) = Utf8.encodeChar c ++ decode (encode inPath cs)) := by
  by_cases hc : c = '%'
  · subst hc
    have hcons : encode inPath ('%' :: cs) = '%' :: encode inPath cs := encode_cons _ _ _
    by_cases he : ∃ high low rest, '%' :: cs = '%' :: high :: low :: rest ∧ IsHex high ∧ IsHex low
    · left
      obtain ⟨high, low, rest, heq, hhigh, hlow⟩ := he
      refine ⟨high, low, rest, heq, hhigh, hlow, ?_⟩
      obtain ⟨h, hh⟩ := hhigh
      obtain ⟨l, hl⟩ := hlow
      have hkept (d : Char) (hd : IsHex d) (ds : List Char) :
          encode inPath (d :: ds) = d :: encode inPath ds := by
        rw [encode_cons, encodeChar, inPath_of_isHex hd]
        rfl
      rw [hcons, (List.cons.inj heq).2, hkept high ⟨h, hh⟩, hkept low ⟨l, hl⟩, decode]
      simp only [hh, hl]
      exact ⟨_, rfl⟩
    · right
      refine ⟨he, ?_⟩
      rw [hcons]
      -- the two characters behind the sign are not both digits
      rcases hrest : encode inPath cs with _ | ⟨high, _ | ⟨low, rest⟩⟩
      · rfl
      · rfl
      · rw [decode]
        split
        · next h l hh hl =>
          obtain ⟨others, rfl, hothers⟩ := cons_of_encode_eq_cons ⟨h, hh⟩ hrest
          obtain ⟨last, rfl, -⟩ := cons_of_encode_eq_cons ⟨l, hl⟩ hothers.symm
          exact (he ⟨high, low, last, rfl, ⟨h, hh⟩, ⟨l, hl⟩⟩).elim
        · rfl
  · right
    constructor
    · rintro ⟨_, _, _, heq, -⟩
      exact hc (List.cons.inj heq).1
    · rw [encode_cons, encodeChar]
      split
      · exact decode_flatMap_encodeByte _ _
      · exact decode_cons_of_ne hc _

private theorem length_decode_encode_le (cs : List Char) :
    (decode (encode inPath cs)).length ≤ (Utf8.encodeChars cs).length := by
  match cs with
  | [] => exact Nat.le_refl _
  | c :: cs =>
    rcases decode_encode_cons c cs with ⟨high, low, rest, heq, -, -, b, hb⟩ | ⟨-, hstep⟩
    · have hrest := length_decode_encode_le rest
      have hlow := List.length_pos_of_ne_nil (Utf8.encodeChar_ne_nil low)
      rw [hb, heq, Utf8.encodeChars_cons, Utf8.encodeChars_cons, Utf8.encodeChars_cons]
      simp only [List.length_cons, List.length_append]
      omega
    · have htail := length_decode_encode_le cs
      rw [hstep, Utf8.encodeChars_cons, List.length_append, List.length_append]
      omega
termination_by cs.length
decreasing_by
  · rw [heq]
    simp only [List.length_cons]
    omega
  · simp

/-- A text is decoded as it was before it was encoded, exactly when it has no percent-encoded byte
of its own. -/
theorem decode_encode_iff (cs : List Char) :
    decode (encode inPath cs) = Utf8.encodeChars cs ↔ ¬ HasEscape cs := by
  constructor
  · intro hdecode he
    have hlt : (decode (encode inPath cs)).length < (Utf8.encodeChars cs).length := by
      clear hdecode
      induction cs with
      | nil => cases he
      | cons c cs ih =>
        rcases decode_encode_cons c cs with ⟨high, low, rest, heq, -, -, b, hb⟩ | ⟨hnot, hstep⟩
        · have hrest := length_decode_encode_le rest
          have hhigh := List.length_pos_of_ne_nil (Utf8.encodeChar_ne_nil high)
          have hlow := List.length_pos_of_ne_nil (Utf8.encodeChar_ne_nil low)
          rw [hb, heq, Utf8.encodeChars_cons, Utf8.encodeChars_cons, Utf8.encodeChars_cons]
          simp only [List.length_cons, List.length_append]
          omega
        · cases he with
          | here rest hhigh hlow => exact (hnot ⟨_, _, _, rfl, hhigh, hlow⟩).elim
          | later _ he =>
            have htail := ih he
            rw [hstep, Utf8.encodeChars_cons, List.length_append, List.length_append]
            omega
    rw [hdecode] at hlt
    exact Nat.lt_irrefl _ hlt
  · intro hnone
    induction cs with
    | nil => rfl
    | cons c cs ih =>
      rcases decode_encode_cons c cs with ⟨high, low, rest, heq, hhigh, hlow, -⟩ | ⟨-, hstep⟩
      · exact (hnone (heq ▸ .here rest hhigh hlow)).elim
      · rw [hstep, ih fun he => hnone (.later c he), Utf8.encodeChars_cons]

end Percent

/-! ## Segments -/

namespace Path

variable {kind : SchemeKind} {port : Nat}

/-- A text that is one segment of a path, and is read as it was before it was put there. -/
structure IsSegment (cs : List Char) : Prop where
  marks : ∀ c ∈ cs, c ∉ "/\\?#\t\n\r".toList
  dots : cs ≠ ['.'] ∧ cs ≠ ['.', '.']
  bytes : ¬ Percent.HasEscape cs

private theorem IsSegment.ne {cs : List Char} (h : IsSegment cs) {c : Char} (hc : c ∈ cs)
    (mark : Char) (hm : mark ∈ "/\\?#\t\n\r".toList) : c ≠ mark := by
  rintro rfl
  exact h.marks c hc hm

theorem IsSegment.counted {cs : List Char} (h : IsSegment cs) : counted cs = cs := by
  rw [Path.counted, List.filter_eq_self]
  intro c hc
  simp [isGap, h.ne hc '\t' (by decide), h.ne hc '\n' (by decide), h.ne hc '\r' (by decide)]

theorem IsSegment.isSlash {cs : List Char} (h : IsSegment cs) {c : Char} (hc : c ∈ cs) :
    isSlash kind c = false := by
  simp [Path.isSlash, h.ne hc '/' (by decide), h.ne hc '\\' (by decide)]

theorem IsSegment.isPathEnd {cs : List Char} (h : IsSegment cs) {c : Char} (hc : c ∈ cs) :
    Url.isPathEnd c = false := by
  simp [Url.isPathEnd, h.ne hc '?' (by decide), h.ne hc '#' (by decide)]

private theorem plainDots_of_not_hasEscape {cs : List Char} (h : ¬ Percent.HasEscape cs) :
    plainDots cs = cs := by
  fun_induction plainDots cs with
  | case1 e rest he ih =>
    have hhex : Percent.IsHex e := by
      rcases Bool.or_eq_true _ _ ▸ he with he | he
      · exact ⟨14, by rw [of_decide_eq_true he]; rfl⟩
      · exact ⟨14, by rw [of_decide_eq_true he]; rfl⟩
    exact (h (.here rest ⟨2, rfl⟩ hhex)).elim
  | case2 e rest _ ih => rw [ih fun he => h (.later _ (.later _ (.later _ he)))]
  | case3 c rest _ ih => rw [ih fun he => h (.later c he)]
  | case4 => rfl

/-! ## Splitting -/

private theorem split_ne_nil (kind : SchemeKind) (cs : List Char) : split kind cs ≠ [] := by
  cases cs with
  | nil => exact List.cons_ne_nil _ _
  | cons c cs =>
    rw [split]
    split
    · exact List.cons_ne_nil _ _
    · split <;> exact List.cons_ne_nil _ _

theorem mem_split {cs segment : List Char} (h : segment ∈ split kind cs) :
    segment.Sublist cs ∧ ∀ c ∈ segment, isSlash kind c = false := by
  induction cs generalizing segment with
  | nil =>
    rw [split, List.mem_singleton] at h
    subst h
    exact ⟨List.Sublist.refl _, fun c hc => nomatch hc⟩
  | cons d cs ih =>
    rw [split] at h
    split at h
    · rcases List.mem_cons.mp h with rfl | h
      · exact ⟨List.nil_sublist _, fun c hc => nomatch hc⟩
      · exact ⟨(ih h).1.cons d, (ih h).2⟩
    · next hslash =>
      split at h
      · next hnil => exact (split_ne_nil kind cs hnil).elim
      · next first others hsplit =>
        rcases List.mem_cons.mp h with rfl | h
        · obtain ⟨hsub, hall⟩ := ih (hsplit ▸ List.mem_cons_self)
          refine ⟨hsub.cons_cons d, fun c hc => ?_⟩
          rcases List.mem_cons.mp hc with rfl | hc
          · exact Bool.eq_false_iff.mpr hslash
          · exact hall c hc
        · obtain ⟨hsub, hall⟩ := ih (hsplit ▸ List.mem_cons_of_mem _ h)
          exact ⟨hsub.cons d, hall⟩

theorem split_append (cs rest : List Char) :
    split kind (cs ++ '/' :: rest) = split kind cs ++ split kind rest := by
  induction cs with
  | nil => rfl
  | cons c cs ih =>
    rw [List.cons_append, split, split, ih]
    split
    · rfl
    · cases hsplit : split kind cs with
      | nil => exact (split_ne_nil kind cs hsplit).elim
      | cons first others => rfl

/-! ## Following -/

private theorem mem_of_mem_shorten {path : List (List Char)} {part : List Char}
    (h : part ∈ shorten path) :
    part ∈ path := by
  cases path with
  | nil => cases h
  | cons first path =>
    rw [shorten] at h
    split at h
    · exact h
    · exact List.mem_cons_of_mem _ h

/-- What is put behind the path of a web URL is the segment as it is written, or nothing. -/
theorem mem_pushWritten {path : List (List Char)} {segment part : List Char} {last : Bool}
    (h : part ∈ pushWritten (.special port) path segment last) :
    part ∈ path ∨ part = [] ∨ part = Percent.encode Percent.inPath (counted segment) ∧
      isDot (counted segment) = false ∧ isDoubleDot (counted segment) = false := by
  have hpush : pushWritten (.special port) path segment last =
      push (.special port) path (counted segment) last := by
    simp [pushWritten]
  rw [hpush, push] at h
  split at h
  · split at h
    · rcases List.mem_cons.mp h with h | h
      · exact .inr (.inl h)
      · exact .inl (mem_of_mem_shorten h)
    · exact .inl (mem_of_mem_shorten h)
  · next hdouble =>
    split at h
    · split at h
      · rcases List.mem_cons.mp h with h | h
        · exact .inr (.inl h)
        · exact .inl h
      · exact .inl h
    · next hdot =>
      rcases List.mem_cons.mp h with rfl | h
      · exact .inr (.inr ⟨by simp [written], Bool.eq_false_iff.mpr hdot,
          Bool.eq_false_iff.mpr hdouble⟩)
      · exact .inl h

theorem mem_pushAll {path segments : List (List Char)} {part : List Char}
    (h : part ∈ pushAll (.special port) path segments) :
    part ∈ path ∨ part = [] ∨ ∃ segment ∈ segments,
      part = Percent.encode Percent.inPath (counted segment) ∧
      isDot (counted segment) = false ∧ isDoubleDot (counted segment) = false := by
  induction segments generalizing path with
  | nil => exact .inl h
  | cons segment segments ih =>
    have hhere {last : Bool} (hp : part ∈ pushWritten (.special port) path segment last) :
        part ∈ path ∨ part = [] ∨ ∃ other ∈ segment :: segments,
          part = Percent.encode Percent.inPath (counted other) ∧
          isDot (counted other) = false ∧ isDoubleDot (counted other) = false :=
      (mem_pushWritten hp).imp_right fun hp =>
        hp.imp_right fun hp => ⟨segment, List.mem_cons_self, hp⟩
    cases segments with
    | nil => exact hhere h
    | cons next segments =>
      rw [pushAll] at h
      · rcases ih h with hp | hp | ⟨other, ho, hp⟩
        · exact hhere hp
        · exact .inr (.inl hp)
        · exact .inr (.inr ⟨other, List.mem_cons_of_mem _ ho, hp⟩)
      · simp

/-- A segment that has no gaps and is not made of dots, however they are written. -/
structure Stays (segment : List Char) : Prop where
  counted : counted segment = segment
  single : isDot segment = false
  double : isDoubleDot segment = false

theorem IsSegment.stays {segment : List Char} (h : IsSegment segment) : Stays segment := by
  have hplain := plainDots_of_not_hasEscape h.bytes
  refine ⟨h.counted, ?_, ?_⟩
  · rw [isDot, hplain, decide_eq_false_iff_not]
    exact h.dots.1
  · rw [isDoubleDot, hplain, decide_eq_false_iff_not]
    exact h.dots.2

private theorem Stays.pushWritten {segment : List Char} (h : Stays segment) (port : Nat)
    (path : List (List Char)) (last : Bool) :
    pushWritten (.special port) path segment last =
      Percent.encode Percent.inPath segment :: path := by
  simp [Path.pushWritten, h.counted, push, h.single, h.double, written]

theorem pushAll_of_stays {segments : List (List Char)} (h : ∀ s ∈ segments, Stays s)
    (port : Nat) (path : List (List Char)) :
    pushAll (.special port) path segments =
      (segments.map (Percent.encode Percent.inPath)).reverse ++ path := by
  induction segments generalizing path with
  | nil => rfl
  | cons segment segments ih =>
    have hhead := h segment List.mem_cons_self
    have htail := ih fun s hs => h s (List.mem_cons_of_mem _ hs)
    cases segments with
    | nil => exact hhead.pushWritten port path true
    | cons next segments =>
      rw [pushAll, hhead.pushWritten, htail, List.map_cons (a := segment), List.reverse_cons,
        List.append_assoc]
      · rfl
      · simp

theorem pushAll_segments {segments : List (List Char)} (h : ∀ s ∈ segments, IsSegment s)
    (port : Nat) (path : List (List Char)) :
    pushAll (.special port) path segments =
      (segments.map (Percent.encode Percent.inPath)).reverse ++ path :=
  pushAll_of_stays (fun s hs => (h s hs).stays) port path

/-- A part of a text that stands for the whole text is the whole of it, and one segment. -/
theorem isSegment_of_decode {cs segment : List Char} (hsub : segment.Sublist cs)
    (hslash : ∀ c ∈ segment, isSlash (.special port) c = false)
    (hend : ∀ c ∈ segment, Url.isPathEnd c = false)
    (hdot : isDot (counted segment) = false) (hdouble : isDoubleDot (counted segment) = false)
    (h : Percent.decode (Percent.encode Percent.inPath (counted segment)) = Utf8.encodeChars cs) :
    IsSegment cs ∧ segment = cs := by
  have hcounted : (counted segment).Sublist segment := List.filter_sublist
  have hlength := Percent.length_decode_encode_le (counted segment)
  rw [h] at hlength
  have hcs : counted segment = cs := Utf8.eq_of_sublist (hcounted.trans hsub) hlength
  have hsegment : segment = cs := hsub.antisymm (hcs ▸ hcounted)
  subst hsegment
  rw [hcs] at hdot hdouble h
  refine ⟨⟨fun c hc hm => ?_, ⟨?_, ?_⟩, (Percent.decode_encode_iff segment).mp h⟩, rfl⟩
  · have hgap : isGap c = false := by
      rw [← hcs] at hc
      simpa using List.of_mem_filter hc
    have hmarks : ∀ mark ∈ "/\\?#\t\n\r".toList,
        (isSlash (.special 0) mark || Url.isPathEnd mark || isGap mark) = true :=
      List.all_eq_true.mp (by decide)
    have hslashed : isSlash (.special 0) c = false := hslash c hc
    simpa [hslashed, hend c hc, hgap] using hmarks c hm
  · rintro rfl
    cases hdot
  · rintro rfl
    cases hdouble

end Path

end RuntimeFlag
