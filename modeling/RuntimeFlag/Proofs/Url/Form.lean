import RuntimeFlag.Proofs.Text.Utf8
import RuntimeFlag.Url.Form
/-!
# Form pairs are read as they are written

A query is read as pairs by splitting it at `&` and each part at its first `=`; a `+` is a space,
and percent-encoded bytes are UTF-8. Reading gives the pairs that were written, whatever they hold.
-/
namespace RuntimeFlag

/-! ## Percent encoding -/

namespace Percent

private theorem hexValue?_upperHexDigit :
    ∀ n < 16, Text.hexValue? (Text.upperHexDigit n) = some n := by
  decide

private theorem decode_encodeByte (b : UInt8) (rest : List Char) :
    decode (encodeByte b ++ rest) = b :: decode rest := by
  have hb : b.toNat < 256 := b.toNat_lt
  have hhigh := hexValue?_upperHexDigit (b.toNat / 16) (by omega)
  have hlow := hexValue?_upperHexDigit (b.toNat % 16) (by omega)
  have hsum : b.toNat / 16 * 16 + b.toNat % 16 = b.toNat := by omega
  simp only [encodeByte, List.cons_append, List.nil_append, decode, hhigh, hlow, hsum,
    UInt8.ofNat_toNat]

theorem decode_flatMap_encodeByte (bs : Bytes) (rest : List Char) :
    decode (bs.flatMap encodeByte ++ rest) = bs ++ decode rest := by
  induction bs with
  | nil => rfl
  | cons b bs ih =>
    rw [List.flatMap_cons, List.append_assoc, decode_encodeByte, ih, List.cons_append]

theorem decode_cons_of_ne {c : Char} (h : c ≠ '%') (rest : List Char) :
    decode (c :: rest) = Utf8.encodeChar c ++ decode rest := by
  rw [decode]
  rintro high low more rfl
  exact absurd rfl h

private theorem decode_encode_append (isEncoded : Char → Bool) {cs : List Char} (h : '%' ∉ cs)
    (rest : List Char) :
    decode (encode isEncoded cs ++ rest) = Utf8.encodeChars cs ++ decode rest := by
  induction cs with
  | nil => rfl
  | cons c cs ih =>
    rw [List.mem_cons, not_or] at h
    have htail : decode (encode isEncoded cs ++ rest) = Utf8.encodeChars cs ++ decode rest := ih h.2
    have hcons : encode isEncoded (c :: cs) = encodeChar isEncoded c ++ encode isEncoded cs :=
      List.flatMap_cons
    rw [hcons, List.append_assoc]
    have hc : decode (encodeChar isEncoded c ++ (encode isEncoded cs ++ rest)) =
        Utf8.encodeChar c ++ decode (encode isEncoded cs ++ rest) := by
      unfold encodeChar
      split
      · exact decode_flatMap_encodeByte _ _
      · exact decode_cons_of_ne (Ne.symm h.1) _
    rw [hc, htail, ← List.append_assoc]
    rfl

theorem decode_encode (isEncoded : Char → Bool) {cs : List Char} (h : '%' ∉ cs) :
    decode (encode isEncoded cs) = Utf8.encodeChars cs := by
  have happend := decode_encode_append isEncoded h []
  rw [List.append_nil] at happend
  rw [happend, decode, List.append_nil]

theorem encode_eq_self {isEncoded : Char → Bool} {cs : List Char}
    (h : ∀ c ∈ cs, isEncoded c = false) : encode isEncoded cs = cs := by
  induction cs with
  | nil => rfl
  | cons c cs ih =>
    have htail : encode isEncoded cs = cs := ih fun d hd => h d (List.mem_cons_of_mem _ hd)
    have hcons : encode isEncoded (c :: cs) = encodeChar isEncoded c ++ encode isEncoded cs :=
      List.flatMap_cons
    rw [hcons, htail, encodeChar, h c List.mem_cons_self]
    rfl

end Percent

namespace Form

/-! ## Reading -/

/-- A plus sign stands for a space. -/
def unplus (c : Char) : Char := if c = '+' then ' ' else c

private theorem unplus_of_ne {c : Char} (h : c ≠ '+') : unplus c = c := if_neg h

private theorem map_unplus {cs : List Char} (h : ∀ c ∈ cs, c ≠ '+') : cs.map unplus = cs :=
  (List.map_congr_left fun c hc => unplus_of_ne (h c hc)).trans (List.map_id cs)

/-- A part of a query as a text. -/
def decode (cs : List Char) : String := Utf8.decodeLossy (Percent.decode (cs.map unplus))

def decodePair (cs : List Char) : String × String :=
  (decode (cs.takeWhile (· ≠ '=')), decode ((cs.dropWhile (· ≠ '=')).drop 1))

def decodePairs (query : List Char) : List (String × String) :=
  ((query.splitOn '&').filter fun part => !part.isEmpty).map decodePair

private theorem decodePair_append {name : List Char} (h : '=' ∉ name) (value : List Char) :
    decodePair (name ++ '=' :: value) = (decode name, decode value) := by
  have hname : ∀ c ∈ name, (decide (c ≠ '=')) = true := by
    intro c hc
    exact decide_eq_true fun heq => h (heq ▸ hc)
  rw [decodePair, List.takeWhile_append_of_pos hname, List.dropWhile_append_of_pos hname]
  simp

private theorem decodePairs_intercalate {parts : List (List Char)} (hne : parts ≠ [])
    (h : ∀ part ∈ parts, part ≠ [] ∧ '&' ∉ part) :
    decodePairs (['&'].intercalate parts) = parts.map decodePair := by
  have hkeep : parts.filter (fun part => !part.isEmpty) = parts := by
    rw [List.filter_eq_self]
    intro part hp
    simpa using (h part hp).1
  rw [decodePairs, List.splitOn_intercalate '&' (fun part hp => (h part hp).2) hne, hkeep]

theorem mem_intercalate {mark c : Char} {parts : List (List Char)}
    (h : c ∈ [mark].intercalate parts) : c = mark ∨ ∃ part ∈ parts, c ∈ part := by
  induction parts with
  | nil => cases h
  | cons part parts ih =>
    cases parts with
    | nil =>
      rw [List.intercalate_singleton] at h
      exact .inr ⟨part, List.mem_cons_self, h⟩
    | cons next parts =>
      rw [List.intercalate_cons_cons, List.mem_append, List.mem_append, List.mem_singleton] at h
      rcases h with (h | h) | h
      · exact .inr ⟨part, List.mem_cons_self, h⟩
      · exact .inl h
      · rcases ih h with h | ⟨other, ho, hc⟩
        · exact .inl h
        · exact .inr ⟨other, List.mem_cons_of_mem _ ho, hc⟩

private theorem decode_of_plain {cs : List Char} (h : ∀ c ∈ cs, c ≠ '%' ∧ c ≠ '+') :
    decode cs = String.ofList cs := by
  have hpercent : '%' ∉ cs := fun hc => (h _ hc).1 rfl
  have hdecode := Percent.decode_encode (fun _ => false) hpercent
  rw [Percent.encode_eq_self fun _ _ => rfl] at hdecode
  rw [decode, map_unplus fun c hc => (h c hc).2, hdecode, Utf8.decodeLossy_encodeChars]

/-! ## Written pairs -/

private theorem mem_encodeByte {b : UInt8} {c : Char} (h : c ∈ Percent.encodeByte b) :
    c = '%' ∨ ∃ n < 16, c = Text.upperHexDigit n := by
  have hb : b.toNat < 256 := b.toNat_lt
  simp only [Percent.encodeByte, List.mem_cons, List.not_mem_nil, or_false] at h
  rcases h with h | h | h
  · exact .inl h
  · exact .inr ⟨_, by omega, h⟩
  · exact .inr ⟨_, by omega, h⟩

private theorem upperHexDigit_ne :
    ∀ n < 16, Text.upperHexDigit n ≠ '+' ∧ Text.upperHexDigit n ≠ '&' ∧
    Text.upperHexDigit n ≠ '=' := by
  decide

private theorem not_mark_of_mem_bytes {bs : Bytes} {c : Char}
    (h : c ∈ bs.flatMap Percent.encodeByte) :
    c ≠ '+' ∧ c ≠ '&' ∧ c ≠ '=' := by
  obtain ⟨b, -, hc⟩ := List.mem_flatMap.mp h
  rcases mem_encodeByte hc with rfl | ⟨n, hn, rfl⟩
  · decide
  · exact upperHexDigit_ne n hn

private theorem isPlain_ne {c mark : Char} (h : isPlain c = true) (hm : isPlain mark = false) :
    c ≠ mark := by
  rintro rfl
  rw [h] at hm
  cases hm

private theorem not_separator_of_mem_encodeChar {c d : Char} (h : d ∈ encodeChar c) :
    d ≠ '&' ∧ d ≠ '=' := by
  unfold encodeChar at h
  split at h
  · next hplain =>
    rw [List.mem_singleton] at h
    subst h
    exact ⟨isPlain_ne hplain (by decide), isPlain_ne hplain (by decide)⟩
  · split at h
    · rw [List.mem_singleton] at h
      subst h
      decide
    · exact (not_mark_of_mem_bytes h).2

private theorem not_separator_of_mem_encode {text : String} {d : Char} (h : d ∈ encode text) :
    d ≠ '&' ∧ d ≠ '=' := by
  obtain ⟨c, -, hd⟩ := List.mem_flatMap.mp h
  exact not_separator_of_mem_encodeChar hd

private theorem percentDecode_encodeChar (c : Char) (rest : List Char) :
    Percent.decode ((encodeChar c).map unplus ++ rest) =
      Utf8.encodeChar c ++ Percent.decode rest := by
  unfold encodeChar
  split
  · next hplain =>
    rw [List.map_singleton, unplus_of_ne (isPlain_ne hplain (by decide))]
    exact Percent.decode_cons_of_ne (isPlain_ne hplain (by decide)) rest
  · split
    · next hspace =>
      subst hspace
      exact Percent.decode_cons_of_ne (by decide) rest
    · have hplus (d : Char) (hd : d ∈ (Utf8.encodeChar c).flatMap Percent.encodeByte) : d ≠ '+' :=
        (not_mark_of_mem_bytes hd).1
      rw [map_unplus hplus, Percent.decode_flatMap_encodeByte]

private theorem decode_encode (text : String) : decode (encode text) = text := by
  have hbytes (cs : List Char) :
      Percent.decode ((cs.flatMap encodeChar).map unplus) = Utf8.encodeChars cs := by
    induction cs with
    | nil => rfl
    | cons c cs ih =>
      rw [List.flatMap_cons, List.map_append, percentDecode_encodeChar, ih]
      rfl
  rw [decode, encode, hbytes]
  exact Utf8.decodeLossy_encode text

private theorem decodePair_encodePair (pair : String × String) :
    decodePair (encodePair pair) = pair := by
  rw [encodePair, decodePair_append fun h => (not_separator_of_mem_encode h).2 rfl, decode_encode,
    decode_encode]

/-- Pairs as they stand in a query, without any encoding. -/
def plainQuery (pairs : List (String × String)) : List Char :=
  ['&'].intercalate (pairs.map fun pair => pair.1.toList ++ '=' :: pair.2.toList)

theorem mem_plainQuery {pairs : List (String × String)} {c : Char} (h : c ∈ plainQuery pairs) :
    c = '&' ∨ c = '=' ∨ ∃ pair ∈ pairs, c ∈ pair.1.toList ++ pair.2.toList := by
  rcases mem_intercalate h with h | ⟨part, hpart, hc⟩
  · exact .inl h
  · obtain ⟨pair, hp, rfl⟩ := List.mem_map.mp hpart
    right
    rw [List.mem_append, List.mem_cons] at hc
    rcases hc with hc | hc | hc
    · exact .inr ⟨pair, hp, List.mem_append_left _ hc⟩
    · exact .inl hc
    · exact .inr ⟨pair, hp, List.mem_append_right _ hc⟩

theorem decodePairs_plainQuery {pairs : List (String × String)} (hne : pairs ≠ [])
    (h : ∀ pair ∈ pairs, ∀ c ∈ pair.1.toList ++ pair.2.toList,
      c ≠ '%' ∧ c ≠ '+' ∧ c ≠ '&' ∧ c ≠ '=') :
    decodePairs (plainQuery pairs) = pairs := by
  rw [plainQuery, decodePairs_intercalate (by simpa using hne), List.map_map]
  · refine (List.map_congr_left fun pair hp => ?_).trans (List.map_id pairs)
    have hname (c : Char) (hc : c ∈ pair.1.toList) := h pair hp c (List.mem_append_left _ hc)
    have hvalue (c : Char) (hc : c ∈ pair.2.toList) := h pair hp c (List.mem_append_right _ hc)
    have hsplit : '=' ∉ pair.1.toList := fun hc => (hname _ hc).2.2.2 rfl
    rw [Function.comp_apply, decodePair_append hsplit,
      decode_of_plain fun c hc => ⟨(hname c hc).1, (hname c hc).2.1⟩,
      decode_of_plain fun c hc => ⟨(hvalue c hc).1, (hvalue c hc).2.1⟩, String.ofList_toList,
      String.ofList_toList]
    rfl
  · intro part hpart
    obtain ⟨pair, hp, rfl⟩ := List.mem_map.mp hpart
    refine ⟨by simp, fun hc => ?_⟩
    rcases List.mem_append.mp hc with hc | hc
    · exact (h pair hp _ (List.mem_append_left _ hc)).2.2.1 rfl
    · rcases List.mem_cons.mp hc with hc | hc
      · cases hc
      · exact (h pair hp _ (List.mem_append_right _ hc)).2.2.1 rfl

/-! ## Pairs behind a query -/

private theorem splitOn_append_amp (cs rest : List Char) :
    (cs ++ '&' :: rest).splitOn '&' = cs.splitOn '&' ++ rest.splitOn '&' := by
  have hcons (c : Char) (ds : List Char) : (c :: ds).splitOn '&' =
      if c == '&' then [] :: ds.splitOn '&' else (ds.splitOn '&').modifyHead (List.cons c) :=
    List.splitOnP_cons_eq_if_modifyHead _ _
  induction cs with
  | nil => exact hcons '&' rest
  | cons c cs ih =>
    rw [List.cons_append, hcons, hcons, ih]
    split
    · rfl
    · cases hsplit : cs.splitOn '&' with
      | nil => exact (List.splitOn_ne_nil _ _ hsplit).elim
      | cons first others => rfl

/-- What is behind a mark is read apart from what is before it. -/
theorem decodePairs_append_amp (cs rest : List Char) :
    decodePairs (cs ++ '&' :: rest) = decodePairs cs ++ decodePairs rest := by
  rw [decodePairs, splitOn_append_amp, List.filter_append, List.map_append]
  rfl

private theorem decodePairs_encodePairs {pairs : List (String × String)} (h : pairs ≠ []) :
    decodePairs (['&'].intercalate (pairs.map encodePair)) = pairs := by
  rw [decodePairs_intercalate (by simpa using h), List.map_map]
  · exact (List.map_congr_left fun pair _ => decodePair_encodePair pair).trans (List.map_id pairs)
  · intro part hp
    obtain ⟨pair, -, rfl⟩ := List.mem_map.mp hp
    refine ⟨by simp [encodePair], fun hm => ?_⟩
    simp only [encodePair, List.mem_append, List.mem_cons] at hm
    rcases hm with hm | hm | hm
    · exact (not_separator_of_mem_encode hm).1 rfl
    · cases hm
    · exact (not_separator_of_mem_encode hm).1 rfl

theorem decodePairs_getD_append (query : Option (List Char)) (pairs : List (String × String)) :
    decodePairs ((append query pairs).getD []) = decodePairs (query.getD []) ++ pairs := by
  rcases hquery : query.getD [] with _ | ⟨c, cs⟩
  · have hnone : decodePairs [] = [] := rfl
    rw [hnone, List.nil_append]
    by_cases hp : pairs = []
    · subst hp
      simp [append, hquery, hnone]
    · simp [append, hquery, hp, decodePairs_encodePairs hp]
  · cases pairs with
    | nil => simp [append, hquery]
    | cons pair pairs =>
      have hparts : append query (pair :: pairs) =
          some ((c :: cs) ++ '&' :: ['&'].intercalate ((pair :: pairs).map encodePair)) := by
        simp [append, hquery, List.intercalate_cons_cons]
      rw [hparts, Option.getD_some, decodePairs_append_amp,
        decodePairs_encodePairs (List.cons_ne_nil pair pairs)]

end Form

end RuntimeFlag
