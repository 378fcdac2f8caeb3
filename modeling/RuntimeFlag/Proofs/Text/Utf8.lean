import RuntimeFlag.Text.Utf8
/-!
# UTF-8 is read as it is written

The bytes of a text are decoded as this text, and no other bytes are.
-/
namespace RuntimeFlag.Utf8

private theorem toNat_ofNat {n : Nat} (h : n < 256) : (UInt8.ofNat n).toNat = n := by
  rw [UInt8.toNat_ofNat', Nat.mod_eq_of_lt h]

@[simp] theorem encodeChars_nil : encodeChars [] = [] := rfl

theorem encodeChars_cons (c : Char) (cs : List Char) :
    encodeChars (c :: cs) = encodeChar c ++ encodeChars cs :=
  List.flatMap_cons

theorem encodeChars_append (cs ds : List Char) :
    encodeChars (cs ++ ds) = encodeChars cs ++ encodeChars ds :=
  List.flatMap_append

theorem encodeChar_of_lt {c : Char} (h : c.toNat < 0x80) :
    encodeChar c = [UInt8.ofNat c.toNat] := by
  rw [encodeChar, if_pos h]

/-- A byte of a character is the character itself, or no character at all. -/
theorem toNat_of_mem_encodeChar {c : Char} {b : UInt8} (h : b ∈ encodeChar c) :
    b.toNat = c.toNat ∨ 0x80 ≤ b.toNat := by
  have hc : c.toNat < 0x110000 := by
    have hvalid : c.toNat < 0xD800 ∨ 0xDFFF < c.toNat ∧ c.toNat < 0x110000 := c.valid
    omega
  have hbyte (n : Nat) (hlow : 0x80 ≤ n) (hhigh : n < 256) (hb : b = UInt8.ofNat n) :
      0x80 ≤ b.toNat := by
    rwa [hb, toNat_ofNat hhigh]
  by_cases h1 : c.toNat < 0x80
  · rw [encodeChar_of_lt h1, List.mem_singleton] at h
    rw [h, toNat_ofNat (by omega)]
    exact .inl rfl
  · right
    rw [encodeChar, if_neg h1] at h
    by_cases h2 : c.toNat < 0x800
    · simp only [if_pos h2, List.mem_cons, List.not_mem_nil, or_false] at h
      rcases h with h | h
      · exact hbyte _ (by omega) (by omega) h
      · exact hbyte _ (by omega) (by omega) h
    · rw [if_neg h2] at h
      by_cases h3 : c.toNat < 0x10000
      · simp only [if_pos h3, List.mem_cons, List.not_mem_nil, or_false] at h
        rcases h with h | h | h
        · exact hbyte _ (by omega) (by omega) h
        · exact hbyte _ (by omega) (by omega) h
        · exact hbyte _ (by omega) (by omega) h
      · simp only [if_neg h3, List.mem_cons, List.not_mem_nil, or_false] at h
        rcases h with h | h | h | h
        · exact hbyte _ (by omega) (by omega) h
        · exact hbyte _ (by omega) (by omega) h
        · exact hbyte _ (by omega) (by omega) h
        · exact hbyte _ (by omega) (by omega) h

private theorem follow_cons {bits low high more n : Nat} (rest : Bytes) (hn : n < 256)
    (hlow : low ≤ n) (hhigh : n ≤ high) :
    follow bits low high (more + 1) (UInt8.ofNat n :: rest) =
      follow (bits * 64 + (n - 0x80)) 0x80 0xBF more rest := by
  rw [follow, toNat_ofNat hn, if_pos (by simp [hlow, hhigh])]

private theorem follow_zero (bits low high : Nat) (rest : Bytes) :
    follow bits low high 0 rest = (some (Char.ofNat bits), rest) := rfl

private theorem next_of_lead {n bits low high more : Nat} (rest : Bytes) (hn : n < 256)
    (h : 0x80 ≤ n) (hlead : lead n = some (bits, low, high, more)) :
    next (UInt8.ofNat n) rest = follow bits low high more rest := by
  rw [next, toNat_ofNat hn, if_neg (by omega), hlead]

private theorem lead_of_three {n : Nat} (h : 0x800 ≤ n) (hn : n < 0x10000)
    (hs : n < 0xD800 ∨ 0xE000 ≤ n) :
    ∃ low high, lead (0xE0 + n / 4096) = some (n / 4096, low, high, 2) ∧
      low ≤ 0x80 + n / 64 % 64 ∧ 0x80 + n / 64 % 64 ≤ high := by
  unfold lead
  by_cases h0 : n / 4096 = 0
  · exact ⟨0xA0, 0xBF, by simp [h0], by omega, by omega⟩
  · by_cases h13 : n / 4096 = 13
    · exact ⟨0x80, 0x9F, by simp [h13], by omega, by omega⟩
    · refine ⟨0x80, 0xBF, ?_, by omega, by omega⟩
      have hlt : n / 4096 < 16 := by omega
      simp only [Bool.and_eq_true, decide_eq_true_eq, beq_iff_eq]
      rw [if_neg (by omega), if_neg (by omega), if_neg (by omega), if_pos (by omega),
        Nat.add_sub_cancel_left]

private theorem lead_of_four {n : Nat} (h : 0x10000 ≤ n) (hn : n < 0x110000) :
    ∃ low high, lead (0xF0 + n / 262144) = some (n / 262144, low, high, 3) ∧
      low ≤ 0x80 + n / 4096 % 64 ∧ 0x80 + n / 4096 % 64 ≤ high := by
  unfold lead
  by_cases h0 : n / 262144 = 0
  · exact ⟨0x90, 0xBF, by simp [h0], by omega, by omega⟩
  · by_cases h4 : n / 262144 = 4
    · exact ⟨0x80, 0x8F, by simp [h4], by omega, by omega⟩
    · refine ⟨0x80, 0xBF, ?_, by omega, by omega⟩
      simp only [Bool.and_eq_true, decide_eq_true_eq, beq_iff_eq]
      rw [if_neg (by omega), if_neg (by omega), if_neg (by omega), if_neg (by omega),
        if_neg (by omega), if_pos (by omega), Nat.add_sub_cancel_left]

/-- The bytes of a character are read as this character. -/
theorem next_encodeChar (c : Char) (rest : Bytes) :
    ∃ b bs, encodeChar c = b :: bs ∧ next b (bs ++ rest) = (some c, rest) := by
  have hvalid : c.toNat < 0xD800 ∨ 0xDFFF < c.toNat ∧ c.toNat < 0x110000 := c.valid
  have hc : ∀ bits, bits = c.toNat → Char.ofNat bits = c := by
    rintro _ rfl
    exact Char.ofNat_toNat c
  unfold encodeChar
  by_cases h1 : c.toNat < 0x80
  · rw [if_pos h1]
    refine ⟨_, _, rfl, ?_⟩
    rw [next, toNat_ofNat (by omega), if_pos h1, hc _ rfl]
    rfl
  · rw [if_neg h1]
    by_cases h2 : c.toNat < 0x800
    · rw [if_pos h2]
      have hlead : lead (0xC0 + c.toNat / 64) = some (c.toNat / 64, 0x80, 0xBF, 1) := by
        rw [lead, if_pos (by simp; omega), Nat.add_sub_cancel_left]
      refine ⟨_, _, rfl, ?_⟩
      rw [next_of_lead _ (by omega) (by omega) hlead, List.cons_append,
        follow_cons _ (by omega) (by omega) (by omega), follow_zero, hc _ (by omega)]
      rfl
    · rw [if_neg h2]
      by_cases h3 : c.toNat < 0x10000
      · rw [if_pos h3]
        obtain ⟨low, high, hlead, hlow, hhigh⟩ := lead_of_three (by omega) h3 (by omega)
        refine ⟨_, _, rfl, ?_⟩
        rw [next_of_lead _ (by omega) (by omega) hlead, List.cons_append,
          follow_cons _ (by omega) hlow hhigh, List.cons_append,
          follow_cons _ (by omega) (by omega) (by omega), follow_zero, hc _ (by omega)]
        rfl
      · rw [if_neg h3]
        obtain ⟨low, high, hlead, hlow, hhigh⟩ :=
          lead_of_four (by omega) (by omega : c.toNat < 0x110000)
        refine ⟨_, _, rfl, ?_⟩
        rw [next_of_lead _ (by omega) (by omega) hlead, List.cons_append,
          follow_cons _ (by omega) hlow hhigh, List.cons_append,
          follow_cons _ (by omega) (by omega) (by omega), List.cons_append,
          follow_cons _ (by omega) (by omega) (by omega), follow_zero, hc _ (by omega)]
        rfl

private theorem pieces_encodeChars_append (cs : List Char) (rest : Bytes) :
    pieces (encodeChars cs ++ rest) = cs.map some ++ pieces rest := by
  induction cs with
  | nil => rfl
  | cons c cs ih =>
    obtain ⟨b, bs, hbytes, hnext⟩ := next_encodeChar c (encodeChars cs ++ rest)
    have hcons : encodeChars (c :: cs) ++ rest = b :: (bs ++ (encodeChars cs ++ rest)) := by
      rw [encodeChars_cons, hbytes, List.append_assoc, List.cons_append]
    rw [hcons, pieces, hnext, ih]
    rfl

private theorem pieces_encodeChars (cs : List Char) : pieces (encodeChars cs) = cs.map some := by
  have h := pieces_encodeChars_append cs []
  rw [List.append_nil] at h
  rw [h, pieces, List.append_nil]

theorem decodeChars?_encodeChars (cs : List Char) : decodeChars? (encodeChars cs) = some cs := by
  rw [decodeChars?, pieces_encodeChars]
  induction cs with
  | nil => rfl
  | cons c cs ih =>
    rw [List.map_cons, List.mapM_cons, ih]
    rfl

theorem decode?_encode (s : String) : decode? (encode s) = some s := by
  rw [decode?, encode, decodeChars?_encodeChars, Option.map_some, String.ofList_toList]

theorem decodeLossy_encodeChars (cs : List Char) :
    decodeLossy (encodeChars cs) = String.ofList cs := by
  have hid : (fun piece : Option Char => piece.getD '\uFFFD') ∘ some = id := rfl
  rw [decodeLossy, pieces_encodeChars, List.map_map, hid, List.map_id]

theorem decodeLossy_encode (s : String) : decodeLossy (encode s) = s := by
  rw [encode, decodeLossy_encodeChars, String.ofList_toList]

/-! ## Nothing else is read -/

theorem toNat_char {n : Nat} (h : n.isValidChar) : (Char.ofNat n).toNat = n := by
  rw [Char.ofNat, dif_pos h]
  rfl

private theorem exists_of_follow {bits low high more : Nat} {bs rest : Bytes} {c : Char}
    (h : follow bits low high (more + 1) bs = (some c, rest)) :
    ∃ b tail, bs = b :: tail ∧ low ≤ b.toNat ∧ b.toNat ≤ high ∧
      follow (bits * 64 + (b.toNat - 0x80)) 0x80 0xBF more tail = (some c, rest) := by
  cases bs with
  | nil => simp [follow] at h
  | cons b tail =>
    rw [follow] at h
    split at h
    · next hb =>
      simp only [Bool.and_eq_true, decide_eq_true_eq] at hb
      exact ⟨b, tail, rfl, hb.1, hb.2, h⟩
    · cases h

private theorem eq_of_follow_zero {bits low high : Nat} {bs rest : Bytes} {c : Char}
    (h : follow bits low high 0 bs = (some c, rest)) : c = Char.ofNat bits ∧ bs = rest := by
  rw [follow_zero, Prod.mk.injEq, Option.some.injEq] at h
  exact ⟨h.1.symm, h.2⟩

private theorem ofNat_eq {b : UInt8} {n : Nat} (h : n = b.toNat) : UInt8.ofNat n = b := by
  rw [h, UInt8.ofNat_toNat]

/-- What a first byte promises, by the number of bytes that follow it. -/
theorem lead_cases {n bits low high more : Nat} (h : lead n = some (bits, low, high, more)) :
    (more = 1 ∧ n = 0xC0 + bits ∧ 2 ≤ bits ∧ bits < 32 ∧ low = 0x80 ∧ high = 0xBF) ∨
    (more = 2 ∧ n = 0xE0 + bits ∧ bits < 16 ∧ 0x80 ≤ low ∧ high ≤ 0xBF ∧
      (bits = 0 → low = 0xA0) ∧ (bits = 13 → high = 0x9F)) ∨
    (more = 3 ∧ n = 0xF0 + bits ∧ bits < 5 ∧ 0x80 ≤ low ∧ high ≤ 0xBF ∧
      (bits = 0 → low = 0x90) ∧ (bits = 4 → high = 0x8F)) := by
  simp only [lead, Bool.and_eq_true, decide_eq_true_eq, beq_iff_eq] at h
  repeat' split at h
  all_goals simp only [Option.some.injEq, Prod.mk.injEq, reduceCtorEq] at h
  all_goals omega

private theorem eq_encodeChar_of_next {b : UInt8} {bs rest : Bytes} {c : Char}
    (h : next b bs = (some c, rest)) : b :: bs = encodeChar c ++ rest := by
  have hb := b.toNat_lt
  unfold next at h
  split at h
  · next hlow =>
    cases h
    have hc : (Char.ofNat b.toNat).toNat = b.toNat := toNat_char (.inl (by omega))
    rw [encodeChar_of_lt (by omega), hc, UInt8.ofNat_toNat]
    rfl
  · split at h
    · cases h
    · next bits low high more hlead =>
      rcases lead_cases hlead with ⟨rfl, hb0, hrange⟩ | ⟨rfl, hb0, hrange⟩ | ⟨rfl, hb0, hrange⟩
      · obtain ⟨b₁, tail, rfl, hl₁, hh₁, hend⟩ := exists_of_follow h
        obtain ⟨hchar, rfl⟩ := eq_of_follow_zero hend
        generalize hn : bits * 64 + (b₁.toNat - 0x80) = n at hchar
        have h0 : UInt8.ofNat (0xC0 + n / 64) = b := ofNat_eq (by omega)
        have h1 : UInt8.ofNat (0x80 + n % 64) = b₁ := ofNat_eq (by omega)
        have hc : c.toNat = n := hchar ▸ toNat_char (.inl (by omega))
        simp only [encodeChar, hc, h0, h1]
        rw [if_neg (by omega), if_pos (by omega)]
        rfl
      · obtain ⟨b₁, tail₁, rfl, hl₁, hh₁, hmore⟩ := exists_of_follow h
        obtain ⟨b₂, tail₂, rfl, hl₂, hh₂, hend⟩ := exists_of_follow hmore
        obtain ⟨hchar, rfl⟩ := eq_of_follow_zero hend
        generalize hn : (bits * 64 + (b₁.toNat - 0x80)) * 64 + (b₂.toNat - 0x80) = n at hchar
        have h0 : UInt8.ofNat (0xE0 + n / 4096) = b := ofNat_eq (by omega)
        have h1 : UInt8.ofNat (0x80 + n / 64 % 64) = b₁ := ofNat_eq (by omega)
        have h2 : UInt8.ofNat (0x80 + n % 64) = b₂ := ofNat_eq (by omega)
        have hc : c.toNat = n := hchar ▸ toNat_char (by unfold Nat.isValidChar; omega)
        simp only [encodeChar, hc, h0, h1, h2]
        rw [if_neg (by omega), if_neg (by omega), if_pos (by omega)]
        rfl
      · obtain ⟨b₁, tail₁, rfl, hl₁, hh₁, hmore⟩ := exists_of_follow h
        obtain ⟨b₂, tail₂, rfl, hl₂, hh₂, hlast⟩ := exists_of_follow hmore
        obtain ⟨b₃, tail₃, rfl, hl₃, hh₃, hend⟩ := exists_of_follow hlast
        obtain ⟨hchar, rfl⟩ := eq_of_follow_zero hend
        generalize hn : ((bits * 64 + (b₁.toNat - 0x80)) * 64 + (b₂.toNat - 0x80)) * 64 +
          (b₃.toNat - 0x80) = n at hchar
        have h0 : UInt8.ofNat (0xF0 + n / 262144) = b := ofNat_eq (by omega)
        have h1 : UInt8.ofNat (0x80 + n / 4096 % 64) = b₁ := ofNat_eq (by omega)
        have h2 : UInt8.ofNat (0x80 + n / 64 % 64) = b₂ := ofNat_eq (by omega)
        have h3 : UInt8.ofNat (0x80 + n % 64) = b₃ := ofNat_eq (by omega)
        have hc : c.toNat = n := hchar ▸ toNat_char (by unfold Nat.isValidChar; omega)
        simp only [encodeChar, hc, h0, h1, h2, h3]
        rw [if_neg (by omega), if_neg (by omega), if_neg (by omega)]
        rfl

private theorem encodeChars_of_pieces {bs : Bytes} {cs : List Char}
    (h : (pieces bs).mapM id = some cs) :
    encodeChars cs = bs := by
  induction bs using pieces.induct generalizing cs with
  | case1 =>
    rw [pieces] at h
    cases h
    rfl
  | case2 b rest ih =>
    rw [pieces, List.mapM_cons] at h
    obtain ⟨c, hc, h⟩ := Option.bind_eq_some_iff.mp h
    obtain ⟨ds, hds, h⟩ := Option.bind_eq_some_iff.mp h
    cases h
    rw [encodeChars_cons, ih hds, ← eq_encodeChar_of_next (Prod.ext hc rfl)]

theorem eq_encode_of_decode? {bs : Bytes} {s : String} (h : decode? bs = some s) :
    bs = encode s := by
  obtain ⟨cs, hcs, rfl⟩ := Option.map_eq_some_iff.mp h
  rw [encode, String.toList_ofList, encodeChars_of_pieces hcs]

private theorem none_mem_of_mapM {pieces : List (Option Char)} (h : pieces.mapM id = none) :
    none ∈ pieces := by
  induction pieces with
  | nil => cases h
  | cons piece pieces ih =>
    cases piece with
    | none => exact List.mem_cons_self
    | some c =>
      rw [List.mapM_cons] at h
      refine List.mem_cons_of_mem _ (ih ?_)
      cases hrest : pieces.mapM id with
      | none => rfl
      | some cs =>
        rw [hrest] at h
        cases h

/-- Bytes that are no text are shown with a character that stands for what is ill-formed. -/
theorem mem_decodeLossy_of_decode?_eq_none {bs : Bytes} (h : decode? bs = none) :
    '\uFFFD' ∈ (decodeLossy bs).toList := by
  have hnone := none_mem_of_mapM (Option.map_eq_none_iff.mp h)
  rw [decodeLossy, String.toList_ofList]
  exact List.mem_map.mpr ⟨none, hnone, rfl⟩

theorem encode_append (s t : String) : encode (s ++ t) = encode s ++ encode t := by
  rw [encode, String.toList_append, encodeChars_append]
  rfl

theorem decode?_eq_some_iff {bs : Bytes} {s : String} : decode? bs = some s ↔ bs = encode s :=
  ⟨eq_encode_of_decode?, fun h => h ▸ decode?_encode s⟩

end RuntimeFlag.Utf8
