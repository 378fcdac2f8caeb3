import Mathlib.Data.List.TakeWhile
import RuntimeFlag.Proofs.Json.Written
/-!
# Values on lines of their own

The written form with one member or item a line spells the same document as the one without blanks:
its line ends and indents are blanks between the parts. The numeral that writes a natural number of
64 bits is read as this number.
-/
namespace RuntimeFlag.Json

/-! ## Lines -/

private theorem blank_newLine (indent : Nat) : Blank (Utf8.encodeChars (newLine indent)) := by
  intro b hb
  obtain ⟨c, hc, hb⟩ := List.mem_flatMap.mp hb
  rcases List.mem_cons.mp hc with rfl | hc
  · rw [List.mem_singleton.mp hb]
    rfl
  · rw [List.eq_of_mem_replicate hc] at hb
    rw [List.mem_singleton.mp hb]
    rfl

private theorem spellsKey_spaced (s : String) :
    SpellsKey (.ok s) (Utf8.encodeChars (writeText s ++ [':', ' '])) := by
  have hkey := spellsKey_writeText s (Blank.nil.concat (b := 0x20) rfl)
  rw [Utf8.encodeChars_append, List.append_assoc] at hkey
  rw [Utf8.encodeChars_append]
  exact hkey

mutual

private theorem spells_pretty (v : Value) (indent : Nat) :
    Spells (.value v.doc) (Utf8.encodeChars (v.prettyChars indent)) := by
  match v with
  | .null => exact .null
  | .flag b => cases b with
    | false => exact .flag false
    | true => exact .flag true
  | .integer i => exact .number (isNumeral_writeInteger i)
  | .text s => exact .text (spellsText_writeText s)
  | .list [] => exact .emptyList .nil
  | .list (item :: items) =>
    have hitems := spells_prettyItems items indent
      (.firstItem (blank_newLine (indent + 1)) (spells_pretty item (indent + 1)))
    rw [Value.doc, itemDocs, Value.prettyChars]
    simpa [Utf8.encodeChars_cons, Utf8.encodeChars_append, encodeChar_mark] using hitems
  | .object [] => exact .emptyObject .nil
  | .object ((key, value) :: members) =>
    have hmembers := spells_prettyMembers members indent
      (.firstMember (blank_newLine (indent + 1)) (spellsKey_spaced key)
        (spells_pretty value (indent + 1)))
    rw [Value.doc, memberDocs, Value.prettyChars]
    simpa [Utf8.encodeChars_cons, Utf8.encodeChars_append, encodeChar_mark] using hmembers

theorem spells_prettyItems (items : List Value) (indent : Nat) {before : List Doc} {last : Doc}
    {start : Bytes} (h : Spells (.items before last) start) :
    Spells (.value (.list (before ++ last :: itemDocs items) .closed))
      (start ++ Utf8.encodeChars (prettyItems indent items)) := by
  match items with
  | [] =>
    have hlist := Spells.list h (blank_newLine indent)
    rw [itemDocs, prettyItems]
    simpa [Utf8.encodeChars_cons, Utf8.encodeChars_append, encodeChar_mark] using hlist
  | item :: items =>
    have hitems := spells_prettyItems items indent
      (h.nextItem .nil (blank_newLine (indent + 1)) (spells_pretty item (indent + 1)))
    rw [itemDocs, prettyItems]
    simpa [Utf8.encodeChars_cons, Utf8.encodeChars_append, encodeChar_mark] using hitems

theorem spells_prettyMembers (members : List (String × Value)) (indent : Nat)
    {before : List (Key × Doc)} {key : Key} {last : Doc} {start : Bytes}
    (h : Spells (.members before key last) start) :
    Spells (.value (.object (before ++ (key, last) :: memberDocs members) .closed))
      (start ++ Utf8.encodeChars (prettyMembers indent members)) := by
  match members with
  | [] =>
    have hobject := Spells.object h (blank_newLine indent)
    rw [memberDocs, prettyMembers]
    simpa [Utf8.encodeChars_cons, Utf8.encodeChars_append, encodeChar_mark] using hobject
  | (name, value) :: members =>
    have hmembers := spells_prettyMembers members indent
      (h.nextMember .nil (blank_newLine (indent + 1)) (spellsKey_spaced name)
        (spells_pretty value (indent + 1)))
    rw [memberDocs, prettyMembers]
    simpa [Utf8.encodeChars_cons, Utf8.encodeChars_append, encodeChar_mark] using hmembers

end

theorem spelling_pretty (v : Value) : v.doc.Spelling (Utf8.encode v.pretty) := by
  rw [Utf8.encode, Value.pretty, String.toList_ofList]
  exact ⟨[], _, [], .nil, .nil, spells_pretty v 0, (List.append_nil _).symm⟩

/-! ## Natural numbers -/

namespace Numeral

private theorem le_ofDigitChars (cs : List Char) (n : Nat) : n ≤ Nat.ofDigitChars 10 cs n := by
  rw [Nat.ofDigitChars_eq_ofDigitChars_zero]
  exact Nat.le_add_right_of_le (Nat.le_mul_of_pos_left n (Nat.pow_pos (by decide)))

private theorem extend_map_digitValue (cs : List Char) (significand : Nat)
    (h : Nat.ofDigitChars 10 cs significand ≤ maxSignificand) :
    extend significand (cs.map digitValue) = (Nat.ofDigitChars 10 cs significand, []) := by
  induction cs generalizing significand with
  | nil => rfl
  | cons c cs ih =>
    rw [Nat.ofDigitChars_cons, Nat.mul_comm] at h ⊢
    have hfits := (le_ofDigitChars cs _).trans h
    rw [List.map_cons, extend, digitValue, if_pos hfits]
    exact ih _ h

private theorem ofChars_of_isDigit {cs : List Char} (h : ∀ c ∈ cs, c.isDigit = true) :
    ofChars cs = ⟨false, cs.map digitValue, [], none⟩ := by
  have hsign : ∀ c ∈ cs, c ≠ '-' := by
    rintro c hc rfl
    cases h '-' hc
  have hunsigned : cs.dropWhile (· = '-') = cs := by
    cases cs with
    | nil => rfl
    | cons c cs => simp [hsign c List.mem_cons_self]
  have hhead : decide (cs.head? = some '-') = false := by
    rw [decide_eq_false_iff_not]
    exact fun hhead => hsign '-' (List.mem_of_mem_head? hhead) rfl
  have hrest : cs.dropWhile Char.isDigit = [] := List.dropWhile_eq_nil_iff.mpr h
  have hwhole : cs.takeWhile Char.isDigit = cs := List.takeWhile_eq_self_iff.mpr h
  simp only [ofChars, hunsigned, hhead, hrest, hwhole, List.dropWhile_nil, List.takeWhile_nil,
    List.map_nil]

private theorem number?_toDigits {n : Nat} (h : n ≤ maxSignificand) :
    (ofChars (Nat.toDigits 10 n)).number? = some (.natural n) := by
  have hdigits : ∀ c ∈ Nat.toDigits 10 n, c.isDigit = true := fun _ hc =>
    Nat.isDigit_of_mem_toDigits (by decide) (by decide) hc
  have hextend : extend 0 ((Nat.toDigits 10 n).map digitValue) = (n, []) := by
    have hread := extend_map_digitValue (Nat.toDigits 10 n) 0
    rw [Nat.ofDigitChars_ten_toDigits] at hread
    exact hread h
  simp [ofChars_of_isDigit hdigits, number?, hextend]

private theorem ofChars_minus {cs : List Char} (h : ∀ c ∈ cs, c.isDigit = true) :
    ofChars ('-' :: cs) = ⟨true, cs.map digitValue, [], none⟩ := by
  have hunsigned : ('-' :: cs).dropWhile (· = '-') = cs.dropWhile (· = '-') := by simp
  have hplain := ofChars_of_isDigit h
  simp only [ofChars, mk.injEq] at hplain
  simp only [ofChars, mk.injEq, hunsigned, List.head?_cons, decide_true, true_and]
  exact hplain.2

/-- A magnitude goes up to that of the least number of 64 bits with sign. -/
theorem number?_minus {n : Nat} (hpos : 0 < n) (h : n ≤ 0x8000000000000000) :
    (ofChars ('-' :: Nat.toDigits 10 n)).number? = some (.negative n) := by
  have hdigits : ∀ c ∈ Nat.toDigits 10 n, c.isDigit = true := fun _ hc =>
    Nat.isDigit_of_mem_toDigits (by decide) (by decide) hc
  have hextend : extend 0 ((Nat.toDigits 10 n).map digitValue) = (n, []) := by
    have hread := extend_map_digitValue (Nat.toDigits 10 n) 0
    rw [Nat.ofDigitChars_ten_toDigits] at hread
    exact hread (h.trans (by decide))
  have hrange : ¬ (n = 0 ∨ 0x8000000000000000 < n) := by omega
  simp [ofChars_minus hdigits, number?, hextend, hrange]

end Numeral

private theorem map_encodeChars {cs : List Char} (h : ∀ c ∈ cs, c.toNat < 0x80) :
    (Utf8.encodeChars cs).map (fun b => Char.ofNat b.toNat) = cs := by
  induction cs with
  | nil => rfl
  | cons c cs ih =>
    obtain ⟨hc, hcs⟩ := List.forall_mem_cons.mp h
    have hbyte : Char.ofNat (UInt8.ofNat c.toNat).toNat = c := by
      rw [UInt8.toNat_ofNat_of_lt' (by simp [UInt8.size]; omega), Char.ofNat_toNat]
    rw [Utf8.encodeChars_cons, Utf8.encodeChar_of_lt hc, List.map_append, List.map_singleton, hbyte,
      ih hcs, List.singleton_append]

theorem doc_natural {n : Nat} (h : n ≤ Numeral.maxSignificand) :
    (Value.integer n).doc = .number (.ok (.natural n)) := by
  have hdigits : ∀ c ∈ Nat.toDigits 10 n, c.toNat < 0x80 := fun c hc => by
    have hrange := Text.toNat_of_isDigit
      (Nat.isDigit_of_mem_toDigits (by decide) (by decide) hc)
    omega
  have hwritten : writeInteger n = Nat.toDigits 10 n := by
    rw [writeInteger, if_neg (by omega), Int.natAbs_natCast]
  rw [Value.doc, hwritten, Reading.numeralDoc, List.reverse_reverse, map_encodeChars hdigits,
    Numeral.number?_toDigits h]

theorem doc_negative {n : Nat} (hpos : 0 < n) (h : n ≤ 0x8000000000000000) :
    (Value.integer (-n)).doc = .number (.ok (.negative n)) := by
  have hascii : ∀ c ∈ '-' :: Nat.toDigits 10 n, c.toNat < 0x80 := by
    rw [List.forall_mem_cons]
    refine ⟨by decide, fun c hc => ?_⟩
    have hrange := Text.toNat_of_isDigit
      (Nat.isDigit_of_mem_toDigits (by decide) (by decide) hc)
    omega
  have hwritten : writeInteger (-n) = '-' :: Nat.toDigits 10 n := by
    rw [writeInteger, if_pos (by omega), Int.natAbs_neg, Int.natAbs_natCast]
  rw [Value.doc, hwritten, Reading.numeralDoc, List.reverse_reverse, map_encodeChars hascii,
    Numeral.number?_minus hpos h]

end RuntimeFlag.Json
