import RuntimeFlag.Json.Value
import RuntimeFlag.Proofs.Json.Accepted
import RuntimeFlag.Proofs.Json.Whole
import RuntimeFlag.Proofs.Text.Decimal
import RuntimeFlag.Proofs.Text.Utf8
/-!
# Written values spell their documents

A value that is written is a spelling of the document with the same parts, none of them broken and
every list and object closed. In its strings quotes, backslashes and controls are escaped, and every
escape denotes the character that it was written for.
-/
namespace RuntimeFlag.Json

mutual

/-- The document of a value. -/
def Value.doc : Value → Doc
  | .null => .null
  | .flag b => .flag b
  | .integer i => Reading.numeralDoc (Utf8.encodeChars (writeInteger i)).reverse
  | .text s => .text (.ok s)
  | .list items => .list (itemDocs items) .closed
  | .object members => .object (memberDocs members) .closed

def itemDocs : List Value → List Doc
  | [] => []
  | item :: items => item.doc :: itemDocs items

def memberDocs : List (String × Value) → List (Key × Doc)
  | [] => []
  | (key, value) :: members => (.ok key, value.doc) :: memberDocs members

end

/-! ## Strings -/

private theorem Denotes.plains {raw content bs : Bytes} (h : Denotes raw content)
    (hb : ∀ b ∈ bs, IsPlain b) : Denotes (raw ++ bs) (content ++ bs) := by
  induction bs generalizing raw content with
  | nil => simpa using h
  | cons b bs ih =>
    have hrest := ih (h.plain (hb b List.mem_cons_self)) fun d hd => hb d (List.mem_cons_of_mem _ hd)
    simpa using hrest

private theorem hexUnit?_lowerHexDigit : ∀ n < 0x20,
    ∃ high low, Utf8.encodeChars [Text.lowerHexDigit (n / 16), Text.lowerHexDigit (n % 16)] =
      [high, low] ∧ TextScan.hexUnit? [low, high, 0x30, 0x30] = some n := by
  intro n hn
  have hbytes : Utf8.encodeChars [Text.lowerHexDigit (n / 16), Text.lowerHexDigit (n % 16)] =
      [UInt8.ofNat (Text.lowerHexDigit (n / 16)).toNat,
        UInt8.ofNat (Text.lowerHexDigit (n % 16)).toNat] := by
    revert n
    decide
  refine ⟨_, _, hbytes, ?_⟩
  clear hbytes
  revert n
  decide

private theorem exists_isUnit {c : Char} (h : c.toNat < 0x20) :
    ∃ digits, Utf8.encodeChars ['\\', 'u', '0', '0', Text.lowerHexDigit (c.toNat / 16),
      Text.lowerHexDigit (c.toNat % 16)] = 0x5C :: 0x75 :: digits ∧ IsUnit digits c.toNat := by
  obtain ⟨high, low, hbytes, hunit⟩ := hexUnit?_lowerHexDigit c.toNat h
  exact ⟨[0x30, 0x30, high, low], congrArg ([0x5C, 0x75, 0x30, 0x30] ++ ·) hbytes,
    TextScan.isUnit_iff.mpr ⟨rfl, hunit⟩⟩

private theorem isPlain_of_mem_encodeChar {c : Char} (hquote : c ≠ '"') (hbackslash : c ≠ '\\')
    (hcontrol : ¬ c.toNat < 0x20) {b : UInt8} (hb : b ∈ Utf8.encodeChar c) : IsPlain b := by
  have hne (d : Char) (hd : d.toNat < 0x80) (hcd : c ≠ d) : b.toNat ≠ d.toNat := by
    rcases Utf8.toNat_of_mem_encodeChar hb with hb | hb
    · rw [hb]
      exact fun heq => hcd (Char.toNat_inj.mp heq)
    · omega
  have hlow : 0x20 ≤ b.toNat := by
    rcases Utf8.toNat_of_mem_encodeChar hb with hb | hb <;> omega
  refine ⟨hlow, ?_, ?_⟩
  · rintro rfl
    exact hne '"' (by decide) hquote rfl
  · rintro rfl
    exact hne '\\' (by decide) hbackslash rfl

private theorem Denotes.escape {raw content : Bytes} (h : Denotes raw content) (c : Char) :
    Denotes (raw ++ Utf8.encodeChars (escape c)) (content ++ Utf8.encodeChar c) := by
  unfold Json.escape
  split
  iterate 7 exact h.letter (by decide)
  next hquote hbackslash _ _ _ _ _ =>
  split
  · next hc =>
    obtain ⟨digits, hbytes, hunit⟩ := exists_isUnit hc
    have hdenotes := h.unit hunit (.inl (by omega))
    rwa [Char.ofNat_toNat, ← hbytes] at hdenotes
  · next hc =>
    rw [Utf8.encodeChars, List.flatMap_singleton]
    exact h.plains fun b hb => isPlain_of_mem_encodeChar hquote hbackslash hc hb

private theorem denotes_text (cs : List Char) :
    Denotes (Utf8.encodeChars (cs.flatMap escape)) (Utf8.encodeChars cs) := by
  induction cs using List.reverseRecOn with
  | nil => exact .nil
  | append_singleton cs c ih =>
    have hlast := ih.escape c
    rw [List.flatMap_append, List.flatMap_singleton, Utf8.encodeChars_append,
      Utf8.encodeChars_append cs, Utf8.encodeChars_cons, Utf8.encodeChars_nil, List.append_nil]
    exact hlast

theorem spellsText_writeText (s : String) :
    SpellsText (.ok s) (Utf8.encodeChars (writeText s)) := by
  have hbytes : Utf8.encodeChars (writeText s) =
      0x22 :: Utf8.encodeChars (s.toList.flatMap escape) ++ [0x22] := by
    rw [writeText, List.cons_append, Utf8.encodeChars_cons, Utf8.encodeChars_append]
    rfl
  rw [hbytes]
  exact .text (denotes_text s.toList) (Utf8.decode?_encode s)

theorem encodeChar_mark : Utf8.encodeChar '[' = [0x5B] ∧ Utf8.encodeChar ']' = [0x5D] ∧
    Utf8.encodeChar '\x7b' = [0x7B] ∧ Utf8.encodeChar '\x7d' = [0x7D] ∧
    Utf8.encodeChar ',' = [0x2C] ∧ Utf8.encodeChar ':' = [0x3A] := by
  decide

theorem spellsKey_writeText (s : String) {ws : Bytes} (hw : Blank ws) :
    SpellsKey (.ok s) (Utf8.encodeChars (writeText s ++ [':']) ++ ws) := by
  have hkey := SpellsKey.mk (spellsText_writeText s) .nil hw
  simpa [Utf8.encodeChars_cons, Utf8.encodeChars_append, encodeChar_mark] using hkey

/-! ## Numerals -/

private theorem encodeChar_of_isDigit {c : Char} (h : c.isDigit = true) :
    ∃ b, Utf8.encodeChar c = [b] ∧ NumeralPlace.isDigit b = true ∧ (c ≠ '0' → b ≠ 0x30) := by
  have hrange := Text.toNat_of_isDigit h
  have hdigit : ∀ n < 10, NumeralPlace.isDigit (UInt8.ofNat (48 + n)) = true ∧
      (48 + n ≠ 48 → UInt8.ofNat (48 + n) ≠ 0x30) := by
    decide
  obtain ⟨n, hn, hc⟩ : ∃ n < 10, c.toNat = 48 + n := ⟨c.toNat - 48, by omega, by omega⟩
  refine ⟨_, Utf8.encodeChar_of_lt (by omega), hc ▸ (hdigit n hn).1, fun hne => ?_⟩
  rw [hc]
  refine (hdigit n hn).2 fun hzero => hne (Char.toNat_inj.mp ?_)
  rw [hc, hzero]
  rfl

private theorem isDigits_encodeChars {cs : List Char} (h : ∀ c ∈ cs, c.isDigit = true) :
    IsDigits (Utf8.encodeChars cs) := by
  intro b hb
  obtain ⟨c, hc, hb⟩ := List.mem_flatMap.mp hb
  obtain ⟨d, hd, hdigit, -⟩ := encodeChar_of_isDigit (h c hc)
  rw [hd, List.mem_singleton] at hb
  rwa [hb]

private theorem isWhole_toDigits (n : Nat) : IsWhole (Utf8.encodeChars (Nat.toDigits 10 n)) := by
  rcases Nat.eq_zero_or_pos n with rfl | hn
  · exact .zero
  · obtain ⟨c, cs, hcs, hdigit, hc⟩ := Text.toDigits_of_pos hn
    have hall : ∀ d ∈ cs, d.isDigit = true := by
      intro d hd
      have hmem : d ∈ Nat.toDigits 10 n := hcs ▸ List.mem_cons_of_mem c hd
      exact Nat.isDigit_of_mem_toDigits (by decide) (by decide) hmem
    obtain ⟨b, hb, hfirst, hne⟩ := encodeChar_of_isDigit hdigit
    rw [hcs, Utf8.encodeChars_cons, hb]
    exact .digits hfirst (hne hc) (isDigits_encodeChars hall)

theorem isNumeral_writeInteger (i : Int) : IsNumeral (Utf8.encodeChars (writeInteger i)) := by
  unfold writeInteger
  split
  · exact .decimal (.integer (.negative (isWhole_toDigits i.natAbs)))
  · exact .decimal (.integer (.positive (isWhole_toDigits i.natAbs)))

/-! ## Values -/

mutual

/-- A written value spells its document. -/
theorem spells_compact (v : Value) : Spells (.value v.doc) (Utf8.encodeChars v.compactChars) := by
  match v with
  | .null => exact .null
  | .flag b => cases b with
    | false => exact .flag false
    | true => exact .flag true
  | .integer i => exact .number (isNumeral_writeInteger i)
  | .text s => exact .text (spellsText_writeText s)
  | .list [] => exact .emptyList .nil
  | .list (item :: items) =>
    have hitems := spells_compactItems items (.firstItem .nil (spells_compact item))
    rw [Value.doc, itemDocs, Value.compactChars]
    simpa [Utf8.encodeChars_cons, Utf8.encodeChars_append, encodeChar_mark] using hitems
  | .object [] => exact .emptyObject .nil
  | .object ((key, value) :: members) =>
    have hmembers := spells_compactMembers members
      (.firstMember .nil (spellsKey_writeText key .nil) (spells_compact value))
    rw [Value.doc, memberDocs, Value.compactChars]
    simpa [Utf8.encodeChars_cons, Utf8.encodeChars_append, encodeChar_mark] using hmembers

theorem spells_compactItems (items : List Value) {before : List Doc} {last : Doc} {start : Bytes}
    (h : Spells (.items before last) start) :
    Spells (.value (.list (before ++ last :: itemDocs items) .closed))
      (start ++ Utf8.encodeChars (compactItems items)) := by
  match items with
  | [] =>
    have hlist := Spells.list h .nil
    rw [itemDocs, compactItems]
    simpa [Utf8.encodeChars_cons, Utf8.encodeChars_append, encodeChar_mark] using hlist
  | item :: items =>
    have hitems := spells_compactItems items (h.nextItem .nil .nil (spells_compact item))
    rw [itemDocs, compactItems]
    simpa [Utf8.encodeChars_cons, Utf8.encodeChars_append, encodeChar_mark] using hitems

theorem spells_compactMembers (members : List (String × Value)) {before : List (Key × Doc)}
    {key : Key} {last : Doc} {start : Bytes} (h : Spells (.members before key last) start) :
    Spells (.value (.object (before ++ (key, last) :: memberDocs members) .closed))
      (start ++ Utf8.encodeChars (compactMembers members)) := by
  match members with
  | [] =>
    have hobject := Spells.object h .nil
    rw [memberDocs, compactMembers]
    simpa [Utf8.encodeChars_cons, Utf8.encodeChars_append, encodeChar_mark] using hobject
  | (name, value) :: members =>
    have hmembers := spells_compactMembers members
      (h.nextMember .nil .nil (spellsKey_writeText name .nil) (spells_compact value))
    rw [memberDocs, compactMembers]
    simpa [Utf8.encodeChars_cons, Utf8.encodeChars_append, encodeChar_mark] using hmembers

end

theorem spelling_compact (v : Value) : v.doc.Spelling (Utf8.encode v.compact) := by
  rw [Utf8.encode, Value.compact, String.toList_ofList]
  exact ⟨[], _, [], .nil, .nil, spells_compact v, (List.append_nil _).symm⟩

theorem skipFault?_doc (v : Value) : v.doc.skipFault? = none :=
  (Doc.spelling_iff.mp (spelling_compact v)).2

theorem itemDocs_eq_map (items : List Value) : itemDocs items = items.map Value.doc := by
  induction items with
  | nil => rfl
  | cons item items ih => rw [itemDocs, ih, List.map_cons]

theorem memberDocs_eq_map (members : List (String × Value)) :
    memberDocs members = members.map fun member => (.ok member.1, member.2.doc) := by
  induction members with
  | nil => rfl
  | cons member members ih => rw [memberDocs, ih, List.map_cons]

theorem Decoder.list_written {α : Type} {decoder : Decoder α} {write : α → Value} {values : List α}
    (h : ∀ value ∈ values, decoder (write value).doc = .ok value) :
    Decoder.list decoder (Value.list (values.map write)).doc = .ok values := by
  refine Decoder.list_eq_ok.mpr ⟨_, rfl, ?_⟩
  rw [itemDocs_eq_map, List.map_map, List.forall₂_map_left_iff, List.forall₂_same]
  exact h

end RuntimeFlag.Json
