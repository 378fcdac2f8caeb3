import Mathlib.Data.List.Induction
import RuntimeFlag.Json.TextScan
/-!
# The grammar of strings

A string stands between quotes. `IsBody` is the form of what stands there; a body denotes bytes
unless it names half of a surrogate pair alone, and it is a text when these bytes are well-formed
UTF-8. The scan of a string follows this grammar: it takes nothing but bodies, and where a body
denotes bytes it takes the body and holds these bytes.
-/
namespace RuntimeFlag.Json

namespace TextScan

/-- The bytes lead from one scan to another inside the string. -/
inductive Takes : TextScan → Bytes → TextScan → Prop
  | nil (scan : TextScan) : Takes scan [] scan
  | cons {scan mid last : TextScan} {b : UInt8} {bs : Bytes} (hstep : scan.step b = .more mid)
      (hrest : Takes mid bs last) : Takes scan (b :: bs) last

private theorem Takes.append {scan mid last : TextScan} {bs cs : Bytes} (h : Takes scan bs mid)
    (hrest : Takes mid cs last) : Takes scan (bs ++ cs) last := by
  induction h with
  | nil => exact hrest
  | cons hstep _ ih => exact .cons hstep (ih hrest)

end TextScan

/-- A byte that stands for itself in a string. -/
def IsPlain (b : UInt8) : Prop := 0x20 ≤ b ∧ b ≠ 0x22 ∧ b ≠ 0x5C

/-- The letters that follow a backslash, with the bytes that they stand for. -/
def letters : List (UInt8 × UInt8) :=
  [(0x22, 0x22), (0x5C, 0x5C), (0x2F, 0x2F), (0x62, 0x08), (0x66, 0x0C), (0x6E, 0x0A),
    (0x72, 0x0D), (0x74, 0x09)]

/-- Four hexadecimal digits write a 16-bit unit. -/
structure IsUnit (digits : Bytes) (unit : Nat) : Prop where
  four : digits.length = 4
  value : Text.hexNumber? (digits.map fun b => Char.ofNat b.toNat) = some unit

/-- What stands between the quotes of a string. -/
inductive IsBody : Bytes → Prop
  | nil : IsBody []
  | plain {raw : Bytes} {b : UInt8} (h : IsBody raw) (hb : IsPlain b) : IsBody (raw ++ [b])
  | letter {raw : Bytes} {b byte : UInt8} (h : IsBody raw) (hb : (b, byte) ∈ letters) :
    IsBody (raw ++ [0x5C, b])
  | unit {raw digits : Bytes} {unit : Nat} (h : IsBody raw) (hd : IsUnit digits unit) :
    IsBody (raw ++ 0x5C :: 0x75 :: digits)

/-- The bytes that a body denotes; units above `0xFFFF` come as pairs. -/
inductive Denotes : Bytes → Bytes → Prop
  | nil : Denotes [] []
  | plain {raw content : Bytes} {b : UInt8} (h : Denotes raw content) (hb : IsPlain b) :
    Denotes (raw ++ [b]) (content ++ [b])
  | letter {raw content : Bytes} {b byte : UInt8} (h : Denotes raw content)
    (hb : (b, byte) ∈ letters) : Denotes (raw ++ [0x5C, b]) (content ++ [byte])
  | unit {raw content digits : Bytes} {unit : Nat} (h : Denotes raw content)
    (hd : IsUnit digits unit) (hu : unit < 0xD800 ∨ 0xDFFF < unit) :
    Denotes (raw ++ 0x5C :: 0x75 :: digits) (content ++ Utf8.encodeChar (Char.ofNat unit))
  | pair {raw content first second : Bytes} {lead trail : Nat} (h : Denotes raw content)
    (hf : IsUnit first lead) (hl : 0xD800 ≤ lead ∧ lead ≤ 0xDBFF) (hs : IsUnit second trail)
    (ht : 0xDC00 ≤ trail ∧ trail ≤ 0xDFFF) :
    Denotes (raw ++ 0x5C :: 0x75 :: first ++ 0x5C :: 0x75 :: second)
      (content ++
        Utf8.encodeChar (Char.ofNat (0x10000 + (lead - 0xD800) * 0x400 + (trail - 0xDC00))))

/-- A string with its quotes, and its text or the fault of a body that denotes no text. -/
inductive SpellsText : Except Fault String → Bytes → Prop
  | text {raw content : Bytes} {s : String} (h : Denotes raw content)
    (hs : Utf8.decode? content = some s) : SpellsText (.ok s) (0x22 :: raw ++ [0x22])
  | fault {raw : Bytes} {last : TextScan} {fault : Fault} (h : IsBody raw)
    (ht : TextScan.start.Takes raw last) (hc : last.step 0x22 = .closed (.error fault)) :
    SpellsText (.error fault) (0x22 :: raw ++ [0x22])

namespace TextScan

/-! ## Escapes -/

theorem eq_of_char {b d : UInt8} (h : Char.ofNat b.toNat = Char.ofNat d.toNat) : b = d := by
  have hchar (e : UInt8) : (Char.ofNat e.toNat).toNat = e.toNat := by
    have he : e.toNat < 0xD800 := Nat.lt_trans e.toNat_lt (by decide)
    rw [Char.ofNat, dif_pos (.inl he)]
    rfl
  have htoNat := congrArg Char.toNat h
  rw [hchar, hchar] at htoNat
  exact UInt8.toNat_inj.mp htoNat

private theorem mem_letters_iff (b byte : UInt8) :
    (b, byte) ∈ letters ↔ escaped? b = some byte := by
  constructor
  · intro h
    have hall : letters.all (fun pair => escaped? pair.1 = some pair.2) = true := by decide
    exact of_decide_eq_true (List.all_eq_true.mp hall _ h)
  · intro h
    have hmem {c d : UInt8} (hletter : (c, d) ∈ letters)
        (hb : Char.ofNat b.toNat = Char.ofNat c.toNat) (hd : some d = some byte) :
        (b, byte) ∈ letters := by
      rwa [eq_of_char hb, ← Option.some.inj hd]
    unfold escaped? at h
    split at h
    · next hb => exact hmem (c := 0x22) (by decide) hb h
    · next hb => exact hmem (c := 0x5C) (by decide) hb h
    · next hb => exact hmem (c := 0x2F) (by decide) hb h
    · next hb => exact hmem (c := 0x62) (by decide) hb h
    · next hb => exact hmem (c := 0x66) (by decide) hb h
    · next hb => exact hmem (c := 0x6E) (by decide) hb h
    · next hb => exact hmem (c := 0x72) (by decide) hb h
    · next hb => exact hmem (c := 0x74) (by decide) hb h
    · cases h

private theorem hexUnit?_reverse (digits : Bytes) :
    hexUnit? digits.reverse = Text.hexNumber? (digits.map fun b => Char.ofNat b.toNat) := by
  induction digits using List.reverseRecOn with
  | nil => rfl
  | append_singleton digits b ih =>
    rw [List.reverse_append, List.reverse_singleton, List.singleton_append, hexUnit?, ih,
      Text.hexNumber?, Text.hexNumber?, List.map_append, List.foldlM_append]
    cases (digits.map fun b => Char.ofNat b.toNat).foldlM
      (fun n c => (Text.hexValue? c).map (16 * n + ·)) 0 with
    | none => rfl
    | some high =>
      cases hlow : Text.hexValue? (Char.ofNat b.toNat) with
      | none => simp [hlow]
      | some low => simp [hlow, Nat.mul_comm]

theorem isUnit_iff {digits : Bytes} {unit : Nat} :
    IsUnit digits unit ↔ digits.length = 4 ∧ hexUnit? digits.reverse = some unit := by
  rw [hexUnit?_reverse]
  exact ⟨fun h => ⟨h.four, h.value⟩, fun h => ⟨h.1, h.2⟩⟩

private theorem stepHex_of_unit (scan : TextScan) {digits : Bytes} {b : UInt8} {unit : Nat}
    (hlength : digits.length = 3) (hunit : hexUnit? (b :: digits) = some unit) :
    scan.stepHex digits b = .more (scan.takeUnit unit) := by
  rw [stepHex, if_neg (by omega), hunit]

theorem takes_isUnit {scan : TextScan} (hp : scan.place = .plain) {digits : Bytes} {unit : Nat}
    (h : IsUnit digits unit) : scan.Takes (0x5C :: 0x75 :: digits) (scan.takeUnit unit) := by
  obtain ⟨hfour, hvalue⟩ := isUnit_iff.mp h
  obtain ⟨place, content, lead, fault⟩ := scan
  cases hp
  match digits, hfour with
  | [a, b, c, d], _ =>
    have hlast : (⟨.hex [c, b, a], content, lead, fault⟩ : TextScan).step d =
        .more (takeUnit ⟨.plain, content, lead, fault⟩ unit) :=
      stepHex_of_unit _ rfl hvalue
    exact .cons rfl (.cons rfl (.cons rfl (.cons rfl (.cons rfl (.cons hlast (.nil _))))))

private theorem takes_letter {scan : TextScan} (hp : scan.place = .plain) {b byte : UInt8}
    (h : (b, byte) ∈ letters) : scan.Takes [0x5C, b] (scan.dropLead.push [byte]) := by
  have hu : b ≠ 0x75 := by
    have hall : letters.all (fun pair => pair.1 ≠ 0x75) = true := by decide
    exact of_decide_eq_true (List.all_eq_true.mp hall _ h)
  obtain ⟨place, content, lead, fault⟩ := scan
  cases hp
  have hlast : (⟨.escape, content, lead, fault⟩ : TextScan).step b =
      .more ((⟨.plain, content, lead, fault⟩ : TextScan).dropLead.push [byte]) := by
    rw [step, stepEscape, if_neg hu, (mem_letters_iff b byte).mp h]
    cases lead <;> rfl
  exact .cons rfl (.cons hlast (.nil _))

private theorem takes_isPlain {scan : TextScan} (hp : scan.place = .plain) {b : UInt8}
    (h : IsPlain b) :
    scan.Takes [b] (scan.dropLead.push [b]) := by
  obtain ⟨hcontrol, hquote, hbackslash⟩ := h
  have hstep : scan.step b = .more (scan.dropLead.push [b]) := by
    simp only [step, hp, stepPlain, if_neg hbackslash, if_neg hquote,
      if_neg (UInt8.not_lt.mpr hcontrol)]
  exact .cons hstep (.nil _)

private theorem place_takeUnit (scan : TextScan) (unit : Nat) :
    (scan.takeUnit unit).place = .plain := by
  unfold takeUnit
  dsimp only
  split
  · split <;> rfl
  · split
    · rfl
    · split <;> rfl

/-! ## What is denoted is taken -/

/-- A scan between the characters of a string without fault. -/
def between (content : Bytes) : TextScan := ⟨.plain, content, none, none⟩

private theorem takeUnit_between {unit : Nat} (h : unit < 0xD800 ∨ 0xDFFF < unit)
    (content : Bytes) :
    (between content).takeUnit unit =
      between ((Utf8.encodeChar (Char.ofNat unit)).reverse ++ content) := by
  have htrail : isTrail unit = false := by simp [isTrail]; omega
  have hlead : isLead unit = false := by simp [isLead]; omega
  simp only [takeUnit, between, htrail, hlead, Bool.false_eq_true, if_false, push]

private theorem takeUnit_pair {lead trail : Nat} (hl : 0xD800 ≤ lead ∧ lead ≤ 0xDBFF)
    (ht : 0xDC00 ≤ trail ∧ trail ≤ 0xDFFF) (content : Bytes) :
    ((between content).takeUnit lead).takeUnit trail =
      between ((Utf8.encodeChar
        (Char.ofNat (0x10000 + (lead - 0xD800) * 0x400 + (trail - 0xDC00)))).reverse ++
          content) := by
  have hnot : isTrail lead = false := by simp [isTrail]; omega
  have hlead : isLead lead = true := by simp [isLead, hl]
  have htrail : isTrail trail = true := by simp [isTrail, ht]
  simp only [takeUnit, between, hnot, hlead, htrail, Bool.false_eq_true, if_false, if_true, push]

/-- A scan holds the bytes that a body denotes. -/
theorem takes_of_denotes {raw content : Bytes} (h : Denotes raw content) :
    start.Takes raw (between content.reverse) := by
  induction h with
  | nil => exact .nil _
  | plain _ hb ih =>
    rw [List.reverse_append]
    exact ih.append (takes_isPlain rfl hb)
  | letter _ hb ih =>
    rw [List.reverse_append]
    exact ih.append (takes_letter rfl hb)
  | unit _ hd hu ih =>
    rw [List.reverse_append, ← takeUnit_between hu]
    exact ih.append (takes_isUnit rfl hd)
  | pair _ hf hl hs ht ih =>
    rw [List.reverse_append, ← takeUnit_pair hl ht]
    exact (ih.append (takes_isUnit rfl hf)).append (takes_isUnit (place_takeUnit _ _) hs)

private theorem step_quote_of_decode? {content : Bytes} {s : String}
    (h : Utf8.decode? content = some s) :
    (between content.reverse).step 0x22 = .closed (.ok s) := by
  have hclose : close (between content.reverse) = .ok s := by
    simp only [close, between, List.reverse_reverse, h]
  exact congrArg TextStep.closed hclose

/-! ## What is taken is a body -/

/-- The bytes of the escape that a scan is reading. -/
def pending (scan : TextScan) : Bytes :=
  match scan.place with
  | .plain => []
  | .escape => [0x5C]
  | .hex digits => 0x5C :: 0x75 :: digits.reverse

/-- What a scan without fault holds of a body: its bytes, but for the first half of a pair. -/
def HoldsBody (scan : TextScan) (raw : Bytes) : Prop :=
  scan.fault = none →
    match scan.lead with
    | none => Denotes raw scan.content.reverse
    | some lead => ∃ front digits, raw = front ++ 0x5C :: 0x75 :: digits ∧
        Denotes front scan.content.reverse ∧ IsUnit digits lead ∧ isLead lead = true

/-- A scan stands behind these bytes of a string. -/
structure Scanned (scan : TextScan) (raw : Bytes) : Prop where
  takes : start.Takes raw scan
  body : ∃ front, raw = front ++ scan.pending ∧ IsBody front ∧ scan.HoldsBody front
  short : ∀ digits, scan.place = .hex digits → digits.length ≤ 3

theorem scanned_start : start.Scanned [] :=
  ⟨.nil _, ⟨[], rfl, .nil, fun _ => .nil⟩, fun _ h => by cases h⟩

private theorem record_fault_ne (scan : TextScan) (fault : Fault) :
    (scan.record fault).fault ≠ none := by
  cases h : scan.fault <;> simp [record, h]

/-- Only a scan that awaits no second half goes on without fault. -/
theorem dropLead_spec {scan : TextScan} (h : scan.dropLead.fault = none) :
    scan.lead = none ∧ scan.dropLead = scan := by
  unfold dropLead at h ⊢
  split at h
  · exact (record_fault_ne _ _ h).elim
  · next hlead =>
    rw [if_neg hlead]
    exact ⟨by simpa using hlead, rfl⟩

private theorem HoldsBody.denotes {scan : TextScan} {raw : Bytes} (h : scan.HoldsBody raw)
    (hf : scan.dropLead.fault = none) : Denotes raw scan.dropLead.content.reverse := by
  obtain ⟨hlead, hsame⟩ := dropLead_spec hf
  have hholds := h (hsame ▸ hf)
  rw [hsame]
  rwa [hlead] at hholds

private theorem HoldsBody.push {scan : TextScan} {raw more bytes : Bytes} (h : scan.HoldsBody raw)
    (hd : ∀ content, Denotes raw content → Denotes (raw ++ more) (content ++ bytes)) :
    (scan.dropLead.push bytes).HoldsBody (raw ++ more) := by
  intro hf
  have hfault : scan.dropLead.fault = none := hf
  have hlead : scan.dropLead.lead = none := by
    obtain ⟨hlead, hsame⟩ := dropLead_spec hfault
    rwa [hsame]
  have hgrown := hd _ (h.denotes hfault)
  simpa [TextScan.push, hlead] using hgrown

private theorem HoldsBody.takeUnit {scan : TextScan} {raw digits : Bytes} {unit : Nat}
    (h : scan.HoldsBody raw) (hd : IsUnit digits unit) :
    (scan.takeUnit unit).HoldsBody (raw ++ 0x5C :: 0x75 :: digits) := by
  obtain ⟨place, content, lead, fault⟩ := scan
  unfold TextScan.takeUnit
  dsimp only
  cases lead with
  | some lead =>
    dsimp only
    split
    · next htrail =>
      intro hf
      obtain ⟨front, first, rfl, hfront, hfirst, hlead⟩ := h hf
      have hpair := hfront.pair hfirst (by simpa [isLead] using hlead) hd
        (by simpa [isTrail] using htrail)
      simpa [TextScan.push] using hpair
    · exact fun hf => (record_fault_ne _ _ hf).elim
  | none =>
    dsimp only
    split
    · exact fun hf => (record_fault_ne _ _ hf).elim
    · next htrail =>
      split
      · next hlead => exact fun hf => ⟨raw, digits, rfl, h hf, hd, hlead⟩
      · next hlead =>
        intro hf
        have hunit := (h hf).unit hd (by simp [isLead, isTrail] at htrail hlead; omega)
        simpa [TextScan.push] using hunit

section

variable {scan next : TextScan} {raw : Bytes} {b : UInt8}

private theorem Scanned.plain (h : scan.Scanned raw) (hp : scan.place = .plain)
    (hs : scan.step b = .more next) : next.Scanned (raw ++ [b]) := by
  have htakes : start.Takes (raw ++ [b]) next := h.takes.append (.cons hs (.nil _))
  obtain ⟨front, rfl, hfront, hholds⟩ := h.body
  obtain ⟨place, content, lead, fault⟩ := scan
  cases hp
  simp only [TextScan.step, stepPlain] at hs
  split at hs
  · next hb =>
    subst hb
    cases hs
    exact ⟨htakes, ⟨front, by simp [pending], hfront, hholds⟩, fun _ hp => by cases hp⟩
  · next hbackslash =>
    split at hs
    · cases hs
    · next hquote =>
      split at hs
      · cases hs
      · next hcontrol =>
        cases hs
        have hb : IsPlain b := ⟨UInt8.not_lt.mp hcontrol, hquote, hbackslash⟩
        exact ⟨htakes, ⟨front ++ [b], by simp [pending, TextScan.push], hfront.plain hb,
          hholds.push fun _ hd => hd.plain hb⟩, fun _ hp => by cases hp⟩

private theorem Scanned.escape (h : scan.Scanned raw) (hp : scan.place = .escape)
    (hs : scan.step b = .more next) : next.Scanned (raw ++ [b]) := by
  have htakes : start.Takes (raw ++ [b]) next := h.takes.append (.cons hs (.nil _))
  obtain ⟨front, rfl, hfront, hholds⟩ := h.body
  obtain ⟨place, content, lead, fault⟩ := scan
  cases hp
  simp only [TextScan.step, stepEscape] at hs
  split at hs
  · next hb =>
    subst hb
    cases hs
    refine ⟨htakes, ⟨front, by simp [pending], hfront, hholds⟩, fun digits hp => ?_⟩
    cases hp
    exact Nat.zero_le _
  · split at hs
    · next byte hbyte =>
      cases hs
      have hb := (mem_letters_iff b byte).mpr hbyte
      exact ⟨htakes, ⟨front ++ [0x5C, b], by simp [pending, TextScan.push], hfront.letter hb,
        hholds.push fun _ hd => hd.letter hb⟩, fun _ hp => by cases hp⟩
    · cases hs

private theorem Scanned.hex {digits : Bytes} (h : scan.Scanned raw) (hp : scan.place = .hex digits)
    (hs : scan.step b = .more next) : next.Scanned (raw ++ [b]) := by
  have htakes : start.Takes (raw ++ [b]) next := h.takes.append (.cons hs (.nil _))
  have hlength := h.short digits hp
  obtain ⟨front, rfl, hfront, hholds⟩ := h.body
  obtain ⟨place, content, lead, fault⟩ := scan
  cases hp
  simp only [TextScan.step, stepHex] at hs
  split at hs
  · next hmore =>
    cases hs
    refine ⟨htakes, ⟨front, by simp [pending], hfront, hholds⟩, fun _ hp => ?_⟩
    cases hp
    exact hmore
  · next hlast =>
    split at hs
    · next unit hunit =>
      cases hs
      have hplace := place_takeUnit ⟨.hex digits, content, lead, fault⟩ unit
      have hd : IsUnit (b :: digits).reverse unit := by
        refine isUnit_iff.mpr ⟨?_, by rwa [List.reverse_reverse]⟩
        rw [List.length_reverse, List.length_cons]
        omega
      refine ⟨htakes, ⟨_, ?_, hfront.unit hd, hholds.takeUnit hd⟩, fun _ hp => ?_⟩
      · simp [pending, hplace]
      · rw [hplace] at hp
        cases hp
    · cases hs

theorem Scanned.step (h : scan.Scanned raw) (hs : scan.step b = .more next) :
    next.Scanned (raw ++ [b]) := by
  cases hp : scan.place with
  | plain => exact h.plain hp hs
  | escape => exact h.escape hp hs
  | hex digits => exact h.hex hp hs

end

/-- At its end, a string is spelled by what was scanned. -/
theorem Scanned.closed {scan : TextScan} {raw : Bytes} {b : UInt8}
    {content : Except Fault String} (h : scan.Scanned raw) (hs : scan.step b = .closed content) :
    b = 0x22 ∧ SpellsText content (0x22 :: raw ++ [0x22]) := by
  have hclosed := hs
  have htakes := h.takes
  obtain ⟨front, rfl, hfront, hholds⟩ := h.body
  obtain ⟨place, bytes, lead, fault⟩ := scan
  cases place with
  | plain =>
    simp only [TextScan.step, stepPlain] at hs
    split at hs
    · cases hs
    · split at hs
      · next hb =>
        subst hb
        have hclose := TextStep.closed.inj hs
        refine ⟨rfl, ?_⟩
        rw [show pending ⟨.plain, bytes, lead, fault⟩ = [] from rfl, List.append_nil] at htakes ⊢
        cases content with
        | error fault => exact .fault hfront htakes hclosed
        | ok s =>
          unfold close at hclose
          split at hclose
          · cases hclose
          · next hf =>
            split at hclose
            · next s hdecode =>
              cases hclose
              exact .text (hholds.denotes hf) hdecode
            · cases hclose
      · split at hs <;> cases hs
  | escape =>
    simp only [TextScan.step, stepEscape] at hs
    split at hs
    · cases hs
    · split at hs <;> cases hs
  | hex digits =>
    simp only [TextScan.step, stepHex] at hs
    split at hs
    · cases hs
    · split at hs <;> cases hs

theorem takes_of_spellsText {content : Except Fault String} {bs : Bytes}
    (h : SpellsText content bs) : ∃ raw last, bs = 0x22 :: raw ++ [0x22] ∧
      start.Takes raw last ∧ last.step 0x22 = .closed content := by
  cases h with
  | text h hs => exact ⟨_, _, rfl, takes_of_denotes h, step_quote_of_decode? hs⟩
  | fault _ ht hc => exact ⟨_, _, rfl, ht, hc⟩

end TextScan

end RuntimeFlag.Json
