import RuntimeFlag.Json.Reader
/-!
# The grammar of numerals

A numeral is a whole number, which has no leading zeros, with a fraction and an exponent that can
both be left out. The places of a numeral follow this grammar.
-/
namespace RuntimeFlag.Json

def IsDigits (bs : Bytes) : Prop := ∀ b ∈ bs, NumeralPlace.isDigit b = true

private theorem IsDigits.cons {b : UInt8} {bs : Bytes} (hb : NumeralPlace.isDigit b = true)
    (h : IsDigits bs) : IsDigits (b :: bs) :=
  List.forall_mem_cons.mpr ⟨hb, h⟩

/-- A whole number: a zero alone, or digits of which the first one is not zero. -/
inductive IsWhole : Bytes → Prop
  | zero : IsWhole [0x30]
  | digits {b : UInt8} {bs : Bytes} (hb : NumeralPlace.isDigit b = true) (hne : b ≠ 0x30)
    (h : IsDigits bs) : IsWhole (b :: bs)

/-- A whole number with its sign. -/
inductive IsInteger : Bytes → Prop
  | positive {bs : Bytes} (h : IsWhole bs) : IsInteger bs
  | negative {bs : Bytes} (h : IsWhole bs) : IsInteger (0x2D :: bs)

/-- An integer with a fraction or without one. -/
inductive IsDecimal : Bytes → Prop
  | integer {bs : Bytes} (h : IsInteger bs) : IsDecimal bs
  | fraction {bs digits : Bytes} (h : IsInteger bs) (hd : IsDigits digits) (hne : digits ≠ []) :
    IsDecimal (bs ++ 0x2E :: digits)

/-- The letter that starts an exponent, in either case. -/
def IsMark (b : UInt8) : Prop := b = 0x65 ∨ b = 0x45

/-- The sign of an exponent. -/
def IsMarkSign (b : UInt8) : Prop := b = 0x2B ∨ b = 0x2D

/-- A numeral: a decimal with an exponent or without one. -/
inductive IsNumeral : Bytes → Prop
  | decimal {bs : Bytes} (h : IsDecimal bs) : IsNumeral bs
  | exponent {bs digits : Bytes} {mark : UInt8} (h : IsDecimal bs) (hm : IsMark mark)
    (hd : IsDigits digits) (hne : digits ≠ []) : IsNumeral (bs ++ mark :: digits)
  | signed {bs digits : Bytes} {mark sign : UInt8} (h : IsDecimal bs) (hm : IsMark mark)
    (hs : IsMarkSign sign) (hd : IsDigits digits) (hne : digits ≠ []) :
    IsNumeral (bs ++ mark :: sign :: digits)

namespace NumeralPlace

/-- A numeral stands at a place behind its first bytes. -/
inductive Reaches : Bytes → NumeralPlace → Prop
  | sign : Reaches [0x2D] .sign
  | digit {b : UInt8} {place : NumeralPlace} (h : sign.next? b = some place) : Reaches [b] place
  | more {bs : Bytes} {b : UInt8} {mid last : NumeralPlace} (h : Reaches bs mid)
    (hstep : mid.next? b = some last) : Reaches (bs ++ [b]) last

/-! ## Numerals reach their end -/

private theorem next?_of_isDigit {b : UInt8} (h : isDigit b = true) :
    whole.next? b = some .whole ∧ point.next? b = some .fraction ∧
      fraction.next? b = some .fraction ∧ markSign.next? b = some .exponent ∧
      exponent.next? b = some .exponent ∧ mark.next? b = some .exponent := by
  have hsign : (decide (b = 0x2B) || decide (b = 0x2D)) = false := by
    rw [Bool.or_eq_false_iff, decide_eq_false_iff_not, decide_eq_false_iff_not]
    constructor <;> rintro rfl <;> cases h
  simp only [next?, h, hsign, if_true, Bool.false_eq_true, if_false, and_self]

private theorem Reaches.digits {bs digits : Bytes} {place : NumeralPlace} (h : Reaches bs place)
    (hp : ∀ b, isDigit b = true → place.next? b = some place) (hd : IsDigits digits) :
    Reaches (bs ++ digits) place := by
  induction digits generalizing bs with
  | nil => rwa [List.append_nil]
  | cons b digits ih =>
    have hnext := ih (h.more (hp b (hd b List.mem_cons_self))) fun d hm =>
      hd d (List.mem_cons_of_mem _ hm)
    rwa [List.append_assoc] at hnext

private theorem Reaches.run {bs digits : Bytes} {mid last : NumeralPlace} (h : Reaches bs mid)
    (hfirst : ∀ b, isDigit b = true → mid.next? b = some last)
    (hmore : ∀ b, isDigit b = true → last.next? b = some last) (hd : IsDigits digits)
    (hne : digits ≠ []) : Reaches (bs ++ digits) last := by
  cases digits with
  | nil => exact (hne rfl).elim
  | cons b digits =>
    have hnext := (h.more (hfirst b (hd b List.mem_cons_self))).digits hmore fun d hm =>
      hd d (List.mem_cons_of_mem _ hm)
    rwa [List.append_assoc] at hnext

private theorem reaches_of_isInteger {bs : Bytes} (h : IsInteger bs) :
    ∃ place, Reaches bs place ∧ (place = .zero ∨ place = .whole) := by
  have hfirst {b : UInt8} (hb : isDigit b = true) (hne : b ≠ 0x30) :
      sign.next? b = some .whole := by
    rw [next?, if_neg hne, if_pos hb]
  have hmore : ∀ b, isDigit b = true → whole.next? b = some .whole :=
    fun _ hb => (next?_of_isDigit hb).1
  cases h with
  | positive h =>
    cases h with
    | zero => exact ⟨_, .digit rfl, .inl rfl⟩
    | digits hb hne hd => exact ⟨_, (Reaches.digit (hfirst hb hne)).digits hmore hd, .inr rfl⟩
  | negative h =>
    cases h with
    | zero => exact ⟨_, Reaches.sign.more (b := 0x30) rfl, .inl rfl⟩
    | digits hb hne hd =>
      exact ⟨_, (Reaches.sign.more (hfirst hb hne)).digits hmore hd, .inr rfl⟩

private theorem reaches_of_isDecimal {bs : Bytes} (h : IsDecimal bs) :
    ∃ place, Reaches bs place ∧ (place = .zero ∨ place = .whole ∨ place = .fraction) := by
  cases h with
  | integer h =>
    obtain ⟨place, hreaches, hp⟩ := reaches_of_isInteger h
    exact ⟨place, hreaches, hp.imp_right .inl⟩
  | @fraction bs digits h hd hne =>
    obtain ⟨place, hreaches, hp⟩ := reaches_of_isInteger h
    have hpoint : place.next? 0x2E = some .point := by
      rcases hp with rfl | rfl <;> rfl
    have hrun := (hreaches.more hpoint).run (fun _ hb => (next?_of_isDigit hb).2.1)
      (fun _ hb => (next?_of_isDigit hb).2.2.1) hd hne
    rw [List.append_assoc] at hrun
    exact ⟨_, hrun, .inr (.inr rfl)⟩

/-- A numeral is at a place where it can stop. -/
theorem reaches_of_isNumeral {bs : Bytes} (h : IsNumeral bs) :
    ∃ place, Reaches bs place ∧ place.complete = true := by
  have hmark {bs : Bytes} {b : UInt8} (h : IsDecimal bs) (hb : IsMark b) :
      Reaches (bs ++ [b]) .mark := by
    obtain ⟨place, hreaches, hp⟩ := reaches_of_isDecimal h
    refine hreaches.more ?_
    rcases hp with rfl | rfl | rfl <;> rcases hb with rfl | rfl <;> rfl
  have hmore : ∀ b, isDigit b = true → exponent.next? b = some .exponent :=
    fun _ hb => (next?_of_isDigit hb).2.2.2.2.1
  cases h with
  | decimal h =>
    obtain ⟨place, hreaches, hp⟩ := reaches_of_isDecimal h
    refine ⟨place, hreaches, ?_⟩
    rcases hp with rfl | rfl | rfl <;> rfl
  | exponent h hm hd hne =>
    have hrun := (hmark h hm).run (fun _ hb => (next?_of_isDigit hb).2.2.2.2.2) hmore hd hne
    rw [List.append_assoc] at hrun
    exact ⟨_, hrun, rfl⟩
  | @signed _ _ _ sign h hm hs hd hne =>
    have hsign : mark.next? sign = some .markSign := by
      rcases hs with rfl | rfl <;> rfl
    have hrun := ((hmark h hm).more hsign).run (fun _ hb => (next?_of_isDigit hb).2.2.2.1) hmore
      hd hne
    rw [List.append_assoc, List.append_assoc] at hrun
    exact ⟨_, hrun, rfl⟩

/-! ## What reaches its end is a numeral -/

/-- The bytes have a form, and keep it when digits are put behind them. -/
def Grows (form : Bytes → Prop) (bs : Bytes) : Prop :=
  ∀ digits, IsDigits digits → form (bs ++ digits)

private theorem Grows.now {form : Bytes → Prop} {bs : Bytes} (h : Grows form bs) : form bs := by
  have hnow := h [] fun _ hb => nomatch hb
  rwa [List.append_nil] at hnow

private theorem Grows.digit {form : Bytes → Prop} {bs : Bytes} {b : UInt8} (h : Grows form bs)
    (hb : isDigit b = true) : Grows form (bs ++ [b]) := by
  intro digits hd
  rw [List.append_assoc]
  exact h _ (hd.cons hb)

/-- What was read of a numeral at a place. -/
def Has : NumeralPlace → Bytes → Prop
  | .sign, bs => bs = [0x2D]
  | .zero, bs => IsInteger bs
  | .whole, bs => Grows IsInteger bs
  | .point, bs => ∃ front, IsInteger front ∧ bs = front ++ [0x2E]
  | .fraction, bs => Grows IsDecimal bs
  | .mark, bs => ∃ front mark, IsDecimal front ∧ IsMark mark ∧ bs = front ++ [mark]
  | .markSign, bs => ∃ front mark sign, IsDecimal front ∧ IsMark mark ∧ IsMarkSign sign ∧
      bs = front ++ [mark, sign]
  | .exponent, bs => Grows IsNumeral bs

private theorem next?_sign {b : UInt8} {place : NumeralPlace} (h : sign.next? b = some place) :
    (place = .zero ∧ IsWhole [b]) ∨ (place = .whole ∧ Grows IsWhole [b]) := by
  rw [next?] at h
  split at h
  · next hb =>
    cases h
    subst hb
    exact .inl ⟨rfl, .zero⟩
  · next hne =>
    split at h
    · next hb =>
      cases h
      exact .inr ⟨rfl, fun digits hd => .digits hb hne hd⟩
    · cases h

private theorem afterWhole_spec {bs : Bytes} {b : UInt8} {place : NumeralPlace} (hbs : IsInteger bs)
    (h : afterWhole b = some place) : place.Has (bs ++ [b]) := by
  unfold afterWhole at h
  split at h
  · next hb =>
    cases h
    exact ⟨bs, hbs, hb ▸ rfl⟩
  · split at h
    · next hb =>
      cases h
      exact ⟨bs, b, .integer hbs, by simpa [IsMark] using hb, rfl⟩
    · cases h

private theorem Has.next {bs : Bytes} {b : UInt8} {place last : NumeralPlace} (h : place.Has bs)
    (hstep : place.next? b = some last) : last.Has (bs ++ [b]) := by
  cases place with
  | sign =>
    obtain rfl : bs = [0x2D] := h
    rcases next?_sign hstep with ⟨rfl, hb⟩ | ⟨rfl, hb⟩
    · exact .negative hb
    · exact fun digits hd => .negative (hb digits hd)
  | zero => exact afterWhole_spec h hstep
  | whole =>
    rw [next?] at hstep
    split at hstep
    · next hb =>
      cases hstep
      exact h.digit hb
    · exact afterWhole_spec h.now hstep
  | point =>
    obtain ⟨front, hfront, rfl⟩ := h
    rw [next?] at hstep
    split at hstep
    · next hb =>
      cases hstep
      intro digits hd
      have hform := IsDecimal.fraction hfront (hd.cons hb) (List.cons_ne_nil _ _)
      simpa using hform
    · cases hstep
  | fraction =>
    rw [next?] at hstep
    split at hstep
    · next hb =>
      cases hstep
      exact h.digit hb
    · split at hstep
      · next hb =>
        cases hstep
        exact ⟨bs, b, h.now, by simpa [IsMark] using hb, rfl⟩
      · cases hstep
  | mark =>
    obtain ⟨front, mark, hfront, hmark, rfl⟩ := h
    rw [next?] at hstep
    split at hstep
    · next hb =>
      cases hstep
      exact ⟨front, mark, b, hfront, hmark, by simpa [IsMarkSign] using hb, by simp⟩
    · split at hstep
      · next hb =>
        cases hstep
        intro digits hd
        have hform := IsNumeral.exponent hfront hmark (hd.cons hb) (List.cons_ne_nil _ _)
        simpa using hform
      · cases hstep
  | markSign =>
    obtain ⟨front, mark, sign, hfront, hmark, hsign, rfl⟩ := h
    rw [next?] at hstep
    split at hstep
    · next hb =>
      cases hstep
      intro digits hd
      have hform := IsNumeral.signed hfront hmark hsign (hd.cons hb) (List.cons_ne_nil _ _)
      simpa using hform
    · cases hstep
  | exponent =>
    rw [next?] at hstep
    split at hstep
    · next hb =>
      cases hstep
      exact h.digit hb
    · cases hstep

private theorem has_of_reaches {bs : Bytes} {place : NumeralPlace} (h : Reaches bs place) :
    place.Has bs := by
  induction h with
  | sign => rfl
  | digit h =>
    rcases next?_sign h with ⟨rfl, hb⟩ | ⟨rfl, hb⟩
    · exact .positive hb
    · exact fun digits hd => .positive (hb digits hd)
  | more _ hstep ih => exact ih.next hstep

/-- At a place where it can stop, a numeral has been read. -/
theorem isNumeral_of_reaches {bs : Bytes} {place : NumeralPlace} (h : Reaches bs place)
    (hc : place.complete = true) : IsNumeral bs := by
  have hbs := has_of_reaches h
  cases place with
  | zero => exact .decimal (.integer hbs)
  | whole => exact .decimal (.integer hbs.now)
  | fraction => exact .decimal hbs.now
  | exponent => exact hbs.now
  | sign => cases hc
  | point => cases hc
  | mark => cases hc
  | markSign => cases hc

end NumeralPlace

end RuntimeFlag.Json
