import RuntimeFlag.Proofs.Text.Ranges
import RuntimeFlag.Text.Width
/-!
# Widths of the parts of a line

What stands after a character bears on its columns, so the width of a line is no sum over its
characters. It is a sum over parts of the line where every part but the first is apart, that is,
where it begins with a character, such as a space, that hides from the text before it what comes
then: main statement `lineWidth_append`. No text takes less than no column (`measure_nonneg`), since
columns are given back only where as many were taken before.
-/
namespace RuntimeFlag.Text

/-! ## A space hides what comes then -/

private theorem Ligature.past?_space (sign : Ligature) : sign.past? ' ' = none := by
  simp [past?, isZeroWidthJoiner, clearTables.zeroWidth.space, ignoredMarks_isClear.space]

private theorem Ligature.close?_space (sign : Ligature) : sign.close? ' ' = none := by
  cases sign with
  | arabicAlef => simp [close?, lams_isClear.space]
  | hebrewLamed joined | bugineseYa joined | tifinagh joined | turkicI joined =>
    cases joined <;> rfl
  | _ => rfl

private theorem Ligature.ofEnd?_space : ofEnd? ' ' = none := by
  simp [ofEnd?, alefs_isClear.space, khmerLetters_isClear.space, isTifinagh, isWithin]

private theorem Joined.extend?_space (between : Joined) : between.extend? ' ' = none := by
  cases between with
  | nothing => simp only [extend?, Char.reduceToNat, clearTables.pictures.space]; rfl
  | _ => rfl

private theorem Picture.extend?_space (part : Picture) : part.extend? ' ' = none := by
  cases part with
  | tone => simp [extend?, isZeroWidthJoiner, clearTables.people.space]
  | joined between => exact between.extend?_space
  | _ => rfl

private theorem Picture.ofStart?_space : ofStart? ' ' = none := by
  simp [ofStart?, isTone, isIndicator, clearTables.pictures.space]

private theorem Start.extend?_space (start : Start) : start.extend? ' ' = none := by
  cases start with
  | ligature sign => simp [extend?, sign.past?_space, sign.close?_space]
  | picture part => simp [extend?, part.extend?_space]
  | _ => rfl

private theorem Start.step_space (start : Start) : start.step ' ' = (1, .nothing) := by
  have hselector : Selector.of? ' ' = none := rfl
  have hof : of ' ' = .other := by simp [of, Ligature.ofEnd?_space, Picture.ofStart?_space]
  simp [step, hselector, start.extend?_space, hof, charWidth, After.nothing]

private theorem Selector.select?_space (selector : Selector) (start : Start) :
    selector.select? start ' ' = none := by
  unfold select?
  split
  · simp [clearTables.picturesOnDemand.space]
  · simp [clearTables.textsOnDemand.space]
  · rfl

private theorem After.step_space (after : After) : after.step ' ' = (1, .nothing) := by
  unfold step
  split
  · exact after.start.step_space
  · rw [Selector.select?_space]
    exact Start.step_space _

/-! ## Columns that are given back -/

/-- The columns that the letters before the end of a sign may give back. -/
def Ligature.owed : Ligature → Int
  | .khmerLetter | .tifinaghPair => 1
  | _ => 0

/-- The columns that the characters before a joiner may give back. -/
def Joined.owed : Joined → Int
  | .indicator | .indicators false => 1
  | _ => 0

/-- The columns that the characters before a part of a picture may give back. -/
def Picture.owed : Picture → Int
  | .joined between => between.owed
  | _ => 0

/-- The columns that the characters before a text may give back. -/
def Start.owed : Start → Int
  | .ligature sign => sign.owed
  | .picture part => part.owed
  | _ => 0

private theorem Ligature.owed_nonneg (sign : Ligature) : 0 ≤ sign.owed := by
  unfold owed
  split <;> decide

private theorem Joined.owed_nonneg (between : Joined) : 0 ≤ between.owed := by
  unfold owed
  split <;> decide

private theorem Start.owed_nonneg (start : Start) : 0 ≤ start.owed := by
  cases start with
  | ligature sign => exact sign.owed_nonneg
  | picture part =>
    cases part with
    | joined between => exact between.owed_nonneg
    | _ => exact Int.le_refl 0
  | _ => exact Int.le_refl 0

private theorem one_le_charWidth_of_khmer {c : Char} (h : khmerLetters.has c.toNat = true) :
    1 ≤ charWidth c := by
  obtain ⟨range, hrange, hn⟩ := Array.any_eq_true'.mp h
  simp only [Bool.and_eq_true, decide_eq_true_eq] at hn
  obtain ⟨hfirst, hlast⟩ := khmerLetters_ranges range hrange
  have hzero : ¬ zeroWidth.has c.toNat = true := by
    rw [Ranges.has_eq_false fun range hrange => by have := zeroWidth_ranges range hrange; omega]
    exact Bool.false_ne_true
  unfold charWidth
  rw [if_neg hzero]
  split
  · exact Nat.le_refl 1
  · split
    · exact Nat.le_add_left 1 2
    · split
      · exact Nat.le_add_left 1 1
      · exact Nat.le_refl 1

private theorem Start.owed_past (start : Start) (selector : Selector) :
    (start.past selector).owed ≤ start.owed := by
  unfold past
  split
  case h_4 => exact start.owed_nonneg
  all_goals exact Int.le_refl _

private theorem Selector.owed_ignored (selector : Selector) (start : Start) :
    (selector.ignored start).owed ≤ start.owed := by
  unfold ignored
  split
  · exact Start.owed_nonneg _
  · exact Int.le_refl _

private theorem Ligature.owed_ofEnd? {sign : Ligature} {c : Char} :
    ofEnd? c = some sign → sign.owed ≤ charWidth c := by
  fun_cases ofEnd? c <;> rintro ⟨⟩
  case case3 hkhmer => exact Int.ofNat_le.mpr (one_le_charWidth_of_khmer hkhmer)
  all_goals exact Int.natCast_nonneg _

private theorem Ligature.owed_past? {sign next : Ligature} {c : Char} :
    sign.past? c = some next → next.owed = sign.owed := by
  have hjoin : sign.join.owed = sign.owed := by cases sign <;> rfl
  fun_cases sign.past? c <;> rintro ⟨⟩
  case case3 => exact hjoin
  all_goals rfl

private theorem Joined.owed_extend? {between : Joined} {part : Picture} {c : Char} {n : Int} :
    between.extend? c = some (n, part) → part.owed ≤ n + between.owed := by
  fun_cases between.extend? c <;> rintro ⟨⟩
  case case10 isEven _ => cases isEven <;> decide
  case case11 isEven _ _ => simpa [Picture.owed, owed] using (indicators isEven).owed_nonneg
  all_goals exact Int.le_refl _

private theorem Picture.owed_extend? {part next : Picture} {c : Char} {n : Int} :
    part.extend? c = some (n, next) → next.owed ≤ n + part.owed := by
  fun_cases part.extend? c
  case case11 between => exact between.owed_extend?
  all_goals rintro ⟨⟩
  all_goals simp [owed, Joined.owed]

private theorem Picture.owed_ofStart? {part : Picture} {c : Char} :
    ofStart? c = some part → part.owed = 0 := by
  fun_cases ofStart? c <;> rintro ⟨⟩ <;> rfl

private theorem Ligature.owed_close? {sign : Ligature} {rest : Option Ligature} {c : Char}
    {n : Int} :
    sign.close? c = some (n, rest) →
    ((rest.map Start.ligature).getD .other).owed ≤ n + sign.owed := by
  fun_cases sign.close? c <;> rintro ⟨⟩ <;> exact Int.le_refl _

private theorem Start.owed_of (c : Char) : (of c).owed ≤ charWidth c := by
  have hzero : (0 : Int) ≤ charWidth c := Int.natCast_nonneg _
  unfold of
  split
  · exact hzero
  · split
    · exact hzero
    · split
      · exact hzero
      · split
        · next sign _ hsign => exact Ligature.owed_ofEnd? hsign
        · next hpart => exact Int.le_trans (Int.le_of_eq (Picture.owed_ofStart? hpart)) hzero
        · exact hzero

private theorem Start.owed_extend? {start next : Start} {c : Char} {n : Int} :
    start.extend? c = some (n, next) → next.owed ≤ n + start.owed := by
  fun_cases start.extend? c
  case case4 sign next hpast =>
    rintro ⟨⟩
    have := Ligature.owed_past? hpast
    simp only [owed]
    omega
  case case5 sign _ =>
    intro h
    obtain ⟨⟨m, rest⟩, hclose, hnext⟩ := Option.map_eq_some_iff.mp h
    obtain ⟨rfl, rfl⟩ := Prod.mk.inj hnext
    exact Ligature.owed_close? hclose
  case case6 part =>
    intro h
    obtain ⟨⟨m, rest⟩, hextend, hnext⟩ := Option.map_eq_some_iff.mp h
    obtain ⟨rfl, rfl⟩ := Prod.mk.inj hnext
    exact Picture.owed_extend? hextend
  case case9 => rintro ⟨⟩; decide
  all_goals rintro ⟨⟩
  all_goals exact Int.le_refl _

private theorem Start.owed_step (start : Start) (c : Char) :
    (start.step c).2.start.owed ≤ (start.step c).1 + start.owed := by
  have := start.owed_nonneg
  unfold step
  split
  · next selector _ =>
    have := start.owed_past selector
    simp only
    omega
  · split
    · next hextend => exact owed_extend? hextend
    · have := owed_of c
      simp only
      omega

private theorem Selector.owed_select? {selector : Selector} {start next : Start} {c : Char}
    {n : Int} :
    selector.select? start c = some (n, next) → next.owed ≤ n := by
  unfold select?
  split
  · split
    · rintro ⟨⟩
      split <;> simp [Start.owed, Picture.owed]
    · rintro ⟨⟩
  · split <;> rintro ⟨⟩
    decide
  · split <;> rintro ⟨⟩
    decide

private theorem After.owed_step (after : After) (c : Char) :
    (after.step c).2.start.owed ≤ (after.step c).1 + after.start.owed := by
  unfold step
  split
  · exact after.start.owed_step c
  · next selector _ =>
    split
    · next hselect =>
      have := Selector.owed_select? hselect
      have := after.start.owed_nonneg
      simp only
      omega
    · have := (selector.ignored after.start).owed_step c
      have := selector.owed_ignored after.start
      omega

private theorem measure_cons (c : Char) (cs : List Char) :
    measure (c :: cs) =
      (((measure cs).2.step c).1 + (measure cs).1, ((measure cs).2.step c).2) := rfl

/-- What a text begins with owes no more columns than the text takes. -/
theorem owed_measure (cs : List Char) : (measure cs).2.start.owed ≤ (measure cs).1 := by
  induction cs with
  | nil => decide
  | cons c cs ih =>
    rw [measure_cons]
    have := (measure cs).2.owed_step c
    simp only
    omega

private theorem measure_nonneg (cs : List Char) : 0 ≤ (measure cs).1 :=
  Int.le_trans (Start.owed_nonneg _) (owed_measure cs)

/-! ## Parts of a line -/

/-- A text apart begins with nothing that the text before it sees. -/
def IsApart (text : String) : Prop := (measure text.toList).2 = .nothing

variable {cs rest : List Char} {text part : String} {c : Char}

private theorem measure_append (h : (measure rest).2 = .nothing) :
    measure (cs ++ rest) = ((measure cs).1 + (measure rest).1, (measure cs).2) := by
  induction cs with
  | nil => exact Prod.ext (Int.zero_add _).symm h
  | cons c cs ih => rw [List.cons_append, measure_cons, ih, measure_cons, Int.add_assoc]

/-- The width of a text with a part behind it that is apart. -/
theorem lineWidth_append (h : IsApart part) :
    lineWidth (text ++ part) = lineWidth text + lineWidth part := by
  rw [lineWidth, String.toList_append, measure_append h]
  exact Int.toNat_add (measure_nonneg _) (measure_nonneg _)

private theorem measure_space (cs : List Char) :
    measure (' ' :: cs) = (1 + (measure cs).1, .nothing) := by
  rw [measure_cons, After.step_space]

theorem isApart_space (text : String) : IsApart (" " ++ text) := by
  rw [IsApart, String.toList_append]
  exact congrArg Prod.snd (measure_space _)

theorem lineWidth_space (text : String) : lineWidth (" " ++ text) = 1 + lineWidth text := by
  rw [lineWidth, String.toList_append, show " ".toList ++ text.toList = ' ' :: text.toList from rfl,
    measure_space]
  exact Int.toNat_add (by decide) (measure_nonneg _)

/-- A character that takes one column at the end of a line and is apart there. -/
def StandsAlone (c : Char) : Prop := After.nothing.step c = (1, .nothing)

private theorem measure_of_standsAlone (h : ∀ c ∈ cs, StandsAlone c) :
    measure cs = ((cs.length : Int), .nothing) := by
  induction cs with
  | nil => rfl
  | cons c cs ih =>
    obtain ⟨hc, hcs⟩ := List.forall_mem_cons.mp h
    rw [measure_cons, ih hcs, hc, List.length_cons]
    simp [Int.add_comm]

theorem isApart_of_standsAlone (h : ∀ c ∈ text.toList, StandsAlone c) : IsApart text :=
  congrArg Prod.snd (measure_of_standsAlone h)

theorem lineWidth_of_standsAlone (h : ∀ c ∈ text.toList, StandsAlone c) :
    lineWidth text = text.length := by
  rw [lineWidth, measure_of_standsAlone h, String.length_toList]
  exact Int.toNat_natCast _

theorem standsAlone_space : StandsAlone ' ' := After.step_space .nothing

/-- The characters that boxes are drawn with. -/
def IsBox (c : Char) : Prop := 0x2500 ≤ c.toNat ∧ c.toNat ≤ 0x257F

instance (c : Char) : Decidable (IsBox c) := inferInstanceAs (Decidable (_ ∧ _))

private theorem IsBox.ofEnd?_eq_none (h : IsBox c) : Ligature.ofEnd? c = none := by
  obtain ⟨hlow, hhigh⟩ := h
  have htifinagh : isTifinagh c = false := by grind [isTifinagh, isWithin]
  have htone : isWithin 0xA4FC 0xA4FD c = false := by grind [isWithin]
  unfold Ligature.ofEnd?
  simp only [alefs_isClear.box hlow hhigh, khmerLetters_isClear.box hlow hhigh, htifinagh,
    htone, Bool.false_eq_true, if_false]
  rw [if_neg (by omega), if_neg (by omega), if_neg (by omega)]

private theorem IsBox.ofStart?_eq_none (h : IsBox c) : Picture.ofStart? c = none := by
  obtain ⟨hlow, hhigh⟩ := h
  have htone : isTone c = false := by grind [isTone]
  have hindicator : isIndicator c = false := by grind [isIndicator]
  simp only [Picture.ofStart?, clearTables.pictures.box hlow hhigh, htone, hindicator,
    Bool.false_eq_true, if_false]

private theorem IsBox.charWidth_eq (h : IsBox c) : charWidth c = 1 := by
  obtain ⟨hlow, hhigh⟩ := h
  unfold charWidth
  rw [if_neg (by omega), clearTables.zeroWidth.box hlow hhigh, if_neg Bool.false_ne_true,
    if_neg (by omega), clearTables.doubleWidth.box hlow hhigh, if_neg Bool.false_ne_true]

theorem IsBox.standsAlone (h : IsBox c) : StandsAlone c := by
  have hwidth := h.charWidth_eq
  have hsign := h.ofEnd?_eq_none
  have hpart := h.ofStart?_eq_none
  obtain ⟨hlow, hhigh⟩ := h
  have hselector : Selector.of? c = none := by
    unfold Selector.of?
    rw [if_neg (by omega), if_neg (by omega), if_neg (by omega)]
  have hfeed : c ≠ '\n' := by
    rintro rfl
    exact absurd hlow (by decide)
  have hof : Start.of c = .other := by
    unfold Start.of
    rw [if_neg hfeed, if_neg (by omega), if_neg (by omega), hsign, hpart]
  have hstep : Start.other.step c = (1, .nothing) := by
    unfold Start.step
    rw [hselector, hof, hwidth]
    rfl
  exact hstep

end RuntimeFlag.Text
