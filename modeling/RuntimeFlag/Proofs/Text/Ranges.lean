import RuntimeFlag.Text.Width.Ligature
/-!
# Characters that the tables of widths do not list

Spaces and the characters that boxes are drawn with are in none of the tables that the width of a
character is read from (`clearTables`), and they are none of the letters that end a sign.
-/
namespace RuntimeFlag.Text

namespace Ranges

variable {ranges : Ranges} {n : Nat}

theorem has_eq_false (h : ∀ range ∈ ranges, range.2 < n ∨ n < range.1) : ranges.has n = false := by
  rw [Bool.eq_false_iff, ne_eq, has, Array.any_eq_true']
  rintro ⟨range, hrange, hn⟩
  simp only [Bool.and_eq_true, decide_eq_true_eq] at hn
  have := h range hrange
  omega

/-- No space and no character that boxes are drawn with is in the ranges. -/
def IsClear (ranges : Ranges) : Prop :=
  ∀ range ∈ ranges, 0x20 < range.1 ∧ (range.2 < 0x2500 ∨ 0x257F < range.1)

theorem IsClear.space (h : ranges.IsClear) : ranges.has 0x20 = false :=
  has_eq_false fun range hrange => .inr (h range hrange).1

theorem IsClear.box (h : ranges.IsClear) (hlow : 0x2500 ≤ n) (hhigh : n ≤ 0x257F) :
    ranges.has n = false := by
  refine has_eq_false fun range hrange => ?_
  have := (h range hrange).2
  omega

/-- The characters `cs` of a long text are left to unification, since to decode them from its bytes
is too much for a computation in a proof. -/
theorem forall_mem_ofText {P : Nat × Nat → Prop} {text : String} {cs : List Char}
    (ht : text = String.ofList cs)
    (h : ∀ range ∈ ((cs.splitOnP Char.isWhitespace).filter (!·.isEmpty)).filterMap range?,
      P range) : ∀ range ∈ ofText text, P range := by
  intro range hrange
  rw [ofText, words, ht, String.toList_ofList, List.mem_toArray] at hrange
  exact h range hrange

end Ranges

/-! ## The tables of widths -/

section Tables

set_option maxRecDepth 20000

theorem zeroWidth_ranges : ∀ range ∈ zeroWidth,
    (0x20 < range.1 ∧ (range.2 < 0x2500 ∨ 0x257F < range.1)) ∧
      (range.2 < 0x1780 ∨ 0x17AF < range.1) :=
  Ranges.forall_mem_ofText rfl (by decide +kernel)

/-- The tables that widths are read from are clear. -/
structure ClearTables : Prop where
  zeroWidth : zeroWidth.IsClear
  doubleWidth : doubleWidth.IsClear
  pictures : pictures.IsClear
  people : people.IsClear
  picturesOnDemand : picturesOnDemand.IsClear
  textsOnDemand : textsOnDemand.IsClear

theorem clearTables : ClearTables where
  zeroWidth := fun range hrange => (zeroWidth_ranges range hrange).1
  doubleWidth := Ranges.forall_mem_ofText rfl (by decide +kernel)
  pictures := Ranges.forall_mem_ofText rfl (by decide +kernel)
  people := Ranges.forall_mem_ofText rfl (by decide +kernel)
  picturesOnDemand := Ranges.forall_mem_ofText rfl (by decide +kernel)
  textsOnDemand := Ranges.forall_mem_ofText rfl (by decide +kernel)

end Tables

/-! ## Letters that end a sign -/

theorem alefs_isClear : alefs.IsClear :=
  Ranges.forall_mem_ofText rfl (by decide +kernel)

theorem lams_isClear : lams.IsClear :=
  Ranges.forall_mem_ofText rfl (by decide +kernel)

theorem ignoredMarks_isClear : ignoredMarks.IsClear :=
  Ranges.forall_mem_ofText rfl (by decide +kernel)

theorem khmerLetters_ranges : ∀ range ∈ khmerLetters, 0x1780 ≤ range.1 ∧ range.2 ≤ 0x17AF :=
  Ranges.forall_mem_ofText rfl (by decide +kernel)

theorem khmerLetters_isClear : khmerLetters.IsClear := by
  intro range hrange
  have := khmerLetters_ranges range hrange
  omega

end RuntimeFlag.Text
