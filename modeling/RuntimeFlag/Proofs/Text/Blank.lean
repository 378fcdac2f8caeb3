import Mathlib.Data.List.DropRight
import RuntimeFlag.Text.Blank
/-!
# Texts between their blank ends

A tail is taken off as far as its elements satisfy a condition, and no further. What is cut off a
text by trimming is blank, what is left has no blank end, and such a text is left as it is.
-/
namespace RuntimeFlag.Text

/-! ## Tails -/

section Tails

variable {α : Type} {p : α → Bool}

theorem dropTailWhile_cons_of_neg {c : α} (h : p c = false) (cs : List α) :
    dropTailWhile p (c :: cs) = c :: dropTailWhile p cs := by
  simp only [dropTailWhile, List.reverse_cons, List.dropWhile_append]
  split
  · next hd =>
    rw [List.isEmpty_iff.mp hd]
    simp [List.dropWhile, h]
  · rw [List.reverse_append]
    rfl

theorem dropTailWhile_append_of_neg {front : List α} (h : ∀ c ∈ front, p c = false)
    (cs : List α) : dropTailWhile p (front ++ cs) = front ++ dropTailWhile p cs := by
  induction front with
  | nil => rfl
  | cons c front ih =>
    obtain ⟨hc, hfront⟩ := List.forall_mem_cons.mp h
    rw [List.cons_append, dropTailWhile_cons_of_neg hc, ih hfront, List.cons_append]

theorem dropTailWhile_of_pos {back : List α} (h : ∀ c ∈ back, p c = true) :
    dropTailWhile p back = [] :=
  List.rdropWhile_eq_nil_iff.mpr h

end Tails

/-! ## Blank ends -/

variable {cs : List Char}

/-- Neither end is blank. -/
structure Tight (cs : List Char) : Prop where
  head : ∀ c ∈ cs.head?, isBlank c = false
  last : ∀ c ∈ cs.getLast?, isBlank c = false

private theorem trimChars_eq (cs : List Char) :
    trimChars cs = (cs.dropWhile isBlank).rdropWhile isBlank := rfl

theorem trimChars_of_tight (h : Tight cs) : trimChars cs = cs := by
  have hfront : cs.dropWhile isBlank = cs := by
    rw [List.dropWhile_eq_self_iff]
    intro hl
    simp [h.head cs[0] (List.head?_eq_getElem? ▸ List.getElem?_eq_getElem hl)]
  rw [trimChars_eq, hfront, List.rdropWhile_eq_self_iff]
  intro hne
  simp [h.last _ (List.getLast?_eq_getLast_of_ne_nil hne)]

/-- Trimming takes blanks off both ends, and nothing else. -/
theorem exists_trimChars (cs : List Char) :
    ∃ front back, cs = front ++ trimChars cs ++ back ∧ (∀ c ∈ front, isBlank c = true) ∧
      ∀ c ∈ back, isBlank c = true := by
  refine ⟨cs.takeWhile isBlank, (cs.dropWhile isBlank).rtakeWhile isBlank, ?_, ?_, ?_⟩
  · rw [trimChars_eq, List.append_assoc, List.rdropWhile_append_rtakeWhile,
      List.takeWhile_append_dropWhile]
  · intro c hc
    exact List.mem_takeWhile_imp hc
  · intro c hc
    exact List.mem_rtakeWhile_imp hc

theorem tight_trimChars (cs : List Char) : Tight (trimChars cs) := by
  constructor
  · intro c hc
    obtain ⟨rest, hrest⟩ := List.head?_eq_some_iff.mp hc
    have hprefix := List.rdropWhile_prefix isBlank (cs.dropWhile isBlank)
    rw [← trimChars_eq, hrest] at hprefix
    obtain ⟨more, hmore⟩ := hprefix
    have hhead := List.head?_dropWhile_not isBlank cs
    rw [← hmore] at hhead
    exact hhead
  · intro c hc
    have hne : trimChars cs ≠ [] := by
      intro hnil
      simp [hnil] at hc
    have hlast := List.rdropWhile_last_not isBlank (cs.dropWhile isBlank) hne
    rw [List.getLast?_eq_getLast_of_ne_nil hne] at hc
    cases hc
    exact Bool.eq_false_iff.mpr hlast

theorem trimChars_eq_nil_iff : trimChars cs = [] ↔ ∀ c ∈ cs, isBlank c = true := by
  rw [trimChars_eq, List.rdropWhile_eq_nil_iff]
  constructor
  · intro h c hc
    rw [← List.takeWhile_append_dropWhile (p := isBlank) (l := cs), List.mem_append] at hc
    rcases hc with hc | hc
    · exact List.mem_takeWhile_imp hc
    · exact h c hc
  · intro h c hc
    exact h c ((List.dropWhile_suffix isBlank).subset hc)

theorem Tight.exists_not_blank {front tail : List Char} (h : Tight (front ++ tail))
    (hne : tail ≠ []) : ∃ c ∈ tail, isBlank c = false := by
  refine ⟨tail.getLast hne, List.getLast_mem hne, h.last _ ?_⟩
  simp [List.getLast?_append, List.getLast?_eq_getLast_of_ne_nil hne]

theorem Tight.behind {front tail : List Char} (ht : Tight tail) (hne : tail ≠ [])
    (hf : ∀ c ∈ front.head?, isBlank c = false) : Tight (front ++ tail) := by
  constructor
  · intro c hc
    cases front with
    | nil => exact ht.head c hc
    | cons d front => exact hf c hc
  · intro c hc
    rw [List.getLast?_append, List.getLast?_eq_getLast_of_ne_nil hne, Option.some_or] at hc
    exact ht.last c (by rwa [List.getLast?_eq_getLast_of_ne_nil hne])

end RuntimeFlag.Text
