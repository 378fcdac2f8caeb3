import RuntimeFlag.Text.Plain
/-!
# Decimal digits are read as they are written
-/
namespace RuntimeFlag.Text

/-- The number that a text of decimal digits writes. -/
def natural? (text : String) : Option Nat :=
  if text.toList ≠ [] ∧ text.toList.all Char.isDigit then some (Nat.ofDigitChars 10 text.toList 0)
  else none

private theorem toList_decimal (n : Nat) : (decimal n).toList = Nat.toDigits 10 n := by
  rw [decimal, String.toList_ofList]

theorem isDigit_of_mem_decimal {n : Nat} {c : Char} (h : c ∈ (decimal n).toList) :
    c.isDigit = true := by
  rw [toList_decimal] at h
  exact Nat.isDigit_of_mem_toDigits (by decide) (by decide) h

theorem toNat_of_isDigit {c : Char} (h : c.isDigit = true) : 48 ≤ c.toNat ∧ c.toNat ≤ 57 := by
  simpa [Char.isDigit, UInt32.le_iff_toNat_le] using h

theorem natural?_decimal (n : Nat) : natural? (decimal n) = some n := by
  have hdigits : (decimal n).toList.all Char.isDigit = true :=
    List.all_eq_true.mpr fun _ hc => isDigit_of_mem_decimal hc
  have hne : (decimal n).toList ≠ [] := by
    rw [toList_decimal]
    exact Nat.toDigits_ne_nil
  rw [natural?, if_pos ⟨hne, hdigits⟩, toList_decimal,
    Nat.ofDigitChars_toDigits (by decide) (by decide)]

theorem decimal_injective {m n : Nat} (h : decimal m = decimal n) : m = n := by
  have hread := natural?_decimal m
  rw [h, natural?_decimal] at hread
  exact (Option.some.inj hread).symm

theorem toDigits_of_pos {n : Nat} (h : 0 < n) :
    ∃ c cs, Nat.toDigits 10 n = c :: cs ∧ c.isDigit = true ∧ c ≠ '0' := by
  induction n using Nat.strongRecOn with
  | _ n ih =>
    by_cases hn : n < 10
    · rw [Nat.toDigits_of_lt_base hn]
      have hdigit : ∀ d < 10, 0 < d → d.digitChar.isDigit = true ∧ d.digitChar ≠ '0' := by decide
      exact ⟨_, [], rfl, hdigit n hn h⟩
    · obtain ⟨c, cs, hcs, hdigit, hc⟩ := ih (n / 10) (by omega) (by omega)
      rw [Nat.toDigits_of_base_le (by decide) (by omega), hcs]
      exact ⟨c, cs ++ [(n % 10).digitChar], rfl, hdigit, hc⟩

end RuntimeFlag.Text
