import RuntimeFlag.Proofs.Json.Flaws
import RuntimeFlag.Proofs.Json.Pretty
/-!
# Integers of 64 bits, and members that may be left out

An integer with sign is read from its numeral when it has 64 bits, and from no other value. A member
that may be left out or `null` is read as none in both cases.
-/
namespace RuntimeFlag.Json

/-- The document is the numeral of an integer of 64 bits with sign. -/
inductive Doc.IsInteger : Doc → Int → Prop
  | natural {n : Nat} (h : n < 0x8000000000000000) : IsInteger (.number (.ok (.natural n))) n
  | negative (n : Nat) : IsInteger (.number (.ok (.negative n))) (-n)

def IntegerFlaw : Flaw := fun doc => ∀ i, ¬ doc.IsInteger i

namespace Decoder

theorem integer_eq_ok {doc : Doc} {i : Int} : integer doc = .ok i ↔ doc.IsInteger i := by
  constructor
  · intro h
    unfold integer at h
    split at h
    · split at h
      · next hn =>
        cases h
        exact .natural hn
      · exact (wrongKind_ne_ok h).elim
    · cases h
      exact .negative _
    · exact (wrongKind_ne_ok h).elim
  · intro h
    cases h with
    | natural hn => exact if_pos hn
    | negative n => rfl

theorem strict_integer : integer.Strict := by
  intro doc i h
  cases integer_eq_ok.mp h with
  | natural _ => rfl
  | negative _ => rfl

theorem judges_integer : integer.Judges IntegerFlaw := by
  intro doc _
  simp only [integer_eq_ok, IntegerFlaw, not_forall, not_not]

end Decoder

theorem isInteger_written {i : Int} (hl : -0x8000000000000000 ≤ i) (hu : i < 0x8000000000000000) :
    (Value.integer i).doc.IsInteger i := by
  by_cases hi : i < 0
  · obtain ⟨n, rfl⟩ : ∃ n : Nat, i = -n := ⟨i.natAbs, by omega⟩
    rw [doc_negative (by omega) (by omega)]
    exact .negative n
  · obtain ⟨n, rfl⟩ : ∃ n : Nat, i = n := ⟨i.toNat, by omega⟩
    rw [doc_natural (Nat.le_of_lt (by unfold Numeral.maxSignificand; omega))]
    exact .natural (by omega)

theorem Shape.Fills.join_eq_some_iff {β δ : Type} {slots : List (Slot δ)} {name : String}
    {decoder : Decoder β} {field : δ → Option (Option β)} {set : δ → Option β → δ}
    {members : List (Key × Doc)} {draft last : δ} {value : β} (ho : Slot.Orderly slots)
    (hs : Slot.ofField name true (.optional decoder) field set ∈ slots)
    (hset : ∀ draft given, field (set draft given) = some given) (hempty : field draft = none)
    (h : Fills slots members draft last) :
    (field last).join = some value ↔
      ∃ doc, (.ok name, doc) ∈ members ∧ doc ≠ .null ∧ decoder doc = .ok value := by
  have hread {doc : Doc} (hm : (.ok name, doc) ∈ members) :
      ∃ given, Decoder.optional decoder doc = .ok given ∧ field last = some given := by
    obtain ⟨mid, hmid⟩ := h.exists_read ho hs hm
    obtain ⟨given, hgiven, rfl⟩ := map_eq_ok.mp hmid
    exact ⟨given, hgiven, hset mid given⟩
  constructor
  · intro hvalue
    have hlast : field last = some (some value) := by
      simpa [Option.join_eq_some_iff] using hvalue
    rcases (h.filled_iff ho hs).mp (by simp [Slot.ofField, hlast]) with hfilled | ⟨doc, hm⟩
    · simp [Slot.ofField, hempty] at hfilled
    · obtain ⟨given, hgiven, hfield⟩ := hread hm
      cases hlast.symm.trans hfield
      rcases Decoder.optional_eq_ok.mp hgiven with ⟨-, hnone⟩ | ⟨hne, _, hdoc, heq⟩
      · cases hnone
      · cases heq
        exact ⟨doc, hm, hne, hdoc⟩
  · rintro ⟨doc, hm, hne, hdoc⟩
    obtain ⟨given, hgiven, hfield⟩ := hread hm
    rw [Decoder.optional_eq_ok.mpr (.inr ⟨hne, value, hdoc, rfl⟩)] at hgiven
    cases hgiven
    simp [hfield]

end RuntimeFlag.Json
