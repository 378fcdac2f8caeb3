import Mathlib.Data.List.Pairwise
import RuntimeFlag.Json.Decode
import RuntimeFlag.Proofs.Json.Whole
import RuntimeFlag.Proofs.Result
/-!
# Members of a record

A record is read member by member. `Shape.Fills` tells what reading them makes of a draft: a known
member fills a free slot, any other member is skipped. When slots do not get in the way of each
other, the order of the members does not matter.
-/
namespace RuntimeFlag.Json

variable {δ α β : Type}

/-- Members lead from one draft to another. -/
inductive Shape.Fills (slots : List (Slot δ)) : List (Key × Doc) → δ → δ → Prop
  | nil (draft : δ) : Fills slots [] draft draft
  | known {slot : Slot δ} {name : String} {value : Doc} {rest : List (Key × Doc)}
    {draft next last : δ} (hname : slots.find? (·.name == name) = some slot)
    (hfree : slot.filled draft = false) (hread : slot.read value draft = .ok next)
    (hrest : Fills slots rest next last) : Fills slots ((.ok name, value) :: rest) draft last
  | unknown {name : String} {value : Doc} {rest : List (Key × Doc)} {draft last : δ}
    (hname : slots.find? (·.name == name) = none) (hvalue : value.skipFault? = none)
    (hrest : Fills slots rest draft last) : Fills slots ((.ok name, value) :: rest) draft last

/-- What a slot does with its member: it is filled by it, and by no broken value. -/
structure Slot.Lawful (slot : Slot δ) : Prop where
  fills : ∀ {doc draft next}, slot.read doc draft = .ok next → slot.filled next = true
  whole : ∀ {doc draft next}, slot.read doc draft = .ok next → doc.skipFault? = none

/-- One slot does not get in the way of another one that is read before it. -/
structure Slot.Yields (slot other : Slot δ) : Prop where
  keeps : ∀ {doc draft next}, slot.read doc draft = .ok next → other.filled next = other.filled draft
  swaps : ∀ {doc draft next value last}, slot.read doc draft = .ok next →
    other.read value next = .ok last →
      ∃ mid, other.read value draft = .ok mid ∧ slot.read doc mid = .ok last

/-- Two slots with names of their own can be read in any order. -/
structure Slot.Apart (slot other : Slot δ) : Prop where
  names : slot.name ≠ other.name
  left : slot.Yields other
  right : other.Yields slot

instance : Std.Symm (Slot.Apart : Slot δ → Slot δ → Prop) :=
  ⟨fun _ _ h => ⟨h.names.symm, h.right, h.left⟩⟩

/-- The slots of a record whose members can be read in any order. -/
structure Slot.Orderly (slots : List (Slot δ)) : Prop where
  lawful : ∀ slot ∈ slots, slot.Lawful
  apart : slots.Pairwise Slot.Apart

private theorem Slot.Orderly.cons {slot : Slot δ} {slots : List (Slot δ)} (hl : slot.Lawful)
    (ha : ∀ other ∈ slots, slot.Apart other) (h : Slot.Orderly slots) :
    Slot.Orderly (slot :: slots) :=
  ⟨List.forall_mem_cons.mpr ⟨hl, h.lawful⟩, List.pairwise_cons.mpr ⟨ha, h.apart⟩⟩

theorem Slot.Orderly.single {slot : Slot δ} (h : slot.Lawful) : Slot.Orderly [slot] :=
  ⟨List.forall_mem_singleton.mpr h, List.pairwise_singleton _ _⟩

theorem Slot.Orderly.pair {first second : Slot δ} (hf : first.Lawful) (hs : second.Lawful)
    (ha : first.Apart second) : Slot.Orderly [first, second] :=
  .cons hf (List.forall_mem_singleton.mpr ha) (.single hs)

theorem Slot.Orderly.triple {first second third : Slot δ} (hf : first.Lawful) (hs : second.Lawful)
    (ht : third.Lawful) (hfs : first.Apart second) (hft : first.Apart third)
    (hst : second.Apart third) : Slot.Orderly [first, second, third] :=
  .cons hf (List.forall_mem_cons.mpr ⟨hfs, List.forall_mem_singleton.mpr hft⟩) (.pair hs ht hst)

/-- A member whose key is a text that is none of the names. -/
def Foreign (names : List String) (member : Key × Doc) : Prop :=
  ∃ name, member.1 = .ok name ∧ name ∉ names

theorem failIf_eq_ok {fault? : Option Fault} : Decoder.failIf fault? = .ok () ↔ fault? = none := by
  cases fault? <;> simp [Decoder.failIf]

theorem ListEnd.fault?_eq_none {ending : ListEnd} : ending.fault? = none ↔ ending = .closed := by
  cases ending <;> simp [ListEnd.fault?]

theorem ListEnd.excessFault?_eq_none {ending : ListEnd} :
    ending.excessFault? = none ↔ ending = .closed := by
  cases ending <;> simp [ListEnd.excessFault?]

theorem ObjectEnd.fault?_eq_none {ending : ObjectEnd} : ending.fault? = none ↔ ending = .closed := by
  cases ending <;> simp [ObjectEnd.fault?]

namespace Shape

variable {slots : List (Slot δ)} {members : List (Key × Doc)} {draft last : δ}

theorem readMembers_eq_ok {ending : ObjectEnd} :
    readMembers slots members ending draft = .ok last ↔
      Fills slots members draft last ∧ ending.fault? = none := by
  induction members generalizing draft with
  | nil =>
    rw [readMembers, bind_eq_ok]
    constructor
    · rintro ⟨_, hend, hlast⟩
      cases hlast
      exact ⟨.nil _, failIf_eq_ok.mp hend⟩
    · rintro ⟨⟨⟩, hend⟩
      exact ⟨(), failIf_eq_ok.mpr hend, rfl⟩
  | cons member rest ih =>
    obtain ⟨key, value⟩ := member
    rw [readMembers, bind_eq_ok]
    constructor
    · rintro ⟨name, rfl, h⟩
      split at h
      · next slot hname =>
        split at h
        · cases h
        · next hfree =>
          obtain ⟨next, hread, h⟩ := bind_eq_ok.mp h
          obtain ⟨hrest, hend⟩ := ih.mp h
          exact ⟨.known hname (Bool.eq_false_iff.mpr hfree) hread hrest, hend⟩
      · next hname =>
        obtain ⟨_, hvalue, h⟩ := bind_eq_ok.mp h
        obtain ⟨hrest, hend⟩ := ih.mp h
        exact ⟨.unknown hname (failIf_eq_ok.mp hvalue) hrest, hend⟩
    · rintro ⟨hfills, hend⟩
      cases hfills with
      | known hname hfree hread hrest =>
        refine ⟨_, rfl, ?_⟩
        simp only [hname, hfree, Bool.false_eq_true, if_false]
        exact bind_eq_ok.mpr ⟨_, hread, ih.mpr ⟨hrest, hend⟩⟩
      | unknown hname hvalue hrest =>
        refine ⟨_, rfl, ?_⟩
        simp only [hname]
        exact bind_eq_ok.mpr ⟨(), failIf_eq_ok.mpr hvalue, ih.mpr ⟨hrest, hend⟩⟩

/-! ## Order -/

private theorem Fills.swap (ho : Slot.Orderly slots) {first second : Key × Doc}
    (h : Fills slots (first :: second :: members) draft last) :
    Fills slots (second :: first :: members) draft last := by
  cases h with
  | @known slot _ _ _ _ mid _ hname hfree hread hrest =>
    cases hrest with
    | @known other _ _ _ _ next _ hother hopen hvalue hrest =>
      have hslot := List.mem_of_find?_eq_some hname
      have hmem := List.mem_of_find?_eq_some hother
      have hne : slot ≠ other := by
        rintro rfl
        rw [(ho.lawful slot hslot).fills hread] at hopen
        cases hopen
      have hapart := ho.apart.forall hslot hmem hne
      obtain ⟨between, hfirst, hsecond⟩ := hapart.left.swaps hread hvalue
      have hstill : other.filled draft = false := (hapart.left.keeps hread).symm.trans hopen
      have hspare : slot.filled between = false := (hapart.right.keeps hfirst).trans hfree
      exact .known hother hstill hfirst (.known hname hspare hsecond hrest)
    | unknown hother hvalue hrest =>
      exact .unknown hother hvalue (.known hname hfree hread hrest)
  | unknown hname hvalue hrest =>
    cases hrest with
    | known hother hfree hread hrest =>
      exact .known hother hfree hread (.unknown hname hvalue hrest)
    | unknown hother hmore hrest => exact .unknown hother hmore (.unknown hname hvalue hrest)

theorem Fills.perm (ho : Slot.Orderly slots) {others : List (Key × Doc)}
    (h : Fills slots members draft last) (hp : members.Perm others) :
    Fills slots others draft last := by
  induction hp generalizing draft with
  | nil => exact h
  | cons _ _ ih =>
    cases h with
    | known hname hfree hread hrest => exact .known hname hfree hread (ih hrest)
    | unknown hname hvalue hrest => exact .unknown hname hvalue (ih hrest)
  | swap _ _ _ => exact h.swap ho
  | trans _ _ ihfirst ihsecond => exact ihsecond (ihfirst h)

/-! ## Unknown members -/

/-- Members that a record does not know leave the draft as it is. -/
theorem fills_foreign {names : List String} (hn : ∀ slot ∈ slots, slot.name ∈ names)
    (h : ∀ member ∈ members, Foreign names member)
    (hw : ∀ member ∈ members, member.2.skipFault? = none) : Fills slots members draft draft := by
  induction members with
  | nil => exact .nil draft
  | cons member rest ih =>
    obtain ⟨key, value⟩ := member
    obtain ⟨hforeign, hrest⟩ := List.forall_mem_cons.mp h
    obtain ⟨hvalue, hwhole⟩ := List.forall_mem_cons.mp hw
    obtain ⟨name, rfl, hname⟩ := hforeign
    refine .unknown ?_ hvalue (ih hrest hwhole)
    rw [List.find?_eq_none]
    intro slot hs heq
    exact hname (beq_iff_eq.mp heq ▸ hn slot hs)

theorem Fills.append {others : List (Key × Doc)} {mid : δ} (h : Fills slots members draft mid)
    (hrest : Fills slots others mid last) : Fills slots (members ++ others) draft last := by
  induction h with
  | nil => exact hrest
  | known hname hfree hread _ ih => exact .known hname hfree hread (ih hrest)
  | unknown hname hvalue _ ih => exact .unknown hname hvalue (ih hrest)

end Shape

end RuntimeFlag.Json
