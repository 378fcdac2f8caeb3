import RuntimeFlag.Proofs.Json.Accepted
/-!
# Members that fill a draft

Which members fill a draft, and what the draft holds then: each slot is filled by its own member,
which stands once, and members that can be read one by one can be read together. A list fills a
draft as the members do that have its items under the names of the slots.
-/
namespace RuntimeFlag.Json

variable {δ : Type}

namespace Slot.Orderly

variable {slots : List (Slot δ)} {slot other : Slot δ}

private theorem eq_of_name (h : Slot.Orderly slots) (hs : slot ∈ slots) (ho : other ∈ slots)
    (hname : slot.name = other.name) : slot = other := by
  by_contra hne
  exact (h.apart.forall hs ho hne).names hname

private theorem find?_name (h : Slot.Orderly slots) (hs : slot ∈ slots) :
    slots.find? (·.name == slot.name) = some slot := by
  cases hfind : slots.find? (·.name == slot.name) with
  | none => simpa using List.find?_eq_none.mp hfind slot hs
  | some found =>
    have hname : found.name = slot.name := by simpa using List.find?_some hfind
    rw [h.eq_of_name (List.mem_of_find?_eq_some hfind) hs hname]

private theorem filled_of_read (h : Slot.Orderly slots) (hs : slot ∈ slots) (ho : other ∈ slots)
    {doc : Doc} {draft next : δ} (hread : slot.read doc draft = .ok next) :
    other.filled next = true ↔ other.name = slot.name ∨ other.filled draft = true := by
  by_cases hname : other.name = slot.name
  · obtain rfl := h.eq_of_name ho hs hname
    simp [(h.lawful other ho).fills hread]
  · have hne : slot ≠ other := fun heq => hname (heq ▸ rfl)
    rw [(h.apart.forall hs ho hne).left.keeps hread]
    simp [hname]

end Slot.Orderly

namespace Shape

variable {slots : List (Slot δ)} {slot : Slot δ} {members rest others : List (Key × Doc)}
  {draft last : δ} {value : Doc}

private theorem Fills.of_append (h : Fills slots (members ++ others) draft last) :
    ∃ mid, Fills slots members draft mid ∧ Fills slots others mid last := by
  induction members generalizing draft with
  | nil => exact ⟨draft, .nil draft, h⟩
  | cons member members ih =>
    cases h with
    | known hname hfree hread hrest =>
      obtain ⟨mid, hfront, hback⟩ := ih hrest
      exact ⟨mid, .known hname hfree hread hfront, hback⟩
    | unknown hname hvalue hrest =>
      obtain ⟨mid, hfront, hback⟩ := ih hrest
      exact ⟨mid, .unknown hname hvalue hfront, hback⟩

private theorem fills_cons_iff (ho : Slot.Orderly slots) (hs : slot ∈ slots) :
    Fills slots ((.ok slot.name, value) :: rest) draft last ↔
      slot.filled draft = false ∧ ∃ next, slot.read value draft = .ok next ∧
        Fills slots rest next last := by
  have hslot := ho.find?_name hs
  constructor
  · intro h
    cases h with
    | known hname hfree hread hrest =>
      cases hname.symm.trans hslot
      exact ⟨hfree, _, hread, hrest⟩
    | unknown hname => cases hname.symm.trans hslot
  · rintro ⟨hfree, next, hread, hrest⟩
    exact .known hslot hfree hread hrest

theorem Fills.exists_read (ho : Slot.Orderly slots) (h : Fills slots members draft last)
    (hs : slot ∈ slots) (hm : (.ok slot.name, value) ∈ members) :
    ∃ mid, slot.read value mid = .ok last := by
  obtain ⟨front, back, rfl⟩ := List.append_of_mem hm
  have hperm := List.perm_middle.trans (List.perm_append_singleton (.ok slot.name, value)
    (front ++ back)).symm
  obtain ⟨mid, -, hlast⟩ := (h.perm ho hperm).of_append
  obtain ⟨-, next, hread, hnil⟩ := (fills_cons_iff ho hs).mp hlast
  cases hnil
  exact ⟨mid, hread⟩

theorem Fills.not_repeated (ho : Slot.Orderly slots) (h : Fills slots members draft last)
    (hs : slot ∈ slots) (first second : Doc) :
    ¬ [(.ok slot.name, first), (.ok slot.name, second)].Sublist members := by
  intro hsub
  obtain ⟨others, hperm⟩ := hsub.exists_perm_append
  obtain ⟨-, next, hread, hmore⟩ := (fills_cons_iff ho hs).mp (h.perm ho hperm)
  obtain ⟨hfree, -⟩ := (fills_cons_iff ho hs).mp hmore
  rw [(ho.lawful slot hs).fills hread] at hfree
  cases hfree

theorem Fills.key_ne_error (h : Fills slots members draft last) (fault : Fault) (value : Doc) :
    (.error fault, value) ∉ members := by
  induction h with
  | nil => exact List.not_mem_nil
  | known _ _ _ _ ih => simpa using ih
  | unknown _ _ _ ih => simpa using ih

theorem Fills.filled_iff (ho : Slot.Orderly slots) (h : Fills slots members draft last)
    (hs : slot ∈ slots) :
    slot.filled last = true ↔
      slot.filled draft = true ∨ ∃ value, (.ok slot.name, value) ∈ members := by
  induction h with
  | nil => simp
  | @known found name doc rest draft next last hname hfree hread _ ih =>
    have hfound : found.name = name := by simpa using List.find?_some hname
    rw [ih, ho.filled_of_read (List.mem_of_find?_eq_some hname) hs hread, hfound]
    by_cases heq : slot.name = name <;> simp [heq]
  | @unknown name doc rest draft last hname _ _ ih =>
    have hne : slot.name ≠ name := by simpa using List.find?_eq_none.mp hname slot hs
    rw [ih]
    simp [hne]

/-- Members without a flaw fill the draft. The names that the draft holds already must not come
again. -/
theorem exists_fills (ho : Slot.Orderly slots) (hw : ∀ member ∈ members, member.2.skipFault? = none)
    (hkey : ∀ fault value, (.error fault, value) ∉ members)
    (hfree : ∀ slot ∈ slots, slot.filled draft = true → ∀ value, (.ok slot.name, value) ∉ members)
    (honce : ∀ slot ∈ slots, ∀ first second,
      ¬ [(.ok slot.name, first), (.ok slot.name, second)].Sublist members)
    (hread : ∀ slot ∈ slots, ∀ value, (.ok slot.name, value) ∈ members →
      ∀ draft, ∃ next, slot.read value draft = .ok next) : ∃ last, Fills slots members draft last := by
  induction members generalizing draft with
  | nil => exact ⟨draft, .nil draft⟩
  | cons member rest ih =>
    obtain ⟨key, value⟩ := member
    obtain ⟨hvalue, hwhole⟩ := List.forall_mem_cons.mp hw
    have hmore (draft : δ) (hfree : ∀ slot ∈ slots, slot.filled draft = true →
        ∀ value, (.ok slot.name, value) ∉ rest) : ∃ last, Fills slots rest draft last :=
      ih hwhole (fun fault value hm => hkey fault value (List.mem_cons_of_mem _ hm)) hfree
        (fun slot hs first second hsub => honce slot hs first second (hsub.cons _))
        fun slot hs value hm => hread slot hs value (List.mem_cons_of_mem _ hm)
    cases key with
    | error fault => exact (hkey fault value List.mem_cons_self).elim
    | ok name =>
      cases hname : slots.find? (·.name == name) with
      | none =>
        obtain ⟨last, hlast⟩ := hmore draft fun slot hs hfilled value hm =>
          hfree slot hs hfilled value (List.mem_cons_of_mem _ hm)
        exact ⟨last, .unknown hname hvalue hlast⟩
      | some found =>
        have hmem := List.mem_of_find?_eq_some hname
        obtain rfl : found.name = name := by simpa using List.find?_some hname
        obtain ⟨next, hnext⟩ := hread found hmem value List.mem_cons_self draft
        have hopen : found.filled draft = false := by
          rw [Bool.eq_false_iff]
          exact fun hfilled => hfree found hmem hfilled value List.mem_cons_self
        obtain ⟨last, hlast⟩ := hmore next fun slot hs hfilled other hm => by
          rcases (ho.filled_of_read hmem hs hnext).mp hfilled with heq | hfilled
          · rw [heq] at hm
            exact honce found hmem value other ((List.singleton_sublist.mpr hm).cons_cons _)
          · exact hfree slot hs hfilled other (List.mem_cons_of_mem _ hm)
        exact ⟨last, .known hname hopen hnext hlast⟩

/-! ## Lists in place of objects -/

/-- Items are read as the members of an object with the names of the slots; slots without an item
must be optional. -/
theorem readItems_eq_ok {all slots : List (Slot δ)} {draft : δ} (ho : Slot.Orderly all)
    (hs : ∀ slot ∈ slots, slot ∈ all) (ha : slots.Pairwise Slot.Apart)
    (hfree : ∀ slot ∈ slots, slot.filled draft = false) (expected : String) (index : Nat)
    (items : List Doc) (last : δ) :
    readItems expected index slots items .closed draft = .ok last ↔
      items.length ≤ slots.length ∧ (∀ slot ∈ slots.drop items.length, slot.optional = true) ∧
        Fills all (((slots.map (·.name)).map .ok).zip items) draft last := by
  induction slots generalizing index items draft with
  | nil =>
    cases items with
    | nil =>
      constructor
      · rintro ⟨⟩
        exact ⟨Nat.le_refl _, List.forall_mem_nil _, .nil _⟩
      · rintro ⟨-, -, ⟨⟩⟩
        rfl
    | cons item items => simp [readItems, throw, throwThe, MonadExceptOf.throw]
  | cons slot slots ih =>
    obtain ⟨hslot, hslots⟩ := List.forall_mem_cons.mp hs
    obtain ⟨hfirst, hapart⟩ := List.pairwise_cons.mp ha
    obtain ⟨hopen, hrest⟩ := List.forall_mem_cons.mp hfree
    cases items with
    | nil =>
      rw [readItems]
      cases hopt : slot.optional with
      | false => simp [hopt, bind, Except.bind, ListEnd.fault?, Decoder.failIf, throw, throwThe,
          MonadExceptOf.throw]
      | true =>
        have hnext := ih hslots hapart hrest (index + 1) []
        simpa [hopt, bind, Except.bind, ListEnd.fault?, Decoder.failIf] using hnext
    | cons item items =>
      rw [readItems, bind_eq_ok, List.map_cons, List.map_cons, List.zip_cons_cons,
        fills_cons_iff ho hslot, List.length_cons, List.length_cons, List.drop_succ_cons,
        Nat.add_le_add_iff_right]
      have hnext {next : δ} (hread : slot.read item draft = .ok next) :=
        ih hslots hapart (fun other hother =>
          ((hfirst other hother).left.keeps hread).trans (hrest other hother)) (index + 1) items
      constructor
      · rintro ⟨next, hread, h⟩
        obtain ⟨hlength, hoptional, hfills⟩ := (hnext hread).mp h
        exact ⟨hlength, hoptional, hopen, next, hread, hfills⟩
      · rintro ⟨hlength, hoptional, -, next, hread, hfills⟩
        exact ⟨next, hread, (hnext hread).mpr ⟨hlength, hoptional, hfills⟩⟩

theorem not_mem_zip_of_drop (ha : slots.Pairwise Slot.Apart) {items : List Doc}
    (hd : slot ∈ slots.drop items.length) (value : Doc) :
    ((.ok slot.name, value) : Key × Doc) ∉ ((slots.map (·.name)).map .ok).zip items := by
  induction slots generalizing items with
  | nil => simp
  | cons first slots ih =>
    obtain ⟨hfirst, hapart⟩ := List.pairwise_cons.mp ha
    cases items with
    | nil => simp
    | cons item items =>
      rw [List.length_cons, List.drop_succ_cons] at hd
      have hne := (hfirst slot (List.mem_of_mem_drop hd)).names.symm
      simpa [hne] using ih hapart hd

end Shape

end RuntimeFlag.Json
