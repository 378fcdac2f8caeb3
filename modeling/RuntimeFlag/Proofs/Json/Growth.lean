import Mathlib.Data.List.Forall2
import RuntimeFlag.Proofs.Json.Accepted
/-!
# Documents that grow

A record may get members that its decoder does not know, anywhere among its own, and its members may
come in any order; the values of its fields may grow in the same way. A decoder respects a change of
documents when it reads what a document becomes, as long as this is whole, as it read the document.
-/
namespace RuntimeFlag.Json

variable {α β δ : Type}

abbrev Change := Doc → Doc → Prop

/-- A member as it was, or with the value of its field changed. -/
inductive Kept (fields : List (String × Change)) : Key × Doc → Key × Doc → Prop
  | same (member : Key × Doc) : Kept fields member member
  | field {name : String} {change : Change} {doc grown : Doc}
    (hf : fields.lookup name = some change) (h : change doc grown) :
    Kept fields (.ok name, doc) (.ok name, grown)

/-- Items that stand for the fields of a record in their order, with their values changed. -/
inductive Positions : List (String × Change) → List Doc → List Doc → Prop
  | nil (fields : List (String × Change)) : Positions fields [] []
  | cons {name : String} {change : Change} {fields : List (String × Change)} {doc grown : Doc}
    {items others : List Doc} (h : change doc grown) (hrest : Positions fields items others) :
    Positions ((name, change) :: fields) (doc :: items) (grown :: others)

/-- A record becomes one with the same members, whose values change as their fields do, and with any
others that are none of the fields, all of them in any order. -/
inductive Grows (fields : List (String × Change)) : Change
  | same (doc : Doc) : Grows fields doc doc
  | object {members kept others grown : List (Key × Doc)} {ending : ObjectEnd}
    (hk : List.Forall₂ (Kept fields) members kept)
    (ho : ∀ member ∈ others, Foreign (fields.map Prod.fst) member)
    (hp : (kept ++ others).Perm grown) :
    Grows fields (.object members ending) (.object grown ending)
  | list {items grown : List Doc} {ending : ListEnd} (h : Positions fields items grown) :
    Grows fields (.list items ending) (.list grown ending)

/-- Every item of a list changes in the same way. -/
inductive GrowsItems (change : Change) : Change
  | same (doc : Doc) : GrowsItems change doc doc
  | list {items grown : List Doc} {ending : ListEnd} (h : List.Forall₂ change items grown) :
    GrowsItems change (.list items ending) (.list grown ending)

/-! ## Decoders -/

/-- What was read of a document is read of what it becomes. -/
def Decoder.Respects (decoder : Decoder α) (change : Change) : Prop :=
  ∀ ⦃doc grown value⦄, decoder doc = .ok value → change doc grown → grown.skipFault? = none →
    decoder grown = .ok value

namespace Decoder

variable {decoder : Decoder α} {change : Change}

theorem respects_eq (decoder : Decoder α) : decoder.Respects Eq := by
  rintro doc _ value h rfl -
  exact h

private theorem Respects.map (h : decoder.Respects change) (f : α → β) :
    Respects (fun doc => (decoder doc).map f) change := by
  intro doc grown value hdoc hchange hw
  obtain ⟨read, hread, rfl⟩ := map_eq_ok.mp hdoc
  exact map_eq_ok.mpr ⟨read, h hread hchange hw, rfl⟩

private theorem Respects.optional (h : decoder.Respects change)
    (hnull : ∀ {doc grown}, change doc grown → (grown = .null ↔ doc = .null)) :
    (Decoder.optional decoder).Respects change := by
  intro doc grown value hdoc hchange hw
  refine optional_eq_ok.mpr ?_
  rcases optional_eq_ok.mp hdoc with ⟨hnone, rfl⟩ | ⟨hsome, given, hgiven, rfl⟩
  · exact .inl ⟨(hnull hchange).mpr hnone, rfl⟩
  · exact .inr ⟨fun hgrown => hsome ((hnull hchange).mp hgrown), given, h hgiven hchange hw, rfl⟩

theorem Respects.list (h : decoder.Respects change) :
    (Decoder.list decoder).Respects (GrowsItems change) := by
  intro doc grown values hdoc hchange hw
  cases hchange with
  | same => exact hdoc
  | @list _ grown ending hitems =>
    obtain ⟨items, hitem, hread⟩ := list_eq_ok.mp hdoc
    cases hitem
    refine list_eq_ok.mpr ⟨grown, rfl, ?_⟩
    have hwhole := (Doc.skipFault?_list.mp hw).1
    clear hdoc hw
    induction hitems generalizing values with
    | nil =>
      cases hread
      exact .nil
    | cons hitem _ ih =>
      obtain ⟨hitemWhole, hrestWhole⟩ := List.forall_mem_cons.mp hwhole
      cases hread with
      | cons hvalue hread => exact .cons (h hvalue hitem hitemWhole) (ih hread hrestWhole)

end Decoder

private theorem grows_null {fields : List (String × Change)} {doc grown : Doc}
    (h : Grows fields doc grown) :
    grown = .null ↔ doc = .null := by
  cases h with
  | same => exact Iff.rfl
  | object => exact ⟨fun h => (nomatch h), fun h => (nomatch h)⟩
  | list => exact ⟨fun h => (nomatch h), fun h => (nomatch h)⟩

/-! ## Records -/

/-- A slot reads what its member becomes as it read the member. -/
def Slot.Respects (slot : Slot δ) (change : Change) : Prop :=
  ∀ {doc grown draft next}, slot.read doc draft = .ok next → change doc grown →
    grown.skipFault? = none → slot.read grown draft = .ok next

/-- A slot is the slot of a field. -/
structure Slot.Matches (slot : Slot δ) (field : String × Change) : Prop where
  name : slot.name = field.1
  respects : slot.Respects field.2

theorem Slot.matches_ofField {name : String} {optional : Bool} {decoder : Decoder β}
    {field : δ → Option β} {set : δ → β → δ} {change : Change} (h : decoder.Respects change) :
    (ofField name optional decoder field set).Matches (name, change) where
  name := rfl
  respects hread hchange hw := by
    obtain ⟨value, hvalue, rfl⟩ := map_eq_ok.mp hread
    exact map_eq_ok.mpr ⟨value, h hvalue hchange hw, rfl⟩

namespace Shape

variable {slots : List (Slot δ)} {fields : List (String × Change)} {draft last : δ}

private theorem find?_of_lookup (hm : List.Forall₂ Slot.Matches slots fields) {name : String}
    {change : Change} (h : fields.lookup name = some change) :
    ∃ slot, slots.find? (·.name == name) = some slot ∧ slot.Respects change := by
  induction hm with
  | nil => cases h
  | @cons slot field slots fields hmatch _ ih =>
    obtain ⟨key, value⟩ := field
    rw [List.lookup_cons] at h
    rw [List.find?_cons, hmatch.name]
    by_cases hkey : name = key
    · subst hkey
      rw [beq_self_eq_true] at h ⊢
      cases h
      exact ⟨slot, rfl, hmatch.respects⟩
    · rw [beq_eq_false_iff_ne.mpr hkey] at h
      rw [beq_eq_false_iff_ne.mpr (Ne.symm hkey)]
      exact ih h

private theorem name_mem_of_matches (hm : List.Forall₂ Slot.Matches slots fields) :
    ∀ slot ∈ slots, slot.name ∈ fields.map Prod.fst := by
  induction hm with
  | nil => exact fun _ h => nomatch h
  | cons hmatch _ ih =>
    rw [List.map_cons, List.forall_mem_cons]
    exact ⟨List.mem_cons.mpr (.inl hmatch.name), fun slot hs => List.mem_cons_of_mem _ (ih slot hs)⟩

private theorem Fills.kept (hm : List.Forall₂ Slot.Matches slots fields)
    {members kept : List (Key × Doc)} (h : Fills slots members draft last)
    (hk : List.Forall₂ (Kept fields) members kept)
    (hw : ∀ member ∈ kept, member.2.skipFault? = none) : Fills slots kept draft last := by
  induction h generalizing kept with
  | nil =>
    cases hk
    exact .nil _
  | known hname hfree hread _ ih =>
    cases hk with
    | cons hmember hk =>
      obtain ⟨hvalue, hrest⟩ := List.forall_mem_cons.mp hw
      cases hmember with
      | same => exact .known hname hfree hread (ih hk hrest)
      | field hf hchange =>
        obtain ⟨slot, hslot, hrespects⟩ := find?_of_lookup hm hf
        cases hslot.symm.trans hname
        exact .known hname hfree (hrespects hread hchange hvalue) (ih hk hrest)
  | unknown hname hskip _ ih =>
    cases hk with
    | cons hmember hk =>
      obtain ⟨hvalue, hrest⟩ := List.forall_mem_cons.mp hw
      cases hmember with
      | same => exact .unknown hname hskip (ih hk hrest)
      | field hf hchange =>
        obtain ⟨slot, hslot, -⟩ := find?_of_lookup hm hf
        cases hslot.symm.trans hname

private theorem readItems_positions (hm : List.Forall₂ Slot.Matches slots fields)
    {expected : String} {index : Nat} {items grown : List Doc} {ending : ListEnd}
    (h : readItems expected index slots items ending draft = .ok last)
    (hp : Positions fields items grown) (hw : ∀ item ∈ grown, item.skipFault? = none) :
    readItems expected index slots grown ending draft = .ok last := by
  induction hm generalizing index items grown draft with
  | nil =>
    cases hp
    exact h
  | cons hmatch _ ih =>
    cases hp with
    | nil => exact h
    | cons hchange hp =>
      obtain ⟨hitem, hrest⟩ := List.forall_mem_cons.mp hw
      obtain ⟨next, hread, h⟩ := bind_eq_ok.mp h
      exact bind_eq_ok.mpr ⟨next, hmatch.respects hread hchange hitem, ih h hp hrest⟩

/-- A record is read in the same way when it grows. -/
theorem respects_grows {shape : Shape δ α} (ho : Slot.Orderly shape.slots)
    (hm : List.Forall₂ Slot.Matches shape.slots fields) : shape.decoder.Respects (Grows fields) := by
  intro doc grown value hdoc hchange hw
  cases hchange with
  | same => exact hdoc
  | @object members kept others grown ending hk hforeign hp =>
    obtain ⟨filled, hread, hbuild⟩ := bind_eq_ok.mp hdoc
    obtain ⟨hfills, hend⟩ := readMembers_eq_ok.mp hread
    have hwhole : ∀ member ∈ kept ++ others, member.2.skipFault? = none :=
      fun member hmem => (Doc.skipFault?_object.mp hw).1 member (hp.mem_iff.mp hmem)
    obtain ⟨hkept, hothers⟩ := List.forall_mem_append.mp hwhole
    have hskipped : Fills shape.slots others filled filled :=
      fills_foreign (name_mem_of_matches hm) hforeign hothers
    have hgrown := ((hfills.kept hm hk hkept).append hskipped).perm ho hp
    exact bind_eq_ok.mpr ⟨filled, readMembers_eq_ok.mpr ⟨hgrown, hend⟩, hbuild⟩
  | list hp =>
    obtain ⟨filled, hread, hbuild⟩ := bind_eq_ok.mp hdoc
    have hgrown := readItems_positions hm hread hp (Doc.skipFault?_list.mp hw).1
    exact bind_eq_ok.mpr ⟨filled, hgrown, hbuild⟩

end Shape

/-- A decoder of a record with these fields, whose members can come in any order. -/
inductive Decoder.IsRecord (fields : List (String × Change)) : Decoder α → Prop
  | mk {δ : Type} (shape : Shape δ α) (ho : Slot.Orderly shape.slots)
    (hm : List.Forall₂ Slot.Matches shape.slots fields) : IsRecord fields shape.decoder

/-- A decoder that sees all of a document and reads it as it reads what the document becomes. -/
structure Decoder.Steady (decoder : Decoder α) (change : Change) : Prop where
  strict : decoder.Strict
  respects : decoder.Respects change

namespace Decoder

variable {decoder : Decoder α} {change : Change} {fields : List (String × Change)}

theorem IsRecord.steady (h : decoder.IsRecord fields) : decoder.Steady (Grows fields) := by
  obtain ⟨shape, ho, hm⟩ := h
  exact ⟨Shape.strict_decoder ho.lawful, Shape.respects_grows ho hm⟩

theorem Steady.map (h : decoder.Steady change) (f : α → β) :
    Steady (fun doc => (decoder doc).map f) change :=
  ⟨h.strict.map f, h.respects.map f⟩

theorem Steady.optional (h : decoder.Steady (Grows fields)) :
    (Decoder.optional decoder).Steady (Grows fields) :=
  ⟨h.strict.optional, h.respects.optional grows_null⟩

end Decoder

end RuntimeFlag.Json
