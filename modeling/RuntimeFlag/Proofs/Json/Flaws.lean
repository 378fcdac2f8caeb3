import RuntimeFlag.Proofs.Json.Fills
/-!
# What is wrong with a record

A record is accepted unless there is something wrong with it: it is neither an object nor a list of
its fields, a key is no text, a field is missing or given twice, or there is something wrong with
the value of a field. `Decoder.Judges` says that a decoder refuses exactly what has such a flaw.
-/
namespace RuntimeFlag.Json

variable {α β δ : Type}

/-- What may be wrong with a document. -/
abbrev Flaw := Doc → Prop

def TextFlaw : Flaw := fun doc => ∀ s, doc ≠ .text (.ok s)

def FlagFlaw : Flaw := fun doc => ∀ b, doc ≠ .flag b

/-- What is wrong with a value that may be `null`. -/
def OptionalFlaw (flaw : Flaw) : Flaw := fun doc => doc ≠ .null ∧ flaw doc

/-- What is wrong with a list: it is none, or something is wrong with an item, whichever it is. -/
inductive ListFlaw (flaw : Flaw) : Flaw
  | kind {doc : Doc} (h : ∀ items ending, doc ≠ .list items ending) : ListFlaw flaw doc
  | item {items : List Doc} {ending : ListEnd} {item : Doc} (hm : item ∈ items) (h : flaw item) :
    ListFlaw flaw (.list items ending)

/-- A field of a record: whether it may be missing, and what may be wrong with its value. -/
structure Field where
  name : String
  optional : Bool
  flaw : Flaw

/-- The members of a record whose fields have these names: those of an object, or the items of a
list under the names in their order. -/
def Doc.members? (names : List String) : Doc → Option (List (Key × Doc))
  | .object members _ => some members
  | .list items _ =>
    if items.length ≤ names.length then some ((names.map .ok).zip items) else none
  | .null | .flag _ | .number _ | .text _ | .broken _ _ => none

inductive MembersFlaw (fields : List Field) (members : List (Key × Doc)) : Prop
  | key {fault : Fault} {value : Doc} (hm : (.error fault, value) ∈ members) :
    MembersFlaw fields members
  | missing {field : Field} (hf : field ∈ fields) (hn : field.optional = false)
    (hm : ∀ value, (.ok field.name, value) ∉ members) : MembersFlaw fields members
  | repeated {field : Field} {first second : Doc} (hf : field ∈ fields)
    (hm : [(.ok field.name, first), (.ok field.name, second)].Sublist members) :
    MembersFlaw fields members
  | value {field : Field} {value : Doc} (hf : field ∈ fields)
    (hm : (.ok field.name, value) ∈ members) (hv : field.flaw value) : MembersFlaw fields members

inductive RecordFlaw (fields : List Field) : Flaw
  | kind {doc : Doc} (h : doc.members? (fields.map (·.name)) = none) : RecordFlaw fields doc
  | members {doc : Doc} {members : List (Key × Doc)}
    (h : doc.members? (fields.map (·.name)) = some members) (hm : MembersFlaw fields members) :
    RecordFlaw fields doc

private theorem whole_of_members {names : List String} {doc : Doc} {members : List (Key × Doc)}
    (hw : doc.skipFault? = none) (h : doc.members? names = some members) :
    ∀ member ∈ members, member.2.skipFault? = none := by
  cases doc with
  | object => cases h; exact (Doc.skipFault?_object.mp hw).1
  | list items ending =>
    obtain ⟨-, heq⟩ := Option.ite_none_right_eq_some.mp h
    cases heq
    exact fun member hm => (Doc.skipFault?_list.mp hw).1 member.2 (List.of_mem_zip hm).2
  | _ => cases h

private theorem recordFlaw_iff {fields : List Field} {doc : Doc} {members : List (Key × Doc)}
    (h : doc.members? (fields.map (·.name)) = some members) :
    RecordFlaw fields doc ↔ MembersFlaw fields members := by
  constructor
  · intro hflaw
    cases hflaw with
    | kind hkind => cases hkind.symm.trans h
    | members hmembers hm => cases hmembers.symm.trans h; exact hm
  · exact .members h

/-! ## Decoders -/

/-- Of the documents of whole form, a decoder accepts those without the flaw. -/
def Decoder.Judges (decoder : Decoder α) (flaw : Flaw) : Prop :=
  ∀ ⦃doc : Doc⦄, doc.skipFault? = none → ((∃ value, decoder doc = .ok value) ↔ ¬ flaw doc)

namespace Decoder

variable {decoder : Decoder α} {flaw : Flaw}

theorem judges_text : text.Judges TextFlaw := by
  intro doc _
  simp only [text_eq_ok, TextFlaw, not_forall, not_not]

theorem judges_flag : flag.Judges FlagFlaw := by
  intro doc _
  simp only [flag_eq_ok, FlagFlaw, not_forall, not_not]

theorem Judges.map (h : decoder.Judges flaw) (f : α → β) :
    Judges (fun doc => (decoder doc).map f) flaw := by
  intro doc hw
  rw [← h hw]
  constructor
  · rintro ⟨_, hmap⟩
    obtain ⟨value, hvalue, -⟩ := map_eq_ok.mp hmap
    exact ⟨value, hvalue⟩
  · rintro ⟨value, hvalue⟩
    exact ⟨f value, map_eq_ok.mpr ⟨value, hvalue, rfl⟩⟩

theorem Judges.optional (h : decoder.Judges flaw) :
    (Decoder.optional decoder).Judges (OptionalFlaw flaw) := by
  intro doc hw
  by_cases hnull : doc = .null
  · subst hnull
    exact iff_of_true ⟨none, rfl⟩ fun hflaw => hflaw.1 rfl
  · rw [OptionalFlaw, not_and, ← h hw]
    constructor
    · rintro ⟨_, hvalue⟩ -
      rcases optional_eq_ok.mp hvalue with ⟨hnone, -⟩ | ⟨-, given, hgiven, -⟩
      · exact (hnull hnone).elim
      · exact ⟨given, hgiven⟩
    · intro hsome
      obtain ⟨given, hgiven⟩ := hsome hnull
      exact ⟨some given, optional_eq_ok.mpr (.inr ⟨hnull, given, hgiven, rfl⟩)⟩

private theorem exists_forall₂_iff {γ : Type} {related : β → γ → Prop} {items : List β} :
    (∃ values, List.Forall₂ related items values) ↔ ∀ item ∈ items, ∃ value, related item value := by
  induction items with
  | nil => simp
  | cons item items ih => simp [List.forall₂_cons_left_iff, ← ih]

theorem Judges.list (h : decoder.Judges flaw) :
    (Decoder.list decoder).Judges (ListFlaw flaw) := by
  intro doc hw
  simp only [list_eq_ok]
  constructor
  · rintro ⟨values, items, rfl, hitems⟩ hflaw
    have hread := exists_forall₂_iff.mp ⟨values, hitems⟩
    cases hflaw with
    | kind hkind => exact hkind _ _ rfl
    | @item _ _ item hm hitem =>
      exact (h ((Doc.skipFault?_list.mp hw).1 item hm)).mp (hread item hm) hitem
  · intro hflaw
    cases doc with
    | list items ending =>
      obtain ⟨hwhole, rfl⟩ := Doc.skipFault?_list.mp hw
      obtain ⟨values, hvalues⟩ := exists_forall₂_iff.mpr fun item hm =>
        (h (hwhole item hm)).mpr fun hitem => hflaw (.item hm hitem)
      exact ⟨values, items, rfl, hvalues⟩
    | _ => exact (hflaw (.kind fun _ _ => nofun)).elim

end Decoder

/-! ## Records -/

/-- A slot is the slot of a field, whatever the draft is. -/
structure Slot.Judges (slot : Slot δ) (field : Field) : Prop where
  name : slot.name = field.name
  optional : slot.optional = field.optional
  reads : ∀ {doc : Doc}, doc.skipFault? = none → ∀ draft,
    (∃ next, slot.read doc draft = .ok next) ↔ ¬ field.flaw doc

theorem Slot.judges_ofField {name : String} {optional : Bool} {decoder : Decoder β}
    {field : δ → Option β} {set : δ → β → δ} {flaw : Flaw} (h : decoder.Judges flaw) :
    (ofField name optional decoder field set).Judges ⟨name, optional, flaw⟩ where
  name := rfl
  optional := rfl
  reads hw draft := h.map (set draft) hw

/-- The fields of a record are those of its shape, and all that is built needs are those that must
not be missing. -/
structure Shape.Judges (shape : Shape δ α) (fields : List Field) : Prop where
  orderly : Slot.Orderly shape.slots
  slots : List.Forall₂ Slot.Judges shape.slots fields
  empty : ∀ slot ∈ shape.slots, slot.filled shape.empty = false
  builds : ∀ draft, (∃ value, shape.build draft = .ok value) ↔
    ∀ slot ∈ shape.slots, slot.optional = false → slot.filled draft = true

namespace Shape.Judges

variable {shape : Shape δ α} {fields : List Field} {members : List (Key × Doc)}

private theorem exists_slot {slots : List (Slot δ)} (h : List.Forall₂ Slot.Judges slots fields) :
    ∀ field ∈ fields, ∃ slot ∈ slots, slot.Judges field := by
  induction h with
  | nil => exact List.forall_mem_nil _
  | cons hslot _ ih => simpa [hslot] using fun field hf => .inr (ih field hf)

private theorem exists_field {slots : List (Slot δ)} (h : List.Forall₂ Slot.Judges slots fields) :
    ∀ slot ∈ slots, ∃ field ∈ fields, slot.Judges field := by
  induction h with
  | nil => exact List.forall_mem_nil _
  | cons hslot _ ih => simpa [hslot] using fun slot hs => .inr (ih slot hs)

private theorem map_name {slots : List (Slot δ)} (h : List.Forall₂ Slot.Judges slots fields) :
    slots.map (·.name) = fields.map (·.name) := by
  induction h with
  | nil => rfl
  | cons hslot _ ih => rw [List.map_cons, List.map_cons, hslot.name, ih]

/-- Members fill a draft that is enough for the record unless there is something wrong with them. -/
theorem exists_build_iff (h : shape.Judges fields)
    (hw : ∀ member ∈ members, member.2.skipFault? = none) :
    (∃ last value, Fills shape.slots members shape.empty last ∧ shape.build last = .ok value) ↔
      ¬ MembersFlaw fields members := by
  constructor
  · rintro ⟨last, value, hfills, hbuild⟩ hflaw
    cases hflaw with
    | key hm => exact hfills.key_ne_error _ _ hm
    | missing hf hn hm =>
      obtain ⟨slot, hs, hslot⟩ := exists_slot h.slots _ hf
      have hfilled := (h.builds last).mp ⟨value, hbuild⟩ slot hs (hslot.optional.trans hn)
      rcases (hfills.filled_iff h.orderly hs).mp hfilled with hempty | ⟨given, hgiven⟩
      · rw [h.empty slot hs] at hempty
        cases hempty
      · exact hm given (hslot.name ▸ hgiven)
    | repeated hf hm =>
      obtain ⟨slot, hs, hslot⟩ := exists_slot h.slots _ hf
      rw [← hslot.name] at hm
      exact hfills.not_repeated h.orderly hs _ _ hm
    | value hf hm hv =>
      obtain ⟨slot, hs, hslot⟩ := exists_slot h.slots _ hf
      have hwhole := hw _ hm
      rw [← hslot.name] at hm
      obtain ⟨mid, hread⟩ := hfills.exists_read h.orderly hs hm
      exact (hslot.reads hwhole mid).mp ⟨last, hread⟩ hv
  · intro hflaw
    have hfill : ∃ last, Fills shape.slots members shape.empty last := by
      refine exists_fills h.orderly hw (fun fault value hm => hflaw (.key hm)) ?_ ?_ ?_
      · intro slot hs hfilled
        rw [h.empty slot hs] at hfilled
        cases hfilled
      · intro slot hs first second hm
        obtain ⟨field, hf, hslot⟩ := exists_field h.slots slot hs
        exact hflaw (.repeated hf (hslot.name ▸ hm))
      · intro slot hs value hm draft
        obtain ⟨field, hf, hslot⟩ := exists_field h.slots slot hs
        exact (hslot.reads (hw _ hm) draft).mpr fun hv => hflaw (.value hf (hslot.name ▸ hm) hv)
    obtain ⟨last, hfills⟩ := hfill
    have henough : ∀ slot ∈ shape.slots, slot.optional = false → slot.filled last = true := by
      intro slot hs hn
      obtain ⟨field, hf, hslot⟩ := exists_field h.slots slot hs
      rw [hfills.filled_iff h.orderly hs, hslot.name]
      by_contra hnot
      exact hflaw (.missing hf (hslot.optional.symm.trans hn)
        fun value hm => hnot (.inr ⟨value, hm⟩))
    obtain ⟨value, hbuild⟩ := (h.builds last).mpr henough
    exact ⟨last, value, hfills, hbuild⟩

theorem decoder_eq_ok (h : shape.Judges fields) {doc : Doc} {value : α}
    (hw : doc.skipFault? = none) :
    shape.decoder doc = .ok value ↔ ∃ members last,
      doc.members? (fields.map (·.name)) = some members ∧
        Fills shape.slots members shape.empty last ∧ shape.build last = .ok value := by
  rw [← map_name h.slots]
  cases doc with
  | object members ending =>
    obtain ⟨-, rfl⟩ := Doc.skipFault?_object.mp hw
    constructor
    · intro hvalue
      obtain ⟨last, hlast, hbuild⟩ := bind_eq_ok.mp hvalue
      exact ⟨members, last, rfl, (readMembers_eq_ok.mp hlast).1, hbuild⟩
    · rintro ⟨_, last, ⟨⟩, hfills, hbuild⟩
      exact decoder_object hfills hbuild
  | list items ending =>
    obtain ⟨-, rfl⟩ := Doc.skipFault?_list.mp hw
    have hread := readItems_eq_ok h.orderly (fun _ hs => hs) h.orderly.apart h.empty
      (lengthText shape.title shape.slots.length) 0 items
    simp only [Doc.members?, List.length_map, Option.ite_none_right_eq_some, Option.some.injEq]
    constructor
    · intro hvalue
      obtain ⟨last, hlast, hbuild⟩ := bind_eq_ok.mp hvalue
      obtain ⟨hlength, -, hfills⟩ := (hread last).mp hlast
      exact ⟨_, last, ⟨hlength, rfl⟩, hfills, hbuild⟩
    · rintro ⟨_, last, ⟨hlength, rfl⟩, hfills, hbuild⟩
      refine bind_eq_ok.mpr ⟨last, (hread last).mpr ⟨hlength, fun slot hdrop => ?_, hfills⟩, hbuild⟩
      by_contra hn
      have hs := List.mem_of_mem_drop hdrop
      have hfilled := (h.builds last).mp ⟨value, hbuild⟩ slot hs (Bool.eq_false_iff.mpr hn)
      rcases (hfills.filled_iff h.orderly hs).mp hfilled with hempty | ⟨given, hgiven⟩
      · rw [h.empty slot hs] at hempty
        cases hempty
      · exact not_mem_zip_of_drop h.orderly.apart hdrop given hgiven
  | _ =>
    refine iff_of_false Decoder.wrongKind_ne_ok ?_
    rintro ⟨_, _, ⟨⟩, -⟩

/-- A record is accepted unless there is something wrong with it. -/
theorem judges_decoder (h : shape.Judges fields) : shape.decoder.Judges (RecordFlaw fields) := by
  intro doc hw
  simp only [h.decoder_eq_ok hw]
  cases hmembers : doc.members? (fields.map (·.name)) with
  | none => exact iff_of_false (by simp) (not_not.mpr (.kind hmembers))
  | some members =>
    rw [recordFlaw_iff hmembers, ← h.exists_build_iff (whole_of_members hw hmembers)]
    constructor
    · rintro ⟨value, _, last, ⟨⟩, hfills, hbuild⟩
      exact ⟨last, value, hfills, hbuild⟩
    · rintro ⟨last, value, hfills, hbuild⟩
      exact ⟨value, members, last, rfl, hfills, hbuild⟩

end Shape.Judges

end RuntimeFlag.Json
