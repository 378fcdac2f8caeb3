import Mathlib.Data.List.Forall2
import RuntimeFlag.Proofs.Json.Members
/-!
# What is accepted is whole

A decoder that accepts a document has seen all of it: no part of it is broken, so the text that was
decoded is a spelling of it. What a decoder makes of a text is therefore what it makes of the
document that the text spells.
-/
namespace RuntimeFlag.Json

variable {α β δ : Type}

/-- A decoder that accepts no document with a fault. -/
def Decoder.Strict (decoder : Decoder α) : Prop :=
  ∀ ⦃doc value⦄, decoder doc = .ok value → doc.skipFault? = none

/-! ## Texts -/

theorem decode_of_spelling {doc : Doc} {bs : Bytes} (h : doc.Spelling bs) (decoder : Decoder α) :
    decode decoder bs = decoder doc := by
  rw [decode, readDoc_of_spelling h]
  cases decoder doc <;> rfl

theorem decode_eq_ok {decoder : Decoder α} (hs : decoder.Strict) {bs : Bytes} {value : α} :
    decode decoder bs = .ok value ↔ ∃ doc : Doc, doc.Spelling bs ∧ decoder doc = .ok value := by
  constructor
  · intro h
    obtain ⟨accepted, hdecoder, h⟩ := bind_eq_ok.mp h
    split at h
    · cases h
    · next hmore =>
      cases h
      refine ⟨_, Doc.spelling_iff.mpr ⟨Prod.ext rfl ?_, hs hdecoder⟩, hdecoder⟩
      exact Bool.eq_false_iff.mpr hmore
  · rintro ⟨doc, hspelling, hdecoder⟩
    rw [decode_of_spelling hspelling, hdecoder]

/-! ## Plain values -/

namespace Decoder

theorem wrongKind_ne_ok {expected : String} {doc : Doc} {value : α} :
    wrongKind expected doc ≠ .ok value := by
  intro h
  obtain ⟨_, -, hthrow⟩ := bind_eq_ok.mp h
  cases hthrow

theorem text_eq_ok {doc : Doc} {value : String} : text doc = .ok value ↔ doc = .text (.ok value) := by
  constructor
  · intro h
    unfold text at h
    split at h
    · exact congrArg Doc.text h
    · exact (wrongKind_ne_ok h).elim
  · rintro rfl
    rfl

theorem flag_eq_ok {doc : Doc} {value : Bool} : flag doc = .ok value ↔ doc = .flag value := by
  constructor
  · intro h
    unfold flag at h
    split at h
    · exact congrArg Doc.flag (Except.ok.inj h)
    · exact (wrongKind_ne_ok h).elim
  · rintro rfl
    rfl

theorem optional_eq_ok {decoder : Decoder α} {doc : Doc} {value : Option α} :
    optional decoder doc = .ok value ↔
      (doc = .null ∧ value = none) ∨ (doc ≠ .null ∧ ∃ given, decoder doc = .ok given ∧
        value = some given) := by
  unfold optional
  split
  · constructor
    · intro h
      exact .inl ⟨rfl, (Except.ok.inj h).symm⟩
    · rintro (⟨-, rfl⟩ | ⟨hne, -⟩)
      · rfl
      · exact (hne rfl).elim
  · next hne =>
    rw [map_eq_ok]
    constructor
    · rintro ⟨given, hgiven, rfl⟩
      exact .inr ⟨hne, given, hgiven, rfl⟩
    · rintro (⟨rfl, -⟩ | ⟨-, given, hgiven, rfl⟩)
      · exact (hne rfl).elim
      · exact ⟨given, hgiven, rfl⟩

theorem strict_text : text.Strict := by
  intro doc value h
  rw [text_eq_ok.mp h]
  rfl

theorem strict_flag : flag.Strict := by
  intro doc value h
  rw [flag_eq_ok.mp h]
  rfl

theorem Strict.optional {decoder : Decoder α} (hs : decoder.Strict) :
    (Decoder.optional decoder).Strict := by
  intro doc value h
  rcases optional_eq_ok.mp h with ⟨rfl, -⟩ | ⟨-, given, hgiven, -⟩
  · rfl
  · exact hs hgiven

private theorem mapM_eq_ok {decoder : Decoder α} {items : List Doc} {values : List α} :
    items.mapM decoder = .ok values ↔
      List.Forall₂ (fun item value => decoder item = .ok value) items values := by
  induction items generalizing values with
  | nil =>
    rw [List.mapM_nil, List.forall₂_nil_left_iff]
    exact ⟨fun h => (Except.ok.inj h).symm, fun h => h ▸ rfl⟩
  | cons item items ih =>
    rw [List.mapM_cons, bind_eq_ok, List.forall₂_cons_left_iff]
    constructor
    · rintro ⟨value, hvalue, h⟩
      obtain ⟨rest, hrest, h⟩ := bind_eq_ok.mp h
      exact ⟨value, rest, hvalue, ih.mp hrest, (Except.ok.inj h).symm⟩
    · rintro ⟨value, rest, hvalue, hrest, rfl⟩
      exact ⟨value, hvalue, bind_eq_ok.mpr ⟨rest, ih.mpr hrest, rfl⟩⟩

theorem list_eq_ok {decoder : Decoder α} {doc : Doc} {values : List α} :
    list decoder doc = .ok values ↔ ∃ items, doc = .list items .closed ∧
      List.Forall₂ (fun item value => decoder item = .ok value) items values := by
  constructor
  · intro h
    unfold list at h
    split at h
    · next items ending =>
      obtain ⟨read, hitems, h⟩ := bind_eq_ok.mp h
      obtain ⟨_, hend, h⟩ := bind_eq_ok.mp h
      cases h
      rw [ListEnd.fault?_eq_none.mp (failIf_eq_ok.mp hend)]
      exact ⟨items, rfl, mapM_eq_ok.mp hitems⟩
    · exact (wrongKind_ne_ok h).elim
  · rintro ⟨items, rfl, hitems⟩
    rw [list, mapM_eq_ok.mpr hitems]
    rfl

theorem Strict.list {decoder : Decoder α} (hs : decoder.Strict) : (Decoder.list decoder).Strict := by
  intro doc values h
  obtain ⟨items, rfl, hitems⟩ := list_eq_ok.mp h
  have hwhole := hitems.imp fun item value h => And.intro (hs h) h
  exact Doc.skipFault?_list.mpr ⟨((List.forall₂_and_left _ _).mp hwhole).1, rfl⟩

theorem Strict.map {decoder : Decoder α} (hs : decoder.Strict) (f : α → β) :
    Strict fun doc => (decoder doc).map f := by
  intro doc value h
  obtain ⟨_, hdecoder, -⟩ := map_eq_ok.mp h
  exact hs hdecoder

end Decoder

/-! ## Records -/

namespace Slot

variable {name : String} {optional : Bool} {decoder : Decoder β} {field : δ → Option β}
  {set : δ → β → δ}

theorem lawful_ofField (hd : decoder.Strict)
    (hs : ∀ draft value, field (set draft value) = some value) :
    (ofField name optional decoder field set).Lawful where
  fills h := by
    obtain ⟨value, -, rfl⟩ := map_eq_ok.mp h
    simp [ofField, hs]
  whole h := by
    obtain ⟨value, hvalue, -⟩ := map_eq_ok.mp h
    exact hd hvalue

theorem apart_ofField {other : String} {second : Bool} {reader : Decoder α} {slot : δ → Option α}
    {put : δ → α → δ} (hname : name ≠ other) (hs : ∀ draft value, slot (set draft value) = slot draft)
    (hp : ∀ draft value, field (put draft value) = field draft)
    (hc : ∀ draft value more, put (set draft value) more = set (put draft more) value) :
    (ofField name optional decoder field set).Apart (ofField other second reader slot put) where
  names := hname
  left := {
    keeps := by
      intro doc draft next h
      obtain ⟨value, -, rfl⟩ := map_eq_ok.mp h
      exact congrArg Option.isSome (hs draft value)
    swaps := by
      intro doc draft next more last h hmore
      obtain ⟨value, hvalue, rfl⟩ := map_eq_ok.mp h
      obtain ⟨given, hgiven, rfl⟩ := map_eq_ok.mp hmore
      refine ⟨put draft given, map_eq_ok.mpr ⟨given, hgiven, rfl⟩, ?_⟩
      exact map_eq_ok.mpr ⟨value, hvalue, (hc draft value given).symm⟩ }
  right := {
    keeps := by
      intro doc draft next h
      obtain ⟨value, -, rfl⟩ := map_eq_ok.mp h
      exact congrArg Option.isSome (hp draft value)
    swaps := by
      intro doc draft next more last h hmore
      obtain ⟨value, hvalue, rfl⟩ := map_eq_ok.mp h
      obtain ⟨given, hgiven, rfl⟩ := map_eq_ok.mp hmore
      refine ⟨set draft given, map_eq_ok.mpr ⟨given, hgiven, rfl⟩, ?_⟩
      exact map_eq_ok.mpr ⟨value, hvalue, hc draft given value⟩ }

end Slot

namespace Shape

variable {shape : Shape δ α} {slots : List (Slot δ)} {draft last : δ}

private theorem Fills.whole (hl : ∀ slot ∈ slots, slot.Lawful) {members : List (Key × Doc)}
    (h : Fills slots members draft last) : ∀ member ∈ members, member.2.skipFault? = none := by
  induction h with
  | nil => exact fun _ hm => nomatch hm
  | known hname _ hread _ ih =>
    exact List.forall_mem_cons.mpr
      ⟨(hl _ (List.mem_of_find?_eq_some hname)).whole hread, ih⟩
  | unknown _ hvalue _ ih => exact List.forall_mem_cons.mpr ⟨hvalue, ih⟩

private theorem readItems_whole (hl : ∀ slot ∈ slots, slot.Lawful) {expected : String} {index : Nat}
    {items : List Doc} {ending : ListEnd}
    (h : readItems expected index slots items ending draft = .ok last) :
    (∀ item ∈ items, item.skipFault? = none) ∧ ending = .closed := by
  induction slots generalizing index items draft with
  | nil =>
    cases items with
    | nil =>
      obtain ⟨_, hend, -⟩ := bind_eq_ok.mp h
      exact ⟨fun _ hm => (nomatch hm), ListEnd.excessFault?_eq_none.mp (failIf_eq_ok.mp hend)⟩
    | cons item items => cases h
  | cons slot slots ih =>
    obtain ⟨hslot, hrest⟩ := List.forall_mem_cons.mp hl
    cases items with
    | nil =>
      obtain ⟨_, hend, -⟩ := bind_eq_ok.mp h
      exact ⟨fun _ hm => (nomatch hm), ListEnd.fault?_eq_none.mp (failIf_eq_ok.mp hend)⟩
    | cons item items =>
      obtain ⟨next, hread, h⟩ := bind_eq_ok.mp h
      obtain ⟨hitems, hend⟩ := ih hrest h
      exact ⟨List.forall_mem_cons.mpr ⟨hslot.whole hread, hitems⟩, hend⟩

theorem strict_decoder (hl : ∀ slot ∈ shape.slots, slot.Lawful) : shape.decoder.Strict := by
  intro doc value h
  unfold decoder at h
  split at h
  · next members ending =>
    obtain ⟨filled, hread, -⟩ := bind_eq_ok.mp h
    obtain ⟨hfills, hend⟩ := readMembers_eq_ok.mp hread
    exact Doc.skipFault?_object.mpr ⟨hfills.whole hl, ObjectEnd.fault?_eq_none.mp hend⟩
  · next items ending =>
    obtain ⟨filled, hread, -⟩ := bind_eq_ok.mp h
    exact Doc.skipFault?_list.mpr (readItems_whole hl hread)
  · exact (Decoder.wrongKind_ne_ok h).elim

/-- An object whose members fill a draft is read as what is built from the draft. -/
theorem decoder_object {members : List (Key × Doc)} {value : α}
    (h : Fills shape.slots members shape.empty last) (hb : shape.build last = .ok value) :
    shape.decoder (.object members .closed) = .ok value := by
  have hread := readMembers_eq_ok.mpr ⟨h, ObjectEnd.fault?_eq_none.mpr rfl⟩
  rw [decoder, hread]
  exact hb

end Shape

end RuntimeFlag.Json
