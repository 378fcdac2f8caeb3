import RuntimeFlag.Proofs.Json.Reading
/-!
# What is read whole is spelled

A reading knows at every byte how the bytes before it have the form of the containers that are open
and of the part that is being read. A document without faults therefore comes from a spelling of it,
and `Doc.spelling_iff` tells the spellings of a document by the reader.
-/
namespace RuntimeFlag.Json

/-! ## Documents without faults -/

private theorem skipFaultOfItems?_eq_none {items : List Doc} :
    skipFaultOfItems? items = none ↔ ∀ item ∈ items, item.skipFault? = none := by
  induction items with
  | nil => exact ⟨fun _ _ h => (nomatch h), fun _ => rfl⟩
  | cons item items ih => rw [skipFaultOfItems?, Option.or_eq_none_iff, ih, List.forall_mem_cons]

private theorem skipFaultOfMembers?_eq_none {members : List (Key × Doc)} :
    skipFaultOfMembers? members = none ↔ ∀ member ∈ members, member.2.skipFault? = none := by
  induction members with
  | nil => exact ⟨fun _ _ h => (nomatch h), fun _ => rfl⟩
  | cons member members ih =>
    rw [skipFaultOfMembers?, Option.or_eq_none_iff, ih, List.forall_mem_cons]

private theorem ListEnd.skipFault?_eq_none {ending : ListEnd} :
    ending.skipFault? = none ↔ ending = .closed := by
  cases ending <;> simp [ListEnd.skipFault?, ListEnd.fault?]

private theorem ObjectEnd.skipFault?_eq_none {ending : ObjectEnd} :
    ending.skipFault? = none ↔ ending = .closed := by
  cases ending <;> simp [ObjectEnd.skipFault?, ObjectEnd.fault?]

theorem Doc.skipFault?_list {items : List Doc} {ending : ListEnd} :
    (Doc.list items ending).skipFault? = none ↔
      (∀ item ∈ items, item.skipFault? = none) ∧ ending = .closed := by
  rw [Doc.skipFault?, Option.or_eq_none_iff, skipFaultOfItems?_eq_none,
    ListEnd.skipFault?_eq_none]

theorem Doc.skipFault?_object {members : List (Key × Doc)} {ending : ObjectEnd} :
    (Doc.object members ending).skipFault? = none ↔
      (∀ member ∈ members, member.2.skipFault? = none) ∧ ending = .closed := by
  rw [Doc.skipFault?, Option.or_eq_none_iff, skipFaultOfMembers?_eq_none,
    ObjectEnd.skipFault?_eq_none]

/-- A part of a text without faults. -/
def Piece.Whole : Piece → Prop
  | .value doc => doc.skipFault? = none
  | .items before last => ∀ item ∈ before ++ [last], item.skipFault? = none
  | .members before key last => ∀ member ∈ before ++ [(key, last)], member.2.skipFault? = none

private theorem whole_of_spells {piece : Piece} {bs : Bytes} (h : Spells piece bs) :
    piece.Whole := by
  induction h with
  | null => rfl
  | flag b => rfl
  | number h =>
    rw [Piece.Whole, Reading.numeralDoc]
    split <;> rfl
  | text h => rfl
  | emptyList hw => rfl
  | firstItem hw h ih => exact List.forall_mem_singleton.mpr ih
  | nextItem hs hw hm h ihs ih =>
    exact List.forall_mem_append.mpr ⟨ihs, List.forall_mem_singleton.mpr ih⟩
  | list hs hw ih => exact Doc.skipFault?_list.mpr ⟨ih, rfl⟩
  | emptyObject hw => rfl
  | firstMember hw hk h ih => exact List.forall_mem_singleton.mpr ih
  | nextMember hs hw hm hk h ihs ih =>
    exact List.forall_mem_append.mpr ⟨ihs, List.forall_mem_singleton.mpr ih⟩
  | object hs hw ih => exact Doc.skipFault?_object.mpr ⟨ih, rfl⟩

private theorem SpellsKey.blank {key : Key} {bs : Bytes} {b : UInt8} (h : SpellsKey key bs)
    (hb : isSpace b = true) : SpellsKey key (bs ++ [b]) := by
  obtain ⟨ht, hw, hm⟩ := h
  have hkey := SpellsKey.mk ht hw (hm.concat hb)
  simpa using hkey

private theorem Doc.Spelling.blank {doc : Doc} {bs : Bytes} {b : UInt8} (h : doc.Spelling bs)
    (hb : isSpace b = true) : doc.Spelling (bs ++ [b]) := by
  obtain ⟨front, value, back, hfront, hback, hvalue, rfl⟩ := h
  exact ⟨front, value, back ++ [b], hfront, hback.concat hb, hvalue, List.append_assoc _ _ _⟩

namespace Reading

private theorem skipFault?_enclose {doc : Doc} (h : doc.skipFault? ≠ none) (outer : List Frame) :
    (enclose outer doc).skipFault? ≠ none := by
  induction outer generalizing doc with
  | nil => exact h
  | cons frame outer ih =>
    cases frame with
    | list items => exact ih fun hw => ListEnd.noConfusion (Doc.skipFault?_list.mp hw).2
    | object members key =>
      exact ih fun hw => ObjectEnd.noConfusion (Doc.skipFault?_object.mp hw).2

private theorem skipFault?_endList (items : List Doc) {ending : ListEnd} (h : ending ≠ .closed) :
    (endList items ending).skipFault? ≠ none :=
  fun hw => h (Doc.skipFault?_list.mp hw).2

private theorem skipFault?_endObject (members : List (Key × Doc)) {ending : ObjectEnd}
    (h : ending ≠ .closed) : (endObject members ending).skipFault? ≠ none :=
  fun hw => h (Doc.skipFault?_object.mp hw).2

private theorem skipFault?_broken (read skipped : Fault) :
    (Doc.broken read skipped).skipFault? ≠ none :=
  Option.some_ne_none _

private theorem skipFault?_cutAt (outer : List Frame) (place : Place) :
    (cutAt outer place).skipFault? ≠ none := by
  cases place with
  | value => exact skipFault?_enclose (skipFault?_broken _ _) _
  | item items comma =>
    refine skipFault?_enclose (skipFault?_endList items ?_) _
    cases comma <;> exact ListEnd.noConfusion
  | itemEnd items => exact skipFault?_enclose (skipFault?_endList items ListEnd.noConfusion) _
  | key members comma =>
    refine skipFault?_enclose (skipFault?_endObject members ?_) _
    cases comma <;> exact ObjectEnd.noConfusion
  | keyText members scan =>
    exact skipFault?_enclose (skipFault?_endObject members ObjectEnd.noConfusion) _
  | colon members key => exact skipFault?_enclose (skipFault?_broken _ _) _
  | memberEnd members =>
    exact skipFault?_enclose (skipFault?_endObject members ObjectEnd.noConfusion) _
  | word left meant => exact skipFault?_enclose (skipFault?_broken _ _) _
  | numeral read place => exact skipFault?_enclose (skipFault?_broken _ _) _
  | text scan => exact skipFault?_enclose (skipFault?_broken _ _) _

/-! ## Open containers -/

/-- The bytes of an open list up to the place of an item. -/
inductive ItemStart : List Doc → Bool → Bytes → Prop
  | first {ws : Bytes} (hw : Blank ws) : ItemStart [] false (0x5B :: ws)
  | next {items : List Doc} {last : Doc} {start ws more : Bytes}
    (hs : Spells (.items items.reverse last) start) (hw : Blank ws) (hm : Blank more) :
    ItemStart (last :: items) true (start ++ ws ++ 0x2C :: more)

/-- The bytes of an open object up to the place of a member. -/
inductive MemberStart : List (Key × Doc) → Bool → Bytes → Prop
  | first {ws : Bytes} (hw : Blank ws) : MemberStart [] false (0x7B :: ws)
  | next {members : List (Key × Doc)} {key : Key} {last : Doc} {start ws more : Bytes}
    (hs : Spells (.members members.reverse key last) start) (hw : Blank ws) (hm : Blank more) :
    MemberStart ((key, last) :: members) true (start ++ ws ++ 0x2C :: more)

/-- The bytes of the open containers up to the place of a value. -/
inductive Within : List Frame → Bytes → Prop
  | nil {ws : Bytes} (hw : Blank ws) : Within [] ws
  | list {outer : List Frame} {pre start : Bytes} {items : List Doc} {comma : Bool}
    (h : Within outer pre) (hs : ItemStart items comma start) :
    Within (.list items :: outer) (pre ++ start)
  | object {outer : List Frame} {pre start name : Bytes} {members : List (Key × Doc)}
    {comma : Bool} {key : Key} (h : Within outer pre) (hs : MemberStart members comma start)
    (hk : SpellsKey key name) : Within (.object members key :: outer) (pre ++ (start ++ name))

/-- The bytes of what is being read in the innermost container. -/
inductive At : Place → Bytes → Prop
  | value : At .value []
  | item {items : List Doc} {comma : Bool} {start : Bytes} (hs : ItemStart items comma start) :
    At (.item items comma) start
  | itemEnd {items : List Doc} {last : Doc} {start ws : Bytes}
    (hs : Spells (.items items.reverse last) start) (hw : Blank ws) :
    At (.itemEnd (last :: items)) (start ++ ws)
  | key {members : List (Key × Doc)} {comma : Bool} {start : Bytes}
    (hs : MemberStart members comma start) : At (.key members comma) start
  | keyText {members : List (Key × Doc)} {comma : Bool} {start raw : Bytes} {scan : TextScan}
    (hs : MemberStart members comma start) (h : scan.Scanned raw) :
    At (.keyText members scan) (start ++ 0x22 :: raw)
  | colon {members : List (Key × Doc)} {comma : Bool} {start name ws : Bytes} {key : Key}
    (hs : MemberStart members comma start) (hk : SpellsText key name) (hw : Blank ws) :
    At (.colon members key) (start ++ (name ++ ws))
  | memberEnd {members : List (Key × Doc)} {key : Key} {last : Doc} {start ws : Bytes}
    (hs : Spells (.members members.reverse key last) start) (hw : Blank ws) :
    At (.memberEnd ((key, last) :: members)) (start ++ ws)
  | word {read left : Bytes} {meant : Doc} (hne : left ≠ [])
    (h : Spells (.value meant) (read ++ left)) : At (.word left meant) read
  | numeral {bs : Bytes} {place : NumeralPlace} (h : NumeralPlace.Reaches bs place) :
    At (.numeral bs.reverse place) bs
  | text {raw : Bytes} {scan : TextScan} (h : scan.Scanned raw) : At (.text scan) (0x22 :: raw)

/-- A reading knows the form of the bytes that it has read. -/
inductive Track : Reading → Bytes → Prop
  | inside {place : Place} {outer : List Frame} {pre cur : Bytes} (h : Within outer pre)
    (ha : At place cur) : Track (.inside place outer) (pre ++ cur)
  | closed {doc : Doc} {bs : Bytes} (h : doc.Spelling bs) : Track (.closed doc false) bs
  | beyond (doc : Doc) (bs : Bytes) : Track (.closed doc true) bs
  | broken {doc : Doc} (h : doc.skipFault? ≠ none) (bs : Bytes) : Track (.broken doc) bs

private theorem track_breakOff {doc : Doc} (h : doc.skipFault? ≠ none) (outer : List Frame)
    (bs : Bytes) :
    (breakOff outer doc).Track bs :=
  .broken (skipFault?_enclose h outer) bs

private theorem track_fail (outer : List Frame) (fault : Fault) (bs : Bytes) :
    (fail outer fault).Track bs :=
  track_breakOff (skipFault?_broken fault fault) outer bs

/-! ## Values -/

private theorem ItemStart.spells {items : List Doc} {comma : Bool} {start bs : Bytes} {doc : Doc}
    (h : ItemStart items comma start) (hv : Spells (.value doc) bs) :
    Spells (.items items.reverse doc) (start ++ bs) := by
  cases h with
  | first hw => exact .firstItem hw hv
  | next hs hw hm =>
    rw [List.reverse_cons]
    exact .nextItem hs hw hm hv

private theorem MemberStart.spells {members : List (Key × Doc)} {comma : Bool}
    {start name bs : Bytes} {key : Key} {doc : Doc} (h : MemberStart members comma start)
    (hk : SpellsKey key name) (hv : Spells (.value doc) bs) :
    Spells (.members members.reverse key doc) (start ++ name ++ bs) := by
  cases h with
  | first hw => exact .firstMember hw hk hv
  | next hs hw hm =>
    rw [List.reverse_cons]
    exact .nextMember hs hw hm hk hv

variable {outer : List Frame} {pre : Bytes}

/-- A value that has been read takes its place in its container. -/
theorem Within.complete {doc : Doc} {bs : Bytes} (h : Within outer pre)
    (hv : Spells (.value doc) bs) : (complete doc outer).Track (pre ++ bs) := by
  cases h with
  | nil hw => exact .closed ⟨pre, bs, [], hw, .nil, hv, (List.append_nil _).symm⟩
  | list h hs =>
    have hat := At.itemEnd (hs.spells hv) .nil
    rw [List.append_nil] at hat
    rw [List.append_assoc]
    exact .inside h hat
  | object h hs hk =>
    have hat := At.memberEnd (hs.spells hk hv) .nil
    rw [List.append_nil] at hat
    rw [List.append_assoc]
    exact .inside h hat

private theorem Within.startValue (h : Within outer pre) (b : UInt8) :
    (startValue b outer).Track (pre ++ [b]) := by
  unfold Reading.startValue
  split
  · next hb =>
    obtain rfl := TextScan.eq_of_char (d := 0x5B) hb
    exact .inside h (.item (.first .nil))
  · next hb =>
    obtain rfl := TextScan.eq_of_char (d := 0x7B) hb
    exact .inside h (.key (.first .nil))
  · next hb =>
    obtain rfl := TextScan.eq_of_char (d := 0x22) hb
    exact .inside h (.text TextScan.scanned_start)
  · next hb =>
    obtain rfl := TextScan.eq_of_char (d := 0x74) hb
    exact .inside h (.word (by decide) (.flag true))
  · next hb =>
    obtain rfl := TextScan.eq_of_char (d := 0x66) hb
    exact .inside h (.word (by decide) (.flag false))
  · next hb =>
    obtain rfl := TextScan.eq_of_char (d := 0x6E) hb
    exact .inside h (.word (by decide) .null)
  · next hb =>
    obtain rfl := TextScan.eq_of_char (d := 0x2D) hb
    exact .inside h (.numeral .sign)
  · split
    · next place hplace => exact .inside h (.numeral (.digit hplace))
    · exact track_fail outer .expectedValue _

/-! ## Between values -/

private theorem ItemStart.blank {items : List Doc} {comma : Bool} {start : Bytes} {b : UInt8}
    (h : ItemStart items comma start) (hb : isSpace b = true) :
    ItemStart items comma (start ++ [b]) := by
  cases h with
  | first hw => exact .first (hw.concat hb)
  | next hs hw hm =>
    have hstart := ItemStart.next hs hw (hm.concat hb)
    simpa using hstart

private theorem MemberStart.blank {members : List (Key × Doc)} {comma : Bool} {start : Bytes}
    {b : UInt8} (h : MemberStart members comma start) (hb : isSpace b = true) :
    MemberStart members comma (start ++ [b]) := by
  cases h with
  | first hw => exact .first (hw.concat hb)
  | next hs hw hm =>
    have hstart := MemberStart.next hs hw (hm.concat hb)
    simpa using hstart

private theorem Within.blank {b : UInt8} (h : Within outer pre) (hb : isSpace b = true) :
    Within outer (pre ++ [b]) := by
  cases h with
  | nil hw => exact .nil (hw.concat hb)
  | list h hs =>
    rw [List.append_assoc]
    exact .list h (hs.blank hb)
  | object h hs hk =>
    rw [List.append_assoc, List.append_assoc]
    exact .object h hs (hk.blank hb)

private theorem At.blank {place : Place} {cur : Bytes} {b : UInt8} (ha : At place cur)
    (hp : Between place) (hb : isSpace b = true) (h : Within outer pre) :
    (inside place outer).Track (pre ++ (cur ++ [b])) := by
  cases ha with
  | value => exact List.append_nil (pre ++ [b]) ▸ .inside (h.blank hb) .value
  | item hs => exact .inside h (.item (hs.blank hb))
  | itemEnd hs hw =>
    rw [List.append_assoc]
    exact .inside h (.itemEnd hs (hw.concat hb))
  | key hs => exact .inside h (.key (hs.blank hb))
  | colon hs hk hw =>
    rw [List.append_assoc, List.append_assoc]
    exact .inside h (.colon hs hk (hw.concat hb))
  | memberEnd hs hw =>
    rw [List.append_assoc]
    exact .inside h (.memberEnd hs (hw.concat hb))
  | keyText => exact hp.elim
  | word => exact hp.elim
  | numeral => exact hp.elim
  | text => exact hp.elim

private theorem ItemStart.step {items : List Doc} {comma : Bool} {start : Bytes}
    (hs : ItemStart items comma start) (h : Within outer pre) (b : UInt8) :
    (stepBetween b outer (.item items comma)).Track (pre ++ (start ++ [b])) := by
  rw [Reading.stepBetween]
  split
  · next hb =>
    split
    · exact track_breakOff (skipFault?_endList items ListEnd.noConfusion) outer _
    · next hcomma =>
      subst hb
      cases hs with
      | first hw => exact h.complete (.emptyList hw)
      | next => exact (hcomma rfl).elim
  · rw [← List.append_assoc]
    exact (Within.list h hs).startValue b

private theorem MemberStart.step {members : List (Key × Doc)} {comma : Bool} {start : Bytes}
    (hs : MemberStart members comma start) (h : Within outer pre) (b : UInt8) :
    (stepBetween b outer (.key members comma)).Track (pre ++ (start ++ [b])) := by
  rw [Reading.stepBetween]
  split
  · next hb =>
    subst hb
    exact .inside h (.keyText hs TextScan.scanned_start)
  · split
    · next hb =>
      split
      · exact track_breakOff (skipFault?_endObject members ObjectEnd.noConfusion) outer _
      · next hcomma =>
        subst hb
        cases hs with
        | first hw => exact h.complete (.emptyObject hw)
        | next => exact (hcomma rfl).elim
    · exact track_breakOff (skipFault?_endObject members ObjectEnd.noConfusion) outer _

private theorem At.stepBetween {place : Place} {cur : Bytes} (ha : At place cur)
    (h : Within outer pre) (b : UInt8) :
    (stepBetween b outer place).Track (pre ++ (cur ++ [b])) := by
  cases ha with
  | value => exact h.startValue b
  | item hs => exact hs.step h b
  | key hs => exact hs.step h b
  | @itemEnd items last start ws hs hw =>
    rw [Reading.stepBetween]
    split
    · next hb =>
      subst hb
      have hlist := Spells.list hs hw
      rw [← List.reverse_cons] at hlist
      exact h.complete hlist
    · split
      · next hb =>
        subst hb
        exact .inside h (.item (.next hs hw .nil))
      · exact track_breakOff (skipFault?_endList _ ListEnd.noConfusion) outer _
  | @colon members comma start name ws key hs hk hw =>
    rw [Reading.stepBetween]
    split
    · next hb =>
      subst hb
      have hwithin := Within.object h hs (.mk hk hw .nil)
      have htrack := Track.inside hwithin .value
      simpa using htrack
    · exact track_fail _ .expectedColon _
  | @memberEnd members key last start ws hs hw =>
    rw [Reading.stepBetween]
    split
    · next hb =>
      subst hb
      have hobject := Spells.object hs hw
      rw [← List.reverse_cons] at hobject
      exact h.complete hobject
    · split
      · next hb =>
        subst hb
        exact .inside h (.key (.next hs hw .nil))
      · exact track_breakOff (skipFault?_endObject _ ObjectEnd.noConfusion) outer _
  | keyText => exact track_fail outer .expectedValue _
  | word => exact track_fail outer .expectedValue _
  | numeral => exact track_fail outer .expectedValue _
  | text => exact track_fail outer .expectedValue _

/-! ## Steps -/

/-- A reading between the parts of a text, or behind the whole of it. -/
def Settled : Reading → Prop
  | .inside place _ => Between place
  | .closed _ _ | .broken _ => True

private theorem settled_complete (doc : Doc) (outer : List Frame) :
    (complete doc outer).Settled := by
  cases outer with
  | nil => exact trivial
  | cons frame outer => cases frame <;> exact trivial

private theorem Track.spaced {r : Reading} {bs : Bytes} (h : r.Track bs) (hs : r.Settled)
    (b : UInt8) :
    (stepSpaced b r).Track (bs ++ [b]) := by
  unfold stepSpaced
  split
  · next hb =>
    cases h with
    | inside h ha =>
      rw [List.append_assoc]
      exact ha.blank hs hb h
    | closed h => exact .closed (h.blank hb)
    | beyond => exact .beyond _ _
    | broken h => exact .broken h _
  · cases h with
    | inside h ha =>
      rw [List.append_assoc]
      exact ha.stepBetween h b
    | closed => exact .beyond _ _
    | beyond => exact .beyond _ _
    | broken h => exact .broken h _

private theorem Within.stepKeyText {members : List (Key × Doc)} {comma : Bool} {start raw : Bytes}
    {scan : TextScan} (h : Within outer pre) (hs : MemberStart members comma start)
    (hscan : scan.Scanned raw) (b : UInt8) :
    ((inside (.keyText members scan) outer).step b).Track
      (pre ++ (start ++ 0x22 :: raw) ++ [b]) := by
  rw [Reading.step]
  split
  · next hstep =>
    have hat := At.keyText hs (hscan.step hstep)
    simpa using Track.inside h hat
  · next key hstep =>
    obtain ⟨rfl, hk⟩ := hscan.closed hstep
    have hat := At.colon hs hk .nil
    simpa using Track.inside h hat
  · exact track_breakOff (skipFault?_endObject members ObjectEnd.noConfusion) outer _

private theorem Within.stepText {raw : Bytes} {scan : TextScan} (h : Within outer pre)
    (hscan : scan.Scanned raw) (b : UInt8) :
    ((inside (.text scan) outer).step b).Track (pre ++ 0x22 :: raw ++ [b]) := by
  rw [Reading.step]
  split
  · next hstep =>
    have hat := At.text (hscan.step hstep)
    simpa using Track.inside h hat
  · next content hstep =>
    obtain ⟨rfl, ht⟩ := hscan.closed hstep
    simpa using h.complete (.text ht)
  · exact track_breakOff (skipFault?_broken _ _) outer _

private theorem Within.stepWord {read left : Bytes} {meant : Doc} (h : Within outer pre)
    (hne : left ≠ []) (hmeant : Spells (.value meant) (read ++ left)) (b : UInt8) :
    ((inside (.word left meant) outer).step b).Track (pre ++ read ++ [b]) := by
  cases left with
  | nil => exact (hne rfl).elim
  | cons expected left =>
    rw [Reading.step]
    split
    · exact track_fail outer .expectedWord _
    · next hb =>
      obtain rfl := Decidable.of_not_not hb
      rw [List.append_assoc]
      split
      · next hleft =>
        rw [List.isEmpty_iff.mp hleft] at hmeant
        exact h.complete hmeant
      · next hleft =>
        have hmore : left ≠ [] := by simpa using hleft
        exact .inside h (.word hmore (by simpa using hmeant))

private theorem Within.stepNumeral {bs : Bytes} {place : NumeralPlace} (h : Within outer pre)
    (hreaches : NumeralPlace.Reaches bs place) (b : UInt8) :
    ((inside (.numeral bs.reverse place) outer).step b).Track (pre ++ bs ++ [b]) := by
  rw [Reading.step]
  split
  · next last hstep =>
    have hat := At.numeral (hreaches.more hstep)
    rw [List.reverse_append] at hat
    rw [List.append_assoc]
    exact .inside h hat
  · split
    · next hends =>
      have hc : place.complete = true := (Bool.and_eq_true _ _ ▸ hends).1
      have hnumber := Spells.number (NumeralPlace.isNumeral_of_reaches hreaches hc)
      exact (h.complete hnumber).spaced (settled_complete _ _) b
    · exact track_fail outer .invalidNumber _

private theorem Track.step {r : Reading} {bs : Bytes} (h : r.Track bs) (b : UInt8) :
    (r.step b).Track (bs ++ [b]) := by
  cases h with
  | closed h => exact (Track.closed h).spaced trivial b
  | beyond => exact (Track.beyond _ _).spaced trivial b
  | broken h => exact (Track.broken h _).spaced trivial b
  | inside h ha =>
    have hspaced (hp : Between _) := (Track.inside h ha).spaced hp b
    cases ha with
    | value => exact hspaced trivial
    | item => exact hspaced trivial
    | itemEnd => exact hspaced trivial
    | key => exact hspaced trivial
    | colon => exact hspaced trivial
    | memberEnd => exact hspaced trivial
    | keyText hs hscan => exact h.stepKeyText hs hscan b
    | text hscan => exact h.stepText hscan b
    | word hne hmeant => exact h.stepWord hne hmeant b
    | numeral hreaches => exact h.stepNumeral hreaches b

private theorem track_ofBytes (bs : Bytes) : (ofBytes bs).Track bs := by
  induction bs using List.reverseRecOn with
  | nil => exact .inside (.nil .nil) .value
  | append_singleton bs b ih =>
    rw [ofBytes, List.foldl_append]
    exact ih.step b

/-- At the end of the text, a document without faults is spelled by it. -/
theorem Track.finish {r : Reading} {bs : Bytes} {doc : Doc} (h : r.Track bs)
    (hf : r.finish = (doc, false)) (hw : doc.skipFault? = none) : doc.Spelling bs := by
  have hcut {outer : List Frame} {place : Place} (hd : (cutAt outer place, false) = (doc, false)) :
      False := by
    rw [← (Prod.mk.inj hd).1] at hw
    exact skipFault?_cutAt outer place hw
  cases h with
  | closed h =>
    cases hf
    exact h
  | beyond => cases hf
  | broken h =>
    cases hf
    exact (h hw).elim
  | @inside place outer pre cur h ha =>
    cases ha with
    | @numeral _ place hreaches =>
      rw [Reading.finish] at hf
      split at hf
      · next hc =>
        -- the text ends with a numeral, which is the whole value or stands in a container
        cases outer with
        | nil =>
          cases hf
          have htrack :=
            h.complete (.number (NumeralPlace.isNumeral_of_reaches hreaches hc))
          cases htrack with
          | closed h => exact h
        | cons frame outer => cases frame <;> exact (hcut hf).elim
      · exact (hcut hf).elim
    | value => exact (hcut hf).elim
    | item => exact (hcut hf).elim
    | itemEnd => exact (hcut hf).elim
    | key => exact (hcut hf).elim
    | keyText => exact (hcut hf).elim
    | colon => exact (hcut hf).elim
    | memberEnd => exact (hcut hf).elim
    | word => exact (hcut hf).elim
    | text => exact (hcut hf).elim

end Reading

/-- The spellings of a document are the texts that are read as it, without fault and with nothing
behind. -/
theorem Doc.spelling_iff {doc : Doc} {bs : Bytes} :
    doc.Spelling bs ↔ readDoc bs = (doc, false) ∧ doc.skipFault? = none := by
  constructor
  · intro h
    refine ⟨readDoc_of_spelling h, ?_⟩
    obtain ⟨_, _, _, -, -, hvalue, -⟩ := h
    exact whole_of_spells hvalue
  · rintro ⟨hread, hwhole⟩
    exact (Reading.track_ofBytes bs).finish hread hwhole

end RuntimeFlag.Json
