import RuntimeFlag.Proofs.Json.Grammar.Numeral
import RuntimeFlag.Proofs.Json.Grammar.Text
/-!
# The grammar of JSON texts

`Spells` is the grammar of JSON on bytes, with the document that a text is: any blanks between its
parts, any escapes in its strings, any form of its numerals, any depth.
-/
namespace RuntimeFlag.Json

/-- The blanks between the parts of a text. -/
def Blank (bs : Bytes) : Prop := ∀ b ∈ bs, isSpace b = true

theorem Blank.nil : Blank [] := fun _ h => nomatch h

theorem Blank.concat {bs : Bytes} {b : UInt8} (h : Blank bs) (hb : isSpace b = true) :
    Blank (bs ++ [b]) := by
  intro d hd
  rcases List.mem_append.mp hd with hd | hd
  · exact h d hd
  · rwa [List.mem_singleton.mp hd]

/-- The key of a member, up to its value. -/
inductive SpellsKey : Key → Bytes → Prop
  | mk {key : Key} {name ws more : Bytes} (h : SpellsText key name) (hw : Blank ws)
    (hm : Blank more) : SpellsKey key (name ++ ws ++ 0x3A :: more)

/-- A part of a text: a value, or a list or an object that is open behind one of its values. -/
inductive Piece
  | value (doc : Doc)
  | items (before : List Doc) (last : Doc)
  | members (before : List (Key × Doc)) (key : Key) (last : Doc)

/-- The grammar of JSON: which bytes spell which part of a text. -/
inductive Spells : Piece → Bytes → Prop
  | null : Spells (.value .null) (Utf8.encode "null")
  | flag (b : Bool) : Spells (.value (.flag b)) (Utf8.encode (Text.truth b))
  | number {bs : Bytes} (h : IsNumeral bs) : Spells (.value (Reading.numeralDoc bs.reverse)) bs
  | text {content : Except Fault String} {bs : Bytes} (h : SpellsText content bs) :
    Spells (.value (.text content)) bs
  | emptyList {ws : Bytes} (hw : Blank ws) :
    Spells (.value (.list [] .closed)) (0x5B :: ws ++ [0x5D])
  | firstItem {ws bs : Bytes} {doc : Doc} (hw : Blank ws) (h : Spells (.value doc) bs) :
    Spells (.items [] doc) (0x5B :: ws ++ bs)
  | nextItem {before : List Doc} {last doc : Doc} {start ws more bs : Bytes}
    (hs : Spells (.items before last) start) (hw : Blank ws) (hm : Blank more)
    (h : Spells (.value doc) bs) :
    Spells (.items (before ++ [last]) doc) (start ++ ws ++ 0x2C :: more ++ bs)
  | list {before : List Doc} {last : Doc} {start ws : Bytes}
    (hs : Spells (.items before last) start) (hw : Blank ws) :
    Spells (.value (.list (before ++ [last]) .closed)) (start ++ ws ++ [0x5D])
  | emptyObject {ws : Bytes} (hw : Blank ws) :
    Spells (.value (.object [] .closed)) (0x7B :: ws ++ [0x7D])
  | firstMember {ws name bs : Bytes} {key : Key} {doc : Doc} (hw : Blank ws)
    (hk : SpellsKey key name) (h : Spells (.value doc) bs) :
    Spells (.members [] key doc) (0x7B :: ws ++ name ++ bs)
  | nextMember {before : List (Key × Doc)} {last doc : Doc} {first key : Key}
    {start ws more name bs : Bytes} (hs : Spells (.members before first last) start)
    (hw : Blank ws) (hm : Blank more) (hk : SpellsKey key name) (h : Spells (.value doc) bs) :
    Spells (.members (before ++ [(first, last)]) key doc)
      (start ++ ws ++ 0x2C :: more ++ name ++ bs)
  | object {before : List (Key × Doc)} {key : Key} {last : Doc} {start ws : Bytes}
    (hs : Spells (.members before key last) start) (hw : Blank ws) :
    Spells (.value (.object (before ++ [(key, last)]) .closed)) (start ++ ws ++ [0x7D])

/-- The bytes are a whole JSON text of the document. -/
def Doc.Spelling (doc : Doc) (bs : Bytes) : Prop :=
  ∃ front value back, Blank front ∧ Blank back ∧ Spells (.value doc) value ∧
    bs = front ++ value ++ back

end RuntimeFlag.Json
