import Mathlib.Data.List.Basic
import Mathlib.Data.List.Nodup
import RuntimeFlag.Proofs.CommandLine.Level
/-!
# Lines

A `Line` is a command line as it is written: options, the word of a command, options and names, and
perhaps `--` with more names. No two lines are written alike, and `reads_before_iff` and
`reads_after_iff` tell which of them the two levels read.
-/
namespace RuntimeFlag.CommandLine

/-! ## Lines -/

inductive Word
  | mention (mention : Mention)
  | app (name : Plain)
  deriving DecidableEq, Repr

namespace Word

def texts : Word → List String
  | mention m => m.texts
  | app name => [name.text]

def mention? : Word → Option Mention
  | mention m => some m
  | app _ => none

def name? : Word → Option String
  | mention _ => none
  | app name => some name.text

end Word

structure Line where
  before : List Mention
  verb : Verb
  after : List Word
  /-- What stands behind `--`, where it is written. -/
  behind : Option (List String)
  deriving DecidableEq, Repr

namespace Line

/-- How the names behind `--` are written. -/
def ending : Option (List String) → List String
  | none => []
  | some names => "--" :: names

def texts (line : Line) : List String :=
  line.before.flatMap Mention.texts ++
    line.verb.name :: (line.after.flatMap Word.texts ++ ending line.behind)

def args (line : Line) : List Bytes := line.texts.map Utf8.encode

/-- The options behind the command. -/
def inner (line : Line) : List Mention := line.after.filterMap Word.mention?

def mentions (line : Line) : List Mention := line.before ++ line.inner

def names (line : Line) : List String := line.after.filterMap Word.name? ++ line.behind.getD []

end Line

/-! ## Reading a line back -/

theorem encode_injective : Function.Injective Utf8.encode := by
  intro s t h
  have hs := Utf8.decode?_encode s
  rw [h, Utf8.decode?_encode] at hs
  exact (Option.some.inj hs).symm

def Subject.name : Subject → String
  | .value which => which.name
  | .debug => "debug"

theorem Subject.name_injective {subject other : Subject} (h : subject.name = other.name) :
    subject = other := by
  rcases subject with (_ | _ | _) | _ <;> rcases other with (_ | _ | _) | _ <;> first
    | rfl
    | exact absurd h (by decide)

namespace Mention

/-- The value that is written in the argument of the name. -/
def joined? : Mention → Option String
  | joined _ value => some value
  | apart _ _ => none
  | debug => none

theorem exists_head (mention : Mention) : ∃ head tail, mention.texts = head :: tail ∧
    formOf (Utf8.encode head) =
      .long (Utf8.encode mention.subject.name) (mention.joined?.map Utf8.encode) := by
  cases mention with
  | joined which value => exact ⟨_, [], rfl, formOf_joined which value⟩
  | apart which value => exact ⟨_, [value.text], rfl, formOf_apart which⟩
  | debug => exact ⟨_, [], rfl, formOf_debug⟩

private theorem eq_of_texts_append {mention other : Mention} {rest more : List String}
    (h : mention.texts ++ rest = other.texts ++ more) : mention = other ∧ rest = more := by
  obtain ⟨hsubject, hjoined⟩ :
      mention.subject = other.subject ∧ mention.joined? = other.joined? := by
    obtain ⟨head, tail, ht, hform⟩ := mention.exists_head
    obtain ⟨head', tail', ht', hform'⟩ := other.exists_head
    rw [ht, ht', List.cons_append, List.cons_append] at h
    obtain ⟨rfl, -⟩ := List.cons.inj h
    obtain ⟨hname, hvalue⟩ := Form.long.inj (hform.symm.trans hform')
    exact ⟨Subject.name_injective (encode_injective hname),
      Option.map_injective encode_injective hvalue⟩
  cases mention with
  | joined which value =>
    cases other with
    | joined which' value' =>
      cases hsubject
      cases hjoined
      exact ⟨rfl, (List.cons.inj h).2⟩
    | apart which' value' => cases hjoined
    | debug => cases hsubject
  | apart which value =>
    cases other with
    | joined which' value' => cases hjoined
    | apart which' value' =>
      cases hsubject
      obtain ⟨htext, rfl⟩ := List.cons.inj (List.cons.inj h).2
      cases value
      cases htext
      exact ⟨rfl, rfl⟩
    | debug => cases hsubject
  | debug =>
    cases other with
    | joined which' value' => cases hsubject
    | apart which' value' => cases hsubject
    | debug => exact ⟨rfl, (List.cons.inj h).2⟩

private theorem head_ne (mention : Mention) {text : String} {rest more : List String}
    (hf : formOf (Utf8.encode text) = .plain ∨ formOf (Utf8.encode text) = .escape) :
    mention.texts ++ rest ≠ text :: more := by
  intro h
  obtain ⟨head, tail, ht, hform⟩ := mention.exists_head
  rw [ht, List.cons_append] at h
  obtain ⟨rfl, -⟩ := List.cons.inj h
  rw [hform] at hf
  rcases hf with hf | hf <;> cases hf

end Mention

namespace Line

private theorem eq_of_before {mentions others : List Mention} {verb verb' : Verb}
    {rest more : List String}
    (h : mentions.flatMap Mention.texts ++ verb.name :: rest =
      others.flatMap Mention.texts ++ verb'.name :: more) :
    mentions = others ∧ verb = verb' ∧ rest = more := by
  -- A mention begins with two hyphens and the word of a command does not: neither list is longer.
  have hplain (verb : Verb) : formOf (Utf8.encode verb.name) = .plain := by
    cases verb <;> rfl
  induction mentions generalizing others with
  | nil =>
    cases others with
    | nil =>
      obtain ⟨hverb, rfl⟩ := List.cons.inj h
      refine ⟨rfl, ?_, rfl⟩
      revert hverb
      cases verb <;> cases verb' <;> decide
    | cons other others =>
      rw [List.flatMap_cons, List.append_assoc] at h
      exact (other.head_ne (.inl (hplain verb)) h.symm).elim
  | cons mention mentions ih =>
    cases others with
    | nil =>
      rw [List.flatMap_cons, List.append_assoc] at h
      exact (mention.head_ne (.inl (hplain verb')) h).elim
    | cons other others =>
      rw [List.flatMap_cons, List.flatMap_cons, List.append_assoc, List.append_assoc] at h
      obtain ⟨rfl, htail⟩ := Mention.eq_of_texts_append h
      obtain ⟨rfl, hrest⟩ := ih htail
      exact ⟨rfl, hrest⟩

private theorem ending_ne (behind : Option (List String)) (word : Word) (rest : List String) :
    word.texts ++ rest ≠ ending behind := by
  intro h
  cases word with
  | mention mention =>
    cases behind with
    | none =>
      obtain ⟨head, tail, ht, -⟩ := mention.exists_head
      rw [Word.texts, ht] at h
      cases h
    | some names => exact mention.head_ne (.inr rfl) h
  | app name =>
    cases behind with
    | none => cases h
    | some names =>
      have hplain := name.plain
      rw [(List.cons.inj h).1] at hplain
      exact absurd hplain (by decide)

private theorem eq_of_word {word other : Word} {rest more : List String}
    (h : word.texts ++ rest = other.texts ++ more) : word = other ∧ rest = more := by
  have hplain (name : Plain) : formOf (Utf8.encode name.text) = .plain :=
    formOf_encode_eq_plain_iff.mpr name.plain
  cases word with
  | mention mention =>
    cases other with
    | mention mention' =>
      obtain ⟨rfl, hrest⟩ := Mention.eq_of_texts_append h
      exact ⟨rfl, hrest⟩
    | app name => exact (mention.head_ne (.inl (hplain name)) h).elim
  | app name =>
    cases other with
    | mention mention => exact (mention.head_ne (.inl (hplain name)) h.symm).elim
    | app name' =>
      obtain ⟨htext, hrest⟩ := List.cons.inj h
      cases name
      cases htext
      exact ⟨rfl, hrest⟩

private theorem eq_of_after {words others : List Word} {behind behind' : Option (List String)}
    (h : words.flatMap Word.texts ++ ending behind = others.flatMap Word.texts ++ ending behind') :
    words = others ∧ behind = behind' := by
  induction words generalizing others with
  | nil =>
    cases others with
    | nil =>
      cases behind <;> cases behind' <;> cases h <;> exact ⟨rfl, rfl⟩
    | cons other others =>
      rw [List.flatMap_cons, List.append_assoc] at h
      exact (ending_ne behind other _ h.symm).elim
  | cons word words ih =>
    cases others with
    | nil =>
      rw [List.flatMap_cons, List.append_assoc] at h
      exact (ending_ne behind' word _ h).elim
    | cons other others =>
      rw [List.flatMap_cons, List.flatMap_cons, List.append_assoc, List.append_assoc] at h
      obtain ⟨rfl, htail⟩ := eq_of_word h
      obtain ⟨rfl, hbehind⟩ := ih htail
      exact ⟨rfl, hbehind⟩

/-- No two lines are written alike. -/
theorem args_injective : Function.Injective args := by
  intro line other h
  have htexts : line.texts = other.texts := List.map_injective_iff.mpr encode_injective h
  obtain ⟨hbefore, hverb, htail⟩ := eq_of_before htexts
  obtain ⟨hafter, hbehind⟩ := eq_of_after htail
  cases line
  cases other
  simp_all

end Line

/-! ## Options once each -/

/-- The options can be taken one after the other: their values are all right, and none is given. -/
def Once (given : Given) (mentions : List Mention) : Prop :=
  (∀ mention ∈ mentions, mention.IsLegal ∧ given.Has mention.subject = false) ∧
    (mentions.map Mention.subject).Nodup

def Given.plusAll (given : Given) (mentions : List Mention) : Given :=
  mentions.foldl Given.plus given

private theorem once_cons {given : Given} {mention : Mention} {mentions : List Mention} :
    Once given (mention :: mentions) ↔ mention.IsLegal ∧ given.Has mention.subject = false ∧
      Once (given.plus mention) mentions := by
  constructor
  · rintro ⟨hall, hnodup⟩
    obtain ⟨hhead, htail⟩ := List.forall_mem_cons.mp hall
    rw [List.map_cons, List.nodup_cons] at hnodup
    refine ⟨hhead.1, hhead.2, fun other hm => ⟨(htail other hm).1, ?_⟩, hnodup.2⟩
    have hne : mention.subject ≠ other.subject := by
      intro he
      exact hnodup.1 (he ▸ List.mem_map_of_mem hm)
    rw [Given.has_plus hhead.1, (htail other hm).2]
    simp [hne]
  · rintro ⟨hl, hn, hall, hnodup⟩
    have hother (other : Mention) (hm : other ∈ mentions) :
        mention.subject ≠ other.subject ∧ given.Has other.subject = false := by
      have h := (hall other hm).2
      rw [Given.has_plus hl] at h
      simpa using h
    refine ⟨List.forall_mem_cons.mpr ⟨⟨hl, hn⟩, ?_⟩, ?_⟩
    · intro other hm
      exact ⟨(hall other hm).1, (hother other hm).2⟩
    · rw [List.map_cons, List.nodup_cons]
      refine ⟨?_, hnodup⟩
      intro hm
      obtain ⟨other, hm, he⟩ := List.mem_map.mp hm
      exact (hother other hm).1 he.symm

theorem has_plusAll {given : Given} {mentions : List Mention}
    (h : ∀ mention ∈ mentions, mention.IsLegal) (subject : Subject) :
    (given.plusAll mentions).Has subject =
      (given.Has subject || decide (subject ∈ mentions.map Mention.subject)) := by
  induction mentions generalizing given with
  | nil => simp [Given.plusAll]
  | cons mention mentions ih =>
    obtain ⟨hl, hrest⟩ := List.forall_mem_cons.mp h
    have htail := @ih (given.plus mention) hrest
    rw [Given.plusAll, List.foldl_cons, ← Given.plusAll, htail, Given.has_plus hl]
    by_cases he : mention.subject = subject
    · simp [he]
    · simp [he, Ne.symm he]

private theorem plusAll_named (given : Given) (name : Option String) (mentions : List Mention) :
    { given with app := name }.plusAll mentions =
      { given.plusAll mentions with app := name } := by
  induction mentions generalizing given with
  | nil => rfl
  | cons mention mentions ih => exact ih (given.plus mention)

theorem reads_before_iff {given final : Given} {args rest : List Bytes} {verb : Verb} :
    Reads .program given args final (some (verb, rest)) ↔ ∃ mentions : List Mention,
      args = (mentions.flatMap Mention.texts).map Utf8.encode ++ Utf8.encode verb.name :: rest ∧
        Once given mentions ∧ final = given.plusAll mentions := by
  constructor
  · intro h
    generalize hnext : some (verb, rest) = next at h
    induction h with
    | done => cases hnext
    | command verb' ht =>
      cases hnext
      exact ⟨[], rfl, ⟨by simp, List.nodup_nil⟩, rfl⟩
    | option mention hl hn hr ih =>
      obtain ⟨mentions, rfl, honce, rfl⟩ := ih hnext
      refine ⟨mention :: mentions, ?_, once_cons.mpr ⟨hl, hn, honce⟩, rfl⟩
      rw [List.flatMap_cons, List.map_append, List.append_assoc]
    | app name ht => cases ht
    | escape => cases hnext
    | behind name ht => cases ht
  · rintro ⟨mentions, rfl, honce, rfl⟩
    induction mentions generalizing given with
    | nil => exact .command verb rfl
    | cons mention mentions ih =>
      obtain ⟨hl, hn, hrest⟩ := once_cons.mp honce
      have h := Reads.option mention hl hn (ih hrest)
      rwa [← List.append_assoc, ← List.map_append, ← List.flatMap_cons] at h

@[simp] theorem has_named (given : Given) (name : Option String) (subject : Subject) :
    { given with app := name }.Has subject = given.Has subject := by
  rcases subject with (_ | _ | _) | _ <;> rfl

private theorem once_named {given : Given} {name : Option String} {mentions : List Mention} :
    Once { given with app := name } mentions ↔ Once given mentions := by
  simp only [Once, has_named]

theorem reads_after_iff {given final : Given} {args : List Bytes} {verb : Verb} :
    Reads (.verb verb) given args final none ↔
      ∃ (words : List Word) (behind : Option (List String)) (name : Option String),
        args = (words.flatMap Word.texts ++ Line.ending behind).map Utf8.encode ∧
        Once given (words.filterMap Word.mention?) ∧
        name.toList = given.app.toList ++ (words.filterMap Word.name? ++ behind.getD []) ∧
        (words.filterMap Word.name? ++ behind.getD [] ≠ [] → verb.takesApp = true) ∧
        final = { given.plusAll (words.filterMap Word.mention?) with app := name } := by
  have hnone (given : Given) : Once given ([].filterMap Word.mention?) :=
    ⟨nofun, List.nodup_nil⟩
  constructor
  · intro h
    generalize hnext : (none : Option (Verb × List Bytes)) = next at h
    induction h with
    | done given => exact ⟨[], none, given.app, rfl, hnone given, by simp, nofun, rfl⟩
    | command verb' ht => cases hnext
    | @option given final rest next mention hl hn hr ih =>
      obtain ⟨words, behind, name, rfl, honce, hnames, htakes, hfinal⟩ := ih hnext
      refine ⟨.mention mention :: words, behind, name, ?_, once_cons.mpr ⟨hl, hn, honce⟩, hnames,
        htakes, hfinal⟩
      simp only [List.flatMap_cons, List.append_assoc, List.map_append]
      rfl
    | @app given final rest next name ht hn hr ih =>
      obtain ⟨words, behind, last, rfl, honce, hnames, htakes, hfinal⟩ := ih hnext
      refine ⟨.app name :: words, behind, last, rfl, once_named.mp honce, ?_, fun _ => ht, ?_⟩
      · simpa [hn, Word.name?] using hnames
      · rw [plusAll_named] at hfinal
        exact hfinal
    | escape given => exact ⟨[], some [], given.app, rfl, hnone given, by simp, nofun, rfl⟩
    | @behind given name ht hn =>
      exact ⟨[], some [name], some name, rfl, hnone given, by simp [hn], fun _ => ht, rfl⟩
  · rintro ⟨words, behind, name, rfl, honce, hnames, htakes, rfl⟩
    induction words generalizing given with
    | nil =>
      obtain ⟨format, config, api, debug, app⟩ := given
      cases behind with
      | none =>
        obtain rfl : name = app := by
          cases app <;> cases name <;> simp_all
        exact .done _
      | some names =>
        cases names with
        | nil =>
          obtain rfl : name = app := by
            cases app <;> cases name <;> simp_all
          exact .escape _
        | cons first names =>
          obtain ⟨rfl, rfl, rfl⟩ : app = none ∧ names = [] ∧ name = some first := by
            cases app <;> cases name <;> simp_all
          exact .behind first (htakes (by simp)) rfl
    | cons word words ih =>
      cases word with
      | mention mention =>
        obtain ⟨hl, hn, hrest⟩ := once_cons.mp honce
        have h := Reads.option mention hl hn (ih hrest hnames htakes)
        rw [← List.map_append, ← List.append_assoc] at h
        exact h
      | app first =>
        have hgiven : given.app = none := by
          cases happ : given.app with
          | none => rfl
          | some other =>
            rw [happ] at hnames
            cases name <;> simp [Word.name?] at hnames
        have hrest : Once { given with app := some first.text } (words.filterMap Word.mention?) :=
          once_named.mpr honce
        have hrestNames : name.toList = (some first.text).toList ++
            (words.filterMap Word.name? ++ behind.getD []) := by
          simpa [hgiven, Word.name?] using hnames
        have htakesApp : takesApp (.verb verb) = true := htakes (by simp [Word.name?])
        have h := Reads.app first htakesApp hgiven (ih hrest hrestNames (fun _ => htakesApp))
        rw [plusAll_named] at h
        exact h

end RuntimeFlag.CommandLine
