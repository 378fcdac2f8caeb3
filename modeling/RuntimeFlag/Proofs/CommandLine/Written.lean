import RuntimeFlag.CommandLine.Arguments
import RuntimeFlag.Proofs.Result
import RuntimeFlag.Proofs.Text.Utf8
/-!
# Options as they are written

An option is written as one argument or, with its value behind it, as two. Here is what the reader
of a command line makes of such arguments, and that nothing else is an option.
-/
namespace RuntimeFlag.CommandLine

open Listing

/-! ## Mentions -/

inductive Subject
  | value (which : ValueOption)
  | debug
  deriving DecidableEq, Repr

def ValueOption.name : ValueOption → String
  | .format => "format"
  | .config => "config"
  | .api => "api"

def Subject.admits : Subject → String → Bool
  | .value .format, text => (Format.ofName? text).isSome
  | .value .config, _ => true
  | .value .api, _ => true
  | .debug, text => (debugOf? (some text)).isSome

/-- Whether an argument with this text has no form of an option. -/
def isPlain (text : String) : Bool :=
  match text.toList with
  | '-' :: _ :: _ => false
  | _ => true

structure Plain where
  text : String
  plain : isPlain text = true := by decide
  deriving DecidableEq, Repr

/-- An option as it is written: with its value in the same argument, with its value in the next one,
or without a value. -/
inductive Mention
  | joined (which : ValueOption) (value : String)
  | apart (which : ValueOption) (value : Plain)
  | debug
  deriving DecidableEq, Repr

namespace Mention

def texts : Mention → List String
  | .joined which value => ["--" ++ which.name ++ "=" ++ value]
  | .apart which value => ["--" ++ which.name, value.text]
  | .debug => ["--debug"]

def subject : Mention → Subject
  | .joined which _ => .value which
  | .apart which _ => .value which
  | .debug => .debug

def value? : Mention → Option String
  | .joined _ value => some value
  | .apart _ value => some value.text
  | .debug => none

def IsLegal (mention : Mention) : Prop := mention.value?.all mention.subject.admits = true

instance (mention : Mention) : Decidable mention.IsLegal := inferInstanceAs (Decidable (_ = true))

def text? (which : ValueOption) (mention : Mention) : Option String :=
  if mention.subject = .value which then mention.value? else none

def format? (mention : Mention) : Option Format := (mention.text? .format).bind Format.ofName?

end Mention

/-! ## What is given -/

@[simp] theorem reject_ne_ok {α : Type} {problem : Problem} {a : α} :
    reject problem ≠ (.ok a : Except Rejection α) := nofun

def Pending.isApp : Pending → Bool
  | .app _ => true
  | _ => false

namespace Given

variable {given more : Given} {which : ValueOption} {value : Bytes} {pending : Pending}

def Has (given : Given) : Subject → Bool
  | .value which => given.has which
  | .debug => given.debug

/-- What is given when a mention comes to it. -/
def plus (given : Given) (mention : Mention) : Given where
  format := mention.format?.or given.format
  config := (mention.text? .config).or given.config
  api := (mention.text? .api).or given.api
  debug := mention.subject = .debug || given.debug
  app := given.app

theorem has_plus {mention : Mention} (hl : mention.IsLegal) (subject : Subject) :
    (given.plus mention).Has subject =
      (decide (mention.subject = subject) || given.Has subject) := by
  have hformat (name : String) (h : (Subject.value .format).admits name = true) :
      (Format.ofName? name).isSome = true := h
  cases mention with
  | debug =>
    rcases subject with (_ | _ | _) | _ <;>
      simp [plus, Has, has, Mention.format?, Mention.text?, Mention.subject]
  | joined which value =>
    cases which <;> rcases subject with (_ | _ | _) | _ <;>
      simp [plus, Has, has, Mention.format?, Mention.text?, Mention.subject, Mention.value?]
    exact .inl (hformat value hl)
  | apart which value =>
    cases which <;> rcases subject with (_ | _ | _) | _ <;>
      simp [plus, Has, has, Mention.format?, Mention.text?, Mention.subject, Mention.value?]
    exact .inl (hformat value.text hl)

theorem textOf_eq_ok {text : String} : textOf value = .ok text ↔ value = Utf8.encode text := by
  rw [← Utf8.decode?_eq_some_iff, textOf]
  cases Utf8.decode? value <;> simp

private theorem formatOf_eq_ok {format : Format} : formatOf value = .ok format ↔
    ∃ name, value = Utf8.encode name ∧ Format.ofName? name = some format := by
  simp only [← Utf8.decode?_eq_some_iff, ← Option.bind_eq_some_iff, formatOf]
  cases (Utf8.decode? value).bind Format.ofName? <;> simp

theorem setOption_eq_ok : given.setOption which value = .ok more ↔
    ∃ text, value = Utf8.encode text ∧ (Mention.joined which text).IsLegal ∧
      given.Has (.value which) = false ∧ more = given.plus (.joined which text) := by
  unfold setOption
  rw [Has]
  cases hhas : given.has which with
  | true => simp
  | false =>
    rw [if_neg (by simp)]
    cases which with
    | format =>
      simp only [map_eq_ok, formatOf_eq_ok]
      constructor
      · rintro ⟨format, ⟨name, rfl, hname⟩, rfl⟩
        refine ⟨name, rfl, ?_, trivial, ?_⟩
        · simp [Mention.IsLegal, Mention.value?, Mention.subject, Subject.admits, hname]
        · simp [plus, Mention.format?, Mention.text?, Mention.value?, Mention.subject, hname]
      · rintro ⟨name, rfl, hl, -, rfl⟩
        obtain ⟨format, hname⟩ := Option.isSome_iff_exists.mp hl
        refine ⟨format, ⟨name, rfl, hname⟩, ?_⟩
        simp [plus, Mention.format?, Mention.text?, Mention.value?, Mention.subject, hname]
    | config =>
      simp only [map_eq_ok, textOf_eq_ok]
      constructor
      · rintro ⟨text, rfl, rfl⟩
        exact ⟨text, rfl, rfl, trivial, rfl⟩
      · rintro ⟨text, rfl, -, -, rfl⟩
        exact ⟨text, rfl, rfl⟩
    | api =>
      simp only [map_eq_ok, textOf_eq_ok]
      constructor
      · rintro ⟨text, rfl, rfl⟩
        exact ⟨text, rfl, rfl, trivial, rfl⟩
      · rintro ⟨text, rfl, -, -, rfl⟩
        exact ⟨text, rfl, rfl⟩

theorem setDebug_eq_ok : given.setDebug = .ok more ↔
    given.Has .debug = false ∧ more = given.plus .debug := by
  rw [setDebug, Has]
  cases hdebug : given.debug with
  | true => simp
  | false =>
    simp [plus, Mention.format?, Mention.text?, Mention.subject]
    exact eq_comm

theorem settle_app (given : Given) (name : String) :
    given.settle (.app (Utf8.encode name)) = .ok { given with app := some name } :=
  map_eq_ok.mpr ⟨name, textOf_eq_ok.mpr rfl, rfl⟩

theorem waiting_of_settle (h : given.settle pending = .ok more) : waiting pending = none := by
  cases pending with
  | nothing => rfl
  | app value => rfl
  | option which value =>
    cases value with
    | none => cases h
    | some value => rfl

private theorem isSome_app_of_settle (h : given.settle pending = .ok more) :
    (given.app.isSome || pending.isApp) = more.app.isSome := by
  cases pending with
  | nothing =>
    cases h
    simp [Pending.isApp]
  | app value =>
    obtain ⟨text, -, rfl⟩ := map_eq_ok.mp h
    simp [Pending.isApp]
  | option which value =>
    cases value with
    | none => cases h
    | some value =>
      obtain ⟨text, -, -, -, rfl⟩ := setOption_eq_ok.mp h
      simp [plus, Pending.isApp]

end Given

/-! ## Forms -/

theorem verbOf?_eq_some_iff {arg : Bytes} {verb : Verb} :
    verbOf? arg = some verb ↔ arg = Utf8.encode verb.name := by
  have hname {name : String} : Verb.ofName? name = some verb ↔ name = verb.name := by
    constructor
    · intro h
      exact (beq_iff_eq.mp (List.find?_some (p := fun v : Verb => v.name == name) h)).symm
    · rintro rfl
      cases verb <;> decide
  rw [verbOf?, Option.bind_eq_some_iff]
  constructor
  · rintro ⟨name, hdecode, h⟩
    rw [← hname.mp h]
    exact Utf8.eq_encode_of_decode? hdecode
  · rintro rfl
    exact ⟨verb.name, Utf8.decode?_encode _, hname.mpr rfl⟩

theorem valueOption?_eq_some_iff {name : Bytes} {which : ValueOption} :
    valueOption? name = some which ↔ name = Utf8.encode which.name := by
  constructor
  · intro h
    unfold valueOption? at h
    split at h
    · cases h
      assumption
    · split at h
      · cases h
        assumption
      · split at h
        · cases h
          assumption
        · cases h
  · rintro rfl
    cases which <;> decide

private theorem eq_debug_of_longFlag? {topic : Topic} {name : Bytes}
    (h : longFlag? topic name = some .debug) : name = Utf8.encode "debug" := by
  unfold longFlag? at h
  split at h
  · assumption
  · split at h
    · cases h
    · split at h <;> cases h

private theorem raise_eq_ok {topic : Topic} {given more : Given} {flag : Flag} :
    raise topic given flag = .ok more ↔ flag = .debug ∧ given.setDebug = .ok more := by
  cases flag <;> simp [raise, showHelp, throw, throwThe, MonadExceptOf.throw]

theorem helpFor_ne_ok {α : Type} {a : α} (rest : List Bytes) : helpFor rest ≠ .ok a := by
  intro h
  unfold helpFor at h
  repeat' split at h
  all_goals cases h

theorem formOf_joined (which : ValueOption) (value : String) :
    formOf (Utf8.encode ("--" ++ which.name ++ "=" ++ value)) =
      .long (Utf8.encode which.name) (some (Utf8.encode value)) := by
  rw [Utf8.encode_append]
  cases which <;> rfl

theorem formOf_apart (which : ValueOption) :
    formOf (Utf8.encode ("--" ++ which.name)) = .long (Utf8.encode which.name) none := by
  cases which <;> rfl

theorem formOf_debug : formOf (Utf8.encode "--debug") = .long (Utf8.encode "debug") none := rfl

private theorem formOf_of_ne {b : UInt8} (bs : Bytes) (h : b ≠ 0x2D) :
    formOf (b :: bs) = .plain := by
  unfold formOf
  split <;> simp_all

theorem formOf_eq_escape {arg : Bytes} (h : formOf arg = .escape) : arg = Utf8.encode "--" := by
  unfold formOf at h
  split at h
  · rfl
  all_goals cases h

theorem formOf_encode_eq_plain_iff {text : String} :
    formOf (Utf8.encode text) = .plain ↔ isPlain text = true := by
  have hbyte (c : Char) : ∃ b bs, Utf8.encodeChar c = b :: bs ∧ (b = 0x2D → c = '-') := by
    obtain ⟨b, bs, hbytes, -⟩ := Utf8.next_encodeChar c []
    refine ⟨b, bs, hbytes, ?_⟩
    rintro rfl
    have hmem : (0x2D : UInt8) ∈ Utf8.encodeChar c := by simp [hbytes]
    rcases Utf8.toNat_of_mem_encodeChar hmem with h | h
    · exact Char.toNat_inj.mp h.symm
    · exact absurd h (by decide)
  have hdash : Utf8.encodeChar '-' = [0x2D] := by decide
  rw [Utf8.encode, isPlain]
  cases text.toList with
  | nil => exact iff_of_true rfl rfl
  | cons c cs =>
    obtain ⟨b, bs, hb, hc⟩ := hbyte c
    by_cases hd : c = '-'
    · subst hd
      cases cs with
      | nil => exact iff_of_true rfl rfl
      | cons d ds =>
        obtain ⟨e, es, he, -⟩ := hbyte d
        rw [Utf8.encodeChars_cons, Utf8.encodeChars_cons, hdash, he]
        refine iff_of_false ?_ (by simp)
        simp only [List.cons_append, List.nil_append]
        unfold formOf
        split <;> simp_all
    · rw [Utf8.encodeChars_cons, hb, List.cons_append, formOf_of_ne _ (mt hc hd)]
      refine iff_of_true rfl ?_
      split <;> simp_all

private theorem eq_of_formOf_long {arg name : Bytes} {value : Option Bytes}
    (h : formOf arg = .long name value) :
    arg = 0x2D :: 0x2D :: (name ++ (value.map (0x3D :: ·)).getD []) := by
  unfold formOf at h
  split at h
  · cases h
  · next rest hne =>
    cases h
    let isName : UInt8 → Bool := fun b => decide (b ≠ 0x3D)
    have hdrop : rest.drop (rest.takeWhile isName).length = rest.dropWhile isName := by
      have h := List.prefix_iff_eq_append.mp (List.takeWhile_prefix isName (l := rest))
      exact List.append_cancel_left (h.trans List.takeWhile_append_dropWhile.symm)
    have hrest := List.takeWhile_append_dropWhile (p := isName) (l := rest)
    change _ = 0x2D :: 0x2D :: (rest.takeWhile isName ++
      (((rest.drop (rest.takeWhile isName).length).tail?).map (0x3D :: ·)).getD [])
    rw [hdrop]
    cases hd : rest.dropWhile isName with
    | nil =>
      rw [hd] at hrest
      rw [List.tail?_nil, Option.map_none, Option.getD_none, hrest]
    | cons b bs =>
      have hb : isName b = false := by
        have h := List.head_dropWhile_not isName (l := rest) (by simp [hd])
        simpa [hd] using h
      obtain rfl : b = 0x3D := by simpa [isName] using hb
      rw [hd] at hrest
      rw [List.tail?_cons, Option.map_some, Option.getD_some, hrest]
  · cases h
  · cases h

/-! ## Steps of the reader -/

variable {topic : Topic} {given more : Given} {pending next : Pending} {arg : Bytes}

theorem place_eq_ok {escaped : Bool} : place topic escaped arg given pending = .ok (more, next) ↔
    takesApp topic = true ∧ given.settle pending = .ok more ∧ more.app = none ∧
      next = .app arg := by
  have hplace : place topic escaped arg given pending =
      if takesApp topic && !(given.app.isSome || pending.isApp) then do
        pure (← given.settle pending, .app arg)
      else reject (misplaced topic escaped arg) := by
    cases pending <;> rfl
  rw [hplace]
  constructor
  · intro h
    split at h
    · next hc =>
      obtain ⟨settled, hs, h⟩ := bind_eq_ok.mp h
      cases h
      simp only [Bool.and_eq_true, Bool.not_eq_true'] at hc
      rw [Given.isSome_app_of_settle hs] at hc
      exact ⟨hc.1, hs, by simpa using hc.2, rfl⟩
    · cases h
  · rintro ⟨ht, hs, hn, rfl⟩
    rw [Given.isSome_app_of_settle hs, if_pos (by simp [ht, hn]), hs]
    rfl

/-- An argument in the form of an option settles what was read before it, and is the mention of an
option or the name of one that waits for its value. -/
theorem takeOption_eq_ok (hf : formOf arg ≠ .plain) (he : formOf arg ≠ .escape)
    (h : takeOption topic given pending (formOf arg) = .ok (more, next)) :
    ∃ settled, given.settle pending = .ok settled ∧
      ((∃ which, arg = Utf8.encode ("--" ++ which.name) ∧ more = settled ∧
        next = .option which none) ∨
      ∃ mention : Mention, [arg] = mention.texts.map Utf8.encode ∧ mention.IsLegal ∧
        settled.Has mention.subject = false ∧ more = settled.plus mention ∧ next = .nothing) := by
  cases hform : formOf arg with
  | plain => exact (hf hform).elim
  | escape => exact (he hform).elim
  | short letters =>
    rw [hform] at h
    simp only [takeOption] at h
    split at h
    · next flag hflag =>
      obtain ⟨settled, hs, h⟩ := bind_eq_ok.mp h
      obtain ⟨raised, hr, h⟩ := bind_eq_ok.mp h
      obtain ⟨rfl, -⟩ := raise_eq_ok.mp hr
      unfold shortFlag? at hflag
      repeat' split at hflag
      all_goals cases hflag
    · cases h
  | long name value =>
    have harg := eq_of_formOf_long hform
    rw [hform] at h
    simp only [takeOption] at h
    split at h
    · next which hw =>
      obtain ⟨settled, hs, h⟩ := bind_eq_ok.mp h
      cases h
      obtain rfl := valueOption?_eq_some_iff.mp hw
      refine ⟨_, hs, .inl ⟨which, ?_, rfl, rfl⟩⟩
      rw [harg, Utf8.encode_append]
      simp
      rfl
    · next which value hw =>
      obtain ⟨settled, hs, h⟩ := bind_eq_ok.mp h
      obtain ⟨set, hset, h⟩ := bind_eq_ok.mp h
      cases h
      obtain rfl := valueOption?_eq_some_iff.mp hw
      obtain ⟨text, rfl, hl, hn, rfl⟩ := Given.setOption_eq_ok.mp hset
      refine ⟨_, hs, .inr ⟨.joined which text, ?_, hl, hn, rfl, rfl⟩⟩
      rw [harg, Mention.texts, List.map_singleton, Utf8.encode_append, Utf8.encode_append,
        Utf8.encode_append]
      simp
      rfl
    · next flag hw hflag =>
      obtain ⟨settled, hs, h⟩ := bind_eq_ok.mp h
      obtain ⟨raised, hr, h⟩ := bind_eq_ok.mp h
      cases h
      obtain ⟨rfl, hset⟩ := raise_eq_ok.mp hr
      obtain rfl := eq_debug_of_longFlag? hflag
      obtain ⟨hn, rfl⟩ := Given.setDebug_eq_ok.mp hset
      exact ⟨_, hs, .inr ⟨.debug, by rw [harg]; rfl, rfl, hn, rfl, rfl⟩⟩
    · cases h
    · cases h

end RuntimeFlag.CommandLine
