import RuntimeFlag.Proofs.CommandLine.Written
/-!
# Levels of a command line

The reader of a level keeps what it read last unchecked, because a value may follow. `Reads` tells
without it what the arguments of a level give; main statement: `reads_iff`, what the reader takes is
exactly that.
-/
namespace RuntimeFlag.CommandLine

/-- What the arguments of a level give, with what has been given before, and the command that they
lead to: options, each at most once, the name of an application where one belongs, and `--` with
nothing behind it but such a name. -/
inductive Reads (topic : Topic) : Given → List Bytes → Given → Option (Verb × List Bytes) → Prop
  | done (given : Given) : Reads topic given [] given none
  | command {given : Given} {rest : List Bytes} (verb : Verb) (ht : topic = .program) :
    Reads topic given (Utf8.encode verb.name :: rest) given (some (verb, rest))
  | option {given final : Given} {rest : List Bytes} {next : Option (Verb × List Bytes)}
    (mention : Mention) (hl : mention.IsLegal) (hn : given.Has mention.subject = false)
    (hr : Reads topic (given.plus mention) rest final next) :
    Reads topic given (mention.texts.map Utf8.encode ++ rest) final next
  | app {given final : Given} {rest : List Bytes} {next : Option (Verb × List Bytes)}
    (name : Plain) (ht : takesApp topic = true) (hn : given.app = none)
    (hr : Reads topic { given with app := some name.text } rest final next) :
    Reads topic given (Utf8.encode name.text :: rest) final next
  | escape (given : Given) : Reads topic given [Utf8.encode "--"] given none
  | behind {given : Given} (name : String) (ht : takesApp topic = true) (hn : given.app = none) :
    Reads topic given [Utf8.encode "--", Utf8.encode name] { given with app := some name } none

variable {topic : Topic} {given final : Given} {pending : Pending} {args : List Bytes}
  {level : Level}

private theorem behind_of_readLevel (h : readLevel topic true given pending args = .ok level)
    (hs : level.given.settle level.pending = .ok final) :
    ∃ settled, given.settle pending = .ok settled ∧ level.next = none ∧
      (args = [] ∧ final = settled ∨ ∃ name, args = [Utf8.encode name] ∧ takesApp topic = true ∧
        settled.app = none ∧ final = { settled with app := some name }) := by
  induction args generalizing given pending with
  | nil =>
    cases h
    exact ⟨final, hs, rfl, .inl ⟨rfl, rfl⟩⟩
  | cons arg rest ih =>
    rw [readLevel, if_pos rfl] at h
    obtain ⟨⟨settled, next⟩, hplace, hrest⟩ := bind_eq_ok.mp h
    obtain ⟨ht, hsettled, hn, rfl⟩ := place_eq_ok.mp hplace
    obtain ⟨named, hnamed, hnext, hargs⟩ := ih hrest
    obtain ⟨name, hname, rfl⟩ := map_eq_ok.mp hnamed
    obtain rfl := Given.textOf_eq_ok.mp hname
    refine ⟨settled, hsettled, hnext, .inr ⟨name, ?_⟩⟩
    rcases hargs with ⟨rfl, rfl⟩ | ⟨-, -, -, hnone, -⟩
    · exact ⟨rfl, ht, hn, rfl⟩
    · cases hnone

/-- What a level reads, with what was read last: an option that waits for its value takes the next
argument, and everything else is settled. -/
def Continues (topic : Topic) (given : Given) (args : List Bytes) (final : Given)
    (next : Option (Verb × List Bytes)) : Pending → Prop
  | .option which none => ∃ (value : Plain) (rest : List Bytes),
    args = Utf8.encode value.text :: rest ∧ (Mention.apart which value).IsLegal ∧
      given.Has (.value which) = false ∧
        Reads topic (given.plus (.apart which value)) rest final next
  | pending => ∃ settled, given.settle pending = .ok settled ∧ Reads topic settled args final next

private theorem continues_of_settle {settled : Given} {next : Option (Verb × List Bytes)}
    (h : given.settle pending = .ok settled) (hr : Reads topic settled args final next) :
    Continues topic given args final next pending := by
  have hw := Given.waiting_of_settle h
  unfold Continues
  split
  · cases hw
  · exact ⟨settled, h, hr⟩

private theorem settle_of_continues {next : Option (Verb × List Bytes)}
    (hw : waiting pending = none) (h : Continues topic given args final next pending) :
    ∃ settled, given.settle pending = .ok settled ∧ Reads topic settled args final next := by
  unfold Continues at h
  split at h
  · cases hw
  · exact h

private theorem continues_of_readLevel (h : readLevel topic false given pending args = .ok level)
    (hs : level.given.settle level.pending = .ok final) :
    Continues topic given args final level.next pending := by
  -- What is pending goes into the induction: whatever is read next settles it first.
  induction args generalizing given pending with
  | nil =>
    cases h
    exact continues_of_settle hs (.done final)
  | cons arg rest ih =>
    rw [readLevel, if_neg (by simp)] at h
    dsimp only at h
    split at h
    · next verb hverb =>
      cases h
      split at hverb
      · next hc =>
        simp only [Bool.and_eq_true, decide_eq_true_eq] at hc
        obtain rfl := verbOf?_eq_some_iff.mp hverb
        exact continues_of_settle hs (.command verb hc.1)
      · cases hverb
    · split at h
      · next hhelp =>
        exact (helpFor_ne_ok rest h).elim
      · split at h
        · next hform =>
          obtain rfl := formOf_eq_escape hform
          obtain ⟨settled, hsettled, hnext, hargs⟩ := behind_of_readLevel h hs
          rw [hnext]
          rcases hargs with ⟨rfl, rfl⟩ | ⟨name, rfl, ht, hn, rfl⟩
          · exact continues_of_settle hsettled (.escape _)
          · exact continues_of_settle hsettled (.behind name ht hn)
        · next hform =>
          split at h
          · next which hwaiting =>
            obtain ⟨settled, hsettled, hr⟩ := settle_of_continues rfl (ih h)
            obtain ⟨text, rfl, hl, hn, rfl⟩ := Given.setOption_eq_ok.mp hsettled
            obtain rfl : pending = .option which none := by
              cases pending with
              | nothing => cases hwaiting
              | app value => cases hwaiting
              | option other value =>
                cases value with
                | none => exact congrArg (Pending.option · none) (Option.some.inj hwaiting)
                | some value => cases hwaiting
            exact ⟨⟨text, formOf_encode_eq_plain_iff.mp hform⟩, rest, rfl, hl, hn, hr⟩
          · next hwaiting =>
            obtain ⟨⟨settled, next⟩, hplace, hrest⟩ := bind_eq_ok.mp h
            obtain ⟨ht, hsettled, hn, rfl⟩ := place_eq_ok.mp hplace
            obtain ⟨named, hnamed, hr⟩ := settle_of_continues rfl (ih hrest)
            obtain ⟨name, hname, rfl⟩ := map_eq_ok.mp hnamed
            obtain rfl := Given.textOf_eq_ok.mp hname
            exact continues_of_settle hsettled
              (.app ⟨name, formOf_encode_eq_plain_iff.mp hform⟩ ht hn hr)
        · next hescape hplain =>
          obtain ⟨⟨more, next⟩, htake, hrest⟩ := bind_eq_ok.mp h
          obtain ⟨settled, hsettled, hcases⟩ := takeOption_eq_ok hplain hescape htake
          rcases hcases with ⟨which, rfl, rfl, rfl⟩ | ⟨mention, harg, hl, hn, rfl, rfl⟩
          · obtain ⟨value, tail, rfl, hl, hn, hr⟩ := ih hrest
            exact continues_of_settle hsettled (.option (.apart which value) hl hn hr)
          · obtain ⟨_, hnothing, hr⟩ := settle_of_continues rfl (ih hrest)
            cases hnothing
            have hreads := Reads.option mention hl hn hr
            rw [← harg] at hreads
            exact continues_of_settle hsettled hreads

private theorem readLevel_long {arg name : Bytes} {value : Option Bytes} {settled : Given}
    (rest : List Bytes) (hform : formOf arg = .long name value)
    (h : given.settle pending = .ok settled) :
    readLevel topic false given pending (arg :: rest) =
      takeOption topic given pending (.long name value) >>= fun taken =>
        readLevel topic false taken.1 taken.2 rest := by
  have hw := Given.waiting_of_settle h
  have hverb : verbOf? arg = none := by
    rw [Option.eq_none_iff_forall_ne_some]
    intro verb hverb
    rw [verbOf?_eq_some_iff.mp hverb] at hform
    cases verb <;> cases hform
  have hhelp : isHelpWord arg = false := by
    rw [isHelpWord, decide_eq_false_iff_not]
    rintro rfl
    cases hform
  rw [readLevel, if_neg (by simp)]
  simp [hverb, hhelp, hform]

private theorem readLevel_mention {settled : Given} (mention : Mention) (rest : List Bytes)
    (hl : mention.IsLegal) (hn : settled.Has mention.subject = false)
    (h : given.settle pending = .ok settled) :
    ∃ more next, more.settle next = .ok (settled.plus mention) ∧
      readLevel topic false given pending (mention.texts.map Utf8.encode ++ rest) =
        readLevel topic false more next rest := by
  cases mention with
  | joined which value =>
    have hset := Given.setOption_eq_ok.mpr ⟨value, rfl, hl, hn, rfl⟩
    refine ⟨settled.plus (.joined which value), .nothing, rfl, ?_⟩
    rw [Mention.texts, List.map_singleton, List.singleton_append,
      readLevel_long rest (formOf_joined which value) h]
    simp only [takeOption, valueOption?_eq_some_iff.mpr rfl, h]
    change (settled.setOption which (Utf8.encode value) >>= fun more =>
      pure (more, Pending.nothing)) >>= _ = _
    rw [hset]
    rfl
  | apart which value =>
    have hset := Given.setOption_eq_ok.mpr ⟨value.text, rfl, hl, hn, rfl⟩
    refine ⟨settled, .option which (some (Utf8.encode value.text)), hset, ?_⟩
    rw [Mention.texts, List.map_cons, List.map_singleton, List.cons_append, List.singleton_append,
      readLevel_long _ (formOf_apart which) h]
    simp only [takeOption, valueOption?_eq_some_iff.mpr rfl, h]
    change readLevel topic false settled (.option which none) _ = _
    rw [readLevel, if_neg (by simp)]
    simp [waiting, formOf_encode_eq_plain_iff.mpr value.plain]
  | debug =>
    have hset := Given.setDebug_eq_ok.mpr ⟨hn, rfl⟩
    refine ⟨settled.plus .debug, .nothing, rfl, ?_⟩
    rw [Mention.texts, List.map_singleton, List.singleton_append,
      readLevel_long rest formOf_debug h]
    simp only [takeOption, h, raise]
    change (settled.setDebug >>= fun more => pure (more, Pending.nothing)) >>= _ = _
    rw [hset]
    rfl

private theorem readLevel_escape (rest : List Bytes) :
    readLevel topic false given pending (Utf8.encode "--" :: rest) =
      readLevel topic true given pending rest := by
  have hverb : verbOf? (Utf8.encode "--") = none := by decide +kernel
  have hhelp : isHelpWord (Utf8.encode "--") = false := by decide
  have hform : formOf (Utf8.encode "--") = .escape := rfl
  rw [readLevel, if_neg (by simp)]
  simp [hverb, hhelp, hform]

private theorem exists_level_of_reads {next : Option (Verb × List Bytes)} {settled : Given}
    (h : given.settle pending = .ok settled) (hr : Reads topic settled args final next) :
    ∃ level, readLevel topic false given pending args = .ok level ∧
      level.given.settle level.pending = .ok final ∧ level.next = next := by
  induction hr generalizing given pending with
  | done => exact ⟨_, rfl, h, rfl⟩
  | command verb ht =>
    have hw := Given.waiting_of_settle h
    refine ⟨⟨given, pending, _⟩, ?_, h, rfl⟩
    rw [readLevel, if_neg (by simp)]
    simp [ht, hw, verbOf?_eq_some_iff.mpr rfl]
    rfl
  | option mention hl hn _ ih =>
    obtain ⟨more, next, hmore, hread⟩ := readLevel_mention mention _ hl hn h
    rw [hread]
    exact ih hmore
  | @app settled final rest next name ht hn hr ih =>
    have hw := Given.waiting_of_settle h
    have hplace : place topic false (Utf8.encode name.text) given pending =
        .ok (settled, .app (Utf8.encode name.text)) :=
      place_eq_ok.mpr ⟨ht, h, hn, rfl⟩
    have hprogram : topic ≠ .program := by
      rintro rfl
      cases ht
    rw [readLevel, if_neg (by simp)]
    simp only [hprogram, hw, formOf_encode_eq_plain_iff.mpr name.plain, hplace]
    exact ih (Given.settle_app settled name.text)
  | escape =>
    exact ⟨⟨given, pending, none⟩, readLevel_escape [], h, rfl⟩
  | @behind settled name ht hn =>
    refine ⟨⟨settled, .app (Utf8.encode name), none⟩, ?_, Given.settle_app settled name, rfl⟩
    rw [readLevel_escape, readLevel, if_pos rfl, place_eq_ok.mpr ⟨ht, h, hn, rfl⟩]
    rfl

/-- A level is read, and all that it gives is in order, when its arguments are of this kind. -/
theorem reads_iff {next : Option (Verb × List Bytes)} : Reads topic given args final next ↔
    ∃ level, readLevel topic false given .nothing args = .ok level ∧
      level.given.settle level.pending = .ok final ∧ level.next = next := by
  constructor
  · intro h
    exact exists_level_of_reads rfl h
  · rintro ⟨level, hread, hsettle, rfl⟩
    obtain ⟨settled, hnothing, h⟩ := settle_of_continues rfl (continues_of_readLevel hread hsettle)
    cases hnothing
    exact h

end RuntimeFlag.CommandLine
