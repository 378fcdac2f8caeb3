import RuntimeFlag.Proofs.CommandLine.Acceptance
/-!
# The usage that is shown

A command line with a wrong number of arguments is answered with the usage of the first command that
it names, and not of the one that was read. Main statement: `usage_exact`, the two differ just when
the value of an option, in an argument of its own, names another command.
-/
namespace RuntimeFlag.CommandLine

/-! ## Options in front -/

/-- Arguments that begin with options, the values that stand apart from them, and what is left. -/
inductive PastOptions : List Bytes → List Bytes → List Bytes → Prop
  | here (left : List Bytes) : PastOptions left [] left
  | joined {rest values left : List Bytes} (which : ValueOption) (value : String)
    (h : PastOptions rest values left) :
    PastOptions (Utf8.encode ("--" ++ which.name ++ "=" ++ value) :: rest) values left
  | apart {value : Bytes} {rest values left : List Bytes} (which : ValueOption)
    (hv : formOf value = .plain) (h : PastOptions rest values left) :
    PastOptions (Utf8.encode ("--" ++ which.name) :: value :: rest) (value :: values) left
  | debug {rest values left : List Bytes} (h : PastOptions rest values left) :
    PastOptions (Utf8.encode "--debug" :: rest) values left

variable {env : Environment} {args values left rest : List Bytes} {arg : Bytes} {verb : Verb}
  {given : Given} {pending : Pending}

private theorem verbOf?_of_form (h : formOf arg ≠ .plain) : verbOf? arg = none := by
  rw [Option.eq_none_iff_forall_ne_some]
  intro verb hverb
  rw [verbOf?_eq_some_iff.mp hverb] at h
  cases verb <;> exact h rfl

private theorem form_ne_plain {name : Bytes} {value : Option Bytes}
    (h : formOf arg = .long name value) :
    formOf arg ≠ .plain := by
  rw [h]
  nofun

private theorem PastOptions.findSome? (h : PastOptions args values left) :
    args.findSome? verbOf? = (values.findSome? verbOf?).or (left.findSome? verbOf?) := by
  induction h with
  | here left => rfl
  | joined which value _ ih =>
    rw [List.findSome?_cons, verbOf?_of_form (form_ne_plain (formOf_joined which value)), ih]
  | @apart value rest values left which hv _ ih =>
    rw [List.findSome?_cons, verbOf?_of_form (form_ne_plain (formOf_apart which)),
      List.findSome?_cons, List.findSome?_cons, ih]
    cases verbOf? value <;> rfl
  | debug _ ih =>
    rw [List.findSome?_cons, verbOf?_of_form (form_ne_plain formOf_debug), ih]

private theorem pastOptions_mention {mention : Mention} (ha : [arg] = mention.texts.map Utf8.encode)
    (h : PastOptions rest values left) : PastOptions (arg :: rest) values left := by
  cases mention with
  | joined which value =>
    obtain ⟨rfl, -⟩ := List.cons.inj ha
    exact .joined which value h
  | apart which value => cases ha
  | debug =>
    obtain ⟨rfl, -⟩ := List.cons.inj ha
    exact .debug h

/-! ## Rejections that are not about the number of arguments -/

def Uncounted {α : Type} (result : Except Rejection α) : Prop :=
  ∀ rejection, result = .error rejection → rejection.problem.aboutCount = false

namespace Uncounted

variable {α β : Type}

private theorem ok (a : α) : Uncounted (.ok a : Except Rejection α) := nofun

private theorem error {rejection : Rejection} (h : rejection.problem.aboutCount = false) :
    Uncounted (.error rejection : Except Rejection α) := by
  rintro _ ⟨⟩
  exact h

private theorem reject {problem : Problem} (h : problem.aboutCount = false) :
    Uncounted (CommandLine.reject problem : Except Rejection α) :=
  error h

private theorem bind {result : Except Rejection α} {next : α → Except Rejection β}
    (h : Uncounted result) (hn : ∀ a, Uncounted (next a)) : Uncounted (result >>= next) := by
  cases result with
  | error rejection => exact error (h rejection rfl)
  | ok a => exact hn a

private theorem map {result : Except Rejection α} (f : α → β) (h : Uncounted result) :
    Uncounted (result.map f) := by
  cases result with
  | error rejection => exact error (h rejection rfl)
  | ok a => exact ok (f a)

end Uncounted

private theorem uncounted_textOf (value : Bytes) : Uncounted (textOf value) := by
  unfold textOf
  split
  · exact .ok _
  · exact .reject rfl

private theorem uncounted_formatOf (value : Bytes) : Uncounted (formatOf value) := by
  unfold formatOf
  split
  · exact .ok _
  · exact .reject rfl

private theorem uncounted_settle (given : Given) (pending : Pending) :
    Uncounted (given.settle pending) := by
  unfold Given.settle
  split
  · exact .ok _
  · exact .reject rfl
  · next which value =>
    unfold Given.setOption
    split
    · exact .reject rfl
    · cases which with
      | format => exact (uncounted_formatOf value).map _
      | config => exact (uncounted_textOf value).map _
      | api => exact (uncounted_textOf value).map _
  · exact (uncounted_textOf _).map _

private theorem uncounted_finish (env : Environment) (level : Level) :
    Uncounted (finish env level) := by
  refine (uncounted_settle level.given level.pending).bind fun given => ?_
  rcases checkEnvironment_eq_ok_or env given with h | h
  · rw [h]
    exact .ok given
  · rw [h]
    exact .error rfl

private theorem uncounted_helpFor {α : Type} (args : List Bytes) :
    Uncounted (helpFor args : Except Rejection α) := by
  unfold helpFor
  split
  · exact .error rfl
  · split
    · exact .error rfl
    · split
      · exact .error rfl
      · exact .reject rfl
  · exact .reject rfl

/-! ## Where the reader stops -/

/-- The argument that waits for its value. -/
def Pending.words (pending : Pending) : List Bytes :=
  ((waiting pending).map fun which => Utf8.encode ("--" ++ which.name)).toList

/-- Past the options stands the command that was found, or an argument that is no word of its
own. -/
def Stops (args : List Bytes) : Except Rejection Level → Prop
  | .ok level => ∀ verb rest, level.next = some (verb, rest) →
    ∃ values, PastOptions args values (Utf8.encode verb.name :: rest)
  | .error rejection => rejection.problem.aboutCount = true →
    ∃ values stop rest, PastOptions args values (stop :: rest) ∧ formOf stop ≠ .plain

private theorem Stops.behind {more : List Bytes} {result : Except Rejection Level}
    (h : Stops rest result)
    (hp : ∀ values left, PastOptions rest values left → ∃ all, PastOptions more all left) :
    Stops more result := by
  cases result with
  | ok level =>
    intro verb rest hn
    obtain ⟨values, hpast⟩ := h verb rest hn
    exact hp _ _ hpast
  | error rejection =>
    intro hc
    obtain ⟨values, stop, rest, hpast, hform⟩ := h hc
    obtain ⟨all, hall⟩ := hp _ _ hpast
    exact ⟨all, stop, rest, hall, hform⟩

/-- An argument that is no word and cannot be read stops the reader, and so does the option before
it that waits for a value. -/
theorem stops_at {rejection : Rejection} (pending : Pending) (hf : formOf arg ≠ .plain) :
    Stops (pending.words ++ arg :: rest) (.error rejection) := by
  intro _
  rw [Pending.words]
  cases waiting pending with
  | none => exact ⟨[], arg, rest, .here _, hf⟩
  | some which => exact ⟨[], _, arg :: rest, .here _, form_ne_plain (formOf_apart which)⟩

private theorem stops_of_uncounted {rejection : Rejection} {result : Except Rejection Level}
    (h : Uncounted result) (he : result = .error rejection) : Stops args result := by
  rw [he]
  intro hc
  rw [h rejection he] at hc
  cases hc

private theorem words_of_waiting {which : ValueOption} (h : waiting pending = some which) :
    pending.words = [Utf8.encode ("--" ++ which.name)] := by
  simp [Pending.words, h]

private theorem words_of_not_waiting (h : waiting pending = none) : pending.words = [] := by
  simp [Pending.words, h]

private theorem stops_readLevel (given : Given) (pending : Pending) (args : List Bytes) :
    Stops (pending.words ++ args) (readLevel .program false given pending args) := by
  -- An option that waits stands in front of the arguments, so that what it takes is its value.
  induction args generalizing given pending with
  | nil =>
    intro verb rest hn
    cases hn
  | cons arg rest ih =>
    rw [readLevel, if_neg (by simp)]
    dsimp only
    split
    · next verb hverb =>
      split at hverb
      · next hc =>
        rintro verb' rest' ⟨⟩
        have hw : waiting pending = none := by simpa using hc
        rw [words_of_not_waiting hw, verbOf?_eq_some_iff.mp hverb]
        exact ⟨[], .here _⟩
      · cases hverb
    · split
      · next hhelp =>
        cases hr : (helpFor rest : Except Rejection Level) with
        | ok level => exact (helpFor_ne_ok rest hr).elim
        | error rejection => exact hr ▸ stops_of_uncounted (uncounted_helpFor rest) hr
      · split
        · next hform =>
          cases rest with
          | nil =>
            intro verb rest hn
            cases hn
          | cons other rest => exact stops_at pending (by simp [hform])
        · next hform =>
          split
          · next which hw =>
            refine (ih given (.option which (some arg))).behind fun values left h => ?_
            rw [words_of_waiting hw]
            exact ⟨_, .apart which hform h⟩
          · next hw =>
            exact stops_of_uncounted (Uncounted.reject rfl) rfl
        · next hescape hplain =>
          cases htake : takeOption .program given pending (formOf arg) with
          | error rejection => exact stops_at pending hplain
          | ok taken =>
            obtain ⟨more, next⟩ := taken
            obtain ⟨settled, hsettled, hcases⟩ := takeOption_eq_ok hplain hescape htake
            have hw := Given.waiting_of_settle hsettled
            rw [words_of_not_waiting hw]
            rcases hcases with ⟨which, rfl, rfl, rfl⟩ | ⟨mention, harg, -, -, rfl, rfl⟩
            · exact ih _ _
            · exact (ih _ _).behind fun values left h => ⟨_, pastOptions_mention harg h⟩

/-! ## The usage -/

/-- The reader of the program goes on to a command with the arguments behind it. -/
def Selects (args : List Bytes) (verb : Verb) : Prop :=
  ∃ level rest, readLevel .program false .empty .nothing args = .ok level ∧
    level.next = some (verb, rest)

/-- The command that the values name first. -/
def namedVerb? (values : List Bytes) : Option Verb := values.findSome? verbOf?

private theorem ofName?_decodeLossy (arg : Bytes) :
    Verb.ofName? (Utf8.decodeLossy arg) = verbOf? arg := by
  cases h : Utf8.decode? arg with
  | some text =>
    rw [Utf8.eq_encode_of_decode? h, Utf8.decodeLossy_encode, verbOf?, Utf8.decode?_encode,
      Option.bind_some]
  | none =>
    rw [verbOf?, h, Option.bind_none, Option.eq_none_iff_forall_ne_some]
    intro verb hverb
    have hmem := Utf8.mem_decodeLossy_of_decode?_eq_none h
    have hname := beq_iff_eq.mp (List.find?_some (p := fun v : Verb => v.name == _) hverb)
    rw [← hname] at hmem
    revert hmem
    cases verb <;> decide

private theorem usageFor_decodeLossy {problem : Problem} (h : problem.aboutCount = true) :
    usageFor (args.map Utf8.decodeLossy) problem = (namedVerb? args).map Verb.usage := by
  rw [usageFor, if_pos h, namedVerb?]
  induction args with
  | nil => rfl
  | cons arg rest ih =>
    rw [List.map_cons, List.findSome?_cons, List.findSome?_cons, ofName?_decodeLossy, ih]
    cases verbOf? arg <;> rfl

private theorem usage_injective {verb other : Verb} (h : verb.usage = other.usage) :
    verb = other := by
  revert h
  cases verb <;> cases other <;> decide

private theorem uncounted_parse {level : Level}
    (h : readLevel .program false .empty .nothing args = .ok level) (hn : level.next = none) :
    Uncounted (parse env args) := by
  have hparse : parse env args = finish env level >>= fun given =>
      if anythingGiven env given then reject .missingCommand
      else throw ⟨.nothingGiven, some (.help .program false)⟩ := by
    obtain ⟨given, pending, next⟩ := level
    cases hn
    rw [parse, h]
    rfl
  rw [hparse]
  refine (uncounted_finish env level).bind fun given => ?_
  split
  · exact .reject rfl
  · exact .error rfl

private theorem selects_or_rejected {rejection : Rejection} (h : parse env args = .error rejection)
    (hc : rejection.problem.aboutCount = true) :
    (∃ verb, Selects args verb) ∨
      readLevel .program false .empty .nothing args = .error rejection := by
  cases hread : readLevel .program false .empty .nothing args with
  | error other =>
    rw [parse, hread] at h
    cases h
    exact .inr rfl
  | ok level =>
    cases hnext : level.next with
    | some found => exact .inl ⟨found.1, level, found.2, hread, hnext⟩
    | none =>
      rw [uncounted_parse hread hnext rejection h] at hc
      cases hc

private theorem selects_of_reads {final : Given}
    (h : Reads .program .empty args final (some (verb, rest))) : Selects args verb := by
  obtain ⟨level, hread, -, hnext⟩ := reads_iff.mp h
  exact ⟨level, rest, hread, hnext⟩

private theorem pastOptions_of_selects (h : Selects args verb) :
    ∃ values rest, PastOptions args values (Utf8.encode verb.name :: rest) := by
  obtain ⟨level, rest, hread, hnext⟩ := h
  have hstops := stops_readLevel .empty .nothing args
  rw [hread] at hstops
  obtain ⟨values, hpast⟩ := hstops verb rest hnext
  exact ⟨values, rest, hpast⟩

private theorem namedVerb?_of_pastOptions
    (h : PastOptions args values (Utf8.encode verb.name :: rest)) :
    namedVerb? args = some ((namedVerb? values).getD verb) := by
  rw [namedVerb?, h.findSome?, List.findSome?_cons, verbOf?_eq_some_iff.mpr rfl, ← namedVerb?]
  cases namedVerb? values <;> rfl

/-- A command line that is rejected for the number of its arguments has options in front, and then
the command that is read, or an argument that is no word. The usage that is shown is that of the
command, except that a value among the options which names a command takes its place when it is an
argument of its own. Where no command is read it is that of the first one that is named. -/
theorem usage_exact {rejection : Rejection} (h : parse env args = .error rejection)
    (hc : rejection.problem.aboutCount = true) : ∃ values stop rest,
      PastOptions args values (stop :: rest) ∧
      ((∃ verb, stop = Utf8.encode verb.name ∧ Selects args verb ∧
          usageFor (args.map Utf8.decodeLossy) rejection.problem =
            some ((namedVerb? values).getD verb).usage ∧
          (usageFor (args.map Utf8.decodeLossy) rejection.problem = some verb.usage ↔
            ∀ other, namedVerb? values = some other → other = verb)) ∨
        formOf stop ≠ .plain ∧ (∀ verb, ¬ Selects args verb) ∧
          usageFor (args.map Utf8.decodeLossy) rejection.problem =
            ((namedVerb? values).or (namedVerb? rest)).map Verb.usage) := by
  rw [usageFor_decodeLossy hc]
  rcases selects_or_rejected h hc with ⟨verb, hselects⟩ | hrejected
  · obtain ⟨values, rest, hpast⟩ := pastOptions_of_selects hselects
    refine ⟨values, _, rest, hpast, .inl ⟨verb, rfl, hselects, ?_⟩⟩
    rw [namedVerb?_of_pastOptions hpast, Option.map_some]
    refine ⟨rfl, ?_⟩
    cases namedVerb? values with
    | none => simp
    | some other =>
      simp only [Option.getD_some, Option.some.injEq, forall_eq']
      exact ⟨usage_injective, fun he => he ▸ rfl⟩
  · have hstops : Stops args _ := stops_readLevel .empty .nothing args
    rw [hrejected] at hstops
    obtain ⟨values, stop, rest, hpast, hform⟩ := hstops hc
    refine ⟨values, stop, rest, hpast, .inr ⟨hform, ?_, ?_⟩⟩
    · rintro verb ⟨level, rest, hread, -⟩
      rw [hrejected] at hread
      cases hread
    · rw [namedVerb?, hpast.findSome?, List.findSome?_cons, verbOf?_of_form hform]
      rfl

/-- An endpoint that is named like a command, in front of a command without its application. -/
theorem usage_exact_endpoint :
    let args := ["--api", "diego-apps", "--debug", "has-diego-enabled"].map Utf8.encode
    parse ⟨none, none, none, none⟩ args = .error ⟨.missingArgument, none⟩ ∧
      Problem.missingArgument.aboutCount = true ∧ ∃ values stop rest,
      PastOptions args values (stop :: rest) ∧
      ((∃ verb, stop = Utf8.encode verb.name ∧ Selects args verb ∧
          usageFor (args.map Utf8.decodeLossy) .missingArgument =
            some ((namedVerb? values).getD verb).usage ∧
          (usageFor (args.map Utf8.decodeLossy) .missingArgument = some verb.usage ↔
            ∀ other, namedVerb? values = some other → other = verb)) ∨
        formOf stop ≠ .plain ∧ (∀ verb, ¬ Selects args verb) ∧
          usageFor (args.map Utf8.decodeLossy) .missingArgument =
            ((namedVerb? values).or (namedVerb? rest)).map Verb.usage) := by
  intro args
  have hparse : parse ⟨none, none, none, none⟩ args = .error ⟨.missingArgument, none⟩ := by
    decide +kernel
  exact ⟨hparse, rfl, usage_exact hparse rfl⟩

/-- The usage is not always that of the command that is read: a settings file may be named like
another one. -/
theorem usage_of_another_command :
    ¬ ∀ (env : Environment) (args : List Bytes) (rejection : Rejection) (verb : Verb),
      parse env args = .error rejection → rejection.problem.aboutCount = true →
      Selects args verb → ∀ usage,
        usageFor (args.map Utf8.decodeLossy) rejection.problem = some usage →
        usage = verb.usage := by
  intro h
  let line : Line :=
    ⟨[.apart .config ⟨"enable-diego", by decide⟩], .listDea, [.app ⟨"x", by decide⟩], none⟩
  have hparse : parse ⟨none, none, none, none⟩ line.args = .error ⟨.unknownArgument, none⟩ := by
    decide +kernel
  have hselects : Selects line.args .listDea :=
    selects_of_reads (.option (.apart .config _) rfl rfl (.command .listDea rfl))
  have hnamed : namedVerb? line.args = some .enable := by decide +kernel
  have husage : usageFor (line.args.map Utf8.decodeLossy) .unknownArgument =
      some Verb.enable.usage := by
    rw [usageFor_decodeLossy rfl, hnamed, Option.map_some]
  exact absurd (h _ line.args _ _ hparse rfl hselects _ husage) (by decide)

end RuntimeFlag.CommandLine
