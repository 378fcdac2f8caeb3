import RuntimeFlag.Proofs.CommandLine.Line
/-!
# What a command line asks for

Which lines are accepted, and what the accepted ones mean. Main statements: `parse_line_iff` for
lines, and `exists_line_of_parse`, that nothing else is accepted.
-/
namespace RuntimeFlag.CommandLine

open Listing

/-! ## The environment -/

/-- The variable that stands for an option. -/
def Environment.value? (env : Environment) : Subject → Option String
  | .value .format => env.format
  | .value .config => env.config
  | .value .api => env.api
  | .debug => env.debug

/-- Whether the variable of an option is unset or has a value of the option. -/
def Environment.Admits (env : Environment) (subject : Subject) : Prop :=
  (env.value? subject).all subject.admits = true

instance (env : Environment) (subject : Subject) : Decidable (env.Admits subject) :=
  inferInstanceAs (Decidable (_ = true))

theorem admits_config (env : Environment) : env.Admits (.value .config) := by
  rw [Environment.Admits]
  cases env.value? (.value .config) <;> rfl

theorem admits_api (env : Environment) : env.Admits (.value .api) := by
  rw [Environment.Admits]
  cases env.value? (.value .api) <;> rfl

variable {env : Environment} {args : List Bytes} {invocation : Invocation}

theorem checkEnvironment_eq_ok {given : Given} : checkEnvironment env given = .ok () ↔
    ∀ subject, given.Has subject = false → env.Admits subject := by
  have hformat : env.Admits (.value .format) ↔
      (env.format.any fun name => (Format.ofName? name).isNone) = false := by
    rw [Environment.Admits, Environment.value?]
    cases env.format <;> simp [Subject.admits]
  have hdebug : env.Admits .debug ↔ (debugOf? env.debug).isNone = false := by
    rw [Environment.Admits, Environment.value?]
    cases env.debug <;> simp [Subject.admits, debugOf?]
  have hchecks : checkEnvironment env given = .ok () ↔
      (given.Has (.value .format) = false → env.Admits (.value .format)) ∧
        (given.Has .debug = false → env.Admits .debug) := by
    rw [hformat, hdebug, checkEnvironment, Given.Has, Given.Has, Given.has]
    cases given.format <;> cases given.debug <;>
      cases env.format.any (fun name => (Format.ofName? name).isNone) <;>
      cases (debugOf? env.debug).isNone <;> simp [reject, pure, Except.pure, bind, Except.bind,
        throw, throwThe, MonadExceptOf.throw]
  rw [hchecks]
  constructor
  · rintro ⟨hf, hd⟩ subject
    rcases subject with (_ | _ | _) | _
    · exact hf
    · exact fun _ => admits_config env
    · exact fun _ => admits_api env
    · exact hd
  · intro h
    exact ⟨h _, h _⟩

theorem checkEnvironment_eq_ok_or (env : Environment) (given : Given) :
    checkEnvironment env given = .ok () ∨
      checkEnvironment env given = .error ⟨.invalidValue, none⟩ := by
  unfold checkEnvironment
  cases given.format.isNone && env.format.any fun name => (Format.ofName? name).isNone <;>
    cases !given.debug && (debugOf? env.debug).isNone
  · exact .inl rfl
  · exact .inr rfl
  · exact .inr rfl
  · exact .inr rfl

theorem finish_eq_ok {level : Level} {given : Given} : finish env level = .ok given ↔
    level.given.settle level.pending = .ok given ∧
      ∀ subject, given.Has subject = false → env.Admits subject := by
  rw [finish, bind_eq_ok]
  constructor
  · rintro ⟨settled, hs, h⟩
    obtain ⟨⟨⟩, hcheck, h⟩ := bind_eq_ok.mp h
    cases h
    exact ⟨hs, checkEnvironment_eq_ok.mp hcheck⟩
  · rintro ⟨hs, henv⟩
    exact ⟨given, hs, bind_eq_ok.mpr ⟨(), checkEnvironment_eq_ok.mpr henv, rfl⟩⟩

/-! ## Both levels -/

theorem next_of_reads {verb : Verb} {given final : Given} {next : Option (Verb × List Bytes)}
    (h : Reads (.verb verb) given args final next) : next = none := by
  induction h with
  | done => rfl
  | command verb ht => cases ht
  | option _ _ _ _ ih => exact ih
  | app _ _ _ _ ih => exact ih
  | escape => rfl
  | behind => rfl

private theorem Verb.command?_eq_some_iff {verb : Verb} {name : Option String} {command : Command} :
    verb.command? name = some command ↔ command.verb = verb ∧ command.app? = name := by
  constructor
  · intro h
    cases verb <;> cases name <;> cases h <;> exact ⟨rfl, rfl⟩
  · rintro ⟨rfl, rfl⟩
    rcases command with ⟨app, _ | _⟩ | app | (_ | _) <;> rfl

/-- What the levels of a command line come to. -/
def Given.merged (outer inner : Given) (env : Environment) (command : Command) : Invocation where
  command := command
  options := outer.options inner env
  debug := inner.debug || outer.debug || (debugOf? env.debug).getD false

/-- When both levels are read, what is left to do is to check the environment, for the inner one
first. -/
theorem parse_of_reads {outer inner : Given} {rest : List Bytes} {command : Command}
    (houter : Reads .program .empty args outer (some (command.verb, rest)))
    (hinner : Reads (.verb command.verb) .empty rest inner none)
    (happ : command.app? = inner.app) :
    parse env args = checkEnvironment env inner >>= fun _ =>
      checkEnvironment env outer >>= fun _ => .ok (outer.merged inner env command) := by
  obtain ⟨level, hread, hsettle, hnext⟩ := reads_iff.mp houter
  obtain ⟨behind, hbehind, hsettleInner, -⟩ := reads_iff.mp hinner
  have hcommand := Verb.command?_eq_some_iff.mpr ⟨rfl, happ⟩
  simp only [parse, hread, hnext, hbehind, finish, hsettle, hsettleInner, bind, Except.bind]
  cases checkEnvironment env inner with
  | error fault => rfl
  | ok _ =>
    simp only [pure, Except.pure, hcommand]
    cases checkEnvironment env outer <;> rfl

private theorem parse_eq_ok_iff : parse env args = .ok invocation ↔
    ∃ (outer inner : Given) (rest : List Bytes) (command : Command),
      Reads .program .empty args outer (some (command.verb, rest)) ∧
      Reads (.verb command.verb) .empty rest inner none ∧
      command.app? = inner.app ∧
      (∀ subject, outer.Has subject = false ∨ inner.Has subject = false → env.Admits subject) ∧
      invocation = outer.merged inner env command := by
  constructor
  · intro h
    obtain ⟨level, hread, h⟩ := bind_eq_ok.mp h
    split at h
    · obtain ⟨given, -, h⟩ := bind_eq_ok.mp h
      split at h <;> cases h
    · next verb rest hnext =>
      obtain ⟨behind, hbehind, h⟩ := bind_eq_ok.mp h
      obtain ⟨inner, hfinish, h⟩ := bind_eq_ok.mp h
      obtain ⟨hsettle, henv⟩ := finish_eq_ok.mp hfinish
      dsimp only at h
      split at h
      · next command hcommand =>
        obtain ⟨outer, houter, h⟩ := bind_eq_ok.mp (show finish env level >>= _ = _ from h)
        cases h
        obtain ⟨hsettleOuter, henvOuter⟩ := finish_eq_ok.mp houter
        obtain ⟨rfl, happ⟩ := Verb.command?_eq_some_iff.mp hcommand
        have hreads := reads_iff.mpr ⟨behind, hbehind, hsettle, rfl⟩
        rw [next_of_reads hreads] at hreads
        exact ⟨outer, inner, rest, command, reads_iff.mpr ⟨level, hread, hsettleOuter, hnext⟩,
          hreads, happ, fun subject => Or.rec (henvOuter subject) (henv subject), rfl⟩
      · cases h
  · rintro ⟨outer, inner, rest, command, houter, hinner, happ, henv, rfl⟩
    have hcheck := checkEnvironment_eq_ok.mpr fun subject h => henv subject (.inr h)
    have hcheckOuter := checkEnvironment_eq_ok.mpr fun subject h => henv subject (.inl h)
    rw [parse_of_reads houter hinner happ, hcheck, hcheckOuter]
    rfl

/-! ## Values -/

/-- The options with what stands for one of them: a text, or nothing. -/
def Options.Takes (options : Options) : ValueOption → Option String → Prop
  | .format, some text => Format.ofName? text = some options.format
  | .format, none => options.format = .table
  | .config, text => options.settingsPath = text
  | .api, text => options.endpoint = text

/-- The last text that is written for an option. -/
def lastText? (which : ValueOption) (mentions : List Mention) : Option String :=
  (mentions.filterMap (Mention.text? which)).getLast?

theorem getLast?_filterMap_cons {α β : Type} (f : α → Option β) (a : α) (l : List α) :
    ((a :: l).filterMap f).getLast? = (l.filterMap f).getLast?.or (f a) := by
  rw [List.filterMap_cons]
  cases f a with
  | none => simp
  | some b =>
    rw [List.getLast?_cons]
    cases (l.filterMap f).getLast? <;> rfl

theorem lastText?_append (which : ValueOption) (mentions more : List Mention) :
    lastText? which (mentions ++ more) = (lastText? which more).or (lastText? which mentions) := by
  simp [lastText?, List.getLast?_append]

theorem lastText?_eq_none_iff {which : ValueOption} {mentions : List Mention} :
    lastText? which mentions = none ↔ .value which ∉ mentions.map Mention.subject := by
  have htext (mention : Mention) :
      mention.text? which = none ↔ mention.subject ≠ .value which := by
    rw [Mention.text?]
    cases mention <;> simp [Mention.subject, Mention.value?]
  rw [lastText?, List.getLast?_eq_none_iff, List.filterMap_eq_nil_iff]
  simp only [htext, List.mem_map, not_exists, not_and, ne_eq]

private theorem isSome_of_text? {mention : Mention} {text : String} (hl : mention.IsLegal)
    (h : mention.text? .format = some text) : (Format.ofName? text).isSome = true := by
  unfold Mention.text? at h
  split at h
  · next hs =>
    rw [Mention.IsLegal, hs, h] at hl
    exact hl
  · cases h

private theorem isSome_of_lastText? {mentions : List Mention} {text : String}
    (hl : ∀ mention ∈ mentions, mention.IsLegal) (h : lastText? .format mentions = some text) :
    (Format.ofName? text).isSome = true := by
  obtain ⟨mention, hm, htext⟩ := List.mem_filterMap.mp (List.mem_of_getLast? h)
  exact isSome_of_text? (hl mention hm) htext

section PlusAll

variable (given : Given) (mentions : List Mention)

private theorem field_plusAll {α : Type} {field : Given → Option α} {read : Mention → Option α}
    (h : ∀ given mention, field (given.plus mention) = (read mention).or (field given)) :
    field (given.plusAll mentions) = (mentions.filterMap read).getLast?.or (field given) := by
  induction mentions generalizing given with
  | nil => rfl
  | cons mention mentions ih =>
    rw [Given.plusAll, List.foldl_cons, ← Given.plusAll, ih, h, getLast?_filterMap_cons,
      Option.or_assoc]

private theorem config_plusAll :
    (given.plusAll mentions).config = (lastText? .config mentions).or given.config :=
  field_plusAll given mentions fun _ _ => rfl

private theorem api_plusAll :
    (given.plusAll mentions).api = (lastText? .api mentions).or given.api :=
  field_plusAll given mentions fun _ _ => rfl

private theorem format_plusAll (hl : ∀ mention ∈ mentions, mention.IsLegal) :
    (given.plusAll mentions).format =
      ((lastText? .format mentions).bind Format.ofName?).or given.format := by
  have hlast : (mentions.filterMap Mention.format?).getLast? =
      (lastText? .format mentions).bind Format.ofName? := by
    induction mentions with
    | nil => rfl
    | cons mention mentions ih =>
      obtain ⟨-, hrest⟩ := List.forall_mem_cons.mp hl
      rw [lastText?, getLast?_filterMap_cons, getLast?_filterMap_cons, ih hrest, ← lastText?]
      cases htext : lastText? .format mentions with
      | none => rfl
      | some text =>
        obtain ⟨format, hname⟩ := Option.isSome_iff_exists.mp (isSome_of_lastText? hrest htext)
        simp [hname]
  rw [← hlast]
  exact field_plusAll given mentions fun _ _ => rfl

end PlusAll

@[simp] theorem has_empty (subject : Subject) : Given.empty.Has subject = false := by
  rcases subject with (_ | _ | _) | _ <;> rfl

theorem has_of_once {mentions : List Mention} (h : Once .empty mentions) (subject : Subject) :
    (Given.empty.plusAll mentions).Has subject =
      decide (subject ∈ mentions.map Mention.subject) := by
  rw [has_plusAll (fun mention hm => (h.1 mention hm).1), has_empty, Bool.false_or]

theorem has_named_of_once {mentions : List Mention} (name : Option String)
    (h : Once .empty mentions) (subject : Subject) :
    { Given.empty.plusAll mentions with app := name }.Has subject =
      decide (subject ∈ mentions.map Mention.subject) :=
  (has_named _ name subject).trans (has_of_once h subject)

/-! ## Lines -/

namespace Line

/-- Whether all that stands on a line is in order. -/
structure IsInOrder (line : Line) (env : Environment) : Prop where
  before : Once .empty line.before
  inner : Once .empty line.inner
  environment : ∀ subject, subject ∉ line.before.map Mention.subject ∨
    subject ∉ line.inner.map Mention.subject → env.Admits subject

/-- The text that a line writes for an option: behind the command, else before it. -/
def flag? (line : Line) (which : ValueOption) : Option String :=
  (lastText? which line.inner).or (lastText? which line.before)

/-- What a line asks for. A flag wins over the variable, and the variable over the default. -/
structure Means (line : Line) (env : Environment) (invocation : Invocation) : Prop where
  verb : invocation.command.verb = line.verb
  names : invocation.command.app?.toList = line.names
  options : ∀ which,
    invocation.options.Takes which ((line.flag? which).or (env.value? (.value which)))
  debug : if .debug ∈ line.mentions.map Mention.subject then invocation.debug = true
    else debugOf? env.debug = some invocation.debug

private theorem flag?_eq_none {line : Line} {which : ValueOption} (h : line.flag? which = none) :
    .value which ∉ line.before.map Mention.subject :=
  lastText?_eq_none_iff.mp (Option.or_eq_none_iff.mp h).2

section Merged

variable {line : Line} {command : Command} {name : Option String}

private theorem options_merged (hi : line.IsInOrder env) (which : ValueOption) :
    ((Given.empty.plusAll line.before).options
      { Given.empty.plusAll line.inner with app := name } env).Takes which
        ((line.flag? which).or (env.value? (.value which))) := by
  have hbefore (mention : Mention) (hm : mention ∈ line.before) := (hi.before.1 mention hm).1
  have hinner (mention : Mention) (hm : mention ∈ line.inner) := (hi.inner.1 mention hm).1
  cases which with
  | config =>
    simp [Options.Takes, Given.options, config_plusAll, flag?, Given.empty, Environment.value?]
  | api =>
    simp [Options.Takes, Given.options, api_plusAll, flag?, Given.empty, Environment.value?]
  | format =>
    simp only [Given.options, format_plusAll _ _ hbefore, format_plusAll _ _ hinner, flag?,
      Given.empty, Option.or_none]
    cases hlast : lastText? .format line.inner with
    | some text =>
      obtain ⟨format, hname⟩ := Option.isSome_iff_exists.mp (isSome_of_lastText? hinner hlast)
      simp [Options.Takes, hname]
    | none =>
      cases hfirst : lastText? .format line.before with
      | some text =>
        obtain ⟨format, hname⟩ := Option.isSome_iff_exists.mp (isSome_of_lastText? hbefore hfirst)
        simp [Options.Takes, hname]
      | none =>
        have hflag : line.flag? .format = none := by simp [flag?, hlast, hfirst]
        have hadmits := hi.environment _ (.inl (flag?_eq_none hflag))
        rw [Environment.Admits] at hadmits
        cases hvariable : env.value? (.value .format) with
        | none =>
          rw [Environment.value?] at hvariable
          simp [Options.Takes, hvariable]
        | some text =>
          rw [hvariable] at hadmits
          obtain ⟨format, hname⟩ := Option.isSome_iff_exists.mp hadmits
          rw [Environment.value?] at hvariable
          simp [Options.Takes, hvariable, hname]

private theorem debug_merged (hi : line.IsInOrder env) :
    if .debug ∈ line.mentions.map Mention.subject then
      ((Given.empty.plusAll line.before).merged
        { Given.empty.plusAll line.inner with app := name } env command).debug = true
    else debugOf? env.debug = some ((Given.empty.plusAll line.before).merged
      { Given.empty.plusAll line.inner with app := name } env command).debug := by
  have hbefore : (Given.empty.plusAll line.before).debug =
      decide (.debug ∈ line.before.map Mention.subject) :=
    has_of_once hi.before .debug
  have hinner : (Given.empty.plusAll line.inner).debug =
      decide (.debug ∈ line.inner.map Mention.subject) :=
    has_of_once hi.inner .debug
  have hmentions : .debug ∈ line.mentions.map Mention.subject ↔
      .debug ∈ line.before.map Mention.subject ∨ .debug ∈ line.inner.map Mention.subject := by
    rw [mentions, List.map_append, List.mem_append]
  simp only [Given.merged, hbefore, hinner]
  split
  · next hm =>
    rcases hmentions.mp hm with h | h <;> simp [h]
  · next hm =>
    obtain ⟨hb, hn⟩ := not_or.mp (mt hmentions.mpr hm)
    have hadmits := hi.environment .debug (.inl hb)
    rw [Environment.Admits, Environment.value?] at hadmits
    cases hvariable : env.debug with
    | none => simp [hb, hn, debugOf?]
    | some text =>
      rw [hvariable] at hadmits
      obtain ⟨value, hvalue⟩ := Option.isSome_iff_exists.mp hadmits
      simp [hb, hn, hvalue]

theorem means_merged (hi : line.IsInOrder env) (hverb : command.verb = line.verb)
    (happ : command.app? = name) (hnames : name.toList = line.names) :
    line.Means env ((Given.empty.plusAll line.before).merged
      { Given.empty.plusAll line.inner with app := name } env command) :=
  ⟨hverb, happ ▸ hnames, options_merged hi, debug_merged hi⟩

end Merged

private theorem takes_unique {a b : Options} {text? : ValueOption → Option String}
    (ha : ∀ which, a.Takes which (text? which)) (hb : ∀ which, b.Takes which (text? which)) :
    a = b := by
  have hformat : a.format = b.format := by
    have hfa := ha .format
    have hfb := hb .format
    cases ht : text? .format with
    | none =>
      rw [ht] at hfa hfb
      exact hfa.trans hfb.symm
    | some text =>
      rw [ht] at hfa hfb
      exact Option.some.inj (hfa.symm.trans hfb)
  have hconfig : a.settingsPath = b.settingsPath := (ha .config).trans (hb .config).symm
  have hapi : a.endpoint = b.endpoint := (ha .api).trans (hb .api).symm
  cases a
  cases b
  simp_all

theorem Means.unique {line : Line} {a b : Invocation} (ha : line.Means env a)
    (hb : line.Means env b) : a = b := by
  have hcommand : a.command = b.command := by
    have happ : a.command.app? = b.command.app? := by
      have h := ha.names.trans hb.names.symm
      cases hx : a.command.app? <;> cases hy : b.command.app? <;> simp_all
    have hc := Verb.command?_eq_some_iff.mpr ⟨ha.verb, happ⟩
    rw [Verb.command?_eq_some_iff.mpr ⟨hb.verb, rfl⟩] at hc
    exact (Option.some.inj hc).symm
  have hoptions := takes_unique ha.options hb.options
  have hdebug : a.debug = b.debug := by
    have hda := ha.debug
    have hdb := hb.debug
    split at hda
    · next hm =>
      rw [if_pos hm] at hdb
      exact hda.trans hdb.symm
    · next hm =>
      rw [if_neg hm] at hdb
      exact Option.some.inj (hda.symm.trans hdb)
  cases a
  cases b
  simp_all

private theorem takesApp_of_app? {command : Command} (h : command.app?.toList ≠ []) :
    command.verb.takesApp = true := by
  rcases command with ⟨app, _ | _⟩ | app | _
  · rfl
  · rfl
  · rfl
  · exact absurd rfl h

/-- The arguments behind the command. -/
def rest (line : Line) : List Bytes :=
  (line.after.flatMap Word.texts ++ ending line.behind).map Utf8.encode

theorem reads_of_means {line : Line} (hi : line.IsInOrder env) (hm : line.Means env invocation) :
    Reads .program .empty line.args (Given.empty.plusAll line.before)
        (some (invocation.command.verb, line.rest)) ∧
      Reads (.verb invocation.command.verb) .empty line.rest
        { Given.empty.plusAll line.inner with app := invocation.command.app? } none := by
  have htakes : line.names ≠ [] → invocation.command.verb.takesApp = true := by
    intro h
    rw [← hm.names] at h
    exact takesApp_of_app? h
  constructor
  · refine reads_before_iff.mpr ⟨line.before, ?_, hi.before, rfl⟩
    rw [args, texts, List.map_append, List.map_cons, hm.verb, rest]
  · exact reads_after_iff.mpr ⟨line.after, line.behind, _, rfl, hi.inner, hm.names, htakes, rfl⟩

private theorem parse_eq_ok_iff_line : parse env args = .ok invocation ↔
    ∃ line : Line, line.args = args ∧ line.IsInOrder env ∧ line.Means env invocation := by
  rw [parse_eq_ok_iff]
  constructor
  · rintro ⟨outer, inner, rest, command, houter, hinner, happ, henv, rfl⟩
    obtain ⟨before, rfl, hbefore, rfl⟩ := reads_before_iff.mp houter
    obtain ⟨after, behind, name, rfl, hafter, hnames, -, rfl⟩ := reads_after_iff.mp hinner
    let line : Line := ⟨before, command.verb, after, behind⟩
    have hi : line.IsInOrder env := by
      refine ⟨hbefore, hafter, fun subject h => henv subject ?_⟩
      rw [has_of_once hbefore, has_named_of_once name hafter]
      exact h.imp decide_eq_false decide_eq_false
    refine ⟨line, ?_, hi, means_merged hi rfl happ hnames⟩
    rw [args, texts, List.map_append, List.map_cons]
  · rintro ⟨line, rfl, hi, hm⟩
    obtain ⟨houter, hinner⟩ := reads_of_means hi hm
    refine ⟨_, _, line.rest, invocation.command, houter, hinner, rfl, ?_,
      hm.unique (means_merged hi hm.verb rfl hm.names)⟩
    intro subject h
    rw [has_of_once hi.before, has_named_of_once _ hi.inner] at h
    exact hi.environment subject (h.imp of_decide_eq_false of_decide_eq_false)

end Line

/-- A line is accepted for what it means, as far as all that stands on it is in order. -/
theorem parse_line_iff {line : Line} : parse env line.args = .ok invocation ↔
    line.IsInOrder env ∧ line.Means env invocation := by
  rw [Line.parse_eq_ok_iff_line]
  constructor
  · rintro ⟨other, hargs, hi, hm⟩
    obtain rfl := Line.args_injective hargs
    exact ⟨hi, hm⟩
  · rintro ⟨hi, hm⟩
    exact ⟨line, rfl, hi, hm⟩

theorem exists_line_of_parse (h : parse env args = .ok invocation) :
    ∃ line : Line, line.args = args := by
  obtain ⟨line, hargs, -⟩ := Line.parse_eq_ok_iff_line.mp h
  exact ⟨line, hargs⟩

end RuntimeFlag.CommandLine
