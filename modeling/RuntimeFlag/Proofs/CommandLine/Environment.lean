import RuntimeFlag.Proofs.CommandLine.Acceptance
/-!
# Flags and their variables

What a flag leaves of the variable that stands for the same option. Its value does not count any
more, but each level of a command line checks the variables of the options that it leaves out itself.
-/
namespace RuntimeFlag.CommandLine

/-- Whether an option is given by the arguments, with a value of it and before any `--`. -/
def GivenIn (subject : Subject) (args : List Bytes) : Prop :=
  ∃ (front back : List Bytes) (mention : Mention), mention.subject = subject ∧ mention.IsLegal ∧
    Utf8.encode "--" ∉ front ∧ args = front ++ mention.texts.map Utf8.encode ++ back

/-- Environments that differ at most in the variable of an option. -/
def Environment.SameBut (env : Environment) (subject : Subject) (other : Environment) : Prop :=
  ∀ s, s ≠ subject → env.value? s = other.value? s

variable {env other : Environment} {args : List Bytes} {subject : Subject}

/-! ## Given arguments are read -/

private theorem not_givenIn_nil : ¬ GivenIn subject [] := by
  rintro ⟨front, back, mention, -, -, -, hargs⟩
  obtain ⟨head, tail, ht, -⟩ := mention.exists_head
  simp [ht] at hargs

private theorem GivenIn.cons {arg : Bytes} {rest : List Bytes} (h : GivenIn subject (arg :: rest)) :
    (∃ value, formOf arg = .long (Utf8.encode subject.name) value) ∨
      arg ≠ Utf8.encode "--" ∧ GivenIn subject rest := by
  obtain ⟨front, back, mention, rfl, hl, hn, hargs⟩ := h
  cases front with
  | nil =>
    obtain ⟨head, tail, ht, hform⟩ := mention.exists_head
    rw [ht] at hargs
    obtain ⟨rfl, -⟩ := List.cons.inj hargs
    exact .inl ⟨_, hform⟩
  | cons first front =>
    obtain ⟨rfl, rfl⟩ := List.cons.inj hargs
    obtain ⟨hfirst, hfront⟩ := not_or.mp (mt List.mem_cons.mpr hn)
    exact .inr ⟨Ne.symm hfirst, front, back, mention, rfl, hl, hfront, rfl⟩

private theorem GivenIn.tail {arg : Bytes} {rest : List Bytes} (h : GivenIn subject (arg :: rest))
    (hf : formOf arg = .plain ∨ formOf arg = .escape) :
    arg ≠ Utf8.encode "--" ∧ GivenIn subject rest := by
  rcases h.cons with ⟨value, hlong⟩ | htail
  · rw [hlong] at hf
    rcases hf with hf | hf <;> cases hf
  · exact htail

private theorem GivenIn.behind {mention : Mention} {rest : List Bytes}
    (h : GivenIn subject (mention.texts.map Utf8.encode ++ rest)) :
    mention.subject = subject ∨ GivenIn subject rest := by
  have hname {arg : Bytes} {value : Option Bytes}
      (hf : formOf arg = .long (Utf8.encode mention.subject.name) value)
      (h : ∃ value, formOf arg = .long (Utf8.encode subject.name) value) :
      mention.subject = subject := by
    obtain ⟨value', h⟩ := h
    obtain ⟨hn, -⟩ := Form.long.inj (hf.symm.trans h)
    exact Subject.name_injective (encode_injective hn)
  cases mention with
  | joined which value =>
    exact h.cons.imp (hname (formOf_joined which value)) And.right
  | apart which value =>
    rcases h.cons with hlong | ⟨-, hrest⟩
    · exact .inl (hname (formOf_apart which) hlong)
    · exact .inr (hrest.tail (.inl (formOf_encode_eq_plain_iff.mpr value.plain))).2
  | debug =>
    exact h.cons.imp (hname formOf_debug) And.right

private theorem has_of_reads {topic : Topic} {given final : Given}
    {next : Option (Verb × List Bytes)} (hr : Reads topic given args final next)
    (h : given.Has subject = true) :
    final.Has subject = true := by
  induction hr with
  | done => exact h
  | command => exact h
  | option mention hl _ _ ih =>
    apply ih
    rw [Given.has_plus hl, h, Bool.or_true]
  | app name _ _ _ ih => exact ih ((has_named _ _ _).trans h)
  | escape => exact h
  | behind => exact (has_named _ _ _).trans h

/-- An option that the arguments give is read on this level, or left to the next one. -/
theorem has_or_givenIn_of_reads {topic : Topic} {given final : Given}
    {next : Option (Verb × List Bytes)} (hr : Reads topic given args final next)
    (h : GivenIn subject args) :
    final.Has subject = true ∨
      ∃ verb rest, next = some (verb, rest) ∧ GivenIn subject rest := by
  induction hr with
  | done => exact (not_givenIn_nil h).elim
  | @command given rest verb ht =>
    have hplain : formOf (Utf8.encode verb.name) = .plain := by
      cases verb <;> rfl
    exact .inr ⟨verb, rest, rfl, (h.tail (.inl hplain)).2⟩
  | option mention hl _ hr ih =>
    rcases h.behind with hs | hrest
    · left
      apply has_of_reads hr
      rw [Given.has_plus hl, hs, decide_eq_true rfl, Bool.true_or]
    · exact ih hrest
  | app name _ _ _ ih =>
    exact ih (h.tail (.inl (formOf_encode_eq_plain_iff.mpr name.plain))).2
  | escape => exact ((h.tail (.inr rfl)).1 rfl).elim
  | behind => exact ((h.tail (.inr rfl)).1 rfl).elim

/-! ## The environment -/

namespace Environment.SameBut

variable (h : env.SameBut subject other)
include h

private theorem admits_iff (hs : env.Admits subject ↔ other.Admits subject) (s : Subject) :
    env.Admits s ↔ other.Admits s := by
  by_cases he : s = subject
  · rw [he]
    exact hs
  · rw [Environment.Admits, Environment.Admits, h s he]

private theorem merged_eq {outer inner : Given}
    (hg : outer.Has subject = true ∨ inner.Has subject = true) (command : Command) :
    outer.merged inner env command = outer.merged inner other command := by
  have hkept {α : Type} {a b c d : Option α} (s : Subject)
      (hsome : outer.Has s = true ∨ inner.Has s = true → b.isSome = true ∨ a.isSome = true)
      (heq : s ≠ subject → c = d) : (a.or b).or c = (a.or b).or d := by
    by_cases hs : s = subject
    · have hvalue := hsome (hs ▸ hg)
      cases a <;> cases b <;> simp_all
    · rw [heq hs]
  have hformat : (inner.format.or outer.format).or (env.format.bind Listing.Format.ofName?) =
      (inner.format.or outer.format).or (other.format.bind Listing.Format.ofName?) :=
    hkept (.value .format) id fun hs => congrArg (Option.bind · _) (h _ hs)
  have hconfig : (inner.config.or outer.config).or env.config =
      (inner.config.or outer.config).or other.config :=
    hkept (.value .config) id (h (.value .config))
  have hapi : (inner.api.or outer.api).or env.api = (inner.api.or outer.api).or other.api :=
    hkept (.value .api) id (h (.value .api))
  have hdebug : (inner.debug || outer.debug || (debugOf? env.debug).getD false) =
      (inner.debug || outer.debug || (debugOf? other.debug).getD false) := by
    by_cases hs : .debug = subject
    · subst hs
      rw [Given.Has, Given.Has] at hg
      rcases hg with hg | hg <;> simp [hg]
    · rw [show env.debug = other.debug from h .debug hs]
  simp only [Given.merged, Given.options, hformat, hconfig, hapi, hdebug]

end Environment.SameBut

private theorem anythingGiven_of_has {given : Given} (env : Environment)
    (h : given.Has subject = true) : anythingGiven env given = true := by
  rcases subject with (_ | _ | _) | _ <;> simp_all [anythingGiven, Given.Has, Given.has]

private theorem checkEnvironment_eq_error {given : Given}
    (h : given.Has subject = false) (hn : ¬ env.Admits subject) :
    checkEnvironment env given = .error ⟨.invalidValue, none⟩ := by
  rcases checkEnvironment_eq_ok_or env given with hok | herror
  · exact (hn (checkEnvironment_eq_ok.mp hok subject h)).elim
  · exact herror

private theorem checkEnvironment_congr (h : ∀ s, env.Admits s ↔ other.Admits s) (given : Given) :
    checkEnvironment env given = checkEnvironment other given := by
  have hok : checkEnvironment env given = .ok () ↔ checkEnvironment other given = .ok () := by
    simp only [checkEnvironment_eq_ok, h]
  rcases checkEnvironment_eq_ok_or env given with he | he
  · rw [he, hok.mp he]
  · rcases checkEnvironment_eq_ok_or other given with ho | ho
    · rw [hok.mpr ho, ho]
    · rw [he, ho]

/-! ## Outcomes -/

/-- Two environments that both admit the option, or both do not, are not told apart. -/
theorem parse_congr (h : env.SameBut subject other)
    (hs : env.Admits subject ↔ other.Admits subject) (hg : GivenIn subject args) :
    parse env args = parse other args := by
  have hcheck := checkEnvironment_congr (h.admits_iff hs)
  have hfinish (level : Level) : finish env level = finish other level := by
    simp only [finish, hcheck]
  -- Nothing is read from the environment before the arguments are, so the runs part at most in what
  -- they make of it.
  unfold parse
  refine bind_congr_of_ok fun level hread => ?_
  cases hnext : level.next with
  | none =>
    simp only [hfinish]
    refine bind_congr_of_ok fun given hf => ?_
    have hreads := reads_iff.mpr ⟨level, hread, (finish_eq_ok.mp hf).1, hnext⟩
    have hhas : given.Has subject = true := by
      rcases has_or_givenIn_of_reads hreads hg with hhas | ⟨verb, rest, hsome, -⟩
      · exact hhas
      · cases hsome
    rw [anythingGiven_of_has env hhas, anythingGiven_of_has other hhas]
  | some next =>
    obtain ⟨verb, rest⟩ := next
    simp only [hfinish]
    refine bind_congr_of_ok fun behind hbehind => ?_
    refine bind_congr_of_ok fun inner hinner => ?_
    cases verb.command? inner.app with
    | none => rfl
    | some command =>
      change (finish other level >>= fun outer => .ok (outer.merged inner env command)) =
        finish other level >>= fun outer => .ok (outer.merged inner other command)
      refine bind_congr_of_ok fun outer houter => ?_
      have hreads := reads_iff.mpr ⟨level, hread, (finish_eq_ok.mp houter).1, hnext⟩
      have hhas : outer.Has subject = true ∨ inner.Has subject = true := by
        have hreadsInner := reads_iff.mpr ⟨behind, hbehind, (finish_eq_ok.mp hinner).1, rfl⟩
        rcases has_or_givenIn_of_reads hreads hg with hhas | ⟨_, _, hsome, hrest⟩
        · exact .inl hhas
        · cases hsome
          rcases has_or_givenIn_of_reads hreadsInner hrest with hhas | ⟨_, _, hsome, -⟩
          · exact .inr hhas
          · rw [next_of_reads hreadsInner] at hsome
            cases hsome
      rw [h.merged_eq hhas]

/-- What becomes of an accepted line where the option's variable gets a value that is none of the
option: only a flag on both levels keeps it from being seen. -/
theorem parse_of_not_admits {line : Line} {invocation : Invocation} (h : env.SameBut subject other)
    (hok : parse env line.args = .ok invocation) (hn : ¬ other.Admits subject) :
    parse other line.args =
      if subject ∈ line.before.map Mention.subject ∧ subject ∈ line.inner.map Mention.subject then
        .ok invocation
      else .error ⟨.invalidValue, none⟩ := by
  obtain ⟨hi, hm⟩ := parse_line_iff.mp hok
  obtain ⟨houter, hinner⟩ := Line.reads_of_means hi hm
  have hbefore := has_of_once hi.before
  have hafter := has_named_of_once invocation.command.app? hi.inner
  have henv (s : Subject) (hs : s ∉ line.before.map Mention.subject ∨
      s ∉ line.inner.map Mention.subject) (hne : s ≠ subject) : other.Admits s := by
    have hadmits := hi.environment s hs
    rwa [Environment.Admits, h s hne] at hadmits
  have hcheck (hm : subject ∈ line.inner.map Mention.subject) : checkEnvironment other
      { Given.empty.plusAll line.inner with app := invocation.command.app? } = .ok () := by
    refine checkEnvironment_eq_ok.mpr fun s hs => ?_
    rw [hafter, decide_eq_false_iff_not] at hs
    exact henv s (.inr hs) fun he => hs (he ▸ hm)
  rw [parse_of_reads houter hinner rfl]
  by_cases hin : subject ∈ line.inner.map Mention.subject
  · rw [hcheck hin]
    by_cases hout : subject ∈ line.before.map Mention.subject
    · have hcheckOuter : checkEnvironment other (Given.empty.plusAll line.before) = .ok () := by
        refine checkEnvironment_eq_ok.mpr fun s hs => ?_
        rw [hbefore, decide_eq_false_iff_not] at hs
        exact henv s (.inl hs) fun he => hs (he ▸ hout)
      have hhas : (Given.empty.plusAll line.before).Has subject = true :=
        (hbefore subject).trans (decide_eq_true hout)
      rw [if_pos ⟨hout, hin⟩, hcheckOuter, ← h.merged_eq (.inl hhas),
        ← hm.unique (Line.means_merged hi hm.verb rfl hm.names)]
      rfl
    · have hhas : (Given.empty.plusAll line.before).Has subject = false :=
        (hbefore subject).trans (decide_eq_false hout)
      rw [if_neg fun hboth => hout hboth.1, checkEnvironment_eq_error hhas hn]
      rfl
  · rw [if_neg fun hboth => hin hboth.2,
      checkEnvironment_eq_error ((hafter subject).trans (decide_eq_false hin)) hn]
    rfl

/-- A flag shuts out the value of its variable, but a level that leaves the flag out itself still
wants the variable to be one of the option. -/
theorem variable_checked_beside_flag (h : env.SameBut subject other) (hg : GivenIn subject args) :
    ((env.Admits subject ↔ other.Admits subject) → parse env args = parse other args) ∧
    (subject = .value .config ∨ subject = .value .api → parse env args = parse other args) ∧
    ∀ invocation, parse env args = .ok invocation → ¬ other.Admits subject →
      ∃ line : Line, line.args = args ∧ parse other args =
        if subject ∈ line.before.map Mention.subject ∧ subject ∈ line.inner.map Mention.subject then
          .ok invocation
        else .error ⟨.invalidValue, none⟩ := by
  refine ⟨fun hs => parse_congr h hs hg, ?_, ?_⟩
  · rintro (rfl | rfl)
    · exact parse_congr h (iff_of_true (admits_config env) (admits_config other)) hg
    · exact parse_congr h (iff_of_true (admits_api env) (admits_api other)) hg
  · intro invocation hok hn
    obtain ⟨line, rfl⟩ := exists_line_of_parse hok
    exact ⟨line, rfl, parse_of_not_admits h hok hn⟩

/-- `--format=json` before the command, with and without a variable that is no format. -/
theorem format_variable_checked_beside_flag :
    let env : Environment := ⟨none, none, none, none⟩
    let other : Environment := ⟨some "pretty", none, none, none⟩
    let args := ["--format=json", "diego-apps"].map Utf8.encode
    env.SameBut (.value .format) other ∧ GivenIn (.value .format) args ∧
      parse env args = .ok ⟨.list .diego, ⟨.json, none, none⟩, false⟩ ∧
      ¬ other.Admits (.value .format) ∧ parse other args = .error ⟨.invalidValue, none⟩ := by
  intro env other args
  have hsame : env.SameBut (.value .format) other := by
    intro s hs
    rcases s with (_ | _ | _) | _ <;> first
      | rfl
      | exact (hs rfl).elim
  have hgiven : GivenIn (.value .format) args :=
    ⟨[], [Utf8.encode "diego-apps"], .joined .format "json", rfl, by decide, nofun, rfl⟩
  have hok : parse env args = .ok ⟨.list .diego, ⟨.json, none, none⟩, false⟩ := by
    decide +kernel
  have hn : ¬ other.Admits (.value .format) := by decide
  refine ⟨hsame, hgiven, hok, hn, ?_⟩
  obtain ⟨line, hargs, h⟩ := (variable_checked_beside_flag hsame hgiven).2.2 _ hok hn
  obtain rfl : line = ⟨[.joined .format "json"], .listDiego, [], none⟩ := Line.args_injective hargs
  exact h

/-- So a flag does not shut out its variable altogether. -/
theorem flag_does_not_shut_out_variable : ¬ ∀ (subject : Subject) (args : List Bytes)
    (env other : Environment), GivenIn subject args → env.SameBut subject other →
      parse env args = parse other args := by
  intro h
  have hsame : Environment.SameBut ⟨none, none, none, none⟩ (.value .format)
      ⟨some "pretty", none, none, none⟩ := by
    intro s hs
    rcases s with (_ | _ | _) | _ <;> first
      | rfl
      | exact (hs rfl).elim
  have heq := h (.value .format) (["--format=json", "diego-apps"].map Utf8.encode) _ _
    ⟨[], [Utf8.encode "diego-apps"], .joined .format "json", rfl, by decide, nofun, rfl⟩ hsame
  revert heq
  decide +kernel

end RuntimeFlag.CommandLine
