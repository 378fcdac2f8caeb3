import RuntimeFlag.Proofs.CommandLine.Acceptance
/-!
# Where options stand

An option may stand before the command, right behind it, and behind the name of an application. What
an accepted command line asks for does not depend on where an option stands that is written once.
-/
namespace RuntimeFlag.CommandLine

/-- A line with an option more, at any of the places for options. -/
inductive Line.Adds (mention : Mention) : Line → Line → Prop
  | before (front back : List Mention) (verb : Verb) (after : List Word)
    (behind : Option (List String)) :
    Adds mention ⟨front ++ back, verb, after, behind⟩
      ⟨front ++ mention :: back, verb, after, behind⟩
  | after (before : List Mention) (verb : Verb) (front back : List Word)
    (behind : Option (List String)) :
    Adds mention ⟨before, verb, front ++ back, behind⟩
      ⟨before, verb, front ++ .mention mention :: back, behind⟩

/-- The mentions of a level with one more, anywhere among them. -/
def Inserted (mention : Mention) (bare mentions : List Mention) : Prop :=
  ∃ front back, bare = front ++ back ∧ mentions = front ++ mention :: back

variable {mention : Mention} {bare mentions : List Mention}

namespace Inserted

private theorem perm (h : Inserted mention bare mentions) : mentions.Perm (mention :: bare) := by
  obtain ⟨front, back, rfl, rfl⟩ := h
  exact List.perm_middle

private theorem mem_subject_iff (h : Inserted mention bare mentions) (subject : Subject) :
    subject ∈ mentions.map Mention.subject ↔
      subject = mention.subject ∨ subject ∈ bare.map Mention.subject := by
  rw [(h.perm.map Mention.subject).mem_iff, List.map_cons, List.mem_cons]

private theorem once_iff (h : Inserted mention bare mentions)
    (hn : mention.subject ∉ bare.map Mention.subject) :
    Once .empty mentions ↔ mention.IsLegal ∧ Once .empty bare := by
  simp only [Once, has_empty, and_true, h.perm.mem_iff, List.forall_mem_cons,
    (h.perm.map Mention.subject).nodup_iff, List.map_cons, List.nodup_cons]
  tauto

private theorem lastText?_eq (h : Inserted mention bare mentions)
    (hn : mention.subject ∉ bare.map Mention.subject) (which : ValueOption) :
    lastText? which mentions = (mention.text? which).or (lastText? which bare) := by
  obtain ⟨front, back, rfl, rfl⟩ := h
  rw [List.map_append, List.mem_append, not_or] at hn
  rw [lastText?_append, lastText?_append, lastText?, getLast?_filterMap_cons, ← lastText?]
  by_cases hs : mention.subject = .value which
  · rw [hs] at hn
    simp [lastText?_eq_none_iff.mpr hn.1, lastText?_eq_none_iff.mpr hn.2]
  · simp [Mention.text?, hs]

end Inserted

namespace Line.Adds

variable {bare line moved : Line} {env : Environment} {invocation : Invocation}

private theorem levels (h : bare.Adds mention line) :
    line.verb = bare.verb ∧ line.names = bare.names ∧
    (Inserted mention bare.before line.before ∧ line.inner = bare.inner ∨
      line.before = bare.before ∧ Inserted mention bare.inner line.inner) := by
  cases h with
  | before front back verb after behind =>
    exact ⟨rfl, rfl, .inl ⟨⟨front, back, rfl, rfl⟩, rfl⟩⟩
  | after before verb front back behind =>
    refine ⟨rfl, ?_, .inr ⟨rfl, front.filterMap Word.mention?, back.filterMap Word.mention?, ?_,
      ?_⟩⟩
    · rw [names, names, List.filterMap_append, List.filterMap_append]
      rfl
    · rw [inner, List.filterMap_append]
    · rw [inner, List.filterMap_append]
      rfl

/-- What is written once is missing at the other level, so its variable is checked like that of an
option which is not written. -/
theorem missing_iff (h : bare.Adds mention line)
    (hn : mention.subject ∉ bare.mentions.map Mention.subject) (subject : Subject) :
    subject ∉ line.before.map Mention.subject ∨ subject ∉ line.inner.map Mention.subject ↔
      subject ∉ bare.before.map Mention.subject ∨ subject ∉ bare.inner.map Mention.subject := by
  rw [mentions, List.map_append, List.mem_append, not_or] at hn
  obtain ⟨-, -, ⟨hinsert, hsame⟩ | ⟨hsame, hinsert⟩⟩ := h.levels
  · rw [hsame, hinsert.mem_subject_iff]
    by_cases hs : subject = mention.subject
    · subst hs
      exact iff_of_true (.inr hn.2) (.inr hn.2)
    · simp only [hs, false_or]
  · rw [hsame, hinsert.mem_subject_iff]
    by_cases hs : subject = mention.subject
    · subst hs
      exact iff_of_true (.inl hn.1) (.inl hn.1)
    · simp only [hs, false_or]

private theorem once_iff (h : bare.Adds mention line)
    (hn : mention.subject ∉ bare.mentions.map Mention.subject) :
    Once .empty line.before ∧ Once .empty line.inner ↔
      mention.IsLegal ∧ Once .empty bare.before ∧ Once .empty bare.inner := by
  rw [mentions, List.map_append, List.mem_append, not_or] at hn
  obtain ⟨-, -, ⟨hinsert, hsame⟩ | ⟨hsame, hinsert⟩⟩ := h.levels
  · rw [hsame, hinsert.once_iff hn.1, and_assoc]
  · rw [hsame, hinsert.once_iff hn.2, and_left_comm]

private theorem isInOrder_iff (h : bare.Adds mention line)
    (hn : mention.subject ∉ bare.mentions.map Mention.subject) :
    line.IsInOrder env ↔ mention.IsLegal ∧ bare.IsInOrder env := by
  constructor
  · rintro ⟨hbefore, hinner, henv⟩
    obtain ⟨hl, hb, hi⟩ := (h.once_iff hn).mp ⟨hbefore, hinner⟩
    exact ⟨hl, hb, hi, fun subject hs => henv subject ((h.missing_iff hn subject).mpr hs)⟩
  · rintro ⟨hl, hb, hi, henv⟩
    obtain ⟨hbefore, hinner⟩ := (h.once_iff hn).mpr ⟨hl, hb, hi⟩
    exact ⟨hbefore, hinner, fun subject hs => henv subject ((h.missing_iff hn subject).mp hs)⟩

private theorem flag?_eq (h : bare.Adds mention line)
    (hn : mention.subject ∉ bare.mentions.map Mention.subject) (which : ValueOption) :
    line.flag? which = (mention.text? which).or (bare.flag? which) := by
  rw [mentions, List.map_append, List.mem_append, not_or] at hn
  obtain ⟨hbefore, hinner⟩ := hn
  rw [flag?, flag?]
  obtain ⟨-, -, ⟨hinsert, hsame⟩ | ⟨hsame, hinsert⟩⟩ := h.levels
  · rw [hsame, hinsert.lastText?_eq hbefore]
    by_cases hs : mention.subject = .value which
    · rw [hs] at hinner
      simp [lastText?_eq_none_iff.mpr hinner]
    · simp [Mention.text?, hs]
  · rw [hsame, hinsert.lastText?_eq hinner, Option.or_assoc]

private theorem mem_subject_iff (h : bare.Adds mention line) (subject : Subject) :
    subject ∈ line.mentions.map Mention.subject ↔
      subject = mention.subject ∨ subject ∈ bare.mentions.map Mention.subject := by
  simp only [mentions, List.map_append, List.mem_append]
  obtain ⟨-, -, ⟨hinsert, hsame⟩ | ⟨hsame, hinsert⟩⟩ := h.levels
  · rw [hsame, hinsert.mem_subject_iff, or_assoc]
  · rw [hsame, hinsert.mem_subject_iff, or_left_comm]

private theorem means_of_means (h : bare.Adds mention line) (hmoved : bare.Adds mention moved)
    (hn : mention.subject ∉ bare.mentions.map Mention.subject)
    (hm : line.Means env invocation) : moved.Means env invocation where
  verb := by rw [hm.verb, h.levels.1, hmoved.levels.1]
  names := by rw [hm.names, h.levels.2.1, hmoved.levels.2.1]
  options which := by
    rw [hmoved.flag?_eq hn, ← h.flag?_eq hn]
    exact hm.options which
  debug := by
    have hd := hm.debug
    simp only [h.mem_subject_iff] at hd
    simp only [hmoved.mem_subject_iff]
    exact hd

end Line.Adds

/-- A flag wins over the variable and the variable over the default, wherever the flag stands, and
an option that is written once can be moved. -/
theorem flags_prevail_anywhere {env : Environment} {args : List Bytes} {invocation : Invocation}
    (h : parse env args = .ok invocation) :
    (∃ line : Line, line.args = args) ∧ ∀ line : Line, line.args = args →
      line.Means env invocation ∧
      ∀ (mention : Mention) (bare moved : Line), bare.Adds mention line → bare.Adds mention moved →
        mention.subject ∉ bare.mentions.map Mention.subject →
          parse env moved.args = .ok invocation := by
  refine ⟨exists_line_of_parse h, ?_⟩
  rintro line rfl
  obtain ⟨hi, hm⟩ := parse_line_iff.mp h
  refine ⟨hm, ?_⟩
  intro mention bare moved hline hmoved hn
  have hbare := (hline.isInOrder_iff hn).mp hi
  exact parse_line_iff.mpr
    ⟨(hmoved.isInOrder_iff hn).mpr hbare, hline.means_of_means hmoved hn hm⟩

/-- `--format=json` before the command, or behind the name of the application. -/
theorem format_prevails_behind_app :
    let env : Environment := ⟨some "table", none, some "http://h", none⟩
    let invocation : Invocation := ⟨.check "demo", ⟨.json, some "b", some "http://h"⟩, false⟩
    let after : List Word := [.app ⟨"demo", rfl⟩, .mention (.joined .config "b")]
    let line : Line :=
      ⟨[.joined .format "json", .apart .config ⟨"a", rfl⟩], .check, after, none⟩
    let moved : Line :=
      ⟨[.apart .config ⟨"a", rfl⟩], .check, after ++ [.mention (.joined .format "json")], none⟩
    parse env line.args = .ok invocation ∧ line.Means env invocation ∧
      parse env moved.args = .ok invocation := by
  intro env invocation after line moved
  let bare : Line := ⟨[.apart .config ⟨"a", rfl⟩], .check, after, none⟩
  have hparse : parse env line.args = .ok invocation := by decide +kernel
  have hline : bare.Adds (.joined .format "json") line :=
    .before [] [.apart .config ⟨"a", rfl⟩] .check after none
  have hmoved : bare.Adds (.joined .format "json") moved :=
    .after [.apart .config ⟨"a", rfl⟩] .check after [] none
  obtain ⟨hmeans, hmove⟩ := (flags_prevail_anywhere hparse).2 line rfl
  exact ⟨hparse, hmeans, hmove _ bare moved hline hmoved (by decide)⟩

end RuntimeFlag.CommandLine
