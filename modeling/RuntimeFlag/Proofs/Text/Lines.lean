import Mathlib.Data.List.Infix
import RuntimeFlag.Text.Lines
/-!
# Lines as they are written

`Lined` tells without the reader which lines a text has: main statement `lines_eq_iff`. A line is a
stretch of its text. Lines that line feeds part are found again in the text they make
(`splitAtFeeds_intercalate`).
-/
namespace RuntimeFlag.Text

/-- The characters write these lines: each line has its end behind it, a line feed or a carriage
return with a line feed, and the last one may do without, unless it is empty. -/
inductive Lined : List Char → List (List Char) → Prop
  | none : Lined [] []
  | unended {line : List Char} (hne : line ≠ []) (hf : '\n' ∉ line) : Lined line [line]
  | feed {line rest : List Char} {lines : List (List Char)} (hf : '\n' ∉ line)
    (hr : line.getLast? ≠ some '\r') (h : Lined rest lines) :
    Lined (line ++ '\n' :: rest) (line :: lines)
  | returned {line rest : List Char} {lines : List (List Char)} (hf : '\n' ∉ line)
    (h : Lined rest lines) : Lined (line ++ '\r' :: '\n' :: rest) (line :: lines)

variable {cs line rest : List Char} {lines : List (List Char)}

private theorem linesFrom_append (hf : '\n' ∉ line) (read cs : List Char) :
    linesFrom read (line ++ cs) = linesFrom (line.reverse ++ read) cs := by
  induction line generalizing read with
  | nil => rfl
  | cons c line ih =>
    obtain ⟨hc, hline⟩ := List.ne_and_not_mem_of_not_mem_cons hf
    rw [List.cons_append, linesFrom, if_neg (Ne.symm hc), ih hline]
    simp

private theorem linesFrom_of_not_mem (hne : cs ≠ []) (hf : '\n' ∉ cs) : linesFrom [] cs = [cs] := by
  have h := linesFrom_append hf [] []
  rw [List.append_nil] at h
  simp [h, linesFrom, hne]

private theorem linesFrom_feed (hf : '\n' ∉ line) (rest : List Char) :
    linesFrom [] (line ++ '\n' :: rest) = endedLine line :: linesFrom [] rest := by
  rw [linesFrom_append hf, linesFrom, if_pos rfl]
  simp

private theorem endedLine_of_ne (hr : line.getLast? ≠ some '\r') : endedLine line = line :=
  if_neg hr

private theorem endedLine_return (line : List Char) : endedLine (line ++ ['\r']) = line := by
  simp [endedLine]

private theorem not_mem_returned (hf : '\n' ∉ line) : '\n' ∉ line ++ ['\r'] := by
  simp [hf]

private theorem linesFrom_of_lined (h : Lined cs lines) : linesFrom [] cs = lines := by
  induction h with
  | none => rfl
  | unended hne hf => exact linesFrom_of_not_mem hne hf
  | feed hf hr _ ih => rw [linesFrom_feed hf, endedLine_of_ne hr, ih]
  | @returned line rest lines hf _ ih =>
    have h := linesFrom_feed (not_mem_returned hf) rest
    rw [endedLine_return, ih] at h
    simpa using h

private theorem lined_linesFrom (cs : List Char) : Lined cs (linesFrom [] cs) := by
  by_cases hf : '\n' ∈ cs
  · obtain ⟨line, rest, rfl, hline⟩ := List.eq_append_cons_of_mem hf
    have ih := lined_linesFrom rest
    rw [linesFrom_feed hline]
    by_cases hr : line.getLast? = some '\r'
    · obtain ⟨front, rfl⟩ := List.getLast?_eq_some_iff.mp hr
      rw [endedLine_return, List.append_assoc]
      exact .returned (fun hm => hline (List.mem_append_left _ hm)) ih
    · rw [endedLine_of_ne hr]
      exact .feed hline hr ih
  · cases cs with
    | nil => exact .none
    | cons c cs =>
      rw [linesFrom_of_not_mem (List.cons_ne_nil c cs) hf]
      exact .unended (List.cons_ne_nil c cs) hf
termination_by cs.length

/-- The lines of a text are the ones that it writes. -/
theorem lines_eq_iff {text : String} {shown : List String} :
    Text.lines text = shown ↔ Lined text.toList (shown.map String.toList) := by
  have hback (texts : List (List Char)) :
      (texts.map String.ofList).map String.toList = texts := by
    simp [Function.comp_def]
  constructor
  · rintro rfl
    rw [Text.lines, hback]
    exact lined_linesFrom _
  · intro h
    rw [Text.lines, linesFrom_of_lined h]
    simp [Function.comp_def]

theorem Lined.isInfix (h : Lined cs lines) (hm : line ∈ lines) : line <:+: cs := by
  induction h with
  | none => cases hm
  | unended => exact (List.mem_singleton.mp hm) ▸ List.infix_rfl
  | @feed first rest lines _ _ _ ih =>
    rcases List.mem_cons.mp hm with rfl | hm
    · exact (List.prefix_append _ _).isInfix
    · exact (ih hm).trans ⟨first ++ ['\n'], [], by simp⟩
  | @returned first rest lines _ _ ih =>
    rcases List.mem_cons.mp hm with rfl | hm
    · exact (List.prefix_append _ _).isInfix
    · exact (ih hm).trans ⟨first ++ ['\r', '\n'], [], by simp⟩

/-! ## Parts between line feeds -/

theorem splitAtFeeds_ne_nil (text : String) : splitAtFeeds text ≠ [] :=
  mt List.map_eq_nil_iff.mp (List.splitOn_ne_nil '\n' text.toList)

private theorem not_mem_of_mem_splitOn {cs part : List Char} (h : part ∈ cs.splitOn '\n') :
    '\n' ∉ part := by
  induction cs generalizing part with
  | nil =>
    obtain rfl := List.mem_singleton.mp h
    exact List.not_mem_nil
  | cons c cs ih =>
    obtain ⟨first, rest, hparts⟩ := List.exists_cons_of_ne_nil (List.splitOn_ne_nil '\n' cs)
    rw [List.splitOn_cons_eq_if_modifyHead, hparts] at h
    rw [hparts] at ih
    split at h
    · obtain rfl | h := List.mem_cons.mp h
      · exact List.not_mem_nil
      · exact ih h
    · next hc =>
      obtain rfl | h := List.mem_cons.mp h
      · have hfirst := ih List.mem_cons_self
        simpa [hfirst] using Ne.symm (ne_of_beq_false (Bool.eq_false_iff.mpr hc))
      · exact ih (List.mem_cons_of_mem _ h)

theorem not_mem_of_mem_splitAtFeeds {text part : String} (h : part ∈ splitAtFeeds text) :
    '\n' ∉ part.toList := by
  obtain ⟨cs, hcs, rfl⟩ := List.mem_map.mp h
  rw [String.toList_ofList]
  exact not_mem_of_mem_splitOn hcs

theorem splitAtFeeds_intercalate {lines : List String} (hne : lines ≠ [])
    (h : ∀ line ∈ lines, '\n' ∉ line.toList) :
    splitAtFeeds ("\n".intercalate lines) = lines := by
  have hsplit : (("\n".intercalate lines).toList).splitOn '\n' = lines.map String.toList := by
    rw [String.toList_intercalate]
    exact List.splitOn_intercalate '\n' (List.forall_mem_map.mpr h) (mt List.map_eq_nil_iff.mp hne)
  rw [splitAtFeeds, hsplit, List.map_map]
  simp

end RuntimeFlag.Text
