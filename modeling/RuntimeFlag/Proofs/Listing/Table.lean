import Mathlib.Data.Fin.VecNotation
import Mathlib.Data.List.Forall2
import Mathlib.Data.List.Infix
import Mathlib.Order.Bounds.Basic
import RuntimeFlag.Listing.Format
import RuntimeFlag.Proofs.Text.Lines
import RuntimeFlag.Proofs.Text.Width
/-!
# The layout of tables

What a table looks like is told here without the functions that draw it: which lines it has and what
stands in each column of them. Main statement `table_layout`: a column is as wide as its widest line
and no wider, every text stands whole in its own column, and all lines of a table take the same
columns of the terminal.
-/
namespace RuntimeFlag

open Text

def Row.shown (row : Row) : Fin 3 → String := ![row.name, row.space, row.organization]

namespace Listing

/-! ## What a table shows -/

def columnNames : Fin 3 → String := !["NAME", "SPACE", "ORG"]

/-- The lines in a column, those of its name among them. -/
def columnLines (rows : List Row) (c : Fin 3) : List String :=
  splitAtFeeds (columnNames c) ++ rows.flatMap fun row => splitAtFeeds (row.shown c)

/-- A border with two more dashes in each column than the column is wide. -/
def rule (left middle right : Char) (widths : Fin 3 → Nat) : String :=
  let dashes c := List.replicate (widths c + 2) '─'
  String.ofList (left :: dashes 0 ++ middle :: dashes 1 ++ middle :: dashes 2 ++ [right])

/-- A column of a line has a space, the text, spaces that fill it up to the width of the column, and
one more space. -/
def Fills (width : Nat) (text column : String) : Prop :=
  ∃ count, let filled := text ++ String.ofList (List.replicate count ' ')
    column = " " ++ filled ++ " " ∧ lineWidth filled = width

/-- A line shows a text in each column, and bars part the columns. -/
def ShowsLine (widths : Fin 3 → Nat) (texts : Fin 3 → String) (line : String) : Prop :=
  ∃ columns : Fin 3 → String, (∀ c, Fills (widths c) (texts c) (columns c)) ∧
    line = "│" ++ columns 0 ++ "│" ++ columns 1 ++ "│" ++ columns 2 ++ "│"

/-- Lines show a text in each column: as many lines as the tallest of the texts has, and in each of
them the line of every text that has so many, and nothing of the others. -/
structure ShowsTexts (widths : Fin 3 → Nat) (texts : Fin 3 → String) (lines : List String) :
    Prop where
  nonempty : lines ≠ []
  height : IsGreatest {n | ∃ c, (splitAtFeeds (texts c)).length = n} lines.length
  shows : ∀ i (h : i < lines.length),
    ShowsLine widths (fun c => (splitAtFeeds (texts c)).getD i "") lines[i]

/-! ## The widest line of a column -/

private theorem isGreatest_foldl_max {α : Type} (f : α → Nat) {xs : List α} (h : xs ≠ []) :
    IsGreatest {n | ∃ x ∈ xs, f x = n} ((xs.map f).foldl max 0) := by
  obtain ⟨greatest, hgreatest⟩ := Option.ne_none_iff_exists'.mp
    (mt List.max?_eq_none_iff.mp (mt List.map_eq_nil_iff.mp h : xs.map f ≠ []))
  obtain ⟨hmem, hle⟩ := List.max?_eq_some_iff.mp hgreatest
  rw [List.foldl_max, hgreatest, Option.getD_some, Nat.zero_max]
  refine ⟨List.mem_map.mp hmem, ?_⟩
  rintro _ ⟨x, hx, rfl⟩
  exact hle _ (List.mem_map_of_mem hx)

/-- The greatest width of a line. -/
def widest (lines : List String) : Nat := (lines.map lineWidth).foldl max 0

private theorem widest_append (lines others : List String) :
    widest (lines ++ others) = max (widest lines) (widest others) := by
  have h := @List.foldl_assoc Nat max _ (others.map lineWidth) (widest lines) 0
  rw [Nat.max_zero] at h
  rw [widest, List.map_append, List.foldl_append]
  exact h

private theorem lineWidth_le_widest {lines : List String} {line : String} (h : line ∈ lines) :
    lineWidth line ≤ widest lines :=
  (isGreatest_foldl_max lineWidth (List.ne_nil_of_mem h)).2 ⟨line, h, rfl⟩

/-- The widths of the columns, when the rows seen so far have those lines in them. -/
theorem foldl_cells (rows : List Row) (names spaces organizations : List String) :
    (rows.map cells).foldl (fun widths row => List.zipWith max widths (row.map cellWidth))
        [widest names, widest spaces, widest organizations] =
      [widest (names ++ rows.flatMap fun row => splitAtFeeds row.name),
        widest (spaces ++ rows.flatMap fun row => splitAtFeeds row.space),
        widest (organizations ++ rows.flatMap fun row => splitAtFeeds row.organization)] := by
  induction rows generalizing names spaces organizations with
  | nil => simp
  | cons row rows ih =>
    have hwidths : List.zipWith max [widest names, widest spaces, widest organizations]
        ((cells row).map cellWidth) =
        [widest (names ++ splitAtFeeds row.name), widest (spaces ++ splitAtFeeds row.space),
          widest (organizations ++ splitAtFeeds row.organization)] := by
      simp only [widest_append]
      rfl
    rw [List.map_cons, List.foldl_cons, hwidths, ih]
    simp only [List.flatMap_cons, List.append_assoc]

private theorem columnWidths_eq (rows : List Row) :
    columnWidths (header :: rows.map cells) =
      [widest (columnLines rows 0), widest (columnLines rows 1), widest (columnLines rows 2)] := by
  have hheader : List.zipWith max (header.map fun _ => 0) (header.map cellWidth) =
      [widest (splitAtFeeds "NAME"), widest (splitAtFeeds "SPACE"),
        widest (splitAtFeeds "ORG")] := by
    simp only [header, List.map_cons, List.map_nil, List.zipWith, Nat.zero_max]
    rfl
  rw [columnWidths, List.foldl_cons, hheader, foldl_cells]
  rfl

private theorem isGreatest_widest_columnLines (rows : List Row) (c : Fin 3) :
    IsGreatest {n | ∃ line ∈ columnLines rows c, lineWidth line = n}
      (widest (columnLines rows c)) :=
  isGreatest_foldl_max lineWidth (List.append_ne_nil_of_left_ne_nil (splitAtFeeds_ne_nil _) _)

/-! ## Lines as they are drawn -/

variable {widths : Fin 3 → Nat} {texts : Fin 3 → String} {text column line : String} {width : Nat}

private theorem standsAlone_spaces (count : Nat) :
    ∀ c ∈ (String.ofList (List.replicate count ' ')).toList, StandsAlone c := by
  intro c hc
  rw [String.toList_ofList] at hc
  rw [List.eq_of_mem_replicate hc]
  exact standsAlone_space

private theorem fills_padded (h : lineWidth text ≤ width) :
    Fills width text (padded width text) := by
  have hspaces := standsAlone_spaces (width - lineWidth text)
  refine ⟨width - lineWidth text, by simp only [padded, String.append_assoc], ?_⟩
  rw [lineWidth_append (isApart_of_standsAlone hspaces), lineWidth_of_standsAlone hspaces,
    String.length_ofList, List.length_replicate]
  omega

private theorem showsLine_textLine (h : ∀ c, lineWidth (texts c) ≤ widths c) :
    ShowsLine widths texts
      (textLine [widths 0, widths 1, widths 2] [texts 0, texts 1, texts 2]) :=
  ⟨fun c => padded (widths c) (texts c), fun c => fills_padded (h c), by
    simp only [textLine, List.zipWith, String.intercalate_cons_cons, String.intercalate_singleton,
      String.append_assoc]⟩

private theorem lineWidth_getD_le {lines : List String} (h : ∀ line ∈ lines, lineWidth line ≤ width)
    (i : Nat) : lineWidth (lines.getD i "") ≤ width := by
  rw [List.getD_eq_getElem?_getD]
  cases hline : lines[i]? with
  | none => exact Nat.zero_le _
  | some line => exact h line (List.mem_of_getElem? hline)

/-- The rows of a table and its header are drawn so that all their texts are seen. -/
theorem showsTexts_rowLines (h : ∀ c, ∀ line ∈ splitAtFeeds (texts c), lineWidth line ≤ widths c) :
    ShowsTexts widths texts
      (rowLines [widths 0, widths 1, widths 2] [texts 0, texts 1, texts 2]) := by
  have hheight : IsGreatest {n | ∃ c, (splitAtFeeds (texts c)).length = n}
      (rowLines [widths 0, widths 1, widths 2] [texts 0, texts 1, texts 2]).length := by
    have h := isGreatest_foldl_max (fun text => (splitAtFeeds text).length)
      (List.cons_ne_nil (texts 0) [texts 1, texts 2])
    simpa [rowLines, Fin.exists_fin_succ] using h
  refine ⟨?_, hheight, ?_⟩
  · have hfirst := hheight.2 ⟨0, rfl⟩
    have := List.length_pos_of_ne_nil (splitAtFeeds_ne_nil (texts 0))
    exact List.ne_nil_of_length_pos (by omega)
  · intro i hi
    have hline := showsLine_textLine
      (fun c => lineWidth_getD_le (h c) i : ∀ c, lineWidth ((splitAtFeeds (texts c)).getD i "") ≤ _)
    simpa [rowLines] using hline

/-! ## Lines across the columns -/

/-- One line, and as wide as all columns with what parts them. -/
structure Spans (widths : Fin 3 → Nat) (line : String) : Prop where
  feed : '\n' ∉ line.toList
  width : lineWidth line = widths 0 + widths 1 + widths 2 + 10

private theorem Fills.isApart (h : Fills width text column) : IsApart column := by
  obtain ⟨count, rfl, -⟩ := h
  rw [String.append_assoc]
  exact isApart_space _

private theorem Fills.lineWidth_eq (h : Fills width text column) :
    lineWidth column = width + 2 := by
  obtain ⟨count, rfl, rfl⟩ := h
  have hspace : ∀ c ∈ " ".toList, StandsAlone c := by simpa using standsAlone_space
  rw [lineWidth_append (isApart_of_standsAlone hspace), lineWidth_space,
    lineWidth_of_standsAlone hspace, Nat.add_comm 1]
  rfl

private theorem Fills.not_mem (h : Fills width text column) (ht : '\n' ∉ text.toList) :
    '\n' ∉ column.toList := by
  obtain ⟨count, rfl, -⟩ := h
  simp [ht]

private theorem ShowsLine.spans (h : ShowsLine widths texts line)
    (ht : ∀ c, '\n' ∉ (texts c).toList) :
    Spans widths line := by
  obtain ⟨columns, hfills, rfl⟩ := h
  constructor
  · have hcolumns c : '\n' ∉ (columns c).toList := (hfills c).not_mem (ht c)
    simp [hcolumns]
  · have hbar : ∀ c ∈ "│".toList, StandsAlone c := by
      simpa using IsBox.standsAlone (by decide : IsBox '│')
    have hapart : IsApart "│" := isApart_of_standsAlone hbar
    have hone : lineWidth "│" = 1 := lineWidth_of_standsAlone hbar
    rw [lineWidth_append hapart, lineWidth_append (hfills 2).isApart, lineWidth_append hapart,
      lineWidth_append (hfills 1).isApart, lineWidth_append hapart,
      lineWidth_append (hfills 0).isApart, hone, (hfills 0).lineWidth_eq, (hfills 1).lineWidth_eq,
      (hfills 2).lineWidth_eq]
    omega

private theorem ShowsTexts.spans {lines : List String} (h : ShowsTexts widths texts lines) :
    ∀ line ∈ lines, Spans widths line := by
  intro line hline
  obtain ⟨i, hi, rfl⟩ := List.getElem_of_mem hline
  refine (h.shows i hi).spans fun c => ?_
  rw [List.getD_eq_getElem?_getD]
  cases hpart : (splitAtFeeds (texts c))[i]? with
  | none => exact List.not_mem_nil
  | some part => exact not_mem_of_mem_splitAtFeeds (List.mem_of_getElem? hpart)

private theorem spans_of_shown {rows : List Row} {blocks : List (List String)}
    (h : List.Forall₂ (fun row lines => ShowsTexts widths row.shown lines) rows blocks) :
    ∀ lines ∈ blocks, ∀ line ∈ lines, Spans widths line := by
  induction h with
  | nil => exact List.forall_mem_nil _
  | cons hshown _ ih => exact List.forall_mem_cons.mpr ⟨hshown.spans, ih⟩

private theorem spans_rule {left middle right : Char} (hl : IsBox left) (hm : IsBox middle)
    (hr : IsBox right) (widths : Fin 3 → Nat) : Spans widths (rule left middle right widths) := by
  have hbox : ∀ c ∈ (rule left middle right widths).toList, IsBox c := by
    have hdash : IsBox '─' := by decide
    intro c hc
    simp only [rule, String.toList_ofList] at hc
    grind
  constructor
  · exact fun hfeed => absurd (hbox _ hfeed) (by decide)
  · rw [lineWidth_of_standsAlone fun c hc => (hbox c hc).standsAlone, rule, String.length_ofList]
    simp
    omega

private theorem Border.line_eq {border : Border} {left middle right : Char}
    (hl : border.left.toList = [left]) (hm : border.middle.toList = [middle])
    (hr : border.right.toList = [right]) (widths : Fin 3 → Nat) :
    border.line [widths 0, widths 1, widths 2] = rule left middle right widths := by
  rw [← String.toList_inj]
  simp [Border.line, rule, hl, hm, hr]

/-! ## The whole table -/

private theorem splitAtFeeds_columnNames (c : Fin 3) :
    splitAtFeeds (columnNames c) = [columnNames c] := by
  decide +kernel +revert

private theorem exists_rowLines_header (h : ∀ c, lineWidth (columnNames c) ≤ widths c) :
    ∃ names, rowLines [widths 0, widths 1, widths 2] header = [names] ∧
      ShowsLine widths columnNames names := by
  refine ⟨textLine [widths 0, widths 1, widths 2]
    [columnNames 0, columnNames 1, columnNames 2], ?_, showsLine_textLine h⟩
  have hheader : header.map splitAtFeeds = [[columnNames 0], [columnNames 1], [columnNames 2]] := by
    rw [← splitAtFeeds_columnNames 0, ← splitAtFeeds_columnNames 1, ← splitAtFeeds_columnNames 2]
    rfl
  rw [rowLines, hheader]
  rfl

private theorem tableLines_eq (rows : List Row) :
    ∃ (widths : Fin 3 → Nat) (names : String) (blocks : List (List String)),
      (∀ c, widths c = widest (columnLines rows c)) ∧
      tableLines rows = rule '╭' '┬' '╮' widths :: names :: rule '├' '┼' '┤' widths ::
        (blocks.flatten ++ if rows = [] then [] else [rule '╰' '┴' '╯' widths]) ∧
      ShowsLine widths columnNames names ∧
      List.Forall₂ (fun row lines => ShowsTexts widths row.shown lines) rows blocks := by
  let widths c := widest (columnLines rows c)
  have hname c : lineWidth (columnNames c) ≤ widths c :=
    lineWidth_le_widest (List.mem_append_left _ (by simp [splitAtFeeds_columnNames]))
  obtain ⟨names, hnames, hshows⟩ := exists_rowLines_header hname
  refine ⟨widths, names, rows.map fun row => rowLines [widths 0, widths 1, widths 2] (cells row),
    fun _ => rfl, ?_, hshows, ?_⟩
  · have htop : topBorder.line [widths 0, widths 1, widths 2] = rule '╭' '┬' '╮' widths :=
      Border.line_eq (by decide) (by decide) (by decide) widths
    have hmiddle : headerBorder.line [widths 0, widths 1, widths 2] = rule '├' '┼' '┤' widths :=
      Border.line_eq (by decide) (by decide) (by decide) widths
    have hbottom : bottomBorder.line [widths 0, widths 1, widths 2] = rule '╰' '┴' '╯' widths :=
      Border.line_eq (by decide) (by decide) (by decide) widths
    have hempty : (if rows.isEmpty then [] else [rule '╰' '┴' '╯' widths]) =
        if rows = [] then [] else [rule '╰' '┴' '╯' widths] := by
      simp only [List.isEmpty_iff]
    rw [tableLines, columnWidths_eq, hnames, htop, hmiddle, hbottom, hempty, List.flatMap_map,
      List.flatMap_def]
    rfl
  · refine List.forall₂_map_right_iff.mpr (List.forall₂_same.mpr fun row hrow => ?_)
    have hle : ∀ c, ∀ line ∈ splitAtFeeds (row.shown c), lineWidth line ≤ widths c :=
      fun c line hline => lineWidth_le_widest
        (List.mem_append_right _ (List.mem_flatMap.mpr ⟨row, hrow, hline⟩))
    exact showsTexts_rowLines hle

/-- A table, line by line. -/
theorem table_layout (timestamp : String) (rows : List Row) :
    ∃ (widths : Fin 3 → Nat) (names : String) (blocks : List (List String)),
      (∀ c, IsGreatest {n | ∃ line ∈ columnLines rows c, lineWidth line = n} (widths c)) ∧
      splitAtFeeds (Format.table.write timestamp rows) =
        rule '╭' '┬' '╮' widths :: names :: rule '├' '┼' '┤' widths ::
          (blocks.flatten ++ if rows = [] then [] else [rule '╰' '┴' '╯' widths]) ∧
      ShowsLine widths columnNames names ∧
      List.Forall₂ (fun row lines => ShowsTexts widths row.shown lines) rows blocks ∧
      ∀ line ∈ splitAtFeeds (Format.table.write timestamp rows),
        lineWidth line = widths 0 + widths 1 + widths 2 + 10 := by
  obtain ⟨widths, names, blocks, hwidths, hlines, hnames, hblocks⟩ := tableLines_eq rows
  have hspans : ∀ line ∈ tableLines rows, Spans widths line := by
    have hname c : '\n' ∉ (columnNames c).toList := by decide +revert
    rw [hlines]
    simp only [List.forall_mem_cons, List.forall_mem_append, List.forall_mem_flatten]
    refine ⟨spans_rule (by decide) (by decide) (by decide) widths, hnames.spans hname,
      spans_rule (by decide) (by decide) (by decide) widths, spans_of_shown hblocks, ?_⟩
    split
    · exact List.forall_mem_nil _
    · exact List.forall_mem_singleton.mpr
        (spans_rule (by decide) (by decide) (by decide) widths)
  have hne : tableLines rows ≠ [] := hlines ▸ List.cons_ne_nil _ _
  have hsplit : splitAtFeeds (Format.table.write timestamp rows) = tableLines rows :=
    splitAtFeeds_intercalate hne fun line hline => (hspans line hline).feed
  rw [hsplit]
  exact ⟨widths, names, blocks, fun c => hwidths c ▸ isGreatest_widest_columnLines rows c, hlines,
    hnames, hblocks, fun line hline => (hspans line hline).width⟩

end Listing

end RuntimeFlag
