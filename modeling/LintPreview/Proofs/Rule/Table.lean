import LintPreview.Proofs.Rule.Listing
import LintPreview.Proofs.Text.Pieces
import LintPreview.Proofs.Text.Search

/-!
# Reading a printed table of rules

* `RuleTable`: a table as the lint tool prints it, with a frame, a header and rows whose ids differ; `RuleTable.text`
  is its text.
* `TableRow.looksLikeHeader`: some cell of the row holds the word `identifier`, in any case. Headers are told apart by
  this word, so such a row is dropped like one.
* `rulesOfTable_text`: every other row of a printed table is read, in order.
-/

namespace LintPreview

/-! ### Printing -/

/-- A text that a cell can hold: trimmed, within one line and without a bar. -/
structure IsCell (cell : List CodePoint) : Prop where
  isTrimmed : Text.IsTrimmed cell
  isLine : Text.IsLine cell
  noBar : CodePoint.char '|' ∉ cell

instance (cell : List CodePoint) : Decidable (IsCell cell) :=
  decidable_of_iff (Text.IsTrimmed cell ∧ Text.IsLine cell ∧ CodePoint.char '|' ∉ cell)
    ⟨fun ⟨h1, h2, h3⟩ => ⟨h1, h2, h3⟩, fun ⟨h1, h2, h3⟩ => ⟨h1, h2, h3⟩⟩

/-- A row of the table: the five cells that are always there, and the cells after them. -/
structure TableRow where
  id : List CodePoint
  optin : List CodePoint
  correctable : List CodePoint
  enabled : List CodePoint
  kind : List CodePoint
  more : List (List CodePoint)

namespace TableRow

/-- The cells of a row. -/
def cells (r : TableRow) : List (List CodePoint) := r.id :: r.optin :: r.correctable :: r.enabled :: r.kind :: r.more

/-- The rule that a row is about. -/
def rule (r : TableRow) : Rule where
  id := Text.ofList r.id
  name := displayName (Text.ofList r.id)
  category := .ofText (Text.ofList r.kind)
  isOptin := isYes r.optin
  supportsAutocorrection := isYes r.correctable

/-- Whether some cell holds the word that headers are known by. -/
def looksLikeHeader (r : TableRow) : Bool :=
  r.cells.any fun cell => Text.containsText (Text.toList "identifier") (Text.lowerChars cell)

end TableRow

/-- A table of rules: how wide its columns are, their names, and the rows. The first column is always `identifier`. -/
structure RuleTable where
  width : Nat → Nat
  columns : List (List CodePoint)
  rows : List TableRow
  columns_isLine : ∀ name ∈ columns, Text.IsLine name
  rows_isCell : ∀ r ∈ rows, ∀ cell ∈ r.cells, IsCell cell
  rows_written : ∀ r ∈ rows, isDrawn r.id = false
  ids_nodup : (rows.map TableRow.id).Nodup

/-- A cell with a space before it, and filled up with spaces behind it. -/
def padCell (width : Nat) (cell : List CodePoint) : List CodePoint :=
  .char ' ' :: (cell ++ .char ' ' :: List.replicate (width - cell.length) (.char ' '))

/-- Cells between bars. -/
def printRow (width : Nat → Nat) (cells : List (List CodePoint)) : List CodePoint :=
  .char '|' :: (cells.mapIdx fun i cell => padCell (width i) cell).flatMap fun cell => cell ++ [.char '|']

/-- A line of the frame above or below some columns. -/
def printBorder (width : Nat → Nat) (columns : Nat) : List CodePoint :=
  .char '+' :: (List.range columns).flatMap fun i => List.replicate (width i + 2) (.char '-') ++ [.char '+']

namespace RuleTable

/-- The lines of the frame. -/
def border (t : RuleTable) : List CodePoint := printBorder t.width (t.columns.length + 1)

/-- The header. -/
def header (t : RuleTable) : List CodePoint := printRow t.width (Text.toList "identifier" :: t.columns)

/-- All lines but the last one, which is a border. -/
def upperLines (t : RuleTable) : List (List CodePoint) :=
  t.border :: t.header :: t.border :: t.rows.map fun r => printRow t.width r.cells

/-- The text of a table. -/
def text (t : RuleTable) : List CodePoint := Text.unlines (t.upperLines ++ [t.border])

end RuleTable

/-! ### Borders -/

theorem isLine_printBorder (width : Nat → Nat) (columns : Nat) : Text.IsLine (printBorder width columns) := by
  have hplus : Text.isLineEnd (.char '+') = false := by decide
  have hdash : Text.isLineEnd (.char '-') = false := by decide
  intro c hc
  rw [printBorder, List.mem_cons, List.mem_flatMap] at hc
  rcases hc with rfl | ⟨i, -, hc⟩
  · exact hplus
  · rw [List.mem_append, List.mem_replicate, List.mem_singleton] at hc
    rcases hc with ⟨-, rfl⟩ | rfl
    · exact hdash
    · exact hplus

theorem isTrimmed_printBorder (width : Nat → Nat) (columns : Nat) : Text.IsTrimmed (printBorder width columns) :=
  Text.isTrimmed_cons_flatMap (by decide) _ _

theorem tableRow?_printBorder (width : Nat → Nat) (columns : Nat) : tableRow? (printBorder width columns) = none := by
  simp [tableRow?, isTableLine, printBorder]

/-! ### Rows -/

variable {width : Nat → Nat} {cells : List (List CodePoint)}

theorem trimChars_padCell {cell : List CodePoint} (h : Text.IsTrimmed cell) (n : Nat) :
    Text.trimChars (padCell n cell) = cell := by
  have hspaces : ∀ k, ∀ c ∈ List.replicate k (CodePoint.char ' '), Text.isBlank c = true := by
    intro k c hc
    rw [List.eq_of_mem_replicate hc]
    decide
  have := Text.trimChars_pad (hspaces 1) h (hspaces (n - cell.length + 1))
  simpa [padCell, List.replicate_succ] using this

theorem not_mem_padCell {c : CodePoint} (hc : c ≠ .char ' ') {cell : List CodePoint} (h : c ∉ cell) (n : Nat) :
    c ∉ padCell n cell := by
  simp [padCell, hc, h]

theorem isLine_printRow (h : ∀ cell ∈ cells, Text.IsLine cell) : Text.IsLine (printRow width cells) := by
  have hspace : Text.isLineEnd (.char ' ') = false := by decide
  have hbar : Text.isLineEnd (.char '|') = false := by decide
  intro c hc
  rw [printRow, List.mem_cons, List.mem_flatMap] at hc
  rcases hc with rfl | ⟨padded, hp, hc⟩
  · exact hbar
  obtain ⟨i, hi, rfl⟩ := List.mem_mapIdx.mp hp
  rw [List.mem_append, List.mem_singleton] at hc
  rcases hc with hc | rfl
  · simp only [padCell, List.mem_cons, List.mem_append, List.mem_replicate] at hc
    rcases hc with rfl | hc | rfl | ⟨-, rfl⟩
    · exact hspace
    · exact h _ (List.getElem_mem hi) c hc
    · exact hspace
    · exact hspace
  · exact hbar

theorem isTrimmed_printRow (width : Nat → Nat) (cells : List (List CodePoint)) :
    Text.IsTrimmed (printRow width cells) :=
  Text.isTrimmed_cons_flatMap (by decide) _ _

/-- The cells of a printed row are the ones it was printed from. -/
theorem tableCells_printRow (h : ∀ cell ∈ cells, IsCell cell) : tableCells (printRow width cells) = cells := by
  have hbars : ∀ p ∈ cells.mapIdx fun i cell => padCell (width i) cell, CodePoint.char '|' ∉ p := by
    intro p hp
    obtain ⟨i, hi, rfl⟩ := List.mem_mapIdx.mp hp
    exact not_mem_padCell (by decide) (h _ (List.getElem_mem hi)).noBar _
  have htrim : (cells.mapIdx fun i cell => padCell (width i) cell).map Text.trimChars = cells := by
    apply List.ext_getElem
    · simp
    · intro i hi hi'
      rw [List.getElem_map, List.getElem_mapIdx]
      exact trimChars_padCell (h _ (List.getElem_mem hi')).isTrimmed _
  have hfilter : cells.filter (!·.isEmpty) = cells := by
    rw [List.filter_eq_self]
    intro cell hcell
    have := (h cell hcell).isTrimmed.ne_nil
    simpa using this
  have hsplit : Text.splitOnChar (.char '|') (printRow width cells) =
      [] :: ((cells.mapIdx fun i cell => padCell (width i) cell) ++ [[]]) := by
    have := Text.splitOnChar_append_cons (List.not_mem_nil (a := CodePoint.char '|'))
      ((cells.mapIdx fun i cell => padCell (width i) cell).flatMap fun cell => cell ++ [.char '|'])
    rw [Text.splitOnChar_flatMap hbars] at this
    exact this
  simp [tableCells, hsplit, htrim, hfilter]

/-! ### The word of the header -/

/-- The word that headers are known by. -/
abbrev headerWord : List CodePoint := Text.toList "identifier"

/-- The word does not reach across a space or a bar. -/
theorem headerWord_infix_append_cons_iff {sep : CodePoint} (hsep : sep = .char ' ' ∨ sep = .char '|')
    (before after : List CodePoint) : headerWord <:+: Text.lowerChars (before ++ sep :: after) ↔
      headerWord <:+: Text.lowerChars before ∨ headerWord <:+: Text.lowerChars after := by
  apply Text.infix_lowerChars_append_cons_iff (by decide) (by decide)
  · rcases hsep with rfl | rfl <;> decide
  · rcases hsep with rfl | rfl <;> decide

theorem not_headerWord_infix_nil : ¬ headerWord <:+: Text.lowerChars [] := by
  decide

theorem not_headerWord_infix_spaces (n : Nat) : ¬ headerWord <:+: Text.lowerChars (List.replicate n (.char ' ')) := by
  induction n with
  | zero => exact not_headerWord_infix_nil
  | succ n ih =>
    have := headerWord_infix_append_cons_iff (.inl rfl) [] (List.replicate n (.char ' '))
    rw [List.replicate_succ, ← List.nil_append (_ :: _), this]
    rintro (hnil | hrest)
    · exact not_headerWord_infix_nil hnil
    · exact ih hrest

theorem headerWord_infix_padCell_iff (n : Nat) (cell : List CodePoint) :
    headerWord <:+: Text.lowerChars (padCell n cell) ↔ headerWord <:+: Text.lowerChars cell := by
  have hleft := headerWord_infix_append_cons_iff (.inl rfl) []
    (cell ++ .char ' ' :: List.replicate (n - cell.length) (.char ' '))
  have hright := headerWord_infix_append_cons_iff (.inl rfl) cell (List.replicate (n - cell.length) (.char ' '))
  rw [List.nil_append, hright] at hleft
  rw [padCell, hleft]
  simp only [not_headerWord_infix_nil, not_headerWord_infix_spaces, false_or, or_false]

theorem headerWord_infix_flatMap_iff (pieces : List (List CodePoint)) :
    headerWord <:+: Text.lowerChars (pieces.flatMap fun p => p ++ [.char '|']) ↔
      ∃ p ∈ pieces, headerWord <:+: Text.lowerChars p := by
  induction pieces with
  | nil => simpa using not_headerWord_infix_nil
  | cons p pieces ih =>
    rw [List.flatMap_cons, List.append_assoc, List.singleton_append, headerWord_infix_append_cons_iff (.inr rfl), ih]
    simp

/-- A printed row holds the word if one of its cells does. -/
theorem headerWord_infix_printRow_iff (width : Nat → Nat) (cells : List (List CodePoint)) :
    headerWord <:+: Text.lowerChars (printRow width cells) ↔
      ∃ cell ∈ cells, headerWord <:+: Text.lowerChars cell := by
  have hbar := headerWord_infix_append_cons_iff (.inr rfl) []
    ((cells.mapIdx fun i cell => padCell (width i) cell).flatMap fun cell => cell ++ [.char '|'])
  rw [List.nil_append, headerWord_infix_flatMap_iff] at hbar
  rw [printRow, hbar]
  simp only [not_headerWord_infix_nil, false_or]
  constructor
  · rintro ⟨p, hp, hw⟩
    obtain ⟨i, hi, rfl⟩ := List.mem_mapIdx.mp hp
    exact ⟨cells[i], List.getElem_mem hi, (headerWord_infix_padCell_iff _ _).mp hw⟩
  · rintro ⟨cell, hcell, hw⟩
    obtain ⟨i, hi, rfl⟩ := List.getElem_of_mem hcell
    exact ⟨_, List.mem_mapIdx.mpr ⟨i, hi, rfl⟩, (headerWord_infix_padCell_iff _ _).mpr hw⟩

theorem isTableLine_printRow (width : Nat → Nat) (cells : List (List CodePoint)) :
    isTableLine (printRow width cells) =
      !cells.any fun cell => Text.containsText headerWord (Text.lowerChars cell) := by
  have hword : Text.containsText headerWord (Text.lowerChars (printRow width cells)) =
      cells.any fun cell => Text.containsText headerWord (Text.lowerChars cell) := by
    rw [Bool.eq_iff_iff, Text.containsText_iff, headerWord_infix_printRow_iff]
    simp [Text.containsText_iff]
  have hline : isTableLine (printRow width cells) =
      ((printRow width cells).head? == some (.char '|') &&
        !Text.containsText headerWord (Text.lowerChars (printRow width cells))) := rfl
  have hhead : (printRow width cells).head? = some (.char '|') := rfl
  rw [hline, hword, hhead, beq_self_eq_true, Bool.true_and]

/-! ### Tables -/

namespace TableRow

/-- A printed row is read as its rule, unless it looks like a header. -/
theorem read_printRow {r : TableRow} (hcells : ∀ cell ∈ r.cells, IsCell cell) (hid : isDrawn r.id = false)
    (width : Nat → Nat) : (tableRow? (Text.trimChars (printRow width r.cells))).bind Rule.ofTableRow? =
      if r.looksLikeHeader then none else some r.rule := by
  have hlen : ¬ r.cells.length < minTableCells := by simp [TableRow.cells, minTableCells]
  rw [(isTrimmed_printRow width r.cells).trimChars_eq, tableRow?, isTableLine_printRow, tableCells_printRow hcells]
  change (if (!r.looksLikeHeader) = true then _ else _ : Option _).bind _ = _
  cases r.looksLikeHeader with
  | true => rfl
  | false =>
    show (if r.cells.length < minTableCells then none else some r.cells).bind Rule.ofTableRow? = some r.rule
    rw [if_neg hlen, Option.bind_some, TableRow.cells, Rule.ofTableRow?, hid]
    rfl

end TableRow

/-- A header is not read. -/
theorem read_header (width : Nat → Nat) (columns : List (List CodePoint)) :
    tableRow? (Text.trimChars (printRow width (headerWord :: columns))) = none := by
  have hword : Text.containsText headerWord (Text.lowerChars headerWord) = true := by decide
  rw [(isTrimmed_printRow width _).trimChars_eq, tableRow?, isTableLine_printRow]
  simp [hword]

namespace RuleTable

variable (t : RuleTable)

/-- The rows that do not look like a header. -/
def plainRows : List TableRow := t.rows.filter fun r => !r.looksLikeHeader

theorem isLine_upperLines : ∀ l ∈ t.upperLines, Text.IsLine l := by
  have hword : Text.IsLine headerWord := by decide
  have hheader : Text.IsLine t.header := by
    apply isLine_printRow
    intro name hname
    rcases List.mem_cons.mp hname with rfl | hname
    · exact hword
    · exact t.columns_isLine name hname
  intro l hl
  simp only [upperLines, List.mem_cons, List.mem_map] at hl
  rcases hl with rfl | rfl | rfl | ⟨r, hr, rfl⟩
  · exact isLine_printBorder _ _
  · exact hheader
  · exact isLine_printBorder _ _
  · exact isLine_printRow fun cell hcell => (t.rows_isCell r hr cell hcell).isLine

/-- Only the line feed at the end of a table is trimmed off. -/
theorem trimChars_text : Text.trimChars t.text = Text.unlines t.upperLines ++ t.border := by
  have hfeed : Text.isBlank (.char '\n') = true := by decide
  have hborder : Text.IsTrimmed t.border := isTrimmed_printBorder _ _
  obtain ⟨between, hb⟩ : ∃ between, Text.unlines t.upperLines = t.border ++ between :=
    ⟨_, by rw [upperLines, Text.unlines, List.flatMap_cons, List.append_assoc]⟩
  have htext : t.text = [] ++ (t.border ++ between ++ t.border) ++ [.char '\n'] := by
    simp [text, Text.unlines, ← hb]
  rw [htext, Text.trimChars_pad (by simp) (hborder.append hborder between) (by simp [hfeed]), hb]

/-- Every row of a table is read, except those that look like a header. -/
theorem rulesOfTable_text : rulesOfTable (Text.trimChars t.text) = t.plainRows.map TableRow.rule := by
  have hborder : tableRow? (Text.trimChars t.border) = none := by
    rw [border, (isTrimmed_printBorder _ _).trimChars_eq, tableRow?_printBorder]
  have hheader : tableRow? (Text.trimChars t.header) = none := read_header _ _
  have hrows : ∀ rows : List TableRow, (∀ r ∈ rows, r ∈ t.rows) →
      (rows.map fun r => printRow t.width r.cells).filterMap
        (fun line => (tableRow? (Text.trimChars line)).bind Rule.ofTableRow?) =
      (rows.filter fun r => !r.looksLikeHeader).map TableRow.rule := by
    intro rows hmem
    induction rows with
    | nil => rfl
    | cons r rows ih =>
      have hr : r ∈ t.rows := hmem r List.mem_cons_self
      have hread := TableRow.read_printRow (t.rows_isCell r hr) (t.rows_written r hr) t.width
      rw [List.map_cons, List.filterMap_cons, hread, ih fun s hs => hmem s (List.mem_cons_of_mem r hs)]
      cases hh : r.looksLikeHeader <;> simp [hh]
  have hline : Text.IsLine t.border := isLine_printBorder _ _
  have hne : t.border ≠ [] := (isTrimmed_printBorder _ _).ne_nil
  rw [trimChars_text, rulesOfTable, Text.lines_unlines_append t.isLine_upperLines hline hne]
  simp [upperLines, hborder, hheader, hrows t.rows (fun _ hr => hr), plainRows]

theorem ids_rules_nodup : ((t.plainRows.map TableRow.rule).map Rule.id).Nodup := by
  have hids : (t.plainRows.map TableRow.rule).map Rule.id = (t.plainRows.map TableRow.id).map Text.ofList := by
    simp [TableRow.rule]
  have hsub : (t.plainRows.map TableRow.id).Nodup := t.ids_nodup.sublist (List.filter_sublist.map _)
  rw [hids]
  exact List.Pairwise.map Text.ofList (fun _ _ hne he => hne (congrArg Text.toList he)) hsub

theorem readRuleList_eq : readRuleList (Text.ofList t.text) =
    if t.plainRows = [] then .error .noRules else .ok (t.plainRows.map TableRow.rule) := by
  have hhead : (Text.trimChars t.text).head? ≠ some (.char '[') := by
    rw [trimChars_text, upperLines, Text.unlines, List.flatMap_cons, border, printBorder]
    simp
  have hlisting : rulesOfListing (Text.trimChars t.text) = .ok (t.plainRows.map TableRow.rule) := by
    rw [rulesOfListing, rulesOfTable_text]
    exact if_neg hhead
  simp only [readRuleList, Text.toList_ofList, hlisting, bind, Except.bind,
    dropRepeatedIds_of_nodup t.ids_rules_nodup]
  cases t.plainRows <;> rfl

/-- A table is read back row by row if and only if it has rows and none of them looks like a header. The rows that do
are lost, and a table of nothing else has no rules. -/
theorem readRuleList_text :
    readRuleList (Text.ofList t.text) =
      (if t.plainRows = [] then .error .noRules else .ok (t.plainRows.map TableRow.rule)) ∧
    (readRuleList (Text.ofList t.text) = .ok (t.rows.map TableRow.rule) ↔
      t.rows ≠ [] ∧ ∀ r ∈ t.rows, r.looksLikeHeader = false) := by
  refine ⟨t.readRuleList_eq, ?_⟩
  rw [t.readRuleList_eq]
  constructor
  · intro h
    split at h
    · cases h
    · rename_i hne
      have hlen : t.plainRows.length = t.rows.length := by simpa using congrArg List.length (Except.ok.inj h)
      have hall := List.length_filter_eq_length_iff.mp hlen
      exact ⟨fun hnil => hne (by simp [plainRows, hnil]), fun r hr => by simpa using hall r hr⟩
  · rintro ⟨hne, hall⟩
    have hself : t.plainRows = t.rows := List.filter_eq_self.mpr fun r hr => by simp [hall r hr]
    rw [hself, if_neg hne]

/-- A table of two rules, one of which is about the names of identifiers. -/
def ofNames : RuleTable where
  width _ := 0
  columns := [Text.toList "opt-in", Text.toList "correctable", Text.toList "enabled", Text.toList "kind"]
  rows := [
    ⟨Text.toList "identifier_name", Text.toList "no", Text.toList "no", Text.toList "yes", Text.toList "style", []⟩,
    ⟨Text.toList "force_cast", Text.toList "no", Text.toList "no", Text.toList "yes", Text.toList "idiomatic", []⟩]
  columns_isLine := by decide
  rows_isCell := by decide
  rows_written := by decide
  ids_nodup := by decide

/-- The first of the two rules is lost. -/
theorem readRuleList_ofNames : (readRuleList (Text.ofList ofNames.text)).map (·.map Rule.id) = .ok ["force_cast"] ∧
    ofNames.rows.map (fun r => r.rule.id) = [Text.ofString "identifier_name", Text.ofString "force_cast"] := by
  decide +kernel

end RuleTable

end LintPreview
