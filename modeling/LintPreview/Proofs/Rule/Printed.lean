import LintPreview.Proofs.Json.Number
import LintPreview.Proofs.Rule.Sections

/-!
# Reading a printed listing of a rule

* `RuleExample`: an example, line by line; `PrintedExample`: its lines as the lint tool prints them, indented and with
  marks in them, behind a gap.
* `PrintedRule`: a whole listing, with a header, both sections in either order, and perhaps a configuration behind
  them; `PrintedRule.text` is its text.
* `detailLine_of_noHeading`: what a line does that is no heading of examples.
* `PrintedRule.readDetails_text`: a printed listing is read back: name, description and all examples, in order.
-/

namespace LintPreview

/-! ### Printing -/

/-- The words that the headings of both sections hold. -/
def headingWords : List CodePoint := Text.toList "Triggering Examples"

/-- The heading of the examples that trigger a rule. -/
def triggeringHeading : List CodePoint := Text.toList "Triggering Examples (violations are marked with '↓'):"

/-- The heading of the examples that do not. -/
def nonTriggeringHeading : List CodePoint := Text.toList "Non Triggering Examples:"

/-- A line that an example can hold. -/
structure IsExampleLine (line : List CodePoint) : Prop where
  isLine : Text.IsLine line
  filled : ∃ c ∈ line, Text.isBlank c = false
  last : ∀ c ∈ line.getLast?, Text.isBlank c = false
  unmarked : CodePoint.char '↓' ∉ line
  noHeading : ¬ headingWords <:+: line
  start : ∀ words ∈ (["Example #", "Configuration", "+"] : List Text), ¬ words.toList <+: Text.trimChars line

instance (line : List CodePoint) : Decidable (IsExampleLine line) :=
  decidable_of_iff (Text.IsLine line ∧ (∃ c ∈ line, Text.isBlank c = false) ∧
      (∀ c ∈ line.getLast?, Text.isBlank c = false) ∧ CodePoint.char '↓' ∉ line ∧ ¬ headingWords <:+: line ∧
      ∀ words ∈ (["Example #", "Configuration", "+"] : List Text), ¬ words.toList <+: Text.trimChars line)
    ⟨fun ⟨h1, h2, h3, h4, h5, h6⟩ => ⟨h1, h2, h3, h4, h5, h6⟩,
      fun ⟨h1, h2, h3, h4, h5, h6⟩ => ⟨h1, h2, h3, h4, h5, h6⟩⟩

/-- An example, line by line. Its first line is not indented. -/
structure RuleExample where
  first : List CodePoint
  rest : List (List CodePoint)
  isExampleLine : ∀ line ∈ first :: rest, IsExampleLine line
  head : ∀ c ∈ first.head?, Text.isBlank c = false

namespace RuleExample

/-- The lines of an example. -/
def lines (e : RuleExample) : List (List CodePoint) := e.first :: e.rest

/-- The text of an example. -/
def text (e : RuleExample) : Text := Text.ofList (Text.joinWith [.char '\n'] e.lines)

end RuleExample

/-- What the lines of examples are indented by. -/
def indentation : List CodePoint := List.replicate 4 (.char ' ')

/-- A line is printed indented, with marks anywhere in it. -/
def IsPrintedAs (line printed : List CodePoint) : Prop :=
  printed.filter (fun c : CodePoint => c != '↓') = indentation ++ line

/-- A line between examples: a blank one or the number of the next example. -/
inductive IsGapLine : List CodePoint → Prop where
  | blank {line : List CodePoint} (isBlank : ∀ c ∈ line, Text.isBlank c = true) (isLine : Text.IsLine line) :
      IsGapLine line
  | number (k : ℕ) : IsGapLine (Text.toList "Example #" ++ Json.decimalDigits k)

/-- The number of an example between blank lines. -/
def numberedGap (k : ℕ) : List (List CodePoint) := [[], Text.toList "Example #" ++ Json.decimalDigits k, []]

theorem isGapLine_nil : IsGapLine [] := .blank (List.forall_mem_nil _) (List.forall_mem_nil _)

theorem isGapLine_of_mem_numberedGap {k : ℕ} : ∀ line ∈ numberedGap k, IsGapLine line := by
  simp only [numberedGap, List.forall_mem_cons]
  exact ⟨isGapLine_nil, .number k, isGapLine_nil, List.forall_mem_nil _⟩

/-- An example as it is printed, with a gap before it. -/
structure PrintedExample where
  contents : RuleExample
  gap : List (List CodePoint)
  printed : List (List CodePoint)
  gap_ne_nil : gap ≠ []
  gap_isGapLine : ∀ line ∈ gap, IsGapLine line
  printed_isPrintedAs : List.Forall₂ IsPrintedAs contents.lines printed

/-- The examples of a section, and the lines behind the last one. -/
structure PrintedSection where
  examples : List PrintedExample
  closing : List (List CodePoint)
  closing_isGapLine : ∀ line ∈ closing, IsGapLine line

namespace PrintedSection

/-- The lines below the heading. -/
def lines (s : PrintedSection) : List (List CodePoint) :=
  s.examples.flatMap (fun e => e.gap ++ e.printed) ++ s.closing

/-- The texts of the examples. -/
def texts (s : PrintedSection) : List Text := s.examples.map fun e => e.contents.text

end PrintedSection

/-- A listing as it is printed. What stands behind the examples starts with the word for the configuration. -/
structure PrintedRule where
  name : List CodePoint
  id : List CodePoint
  description : List CodePoint
  gap : List (List CodePoint)
  nonTriggering : PrintedSection
  triggering : PrintedSection
  triggeringFirst : Bool
  configuration : Option (List CodePoint)
  name_isTrimmed : Text.IsTrimmed name
  name_isLine : Text.IsLine name
  name_plain : CodePoint.char '(' ∉ name ∧ CodePoint.char ':' ∉ name
  id_isLine : Text.IsLine id
  id_plain : CodePoint.char ':' ∉ id
  description_trimmed : Text.trimChars description = description
  description_isLine : Text.IsLine description
  gap_isGapLine : ∀ line ∈ gap, IsGapLine line
  configuration_start : ∀ text ∈ configuration, Text.toList "Configuration" <+: text
  configuration_noHeading : ∀ text ∈ configuration, ¬ headingWords <:+: text

namespace PrintedRule

/-- The header. -/
def header (p : PrintedRule) : List CodePoint :=
  p.name ++ Text.toList " (" ++ p.id ++ Text.toList "): " ++ p.description

/-- The lines of a listing up to the configuration. -/
def lines (p : PrintedRule) : List (List CodePoint) :=
  let triggeringLines := triggeringHeading :: p.triggering.lines
  let nonTriggeringLines := nonTriggeringHeading :: p.nonTriggering.lines
  p.header :: p.gap ++ if p.triggeringFirst then triggeringLines ++ nonTriggeringLines
    else nonTriggeringLines ++ triggeringLines

/-- The text of a listing. -/
def text (p : PrintedRule) : Text :=
  Text.ofList (Text.joinWith [.char '\n'] (p.lines ++ p.configuration.toList))

/-- What the listing tells of the rule. -/
def details (p : PrintedRule) : Details where
  name := some (Text.ofList p.name)
  description := Text.ofList p.description
  triggeringExamples := p.triggering.texts
  nonTriggeringExamples := p.nonTriggering.texts

end PrintedRule

/-! ### Headings -/

/-- What a line does that is no heading of examples. -/
theorem detailLine_of_noHeading {line : List CodePoint} (h : ¬ headingWords <:+: line) : detailLine line =
    if Text.startsWith (Text.toList "Configuration") line || Text.startsWith (Text.toList "+") line then
      .heading .outside
    else if line.isEmpty || Text.startsWith (Text.toList "Example #") line then .separator
    else .content := by
  have hnot : ∀ before : Text, Text.containsText (before.toList ++ headingWords) line = false := by
    intro before
    rw [Bool.eq_false_iff, ne_eq, Text.containsText_iff]
    exact fun hin => h ((List.suffix_append _ _).isInfix.trans hin)
  have hspace : Text.containsText (Text.toList "Non Triggering Examples") line = false := hnot "Non "
  have hdash : Text.containsText (Text.toList "Non-Triggering Examples") line = false := hnot "Non-"
  have hplain : Text.containsText (Text.toList "Triggering Examples") line = false := hnot ""
  unfold detailLine
  simp only [hspace, hdash, hplain, Bool.or_self, Bool.false_eq_true, if_false]

theorem noHeading_trimChars {line : List CodePoint} (h : ¬ headingWords <:+: line) :
    ¬ headingWords <:+: Text.trimChars line :=
  fun hin => h (hin.trans (Text.trimChars_isInfix line))

/-- What is no heading of examples can only close the sections. -/
theorem eq_outside_of_noHeading {line : List CodePoint} (h : ¬ headingWords <:+: line) (opens : DetailSection)
    (hopens : detailLine (Text.trimChars line) = .heading opens) : opens = .outside := by
  rw [detailLine_of_noHeading (noHeading_trimChars h)] at hopens
  split at hopens
  · exact (DetailLine.heading.inj hopens).symm
  · split at hopens <;> cases hopens

/-! ### Lines between examples -/

theorem isLine_decimalDigits (k : ℕ) : Text.IsLine (Json.decimalDigits k) := by
  intro c hc
  have hdigit := Json.areDigits_decimalDigits k c hc
  rw [Bool.eq_false_iff]
  intro hend
  have := Json.toNat_of_isDigit hdigit
  simp only [Text.isLineEnd, Bool.or_eq_true, Bool.and_eq_true, decide_eq_true_eq, beq_iff_eq] at hend
  omega

theorem IsGapLine.isLine {line : List CodePoint} (h : IsGapLine line) : Text.IsLine line := by
  cases h with
  | blank _ hline => exact hline
  | number k =>
    have hword : Text.IsLine (Text.toList "Example #") := by decide
    intro c hc
    rcases List.mem_append.mp hc with hc | hc
    · exact hword c hc
    · exact isLine_decimalDigits k c hc

/-- The numbers of examples hold none of the words that a heading starts with. -/
theorem not_infix_number {words : List CodePoint} {c : CodePoint} (hc : c ∈ words)
    (hnot : c ∉ Text.toList "Example #") (hdigit : c.isDigit = false) (k : ℕ) :
    ¬ words <:+: Text.toList "Example #" ++ Json.decimalDigits k := by
  intro hin
  rcases List.mem_append.mp (hin.subset hc) with hmem | hmem
  · exact hnot hmem
  · rw [Json.areDigits_decimalDigits k c hmem] at hdigit
    cases hdigit

theorem IsGapLine.detailLine_eq {line : List CodePoint} (h : IsGapLine line) :
    detailLine (Text.trimChars line) = .separator := by
  cases h with
  | blank hblank _ =>
    rw [Text.trimChars_eq_nil_iff.mpr hblank]
    decide
  | number k =>
    have hnot : ∀ words : List CodePoint, (∃ c ∈ words, c ∉ Text.toList "Example #" ∧ c.isDigit = false) →
        Text.startsWith words (Text.trimChars (Text.toList "Example #" ++ Json.decimalDigits k)) = false := by
      rintro words ⟨c, hc, hnot, hdigit⟩
      rw [Bool.eq_false_iff, ne_eq, Text.startsWith_iff]
      intro hstart
      exact not_infix_number hc hnot hdigit k (hstart.isInfix.trans (Text.trimChars_isInfix _))
    have hword : .char 'T' ∈ headingWords := by decide
    have hheading := noHeading_trimChars (not_infix_number hword (by decide) rfl k)
    have hstart : Text.startsWith (Text.toList "Example #")
        (Text.trimChars (Text.toList "Example #" ++ Json.decimalDigits k)) = true := by
      have hwords : Text.IsTrimmed (Text.toList "Example #") := by decide
      rw [Text.startsWith_iff, Text.prefix_trimChars_iff hwords, Text.trimLeftChars_of_head]
      · exact List.prefix_append _ _
      · exact hwords.head
    rw [detailLine_of_noHeading hheading, hnot (Text.toList "Configuration") ⟨.char 'C', by decide⟩,
      hnot (Text.toList "+") ⟨.char '+', by decide⟩, hstart, Bool.or_true]
    rfl

/-! ### Lines of examples -/

namespace IsPrintedAs

variable {line printed : List CodePoint}

theorem isLine (h : IsPrintedAs line printed) (hline : IsExampleLine line) : Text.IsLine printed := by
  have hindented : Text.IsLine (indentation ++ line) := by
    intro c hc
    rcases List.mem_append.mp hc with hc | hc
    · rw [List.eq_of_mem_replicate hc]
      rfl
    · exact hline.isLine c hc
  intro c hc
  by_cases hmark : c = .char '↓'
  · rw [hmark]
    rfl
  · exact hindented c (by rw [← h, List.mem_filter]; exact ⟨hc, bne_iff_ne.mpr hmark⟩)

/-- A line of an example adds to it. -/
theorem detailLine_eq (h : IsPrintedAs line printed) (hline : IsExampleLine line) :
    detailLine (Text.trimChars printed) = .content := by
  have hblanks : ∀ c ∈ indentation, Text.isBlank c = true := by decide
  have hheading : ¬ headingWords <:+: printed := by
    intro hin
    apply hline.noHeading
    apply Text.infix_of_infix_append hblanks (by decide)
    rw [← h]
    exact Text.infix_filter (by decide) hin
  have hnot : ∀ words ∈ (["Example #", "Configuration", "+"] : List Text),
      Text.startsWith words.toList (Text.trimChars printed) = false := by
    intro words hwords
    have hplain : Text.IsTrimmed words.toList ∧ ∀ c ∈ words.toList, (c != CodePoint.char '↓') = true := by
      revert words
      decide
    rw [Bool.eq_false_iff, ne_eq, Text.startsWith_iff]
    intro hstart
    have hindented := Text.prefix_trimChars_filter hplain.1 hplain.2 hstart
    rw [h, Text.trimChars, Text.trimLeftChars_append hblanks] at hindented
    exact hline.start words hwords hindented
  have hfilled : Text.trimChars printed ≠ [] := by
    rw [ne_eq, Text.trimChars_eq_nil_iff]
    intro hblank
    obtain ⟨c, hc, hfilled⟩ := hline.filled
    have hmem : c ∈ printed.filter fun c : CodePoint => c != '↓' := by
      rw [h]
      exact List.mem_append_right _ hc
    rw [hblank c (List.mem_filter.mp hmem).1] at hfilled
    cases hfilled
  have hword := hnot "Configuration" (by decide)
  have hplus := hnot "+" (by decide)
  have hnumber := hnot "Example #" (by decide)
  rw [detailLine_of_noHeading (noHeading_trimChars hheading)]
  simp only [hword, hplus, hnumber, List.isEmpty_eq_false_iff.mpr hfilled, Bool.or_self, Bool.false_eq_true, if_false]

/-- Marks are taken out of a line of an example, and nothing else is. -/
theorem exampleLine_eq (h : IsPrintedAs line printed) (hline : IsExampleLine line) :
    DetailReader.exampleLine printed = indentation ++ line := by
  have hlast : ∀ c ∈ (indentation ++ line).getLast?, Text.isBlank c = false := by
    obtain ⟨c, hc, -⟩ := hline.filled
    have hor : (indentation ++ line).getLast? = line.getLast? := by
      rw [List.getLast?_append, List.getLast?_eq_some_getLast (List.ne_nil_of_mem hc), Option.some_or]
    rw [hor]
    exact hline.last
  rw [DetailReader.exampleLine, h, Text.trimRightChars_of_last hlast]

end IsPrintedAs

namespace RuleExample

variable (e : RuleExample)

theorem ne_nil_of_mem {line : List CodePoint} (h : line ∈ e.lines) : line ≠ [] := by
  obtain ⟨c, hc, -⟩ := (e.isExampleLine line h).filled
  exact List.ne_nil_of_mem hc

theorem isTrimmed_joinWith : Text.IsTrimmed (Text.joinWith [.char '\n'] e.lines) := by
  have hfirst : e.first ≠ [] := e.ne_nil_of_mem List.mem_cons_self
  have hhead := Text.head?_joinWith hfirst [.char '\n'] e.rest
  refine ⟨?_, ?_, ?_⟩
  · intro hnil
    rw [show e.first :: e.rest = e.lines from rfl, hnil] at hhead
    exact hfirst (List.head?_eq_none_iff.mp hhead.symm)
  · intro c hc
    exact e.head c (hhead ▸ hc)
  · intro c hc
    obtain ⟨line, hline, hlast⟩ := Text.exists_mem_getLast?_of_joinWith (fun _ => e.ne_nil_of_mem) hc
    exact (e.isExampleLine line hline).last c hlast

/-- An example is read back from its lines, without what they are indented by. -/
theorem exampleText_eq : DetailReader.exampleText (e.lines.map (indentation ++ ·)) = e.text := by
  have hmargin : ∀ c, (c == CodePoint.char ' ' || c == CodePoint.char '\t') = true → Text.isBlank c = true := by
    intro c hc
    rw [Bool.or_eq_true, beq_iff_eq, beq_iff_eq] at hc
    rcases hc with rfl | rfl <;> decide
  have hfilled : ∀ line ∈ e.first :: e.rest, Text.isMarginOnly line = false := by
    intro line hline
    obtain ⟨c, hc, hblank⟩ := (e.isExampleLine line hline).filled
    rw [Bool.eq_false_iff]
    intro hall
    rw [hmargin c (List.all_eq_true.mp hall c hc)] at hblank
    cases hblank
  have hfirst : Text.margin e.first = [] := by
    obtain ⟨c, rest, hcons⟩ := List.exists_cons_of_ne_nil (e.ne_nil_of_mem List.mem_cons_self)
    have hc := e.head c (by rw [hcons]; rfl)
    rw [hcons]
    apply List.takeWhile_cons_of_neg
    intro hspace
    rw [hmargin c hspace] at hc
    cases hc
  rw [DetailReader.exampleText, lines, Text.dedent_indented (by decide) hfilled hfirst, ← lines,
    e.isTrimmed_joinWith.trimChars_eq, text]

theorem text_isEmpty : e.text.isEmpty = false :=
  List.isEmpty_eq_false_iff.mpr e.isTrimmed_joinWith.ne_nil

end RuleExample

theorem exists_mem_of_forall₂ {α β : Type} {R : α → β → Prop} {as : List α} {bs : List β} (h : List.Forall₂ R as bs)
    {b : β} (hb : b ∈ bs) : ∃ a ∈ as, R a b := by
  induction h with
  | nil => cases hb
  | cons hab _ ih =>
    rcases List.mem_cons.mp hb with rfl | hb
    · exact ⟨_, List.mem_cons_self, hab⟩
    · obtain ⟨a, ha, hab⟩ := ih hb
      exact ⟨a, List.mem_cons_of_mem _ ha, hab⟩

namespace PrintedExample

variable (e : PrintedExample)

theorem isLine : ∀ line ∈ e.gap ++ e.printed, Text.IsLine line := by
  intro line hline
  rcases List.mem_append.mp hline with hline | hline
  · exact (e.gap_isGapLine line hline).isLine
  · obtain ⟨l, hl, hprinted⟩ := exists_mem_of_forall₂ e.printed_isPrintedAs hline
    exact hprinted.isLine (e.contents.isExampleLine l hl)

/-- The lines of an example are read back, without the marks. -/
theorem map_exampleLine : e.printed.map DetailReader.exampleLine = e.contents.lines.map (indentation ++ ·) := by
  have hlines := e.contents.isExampleLine
  have hprinted := e.printed_isPrintedAs
  rw [← RuleExample.lines] at hlines
  generalize e.contents.lines = ls, e.printed = ps at hlines hprinted ⊢
  induction hprinted with
  | nil => rfl
  | cons h _ ih =>
    obtain ⟨hline, hlines⟩ := List.forall_mem_cons.mp hlines
    rw [List.map_cons, List.map_cons, h.exampleLine_eq hline, ih hlines]

/-- A printed example is added to its section, whatever is open before. -/
theorem adds {r : DetailReader} (hplace : r.place ≠ .outside) :
    r.Adds ((e.gap ++ e.printed).foldl DetailReader.step r) [e.contents.text] := by
  have hcontents : ∀ line ∈ e.printed, detailLine (Text.trimChars line) = .content := by
    intro line hline
    obtain ⟨l, hl, hprinted⟩ := exists_mem_of_forall₂ e.printed_isPrintedAs hline
    exact hprinted.detailLine_eq (e.contents.isExampleLine l hl)
  have htext : DetailReader.exampleText (e.printed.map DetailReader.exampleLine) = e.contents.text := by
    rw [e.map_exampleLine, e.contents.exampleText_eq]
  have hfilled : (DetailReader.exampleText (e.printed.map DetailReader.exampleLine)).isEmpty = false := by
    rw [htext]
    exact e.contents.text_isEmpty
  rw [← htext]
  exact DetailReader.adds_example (fun line hline => (e.gap_isGapLine line hline).detailLine_eq) e.gap_ne_nil
    hcontents hfilled hplace

end PrintedExample

/-! ### Sections -/

namespace PrintedSection

variable (s : PrintedSection) {r : DetailReader}

theorem isLine : ∀ line ∈ s.lines, Text.IsLine line := by
  intro line hline
  rcases List.mem_append.mp hline with hline | hline
  · obtain ⟨e, -, hline⟩ := List.mem_flatMap.mp hline
    exact e.isLine line hline
  · exact (s.closing_isGapLine line hline).isLine

theorem adds_examples (hplace : r.place ≠ .outside) (es : List PrintedExample) :
    r.Adds ((es.flatMap fun e => e.gap ++ e.printed).foldl DetailReader.step r)
      (es.map fun e => e.contents.text) := by
  induction es generalizing r with
  | nil => exact .refl r
  | cons e es ih =>
    have hfirst := e.adds hplace
    have hrest := ih (by rwa [hfirst.place])
    rw [List.flatMap_cons, List.foldl_append, List.map_cons]
    exact hfirst.trans hrest

/-- All examples of a section are added to it, in order. -/
theorem adds (hplace : r.place ≠ .outside) : r.Adds (s.lines.foldl DetailReader.step r) s.texts := by
  have hexamples := adds_examples hplace s.examples
  have hclosing := DetailReader.adds_separators (fun line hline => (s.closing_isGapLine line hline).detailLine_eq)
    (show _ ≠ _ by rwa [hexamples.place])
  rw [lines, List.foldl_append, texts]
  simpa using hexamples.trans hclosing

/-- Below its heading a section adds its examples to what has been read before. -/
theorem details_foldl {heading : List CodePoint} {place : DetailSection}
    (hheading : detailLine (Text.trimChars heading) = .heading place) (hplace : place ≠ .outside) :
    ((heading :: s.lines).foldl DetailReader.step r).close.details = r.close.details.append place s.texts := by
  rw [List.foldl_cons, DetailReader.step_heading hheading]
  have hadds := s.adds (r := { r.close with place := place }) hplace
  rw [hadds.details, DetailReader.close_of_nil rfl]

end PrintedSection

/-! ### Listings -/

namespace PrintedRule

variable (p : PrintedRule)

theorem isLine_header : Text.IsLine p.header := by
  have hopen : Text.IsLine (Text.toList " (") := by decide
  have hclose : Text.IsLine (Text.toList "): ") := by decide
  intro c hc
  simp only [header, List.mem_append] at hc
  rcases hc with (((hc | hc) | hc) | hc) | hc
  · exact p.name_isLine c hc
  · exact hopen c hc
  · exact p.id_isLine c hc
  · exact hclose c hc
  · exact p.description_isLine c hc

/-- The header is read back. Its first colon is the one behind the id. -/
theorem headerDetails_header : headerDetails p.header =
    { name := some (Text.ofList p.name), description := Text.ofList p.description } := by
  have hfront : CodePoint.char ':' ∉ p.name ++ Text.toList " (" ++ p.id ++ [.char ')'] := by
    have hopen : CodePoint.char ':' ∉ Text.toList " (" := by decide
    simp [p.name_plain.2, p.id_plain, hopen]
  have hcolon : Text.cutAt ':' p.header =
      (p.name ++ Text.toList " (" ++ p.id ++ [.char ')'], some (.char ' ' :: p.description)) := by
    have hheader : p.header =
        (p.name ++ Text.toList " (" ++ p.id ++ [.char ')']) ++ .char ':' :: .char ' ' :: p.description := by
      have : Text.toList "): " = [.char ')', .char ':', .char ' '] := by decide
      simp [header, this]
    rw [hheader, Text.cutAt_append_cons hfront]
  have hparenthesis : Text.cutAt '(' (p.name ++ Text.toList " (" ++ p.id ++ [.char ')']) =
      (p.name ++ [.char ' '], some (p.id ++ [.char ')'])) := by
    have hname : CodePoint.char '(' ∉ p.name ++ [.char ' '] := by simp [p.name_plain.1]
    have hsplit : p.name ++ Text.toList " (" ++ p.id ++ [.char ')'] =
        (p.name ++ [.char ' ']) ++ .char '(' :: (p.id ++ [.char ')']) := by
      have : Text.toList " (" = [.char ' ', .char '('] := by decide
      simp [this]
    rw [hsplit, Text.cutAt_append_cons hname]
  have hspace : ∀ c ∈ ([.char ' '] : List CodePoint), Text.isBlank c = true := by decide
  have hname : Text.trimChars (p.name ++ [.char ' ']) = p.name := by
    have := Text.trimChars_pad (List.forall_mem_nil _) p.name_isTrimmed hspace
    rwa [List.nil_append] at this
  have hdescription : Text.trimChars (.char ' ' :: p.description) = p.description := by
    rw [← List.singleton_append, Text.trimChars, Text.trimLeftChars_append hspace, ← Text.trimChars,
      p.description_trimmed]
  have hfilled : (Text.ofList p.name).isEmpty = false := List.isEmpty_eq_false_iff.mpr p.name_isTrimmed.ne_nil
  rw [headerDetails, hcolon]
  simp only [hparenthesis, hname, hdescription, hfilled, Bool.false_eq_true, if_false]

theorem isLine_lines : ∀ line ∈ p.lines, Text.IsLine line := by
  have htriggering : ∀ line ∈ triggeringHeading :: p.triggering.lines, Text.IsLine line :=
    List.forall_mem_cons.mpr ⟨by decide, p.triggering.isLine⟩
  have hnonTriggering : ∀ line ∈ nonTriggeringHeading :: p.nonTriggering.lines, Text.IsLine line :=
    List.forall_mem_cons.mpr ⟨by decide, p.nonTriggering.isLine⟩
  intro line hline
  rw [lines, List.cons_append, List.mem_cons, List.mem_append] at hline
  rcases hline with rfl | hline | hline
  · exact p.isLine_header
  · exact (p.gap_isGapLine line hline).isLine
  · split at hline <;> rcases List.mem_append.mp hline with hline | hline
    · exact htriggering line hline
    · exact hnonTriggering line hline
    · exact hnonTriggering line hline
    · exact htriggering line hline

/-- Both sections are read, whichever comes first. -/
theorem detailsOfLines_lines : detailsOfLines p.lines = p.details := by
  set r : DetailReader := { details := headerDetails p.header } with hr
  have hgap : p.gap.foldl DetailReader.step r = r := by
    refine DetailReader.foldl_outside (fun line hline opens hopens => ?_) rfl rfl
    rw [(p.gap_isGapLine line hline).detailLine_eq] at hopens
    cases hopens
  have hdetails : r.close.details =
      { name := some (Text.ofList p.name), description := Text.ofList p.description } := by
    rw [DetailReader.close_of_nil rfl, hr, p.headerDetails_header]
  have htriggering : detailLine (Text.trimChars triggeringHeading) = .heading .triggering := by decide
  have hnonTriggering : detailLine (Text.trimChars nonTriggeringHeading) = .heading .nonTriggering := by decide
  rw [lines, List.cons_append, detailsOfLines, List.foldl_append, ← hr, hgap]
  split
  · rw [List.foldl_append, p.nonTriggering.details_foldl hnonTriggering (by decide),
      p.triggering.details_foldl htriggering (by decide), hdetails]
    rfl
  · rw [List.foldl_append, p.triggering.details_foldl htriggering (by decide),
      p.nonTriggering.details_foldl hnonTriggering (by decide), hdetails]
    rfl

/-- What stands behind the examples tells nothing of the rule. -/
theorem detailsOfLines_append_configuration {text : List CodePoint} (h : text ∈ p.configuration) :
    detailsOfLines (p.lines ++ Text.lines text) = detailsOfLines p.lines := by
  have hword : Text.IsLine (Text.toList "Configuration") := by decide
  obtain ⟨after, rfl⟩ := p.configuration_start text h
  obtain ⟨more, rest, hlines⟩ := Text.exists_lines_append_eq_cons hword (by decide) after
  have hheading : ∀ line ∈ (Text.toList "Configuration" ++ more) :: rest, ¬ headingWords <:+: line := by
    intro line hline hin
    rw [← hlines] at hline
    exact p.configuration_noHeading _ h (hin.trans (Text.infix_of_mem_lines hline))
  obtain ⟨hfirst, hrest⟩ := List.forall_mem_cons.mp hheading
  have hcloses : detailLine (Text.trimChars (Text.toList "Configuration" ++ more)) = .heading .outside := by
    have hstart : Text.startsWith (Text.toList "Configuration")
        (Text.trimChars (Text.toList "Configuration" ++ more)) = true := by
      have hwords : Text.IsTrimmed (Text.toList "Configuration") := by decide
      rw [Text.startsWith_iff, Text.prefix_trimChars_iff hwords, Text.trimLeftChars_of_head]
      · exact List.prefix_append _ _
      · exact hwords.head
    rw [detailLine_of_noHeading (noHeading_trimChars hfirst), hstart, Bool.true_or]
    rfl
  rw [hlines, lines, List.cons_append, List.cons_append, detailsOfLines, detailsOfLines, List.foldl_append,
    List.foldl_cons, DetailReader.step_heading hcloses,
    DetailReader.foldl_outside (fun line hline => eq_outside_of_noHeading (hrest line hline)) rfl rfl,
    DetailReader.close_of_nil rfl]

theorem head?_header : ∀ c ∈ p.header.head?, c ≠ .char '\n' := by
  rintro c hc rfl
  obtain ⟨d, rest, hname⟩ := List.exists_cons_of_ne_nil p.name_isTrimmed.ne_nil
  have hd := p.name_isTrimmed.head d (by rw [hname]; rfl)
  rw [header, hname] at hc
  cases hc
  cases hd

/-- A printed listing is read back: its name, its description and, in order, the examples of both sections. -/
theorem readDetails_text : readDetails p.text = p.details := by
  have hhead : ∀ c ∈ p.text.toList.head?, c ≠ .char '\n' := by
    have hne : p.header ≠ [] := by
      intro hnil
      have := p.name_isTrimmed.ne_nil
      simp [header] at hnil
      exact this hnil.1
    have : p.text.toList.head? = p.header.head? := by
      rw [text, Text.toList_ofList, lines, List.cons_append, List.cons_append, Text.head?_joinWith hne]
    rw [this]
    exact p.head?_header
  rw [readDetails_eq hhead, ← p.detailsOfLines_lines, text, Text.toList_ofList]
  cases hconfiguration : p.configuration with
  | none =>
    have hne : p.lines ≠ [] := List.cons_ne_nil _ _
    have hlines : Text.lines (Text.joinWith [.char '\n'] p.lines ++ [.char '\n']) = p.lines := by
      have hnil : Text.lines [] = [] := rfl
      have := Text.lines_unlines p.isLine_lines []
      rwa [hnil, List.append_nil, List.append_nil, Text.unlines_eq_joinWith_append hne] at this
    rw [Option.toList_none, List.append_nil, ← detailsOfLines_feeds _ 1]
    exact congrArg detailsOfLines hlines
  | some text =>
    rw [Option.toList_some, Text.joinWith_append_singleton, Text.lines_unlines p.isLine_lines,
      p.detailsOfLines_append_configuration hconfiguration]

/-- The listing of a rule with one example in each section, of which the second one is marked. -/
def forceCast : PrintedRule where
  name := Text.toList "Force Cast"
  id := Text.toList "force_cast"
  description := Text.toList "Force casts should be avoided"
  gap := [[]]
  nonTriggering := {
    examples := [{
      contents := ⟨Text.toList "NSNumber() as? Int", [], by decide, by decide⟩
      gap := numberedGap 1
      printed := [Text.toList "    NSNumber() as? Int"]
      gap_ne_nil := List.cons_ne_nil _ _
      gap_isGapLine := isGapLine_of_mem_numberedGap
      printed_isPrintedAs := .cons (by unfold IsPrintedAs; decide) .nil }]
    closing := [[]]
    closing_isGapLine := List.forall_mem_singleton.mpr isGapLine_nil }
  triggering := {
    examples := [{
      contents := ⟨Text.toList "NSNumber() as! Int", [], by decide, by decide⟩
      gap := numberedGap 1
      printed := [Text.toList "    NSNumber() ↓as! Int"]
      gap_ne_nil := List.cons_ne_nil _ _
      gap_isGapLine := isGapLine_of_mem_numberedGap
      printed_isPrintedAs := .cons (by unfold IsPrintedAs; decide) .nil }]
    closing := []
    closing_isGapLine := List.forall_mem_nil _ }
  triggeringFirst := false
  configuration := none
  name_isTrimmed := by decide
  name_isLine := by decide
  name_plain := by decide
  id_isLine := by decide
  id_plain := by decide
  description_trimmed := by decide
  description_isLine := by decide
  gap_isGapLine := List.forall_mem_singleton.mpr isGapLine_nil
  configuration_start := nofun
  configuration_noHeading := nofun

example : forceCast.lines = ([
    "Force Cast (force_cast): Force casts should be avoided",
    "",
    "Non Triggering Examples:",
    "",
    "Example #1",
    "",
    "    NSNumber() as? Int",
    "",
    "Triggering Examples (violations are marked with '↓'):",
    "",
    "Example #1",
    "",
    "    NSNumber() ↓as! Int"] : List Text).map Text.toList := by
  decide +kernel

end PrintedRule

end LintPreview
