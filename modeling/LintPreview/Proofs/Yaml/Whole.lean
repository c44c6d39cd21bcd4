import LintPreview.Proofs.Text.Blocks
import LintPreview.Proofs.Text.Utf8
import LintPreview.Yaml.Dump

/-!
# Documents as texts that can be encoded

A text read from YAML can hold lone halves of surrogate pairs, and those have no bytes. The text of a document never
holds one: it writes them as escapes.

* `Yaml.HasNoHalf`: characters only. `Yaml.Pen.IsWhole`: a pen that has written nothing else, with a lemma for each thing
  that a pen does.
* `Yaml.Writer.isWhole_node`: this is so for every document.
* `Document.exists_encode_toYaml`: so the text of a document has bytes.
-/

namespace LintPreview.Yaml

/-- Code points of which none is a lone half. -/
def HasNoHalf (cs : List CodePoint) : Prop := ∀ c ∈ cs, c.isHalf = false

instance (cs : List CodePoint) : Decidable (HasNoHalf cs) := inferInstanceAs (Decidable (∀ c ∈ cs, c.isHalf = false))

variable {cs ds : List CodePoint} {c : CodePoint}

theorem hasNoHalf_nil : HasNoHalf [] := fun _ hc => absurd hc List.not_mem_nil

theorem hasNoHalf_cons_iff : HasNoHalf (c :: cs) ↔ c.isHalf = false ∧ HasNoHalf cs := List.forall_mem_cons

theorem hasNoHalf_append_iff : HasNoHalf (cs ++ ds) ↔ HasNoHalf cs ∧ HasNoHalf ds := List.forall_mem_append

theorem HasNoHalf.reverse (h : HasNoHalf cs) : HasNoHalf cs.reverse := fun c hc => h c (List.mem_reverse.mp hc)

theorem hasNoHalf_map_char (cs : List Char) : HasNoHalf (cs.map .char) := by
  intro c hc
  obtain ⟨_, -, rfl⟩ := List.mem_map.mp hc
  rfl

theorem hasNoHalf_ofString (s : String) : HasNoHalf (Text.ofString s).toList := hasNoHalf_map_char s.toList

theorem hasNoHalf_replicate (n : Nat) (c : Char) : HasNoHalf (List.replicate n (.char c)) := by
  intro d hd
  rw [List.eq_of_mem_replicate hd]
  rfl

/-- Halves can only be written as escapes. -/
theorem hasNoHalf_of_not_isSpecial (h : cs.any isSpecial = false) : HasNoHalf cs := by
  intro c hc
  cases c with
  | char c => rfl
  | half half =>
    have hspecial : isSpecial (.half half) = true := by
      have hrange : 0xD800 ≤ (CodePoint.half half).toNat ∧ (CodePoint.half half).toNat < 0xE000 := by
        simp only [CodePoint.toNat]
        omega
      have hbreak : (CodePoint.half half == CodePoint.char '\n') = false := rfl
      unfold isSpecial
      generalize (CodePoint.half half).toNat = n at hrange
      simp only [hbreak, Bool.false_or, Bool.not_eq_true', Bool.or_eq_false_iff,
        Bool.and_eq_false_iff, decide_eq_false_iff_not, beq_eq_false_iff_ne]
      omega
    rw [List.any_eq_false] at h
    exact absurd hspecial (h _ hc)

namespace Pen

/-- The pen has written no lone half. -/
def IsWhole (p : Pen) : Prop := HasNoHalf p.written

variable {p : Pen} {split : Bool} {indent : Nat}

theorem IsWhole.put (h : p.IsWhole) (hcs : HasNoHalf cs) : (p.put cs).IsWhole :=
  hasNoHalf_append_iff.mpr ⟨hcs.reverse, h⟩

theorem IsWhole.breakLine (h : p.IsWhole) (hc : c.isHalf = false) : (p.breakLine c).IsWhole :=
  hasNoHalf_cons_iff.mpr ⟨hc, h⟩

theorem IsWhole.mark (h : p.IsWhole) (hcs : HasNoHalf cs) (needBlank : Bool) (blank indent : Bool := false) :
    (p.mark cs needBlank blank indent).IsWhole := by
  show (p.put _).IsWhole
  refine h.put ?_
  split
  · exact hcs
  · exact hasNoHalf_cons_iff.mpr ⟨rfl, hcs⟩

theorem IsWhole.inText (h : p.IsWhole) : p.inText.IsWhole := h

theorem IsWhole.indentTo (h : p.IsWhole) (indent : Nat) : (p.indentTo indent).IsWhole := by
  have hfill : ∀ p : Pen, p.IsWhole → (if p.column < indent then
      { p.put (List.replicate (indent - p.column) ' ') with afterBlank := true } else p).IsWhole := by
    intro p h
    split
    · exact h.put (hasNoHalf_replicate _ ' ')
    · exact h
  refine hfill _ ?_
  split
  · exact h.breakLine rfl
  · exact h

/-! ### Runs -/

/-- The run holds no lone half. -/
def Run.IsWhole : Run → Prop
  | .word cs => HasNoHalf cs
  | .spaces _ => True
  | .breaks cs => HasNoHalf cs

theorem isWhole_addChar (hc : c.isHalf = false) {rs : List Run} (h : ∀ r ∈ rs, r.IsWhole) :
    ∀ r ∈ addChar c rs, r.IsWhole := by
  have hone : HasNoHalf [c] := hasNoHalf_cons_iff.mpr ⟨hc, hasNoHalf_nil⟩
  rcases rs with _ | ⟨⟨cs⟩ | n | cs, rest⟩
  · unfold addChar
    split_ifs <;> simp [Run.IsWhole, hone]
  all_goals
    rw [List.forall_mem_cons] at h
    unfold addChar
    split_ifs <;> simp_all [Run.IsWhole, hasNoHalf_cons_iff]

theorem isWhole_runs (h : HasNoHalf cs) : ∀ r ∈ runs cs, r.IsWhole := by
  induction cs with
  | nil => exact fun _ hr => absurd hr List.not_mem_nil
  | cons c cs ih =>
    obtain ⟨hc, hcs⟩ := hasNoHalf_cons_iff.mp h
    exact isWhole_addChar hc (ih hcs)

/-! ### Styles -/

theorem IsWhole.plainRuns {rs : List Run} (hrs : ∀ r ∈ rs, r.IsWhole) (h : p.IsWhole) :
    (plainRuns split indent rs p).IsWhole := by
  induction rs generalizing p with
  | nil => exact h
  | cons r rs ih =>
    obtain ⟨hr, hrest⟩ := List.forall_mem_cons.mp hrs
    cases r with
    | word cs => exact ih hrest (h.put hr)
    | spaces n =>
      refine ih hrest ?_
      split
      · exact (h.indentTo indent).inText
      · exact h.put (hasNoHalf_replicate n ' ')
    | breaks cs => exact ih hrest (h.put hr)

theorem IsWhole.plain (h : p.IsWhole) (hcs : HasNoHalf cs) : (p.plain split indent cs).IsWhole := by
  unfold Pen.plain
  split
  · exact h
  · refine IsWhole.plainRuns (isWhole_runs hcs) (IsWhole.inText ?_)
    split
    · exact h
    · exact h.put (hasNoHalf_replicate 1 ' ')

theorem hasNoHalf_doubleQuotes (h : HasNoHalf cs) : HasNoHalf (doubleQuotes cs) := by
  intro c hc
  obtain ⟨d, hd, hc⟩ := List.mem_flatMap.mp hc
  split at hc
  · exact (by decide : HasNoHalf ['\'', '\'']) c hc
  · rw [List.mem_singleton.mp hc]
    exact h d hd

theorem IsWhole.singleRuns {rs : List Run} {first : Bool} (hrs : ∀ r ∈ rs, r.IsWhole) (h : p.IsWhole) :
    (singleRuns split indent first rs p).IsWhole := by
  have hbreaks : ∀ (cs : List CodePoint) (p : Pen), HasNoHalf cs → p.IsWhole → (cs.foldl Pen.breakLine p).IsWhole := by
    intro cs
    induction cs with
    | nil => exact fun p _ h => h
    | cons c cs ih =>
      intro p hcs h
      obtain ⟨hc, hcs⟩ := hasNoHalf_cons_iff.mp hcs
      exact ih _ hcs (h.breakLine hc)
  induction rs generalizing p first with
  | nil => exact h
  | cons r rs ih =>
    obtain ⟨hr, hrest⟩ := List.forall_mem_cons.mp hrs
    cases r with
    | word cs => exact ih hrest (h.put (hasNoHalf_doubleQuotes hr))
    | spaces n =>
      refine ih hrest ?_
      split
      · exact h.indentTo indent
      · exact h.put (hasNoHalf_replicate n ' ')
    | breaks cs =>
      refine ih hrest ((hbreaks cs _ hr ?_).indentTo indent)
      split
      · exact h.breakLine rfl
      · exact h

theorem IsWhole.single (h : p.IsWhole) (hcs : HasNoHalf cs) : (p.single split indent cs).IsWhole :=
  (IsWhole.singleRuns (isWhole_runs hcs) (h.mark (hasNoHalf_replicate 1 '\'') true)).mark
    (hasNoHalf_replicate 1 '\'') false

theorem hasNoHalf_upperHex (width n : Nat) : HasNoHalf (upperHex width n) := by
  have hdigit : ∀ n < 16, (Text.hexDigit n).toUpper.isHalf = false := by decide
  unfold upperHex
  induction width generalizing n with
  | zero => exact hasNoHalf_nil
  | succ width ih =>
    rw [Text.toHex, List.map_append, hasNoHalf_append_iff]
    exact ⟨ih (n / 16), hasNoHalf_cons_iff.mpr ⟨hdigit _ (Nat.mod_lt n (by decide)), hasNoHalf_nil⟩⟩

theorem hasNoHalf_escape (n : Nat) : HasNoHalf (escape n) := by
  unfold escape
  split
  case h_15 =>
    split_ifs
    all_goals exact hasNoHalf_cons_iff.mpr ⟨rfl, hasNoHalf_cons_iff.mpr ⟨rfl, hasNoHalf_upperHex _ n⟩⟩
  all_goals decide

/-- What stands for itself in double quotes is no half. -/
theorem isHalf_of_isOpen (h : isOpen c.toNat = true) : c.isHalf = false := by
  cases c with
  | char c => rfl
  | half half =>
    have hrange : 0xD800 ≤ (CodePoint.half half).toNat ∧ (CodePoint.half half).toNat < 0xE000 := by
      simp only [CodePoint.toNat]
      omega
    generalize (CodePoint.half half).toNat = n at h hrange
    simp only [isOpen, Bool.and_eq_true, Bool.or_eq_true, decide_eq_true_eq] at h
    omega

theorem IsWhole.foldDouble (h : p.IsWhole) (next : Option CodePoint) : (p.foldDouble indent next).IsWhole := by
  have hfold : ((p.put ['\\']).indentTo indent).inText.IsWhole :=
    ((h.put (hasNoHalf_replicate 1 '\\')).indentTo indent).inText
  unfold Pen.foldDouble
  dsimp only
  split
  · exact hfold.put (hasNoHalf_replicate 1 '\\')
  · exact hfold

theorem IsWhole.doubleCodes {first : Bool} {held : List CodePoint} (hheld : HasNoHalf held) (h : p.IsWhole) :
    (doubleCodes split indent first held cs p).IsWhole := by
  induction cs generalizing p first held with
  | nil => exact h.put hheld.reverse
  | cons c cs ih =>
    unfold Pen.doubleCodes
    dsimp only
    split
    · rename_i hopen
      have hc : c.isHalf = false := isHalf_of_isOpen hopen
      split
      · exact ih (hasNoHalf_cons_iff.mpr ⟨hc, hasNoHalf_nil⟩) ((h.put hheld.reverse).foldDouble _)
      · exact ih (hasNoHalf_cons_iff.mpr ⟨hc, hheld⟩) h
    · have hescaped := (h.put hheld.reverse).put (hasNoHalf_escape c.toNat)
      split
      · exact ih hasNoHalf_nil (hescaped.foldDouble _)
      · exact ih hasNoHalf_nil hescaped

theorem IsWhole.double (h : p.IsWhole) : (p.double split indent cs).IsWhole :=
  (IsWhole.doubleCodes hasNoHalf_nil (h.mark (hasNoHalf_replicate 1 '"') true)).mark (hasNoHalf_replicate 1 '"') false

theorem hasNoHalf_of_mem_lines (h : HasNoHalf cs) : ∀ l ∈ Text.lines cs, HasNoHalf l :=
  fun _ hl c hc => h c ((Text.infix_of_mem_lines hl).subset hc)

theorem IsWhole.literal (h : p.IsWhole) {ls : List (List CodePoint)} (hls : ∀ l ∈ ls, HasNoHalf l) :
    (p.literal indent ls).IsWhole := by
  have hlines : ∀ (ls : List (List CodePoint)) (p : Pen), (∀ l ∈ ls, HasNoHalf l) → p.IsWhole →
      (ls.foldl (fun p line => ((p.indentTo indent).put line).breakLine '\n') p).IsWhole := by
    intro ls
    induction ls with
    | nil => exact fun p _ h => h
    | cons l ls ih =>
      intro p hls h
      obtain ⟨hl, hls⟩ := List.forall_mem_cons.mp hls
      exact ih _ hls (((h.indentTo indent).put hl).breakLine rfl)
  exact hlines ls _ hls ((h.mark (hasNoHalf_replicate 1 '|') true).breakLine rfl)

end Pen

/-! ### Documents -/

namespace Writer

/-- The writer's pen has written no lone half. -/
abbrev IsWhole (w : Writer) : Prop := w.pen.IsWhole

variable {w : Writer} {place : Place} {indent : Option Nat}

/-- A text that is not written in double quotes holds nothing special. -/
theorem hasNoHalf_of_chooseStyle {formed asBlock asKey : Bool}
    (h : chooseStyle (Traits.ofChars cs) formed asBlock asKey ≠ .double) : HasNoHalf cs := by
  by_cases hempty : cs = []
  · rw [hempty]
    exact hasNoHalf_nil
  · refine hasNoHalf_of_not_isSpecial (Bool.eq_false_iff.mpr fun hspecial => h ?_)
    have hplain : (Traits.ofChars cs).allowPlain = false := by simp [Traits.ofChars, hspecial, hempty]
    have hsingle : (Traits.ofChars cs).allowSingle = false := by simp [Traits.ofChars, hspecial]
    have hblock : (Traits.ofChars cs).allowBlock = false := by simp [Traits.ofChars, hspecial]
    simp [chooseStyle, hplain, hsingle, hblock]

theorem IsWhole.scalar (h : w.IsWhole) {s : Scalar} (htag : HasNoHalf s.tagName.toList) :
    (w.scalar place indent s).IsWhole := by
  have hcodes : chooseStyle (Traits.ofChars s.codes) s.formed s.asBlock (place == .key) ≠ .double → HasNoHalf s.codes :=
    hasNoHalf_of_chooseStyle
  unfold Writer.scalar
  dsimp only
  generalize chooseStyle (Traits.ofChars s.codes) s.formed s.asBlock (place == .key) = style at hcodes ⊢
  have htagged : ∀ b : Bool, (if b then w.draw fun p => p.mark s.tagName.toList true else w).IsWhole := by
    intro b
    split
    · exact Pen.IsWhole.mark h htag true
    · exact h
  cases style with
  | plain => exact (htagged _).plain (hcodes nofun)
  | single => exact (htagged _).single (hcodes nofun)
  | double => exact (htagged _).double
  | literal => exact (htagged _).literal (Pen.hasNoHalf_of_mem_lines (hcodes nofun))

theorem hasNoHalf_anchorName {label : Nat} {name : List CodePoint} (h : w.anchorName? label = some name) :
    HasNoHalf name := by
  obtain ⟨n, -, rfl⟩ := Option.map_eq_some_iff.mp h
  refine hasNoHalf_cons_iff.mpr ⟨rfl, hasNoHalf_cons_iff.mpr ⟨rfl, ?_⟩⟩
  exact hasNoHalf_append_iff.mpr ⟨hasNoHalf_replicate _ '0', hasNoHalf_map_char _⟩

theorem IsWhole.introduce (h : w.IsWhole) (label : Nat) : (w.introduce label).1.IsWhole := by
  unfold Writer.introduce
  split
  · exact h
  · rename_i name hname
    have hname := hasNoHalf_anchorName hname
    split
    · exact Pen.IsWhole.mark h (hasNoHalf_cons_iff.mpr ⟨rfl, hname⟩) true
    · exact Pen.IsWhole.mark h (hasNoHalf_cons_iff.mpr ⟨rfl, hname⟩) true

/-- What is written behind an anchor. Behind an alias nothing is. -/
theorem IsWhole.introduced (h : w.IsWhole) (label : Nat) {rest : Writer → Writer}
    (hrest : ∀ w', Writer.IsWhole w' → (rest w').IsWhole) :
    (match w.introduce label with
      | (w', false) => w'
      | (w', true) => rest w').IsWhole := by
  have hw := h.introduce label
  split
  · rename_i heq
    rwa [heq] at hw
  · rename_i heq
    rw [heq] at hw
    exact hrest _ hw

/-- The brackets of an empty collection. -/
theorem IsWhole.brackets (h : w.IsWhole) (first last : Char) :
    (w.draw fun p => (p.mark [first] true true).mark [last] false).IsWhole :=
  (Pen.IsWhole.mark h (hasNoHalf_replicate 1 first) true true).mark (hasNoHalf_replicate 1 last) false

/-- A mark in front of what follows on the same line. -/
theorem IsWhole.bullet (h : w.IsWhole) (c : Char) : (w.draw fun p => p.mark [c] true false true).IsWhole :=
  Pen.IsWhole.mark h (hasNoHalf_replicate 1 c) true false true

theorem IsWhole.indentTo (h : w.IsWhole) (n : Nat) : (w.draw fun p => p.indentTo n).IsWhole := Pen.IsWhole.indentTo h n

theorem IsWhole.colon (h : w.IsWhole) : (w.draw fun p => p.mark [':'] false).IsWhole :=
  Pen.IsWhole.mark h (hasNoHalf_replicate 1 ':') false

mutual

theorem isWhole_node (place : Place) (indent : Option Nat) : ∀ (d : Document) (w : Writer), w.IsWhole →
    (w.node place indent d).IsWhole
  | .enclosing l, w, h => h.introduce l
  | .list l items, w, h => by
    unfold Writer.node
    refine h.introduced l fun w' hw => ?_
    dsimp only
    split
    · exact hw.brackets '[' ']'
    · exact isWhole_writeItems _ items _ hw
  | .map l entries, w, h => by
    unfold Writer.node
    refine h.introduced l fun w' hw => ?_
    split
    · exact hw.brackets '\x7b' '\x7d'
    · exact isWhole_writeEntries _ entries _ hw
  | .set l items, w, h => by
    unfold Writer.node
    refine h.introduced l fun w' hw => ?_
    have htagged : (w'.draw fun p => p.mark (Text.toList "!!set") true).IsWhole :=
      Pen.IsWhole.mark hw (hasNoHalf_ofString _) true
    dsimp only
    split
    · exact htagged.brackets '\x7b' '\x7d'
    · exact isWhole_writeMembers _ items _ htagged
  | .moment l m, w, h => by
    unfold Writer.node
    exact h.introduced l fun w' hw => hw.scalar (hasNoHalf_ofString _)
  | .null, w, h => h.scalar (hasNoHalf_ofString _)
  | .bool b, w, h => h.scalar (hasNoHalf_ofString _)
  | .int i, w, h => h.scalar (hasNoHalf_ofString _)
  | .float x, w, h => h.scalar (hasNoHalf_ofString _)
  | .text s, w, h => h.scalar (hasNoHalf_ofString _)
  | .bytes bs, w, h => h.scalar (hasNoHalf_ofString _)

theorem isWhole_writeItems (indent : Nat) : ∀ (items : List Document) (w : Writer), w.IsWhole →
    (w.writeItems indent items).IsWhole
  | [], w, h => h
  | d :: rest, w, h => by
    unfold Writer.writeItems
    exact isWhole_writeItems indent rest _ (isWhole_node .item (some indent) d _ ((h.indentTo indent).bullet '-'))

theorem isWhole_writeEntries (indent : Nat) : ∀ (entries : List (Document × Document)) (w : Writer), w.IsWhole →
    (w.writeEntries indent entries).IsWhole
  | [], w, h => h
  | (k, v) :: rest, w, h => by
    unfold Writer.writeEntries
    dsimp only
    refine isWhole_writeEntries indent rest _ (isWhole_node .value (some indent) v _ ?_)
    split
    · exact (isWhole_node .key (some indent) k _ (h.indentTo indent)).colon
    · exact ((isWhole_node .keyBlock (some indent) k _ ((h.indentTo indent).bullet '?')).indentTo indent).bullet ':'

theorem isWhole_writeMembers (indent : Nat) : ∀ (items : List Document) (w : Writer), w.IsWhole →
    (w.writeMembers indent items).IsWhole
  | [], w, h => h
  | k :: rest, w, h => by
    unfold Writer.writeMembers
    dsimp only
    refine isWhole_writeMembers indent rest _ (IsWhole.scalar ?_ (hasNoHalf_ofString _))
    split
    · exact (isWhole_node .key (some indent) k _ (h.indentTo indent)).colon
    · exact ((isWhole_node .keyBlock (some indent) k _ ((h.indentTo indent).bullet '?')).indentTo indent).bullet ':'

end

end Writer

end LintPreview.Yaml

namespace LintPreview

theorem Document.hasNoHalf_toYaml (d : Document) : Yaml.HasNoHalf d.toYaml.toList := by
  have hstart : Yaml.Writer.IsWhole { shared := (Yaml.Sharing.ofDocument {} d).shared } := Yaml.hasNoHalf_nil
  exact (Yaml.Pen.IsWhole.indentTo (Yaml.Writer.isWhole_node .root none d _ hstart) 0).reverse

/-- The text of a document has bytes. -/
theorem Document.exists_encode_toYaml (d : Document) : ∃ bytes, Text.encode d.toYaml = .ok bytes := by
  refine Text.isWhole_iff_encode.mp (List.all_eq_true.mpr fun c hc => ?_)
  rw [d.hasNoHalf_toYaml c hc]
  rfl

end LintPreview
