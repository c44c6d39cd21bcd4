import LintPreview.Proofs.Yaml.Folded

/-!
# The layout of a written document

* `Document.Laid`: the text of a document behind a mark at some column.
* `Yaml.Writer.exists_node`: what the writer writes for a simple document has this layout, as long as no value is shared.
* `Yaml.Sharing.notes_document`: no value is shared if the labels are different from each other.
* `Document.exists_laid`: the text of a mapping.
-/

namespace LintPreview

namespace Yaml

/-! ### Scalars -/

namespace Writer

variable {w w' : Writer} {t : List CodePoint}

/-- The writer goes on behind the text `t`. No value has an anchor. -/
structure Writes (w w' : Writer) (t : List CodePoint) : Prop where
  shared : w'.shared = []
  written : w'.pen.written = t.reverse ++ w.pen.written
  atEnd : w'.pen.AtEnd

/-- The text of a scalar; a space is put in front where one is needed. -/
theorem exists_scalar {s : Scalar} (hs : s.IsTame) (hshared : w.shared = []) (place : Place) (n : ℕ) :
    ∃ t, s.Laid (n + 2) t ∧ (place = .key → t = s.onOneLine) ∧
      Writes w (w.scalar place (some n) s) (w.pen.blank ++ t) := by
  have hstyle := hs.chooseStyle_eq (place == .key)
  have hsplit : place = .key → (!(place == .key)) = false := by
    rintro rfl
    rfl
  cases hplain : s.isPlain with
  | true =>
    obtain ⟨hformed, hallow⟩ := Bool.and_eq_true_iff.mp hplain
    obtain ⟨-, hlast, -⟩ := (hs.printable.allowPlain_iff (hs.nonempty hformed)).mp hallow
    obtain ⟨t, ht, hsame, hend, hwritten⟩ :=
      Pen.exists_plain (n := n + 2) (p := w.pen) (!(place == .key)) hs.printable (hs.nonempty hformed) hlast
    have hscalar : w.scalar place (some n) s = w.draw fun p => p.plain (!(place == .key)) (n + 2) s.codes := by
      unfold scalar
      dsimp only
      rw [hstyle, hplain, hformed]
      rfl
    rw [hscalar]
    exact ⟨t, by rwa [Scalar.Laid, hplain], fun hkey => by rw [Scalar.onOneLine, hplain, hsame (hsplit hkey)]; rfl, hshared,
      hwritten, hend⟩
  | false =>
    obtain ⟨t, ht, hsame, hend, hwritten⟩ :=
      Pen.exists_single (n := n + 2) (p := w.pen) (!(place == .key)) hs.printable
    have hscalar : w.scalar place (some n) s = w.draw fun p => p.single (!(place == .key)) (n + 2) s.codes := by
      unfold scalar
      dsimp only
      rw [hstyle, hplain, hs.tagless hplain]
      rfl
    rw [hscalar]
    exact ⟨_, by rw [Scalar.Laid, hplain]; exact ⟨t, rfl, ht⟩,
      fun hkey => by rw [Scalar.onOneLine, hplain, hsame (hsplit hkey)]; rfl, hshared, hwritten, hend⟩

end Writer

end Yaml

/-! ### Documents -/

namespace Document

open Yaml

mutual

/-- The text of a document behind a mark or a key at the column `n`. It is `compact` if its first item or entry stands on
the same line. -/
def Laid (n : ℕ) (compact : Bool) : Document → List CodePoint → Prop
  | .list _ items, t =>
    if items.isEmpty then t = [.char ' ', .char '[', .char ']']
    else LaidItems (if compact then n + 2 else n) (if compact then [.char ' '] else newline n) items t
  | .map _ entries, t =>
    if entries.isEmpty then t = [.char ' ', .char '\x7b', .char '\x7d']
    else LaidEntries (n + 2) (if compact then [.char ' '] else newline (n + 2)) entries t
  | d, t => ∃ s u, Scalar.ofDocument? d = some s ∧ t = .char ' ' :: u ∧ s.Laid (n + 2) u

/-- The text of items at the column `n`, the first of them behind `lead`. -/
def LaidItems (n : ℕ) (lead : List CodePoint) : List Document → List CodePoint → Prop
  | [], t => t = []
  | d :: rest, t => ∃ u v, t = lead ++ .char '-' :: (u ++ v) ∧ Laid n true d u ∧ LaidItems n (newline n) rest v

/-- The text of entries at the column `n`, the first of them behind `lead`. A key that is not short has a mark of its
own. -/
def LaidEntries (n : ℕ) (lead : List CodePoint) : List (Document × Document) → List CodePoint → Prop
  | [], t => t = []
  | (k, v) :: rest, t =>
    if k.isShort then
      ∃ s x y, Scalar.ofDocument? k = some s ∧ t = lead ++ (s.onOneLine ++ .char ':' :: (x ++ y)) ∧
        Laid n false v x ∧ LaidEntries n (newline n) rest y
    else
      ∃ u x y, t = lead ++ .char '?' :: (u ++ (newline n ++ .char ':' :: (x ++ y))) ∧
        Laid n true k u ∧ Laid n true v x ∧ LaidEntries n (newline n) rest y

end

end Document

namespace Yaml.Writer

variable {w w' : Writer} {t : List CodePoint} {n : ℕ}

theorem introduce_eq (h : w.shared = []) (label : ℕ) : w.introduce label = (w, true) := by
  rw [introduce, anchorName?, h]
  rfl

theorem node_list (h : w.shared = []) (place : Place) (l : ℕ) (items : List Document) :
    w.node place (some n) (.list l items) =
      if items.isEmpty then w.draw fun p => (p.mark ['['] true true).mark [']'] false
      else writeItems w (if place.inMapping && !w.pen.atIndent then n else n + 2) items := by
  rw [node, introduce_eq h]
  rfl

theorem node_map (h : w.shared = []) (place : Place) (l : ℕ) (entries : List (Document × Document)) :
    w.node place (some n) (.map l entries) =
      if entries.isEmpty then w.draw fun p => (p.mark ['\x7b'] true true).mark ['\x7d'] false
      else writeEntries w (n + 2) entries := by
  rw [node, introduce_eq h]
  rfl

theorem writes_brackets (h : w.shared = []) (hblank : w.pen.afterBlank = false) (first last : Char) :
    Writes w (w.draw fun p => (p.mark [.char first] true true).mark [.char last] false)
      [.char ' ', .char first, .char last] := by
  refine ⟨h, ?_, rfl, Bool.and_false _⟩
  simp [draw, Pen.mark, Pen.put, hblank]

theorem Writes.behind {w₁ : Writer} {x : List CodePoint} (h : Writes w₁ w' t)
    (hwritten : w₁.pen.written = x.reverse ++ w.pen.written) : Writes w w' (x ++ t) := by
  refine ⟨h.shared, ?_, h.atEnd⟩
  rw [h.written, hwritten, List.reverse_append, List.append_assoc]

theorem Writes.trans {w'' : Writer} {t' : List CodePoint} (h : Writes w w' t) (h' : Writes w' w'' t') :
    Writes w w'' (t ++ t') := h'.behind h.written

theorem isShortKey_text (w : Writer) (s : Text) : w.isShortKey (.text s) = (Document.text s).isShort := rfl

/-- A colon behind a short key. -/
theorem Writes.colon (h : Writes w w' t) : Writes w (w'.draw fun p => p.mark [':'] false) (t ++ [.char ':']) := by
  refine ⟨h.shared, ?_, rfl, Bool.and_false _⟩
  simp [draw, Pen.mark, Pen.put, h.written]

theorem leads_of_atEnd (h : w.pen.AtEnd) (n : ℕ) : w.pen.Leads n (newline n) := Pen.leads_newline (.inl h.atIndent)

theorem exists_node_scalar {d : Document} {s : Scalar} {room : ℕ} {compact : Bool} (hs : Scalar.ofDocument? d = some s)
    (hd : d.IsSimple) (hroom : d.faultWithin room = none) (hshared : w.shared = []) (hready : w.pen.Ready n compact)
    (place : Place) : ∃ t, d.Laid n compact t ∧ Writes w (w.node place (some n) d) t := by
  obtain ⟨u, hu, -, hwrites⟩ := exists_scalar (Scalar.isTame_and_standsFor hs hd hroom).1 hshared place n
  rw [Pen.blank, hready.afterBlank] at hwrites
  refine ⟨.char ' ' :: u, ?_, ?_⟩
  · cases d with
    | list l items => cases hs
    | map l entries => cases hs
    | _ => exact ⟨s, u, hs, rfl, hu⟩
  · have hnode : w.node place (some n) d = w.scalar place (some n) s := by
      cases d with
      | null => cases hs; rfl
      | bool b => cases hs; rfl
      | int i => cases hs; rfl
      | text t => cases hs; rfl
      | list l items => cases hs
      | map l entries => cases hs
      | _ => cases hd
    rw [hnode]
    exact hwrites

mutual

/-- The text that is written for a node. -/
theorem exists_node : ∀ (d : Document), d.IsSimple → ∀ (n : ℕ) (compact : Bool) (place : Place) (w : Writer) {room : ℕ},
    d.faultWithin room = none → w.shared = [] → w.pen.Ready n compact → (compact = false → place.inMapping = true) →
      ∃ t, d.Laid n compact t ∧ Writes w (w.node place (some n) d) t
  | .list l [], _, n, compact, place, w => by
    intro hroom hshared hready hplace
    refine ⟨_, rfl, ?_⟩
    rw [node_list hshared]
    exact writes_brackets hshared hready.afterBlank '[' ']'
  | .list l (d :: ds), hd, n, compact, place, w => by
    intro hroom hshared hready hplace
    obtain ⟨room, rfl, hroom⟩ := Document.faultInItems_of_list hroom
    have hcolumn : (if place.inMapping && !w.pen.atIndent then n else n + 2) = if compact then n + 2 else n := by
      cases compact with
      | true => rw [Pen.AtMark.atIndent hready, Bool.not_true, Bool.and_false]; rfl
      | false => rw [Pen.AtEnd.atIndent hready, hplace rfl]; rfl
    have hleads : w.pen.Leads (if compact then n + 2 else n) (if compact then [.char ' '] else newline n) := by
      cases compact with
      | true => exact Pen.leads_blank hready
      | false => exact leads_of_atEnd hready n
    rw [node_list hshared, hcolumn]
    exact exists_items (d :: ds) hd _ _ w hroom hshared nofun fun _ => hleads
  | .map l [], _, n, compact, place, w => by
    intro hroom hshared hready hplace
    refine ⟨_, rfl, ?_⟩
    rw [node_map hshared]
    exact writes_brackets hshared hready.afterBlank '\x7b' '\x7d'
  | .map l (e :: es), hd, n, compact, place, w => by
    intro hroom hshared hready hplace
    obtain ⟨room, rfl, hroom⟩ := Document.faultInEntries_of_map hroom
    have hleads : w.pen.Leads (n + 2) (if compact then [.char ' '] else newline (n + 2)) := by
      cases compact with
      | true => exact Pen.leads_blank hready
      | false => exact leads_of_atEnd hready (n + 2)
    rw [node_map hshared]
    exact exists_entries (e :: es) hd _ _ w hroom hshared nofun fun _ => hleads
  | .null, hd, n, compact, place, w => fun hroom hshared hready _ => exists_node_scalar rfl hd hroom hshared hready place
  | .bool _, hd, n, compact, place, w => fun hroom hshared hready _ => exists_node_scalar rfl hd hroom hshared hready place
  | .int _, hd, n, compact, place, w => fun hroom hshared hready _ => exists_node_scalar rfl hd hroom hshared hready place
  | .text _, hd, n, compact, place, w => fun hroom hshared hready _ => exists_node_scalar rfl hd hroom hshared hready place

theorem exists_items : ∀ (ds : List Document), Document.AreSimple ds → ∀ (n : ℕ) (lead : List CodePoint) (w : Writer)
    {room : ℕ}, Document.faultInItems room ds = none → w.shared = [] → (ds = [] → w.pen.AtEnd) →
      (ds ≠ [] → w.pen.Leads n lead) → ∃ t, Document.LaidItems n lead ds t ∧ Writes w (writeItems w n ds) t
  | [], _, _, _, _ => fun _ hshared hend _ => ⟨[], rfl, hshared, rfl, hend rfl⟩
  | d :: ds, hds, n, lead, w => by
    intro hroom hshared hend hleads
    obtain ⟨hdroom, hdsroom⟩ := Document.faultInItems_cons hroom
    obtain ⟨hmark, hwritten⟩ := (hleads nofun).mark '-'
    obtain ⟨u, hu, hwrites⟩ := exists_node d hds.1 n true .item
      (w.draw fun p => (p.indentTo n).mark ['-'] true false true) hdroom hshared hmark nofun
    obtain ⟨v, hv, hwrites'⟩ := exists_items ds hds.2 n (newline n) _ hdsroom hwrites.shared
      (fun _ => hwrites.atEnd) (fun _ => leads_of_atEnd hwrites.atEnd n)
    refine ⟨_, ⟨u, v, rfl, hu, hv⟩, ?_⟩
    rw [List.append_cons]
    exact (hwrites.trans hwrites').behind hwritten

theorem exists_entries : ∀ (es : List (Document × Document)), Document.AreSimpleEntries es → ∀ (n : ℕ)
    (lead : List CodePoint) (w : Writer) {room : ℕ}, Document.faultInEntries room es = none → w.shared = [] →
      (es = [] → w.pen.AtEnd) → (es ≠ [] → w.pen.Leads n lead) →
        ∃ t, Document.LaidEntries n lead es t ∧ Writes w (writeEntries w n es) t
  | [], _, _, _, _ => fun _ hshared hend _ => ⟨[], rfl, hshared, rfl, hend rfl⟩
  | (k, v) :: es, hes, n, lead, w => by
    intro hroom hshared hend hleads
    obtain ⟨hkroom, hvroom, hesroom⟩ := Document.faultInEntries_cons hroom
    obtain ⟨⟨s, rfl, hs⟩, -, hv, hes⟩ := hes
    have hleads := hleads nofun
    cases hshort : (Document.text s).isShort with
    | true =>
      have htame := (Scalar.isTame_and_standsFor (d := .text s) rfl hs hkroom).1
      obtain ⟨t, -, hline, hkey⟩ := exists_scalar (w := w.draw fun p => p.indentTo n) htame hshared .key n
      have hblank : (w.draw fun p => p.indentTo n).pen.blank = [] := by
        rw [Pen.blank]
        exact if_pos hleads.afterBlank
      rw [hblank, List.nil_append, hline rfl] at hkey
      obtain ⟨x, hx, hvalue⟩ := exists_node v hv n false .value
        (((w.draw fun p => p.indentTo n).scalar .key (some n) (.ofText s)).draw fun p => p.mark [':'] false) hvroom
        hkey.shared ⟨rfl, Bool.and_false _⟩ fun _ => rfl
      obtain ⟨y, hy, hrest⟩ := exists_entries es hes n (newline n) _ hesroom hvalue.shared
        (fun _ => hvalue.atEnd) (fun _ => leads_of_atEnd hvalue.atEnd n)
      refine ⟨lead ++ ((Scalar.ofText s).onOneLine ++ .char ':' :: (x ++ y)), ?_, ?_⟩
      · rw [Document.LaidEntries, if_pos hshort]
        exact ⟨_, x, y, rfl, rfl, hx, hy⟩
      · rw [writeEntries]
        dsimp only
        rw [isShortKey_text, if_pos hshort, List.append_cons]
        exact ((hkey.colon.trans (hvalue.trans hrest))).behind hleads.written
    | false =>
      obtain ⟨hmark, hwritten⟩ := hleads.mark '?'
      obtain ⟨u, hu, hkey⟩ := exists_node (.text s) hs n true .keyBlock
        (w.draw fun p => (p.indentTo n).mark ['?'] true false true) hkroom hshared hmark nofun
      generalize hw₁ : node _ .keyBlock (some n) (.text s) = w₁ at hkey
      obtain ⟨hmark', hwritten'⟩ := (leads_of_atEnd hkey.atEnd n).mark ':'
      obtain ⟨x, hx, hvalue⟩ := exists_node v hv n true .value (w₁.draw fun p => (p.indentTo n).mark [':'] true false true)
        hvroom hkey.shared hmark' nofun
      obtain ⟨y, hy, hrest⟩ := exists_entries es hes n (newline n) _ hesroom hvalue.shared
        (fun _ => hvalue.atEnd) (fun _ => leads_of_atEnd hvalue.atEnd n)
      refine ⟨lead ++ .char '?' :: (u ++ (newline n ++ .char ':' :: (x ++ y))), ?_, ?_⟩
      · rw [Document.LaidEntries, if_neg (by rw [hshort]; exact Bool.false_ne_true)]
        exact ⟨u, x, y, rfl, hu, hx, hy⟩
      · rw [writeEntries]
        dsimp only
        rw [isShortKey_text, if_neg (ne_true_of_eq_false hshort), List.append_cons lead, List.append_cons (newline n)]
        subst hw₁
        exact (hkey.trans ((hvalue.trans hrest).behind hwritten')).behind hwritten

end

end Yaml.Writer

/-! ### Values in several places -/

namespace Yaml.Sharing

variable {s s' : Sharing} {l : ℕ} {labels labels' : List ℕ}

/-- The labels are taken note of, and none of them is shared. -/
structure Notes (s s' : Sharing) (labels : List ℕ) : Prop where
  shared : s'.shared = s.shared
  seen : ∀ x ∈ s'.seen, x ∈ labels ∨ x ∈ s.seen

theorem Notes.refl (s : Sharing) : Notes s s [] := ⟨rfl, fun _ hx => .inr hx⟩

theorem Notes.trans {s'' : Sharing} (h : Notes s s' labels) (h' : Notes s' s'' labels') : Notes s s'' (labels ++ labels') := by
  refine ⟨h'.shared.trans h.shared, fun x hx => ?_⟩
  rcases h'.seen x hx with hx | hx
  · exact .inl (List.mem_append_right _ hx)
  · exact (h.seen x hx).imp_left (List.mem_append_left _)

theorem note_of_not_mem (h : l ∉ s.seen) : s.note l = ({ s with seen := l :: s.seen }, true) := by
  rw [note, List.contains_eq_mem, decide_eq_false h]
  rfl

/-- The labels inside a collection are taken note of behind its own. -/
theorem notes_cons (hnodup : (l :: labels).Nodup) (hnew : ∀ x ∈ l :: labels, x ∉ s.seen)
    (h : labels.Nodup → (∀ x ∈ labels, x ∉ l :: s.seen) → Notes { s with seen := l :: s.seen } s' labels) :
    Notes s s' (l :: labels) := by
  obtain ⟨hl, hlabels⟩ := List.nodup_cons.mp hnodup
  obtain ⟨hshared, hseen⟩ := h hlabels fun x hx hmem =>
    (List.mem_cons.mp hmem).elim (fun heq => hl (heq ▸ hx)) (hnew x (List.mem_cons_of_mem l hx))
  refine ⟨hshared, fun x hx => ?_⟩
  rcases hseen x hx with hx | hx
  · exact .inl (List.mem_cons_of_mem l hx)
  · exact (List.mem_cons.mp hx).imp_left fun hx => List.mem_cons.mpr (.inl hx)

/-- The labels of one value are new behind those of another one. -/
theorem notes_append {s'' : Sharing} (hnodup : (labels ++ labels').Nodup) (hnew : ∀ x ∈ labels ++ labels', x ∉ s.seen)
    (h : labels.Nodup → (∀ x ∈ labels, x ∉ s.seen) → Notes s s' labels)
    (h' : labels'.Nodup → (∀ x ∈ labels', x ∉ s'.seen) → Notes s' s'' labels') : Notes s s'' (labels ++ labels') := by
  obtain ⟨hfirst, hsecond, hdisjoint⟩ := List.nodup_append.mp hnodup
  have hnotes := h hfirst fun x hx => hnew x (List.mem_append_left _ hx)
  refine hnotes.trans (h' hsecond fun x hx hmem => ?_)
  rcases hnotes.seen x hmem with hmem | hmem
  · exact hdisjoint x hmem x hx rfl
  · exact hnew x (List.mem_append_right _ hx) hmem

mutual

/-- No value of a document is shared if its labels are different from each other. -/
theorem notes_document : ∀ (d : Document) (s : Sharing), d.labels.Nodup → (∀ x ∈ d.labels, x ∉ s.seen) →
    Notes s (ofDocument s d) d.labels
  | .list l ds, s, hnodup, hnew => by
    rw [ofDocument, note_of_not_mem (hnew l List.mem_cons_self)]
    exact notes_cons hnodup hnew (notes_items ds { s with seen := l :: s.seen })
  | .map l es, s, hnodup, hnew => by
    rw [ofDocument, note_of_not_mem (hnew l List.mem_cons_self)]
    exact notes_cons hnodup hnew (notes_entries es { s with seen := l :: s.seen })
  | .set l ds, s, hnodup, hnew => by
    rw [ofDocument, note_of_not_mem (hnew l List.mem_cons_self)]
    exact notes_cons hnodup hnew (notes_items ds { s with seen := l :: s.seen })
  | .moment l m, s, hnodup, hnew => by
    rw [ofDocument, note_of_not_mem (hnew l List.mem_cons_self)]
    exact notes_cons hnodup hnew fun _ _ => Notes.refl _
  | .enclosing l, s, hnodup, hnew => by
    rw [ofDocument, note_of_not_mem (hnew l List.mem_cons_self)]
    exact notes_cons hnodup hnew fun _ _ => Notes.refl _
  | .null, _, _, _ => Notes.refl _
  | .bool _, _, _, _ => Notes.refl _
  | .int _, _, _, _ => Notes.refl _
  | .float _, _, _, _ => Notes.refl _
  | .text _, _, _, _ => Notes.refl _
  | .bytes _, _, _, _ => Notes.refl _

theorem notes_items : ∀ (ds : List Document) (s : Sharing), (Document.labelsOfItems ds).Nodup →
    (∀ x ∈ Document.labelsOfItems ds, x ∉ s.seen) → Notes s (ofItems s ds) (Document.labelsOfItems ds)
  | [], _, _, _ => Notes.refl _
  | d :: ds, s, hnodup, hnew => notes_append hnodup hnew (notes_document d s) (notes_items ds _)

theorem notes_entries : ∀ (es : List (Document × Document)) (s : Sharing), (Document.labelsOfEntries es).Nodup →
    (∀ x ∈ Document.labelsOfEntries es, x ∉ s.seen) → Notes s (ofEntries s es) (Document.labelsOfEntries es)
  | [], _, _, _ => Notes.refl _
  | (k, v) :: es, s, hnodup, hnew =>
    notes_append hnodup hnew (notes_document k s) fun hnodup hnew =>
      notes_append hnodup hnew (notes_document v _) (notes_entries es _)

end

end Yaml.Sharing

namespace Document

open Yaml

theorem shared_eq_nil {d : Document} (h : d.labels.Nodup) : (Sharing.ofDocument {} d).shared = [] :=
  (Sharing.notes_document d {} h fun _ _ => List.not_mem_nil).shared

/-- The text that is written for a mapping with entries: they stand at the start of their lines. -/
theorem exists_laid {l : ℕ} {es : List (Document × Document)} (hd : (map l es).IsSimple)
    (hroom : (map l es).dumpFault? = none) (hlabels : (map l es).labels.Nodup) (hne : es ≠ []) :
    ∃ t, LaidEntries 0 [] es t ∧ (map l es).toYamlChars = t ++ newline 0 := by
  obtain ⟨room, -, hroom⟩ := faultInEntries_of_map hroom
  obtain ⟨t, ht, hwrites⟩ := Writer.exists_entries es hd 0 [] { shared := [] } hroom rfl (fun h => absurd h hne)
    fun _ => Pen.leads_start
  refine ⟨t, ht, ?_⟩
  have hnode : Writer.node { shared := [] } .root none (map l es) = Writer.writeEntries { shared := [] } 0 es := by
    rw [Writer.node, Writer.introduce_eq rfl]
    dsimp only
    rw [List.isEmpty_eq_false_iff.mpr hne]
    rfl
  rw [toYamlChars, shared_eq_nil hlabels, hnode, (Pen.leads_newline (.inl hwrites.atEnd.atIndent)).written, hwrites.written]
  simp

end Document

end LintPreview
