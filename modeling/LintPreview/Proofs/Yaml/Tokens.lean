import LintPreview.Proofs.Yaml.Built
import LintPreview.Proofs.Yaml.Laid
import LintPreview.Proofs.Yaml.Steps

/-!
# The tokens of a written document

* `TokenReader.Resumes`: what a reader comes to behind a line end.
* `TokenReader.yields_node`: behind a mark, a reader comes to the tokens of the document that is laid out there; the proof
  follows the document, together with those for items and entries.
* `Document.Laid.areLines`: the text of a document consists of printable characters and line feeds.
* `Token.ofText_toYamlChars`: the tokens of the text that is written for a document are the tokens of that document.
-/

namespace LintPreview

open Yaml

namespace Document

variable {d : Document} {ds : List Document} {es : List (Document × Document)} {k v : Document} {n : ℕ} {compact : Bool}
  {t lead K : List CodePoint}

/-! ### Starts of laid out texts -/

theorem LaidItems.of_lead (h : LaidItems n lead (d :: ds) t) : ∃ u, t = lead ++ u ∧ LaidItems n [] (d :: ds) u := by
  obtain ⟨u, v, rfl, hu, hv⟩ := h
  exact ⟨_, rfl, u, v, rfl, hu, hv⟩

theorem LaidEntries.of_lead (h : LaidEntries n lead ((k, v) :: es) t) : ∃ u, t = lead ++ u ∧ LaidEntries n [] ((k, v) :: es) u := by
  rw [LaidEntries] at h
  cases hshort : k.isShort with
  | true =>
    rw [if_pos hshort] at h
    obtain ⟨s, x, y, hs, rfl, hx, hy⟩ := h
    refine ⟨_, rfl, ?_⟩
    rw [LaidEntries, if_pos hshort]
    exact ⟨s, x, y, hs, rfl, hx, hy⟩
  | false =>
    rw [if_neg (ne_true_of_eq_false hshort)] at h
    obtain ⟨u, x, y, rfl, hu, hx, hy⟩ := h
    refine ⟨_, rfl, ?_⟩
    rw [LaidEntries, if_neg (ne_true_of_eq_false hshort)]
    exact ⟨u, x, y, rfl, hu, hx, hy⟩

theorem Laid.of_scalar {s : Scalar} (hs : Scalar.ofDocument? d = some s) (h : d.Laid n compact t) :
    ∃ u, t = .char ' ' :: u ∧ s.Laid (n + 2) u := by
  cases d with
  | list l ds => cases hs
  | map l es => cases hs
  | _ =>
    obtain ⟨s', u, hs', rfl, hu⟩ := h
    cases hs.symm.trans hs'
    exact ⟨u, rfl, hu⟩

/-- The text of a document starts with a blank. -/
theorem Laid.exists_blank (h : d.Laid n compact t) : ∃ y u, t = y :: u ∧ isBlankOrEnd y = true := by
  have hlead : ∀ (m : ℕ) (u : List CodePoint), ∃ y v, (if compact then [CodePoint.char ' '] else newline m) ++ u = y :: v ∧
      isBlankOrEnd y = true := fun m u => by
    cases compact with
    | true => exact ⟨_, u, rfl, by decide⟩
    | false => exact ⟨_, _, rfl, by decide⟩
  cases d with
  | list l ds =>
    cases ds with
    | nil => exact ⟨_, _, h, by decide⟩
    | cons d ds =>
      obtain ⟨u, rfl, -⟩ := LaidItems.of_lead h
      exact hlead n u
  | map l es =>
    cases es with
    | nil => exact ⟨_, _, h, by decide⟩
    | cons e es =>
      obtain ⟨u, rfl, -⟩ := LaidEntries.of_lead h
      exact hlead (n + 2) u
  | _ =>
    obtain ⟨s, u, -, rfl, -⟩ := h
    exact ⟨_, u, rfl, by decide⟩

theorem LaidItems.continues (h : LaidItems n [] (d :: ds) t) (K : List CodePoint) : Continues (t ++ K) := by
  obtain ⟨u, v, rfl, hu, -⟩ := h
  obtain ⟨y, u, rfl, hy⟩ := hu.exists_blank
  exact continues_mark (by decide) (by decide) hy

theorem LaidEntries.continues {room : ℕ} (hes : AreSimpleEntries ((k, v) :: es)) (hroom : faultInEntries room ((k, v) :: es) = none)
    (h : LaidEntries n [] ((k, v) :: es) t) (K : List CodePoint) : Continues (t ++ K) := by
  rw [LaidEntries] at h
  cases hshort : k.isShort with
  | true =>
    rw [if_pos hshort] at h
    obtain ⟨s, x, y, hs, rfl, -, -⟩ := h
    obtain ⟨⟨text, rfl, htext⟩, -⟩ := hes
    have htame := (Scalar.isTame_and_standsFor hs htext (faultInEntries_cons hroom).1).1
    rw [List.nil_append, List.append_assoc]
    exact htame.continues (s.laid_onOneLine n) (TokenReader.endsScalar_colon _)
  | false =>
    rw [if_neg (ne_true_of_eq_false hshort)] at h
    obtain ⟨u, x, y, rfl, hu, -, -⟩ := h
    obtain ⟨z, u, rfl, hz⟩ := hu.exists_blank
    exact continues_mark (by decide) (by decide) hz

theorem length_codes_of_isShort {s : Text} (h : (text s).isShort = true) : (Scalar.ofText s).codes.length < 128 := by
  have hlength : (decide ((none.getD 0 : ℕ) + (Scalar.ofText s).tagName.length + (Scalar.ofText s).codes.length < 128) &&
      !(Traits.ofChars (Scalar.ofText s).codes).empty && !(Traits.ofChars (Scalar.ofText s).codes).multiline) = true := h
  simp only [Bool.and_eq_true, decide_eq_true_eq] at hlength
  omega

end Document

namespace Yaml.TokenReader

open Document (Laid LaidItems LaidEntries)

variable {c : Cursor} {T out opening : List Token} {bs blocks : List ℕ} {b m n : ℕ} {K rest : List CodePoint}

/-! ### Lines -/

/-- Behind the line end that a text starts with, at most `n` columns further, a reader comes to `out`. -/
def Resumes (n : ℕ) (K : List CodePoint) (T : List Token) (blocks : List ℕ) (out : List Token) : Prop :=
  ∃ m rest, K = newline m ++ rest ∧ m ≤ n ∧ Continues rest ∧ ∀ c : Cursor, c.rest = rest → c.column = m →
    c.rest.length ≤ c.size → Yields (inBlocks c T blocks true none) out

/-- The innermost block ends behind a line end if what follows stands to the left of it. -/
theorem Resumes.blockEnd (h : Resumes n K (T ++ [.blockEnd]) bs out) (hb : n < b) : Resumes b K T (b :: bs) out := by
  obtain ⟨m, rest, rfl, hm, hrest, hmore⟩ := h
  exact ⟨m, rest, rfl, hm.trans hb.le, hrest, fun c hc hcolumn hsize =>
    (hmore c hc hcolumn hsize).blockEnd (hc ▸ hrest) (hcolumn.trans_lt (hm.trans_lt hb))⟩

/-- What follows a scalar. -/
theorem Resumes.scalar {s : Scalar} {u : List CodePoint} {keyAllowed : Bool} (h : Resumes n K (T ++ [s.token]) (n :: bs) out)
    (hs : s.IsTame) (hu : s.Laid (n + 2) u) (hc : c.rest = u ++ K) (hcolumn : n < c.column) (hsize : c.rest.length ≤ c.size) :
    Yields (inBlocks c T (n :: bs) keyAllowed none) out := by
  obtain ⟨m, rest, rfl, hm, hrest, hmore⟩ := h
  have hplace := Cursor.advanceBy_newline (Cursor.rest_advanceBy_append hc)
  refine Yields.scalar hs hu hc hrest hm hcolumn hsize (hmore _ ?_ ?_ ?_)
  · rw [hplace]
  · rw [hplace]
  · exact Cursor.fits_advanceBy _ (Cursor.fits_advanceBy _ hsize)

/-! ### Documents -/

theorem yields_of_scalar {d : Document} {s : Scalar} (hs : Scalar.ofDocument? d = some s) (hd : d.IsSimple) ⦃n : ℕ⦄
    ⦃compact : Bool⦄ ⦃t K : List CodePoint⦄ ⦃c : Cursor⦄ ⦃T bs out⦄ ⦃keyAllowed : Bool⦄ ⦃room : ℕ⦄
    (hroom : d.faultWithin room = none) (ht : d.Laid n compact t) (hc : c.rest = t ++ K)
    (_ : compact = true → c.column = n + 1 ∧ keyAllowed = true) (hcolumn : n < c.column) (hsize : c.rest.length ≤ c.size)
    (hmore : Resumes n K (T ++ d.tokens !compact) (n :: bs) out) : Yields (inBlocks c T (n :: bs) keyAllowed none) out := by
  obtain ⟨u, rfl, hu⟩ := ht.of_scalar hs
  have htame := (Scalar.isTame_and_standsFor hs hd hroom).1
  have hspace : c.rest = List.replicate 1 (.char ' ') ++ (u ++ K) := hc
  have hplace : c.advance.column = c.column + 1 :=
    congrArg Cursor.column (Cursor.advanceBy_printable (w := [.char ' ']) hspace (by decide))
  rw [NodeBuilder.tokens_eq_of_scalar hs] at hmore
  have hK : EndsScalar K := by
    obtain ⟨m, rest, rfl, -⟩ := hmore
    exact endsScalar_newline m rest
  exact .spaces hspace (htame.continues hu hK) (hmore.scalar htame hu (Cursor.rest_advanceBy_spaces hspace)
    (hplace ▸ hcolumn.trans (Nat.lt_succ_self _)) (Cursor.fits_advanceBy 1 hsize))

/-- Brackets behind a mark or a key. -/
theorem Resumes.brackets {x y : CodePoint} {first last : Token} {keyAllowed : Bool} (h : AreBrackets x y first last)
    (hc : c.rest = .char ' ' :: x :: y :: K) (hcolumn : n < c.column) (hsize : c.rest.length ≤ c.size)
    (hmore : Resumes n K (T ++ [first, last]) (n :: bs) out) : Yields (inBlocks c T (n :: bs) keyAllowed none) out := by
  obtain ⟨m, rest, rfl, hm, hrest, hmore⟩ := hmore
  have hspace : c.rest = List.replicate 1 (.char ' ') ++ x :: y :: (newline m ++ rest) := hc
  have hbehind := Cursor.rest_advanceBy_spaces hspace
  have hplace : c.advance.column = c.column + 1 :=
    congrArg Cursor.column (Cursor.advanceBy_printable (w := [.char ' ']) hspace (by decide))
  have hline : ((c.advanceBy 1).advanceBy 2).rest = newline m ++ rest := by
    rw [Cursor.rest_advanceBy, hbehind]
    rfl
  have hplace' := Cursor.advanceBy_newline hline
  refine .spaces hspace (h.continues _).1 (.brackets h hbehind hrest ?_ (Cursor.fits_advanceBy 1 hsize) (hmore _ ?_ ?_ ?_))
  · show ((n : ℕ) : ℤ) < (c.advance.column : ℕ)
    rw [hplace]
    exact Int.ofNat_lt.mpr (hcolumn.trans (Nat.lt_succ_self _))
  · rw [hplace']
  · rw [hplace']
  · exact Cursor.fits_advanceBy _ (Cursor.fits_advanceBy _ (Cursor.fits_advanceBy _ hsize))

/-- A mark with a document behind it. -/
theorem yields_mark {x : CodePoint} {start t : Token} {d : Document} {u : List CodePoint} (hmark : IsMark x start t)
    (hopened : Opened c.column start blocks opening bs) (hu : d.Laid n true u) (hc : c.rest = x :: (u ++ K))
    (hsize : c.rest.length ≤ c.size)
    (h : ∀ c' : Cursor, c'.rest = u ++ K → c'.column = c.column + 1 → c'.rest.length ≤ c'.size →
      Yields (inBlocks c' (T ++ (opening ++ [t])) (c.column :: bs) true none) out) :
    Yields (inBlocks c T blocks true none) out := by
  obtain ⟨y, r, hur, hy⟩ := hu.exists_blank
  have hblank : c.rest = x :: y :: (r ++ K) := by rw [hc, hur]; rfl
  have hprintable : ArePrintable [x] := by cases hmark <;> decide
  have hplace := Cursor.advanceBy_printable (w := [x]) hc hprintable
  refine .mark hmark hblank hy hopened (h _ ?_ (congrArg Cursor.column hplace) (Cursor.fits_advanceBy 1 hsize))
  rw [Cursor.rest_advance, hc, List.tail_cons]

/-- What stands behind a mark, on the same line if that is `compact`, or on a new line. -/
theorem yields_behind {compact keyAllowed : Bool} (hc : c.rest = (if compact then [.char ' '] else newline m) ++ rest)
    (hrest : Continues rest) (hcompact : compact = true → c.column + 1 = m ∧ keyAllowed = true) (hsize : c.rest.length ≤ c.size)
    (h : ∀ c' : Cursor, c'.rest = rest → c'.column = m → c'.rest.length ≤ c'.size → Yields (inBlocks c' T blocks true none) out) :
    Yields (inBlocks c T blocks keyAllowed none) out := by
  cases compact with
  | true =>
    obtain ⟨rfl, rfl⟩ := hcompact rfl
    have hspace : c.rest = List.replicate 1 (.char ' ') ++ rest := hc
    have hplace := Cursor.advanceBy_printable (w := [.char ' ']) hspace (by decide)
    exact .spaces hspace hrest (h _ (Cursor.rest_advanceBy_spaces hspace) (congrArg Cursor.column hplace)
      (Cursor.fits_advanceBy 1 hsize))
  | false =>
    have hplace := Cursor.advanceBy_newline hc
    refine .newline hc hrest (isLoose_none c) hsize (h _ ?_ ?_ (Cursor.fits_advanceBy _ hsize))
    · rw [hplace]
    · rw [hplace]

mutual

/-- Behind a mark or a short key a reader comes to the tokens of the document that stands there. -/
theorem yields_node : ∀ (d : Document), d.IsSimple → ∀ ⦃n : ℕ⦄ ⦃compact : Bool⦄ ⦃t K : List CodePoint⦄ ⦃c : Cursor⦄
    ⦃T bs out⦄ ⦃keyAllowed : Bool⦄ ⦃room : ℕ⦄, d.faultWithin room = none → d.Laid n compact t → c.rest = t ++ K →
      (compact = true → c.column = n + 1 ∧ keyAllowed = true) → n < c.column → c.rest.length ≤ c.size →
        Resumes n K (T ++ d.tokens !compact) (n :: bs) out → Yields (inBlocks c T (n :: bs) keyAllowed none) out
  | .list l [], _ => by
    intro n compact t K c T bs out keyAllowed room hroom ht hc hcompact hcolumn hsize hmore
    cases ht
    exact Resumes.brackets .list hc hcolumn hsize hmore
  | .list l (d :: ds), hd => by
    intro n compact t K c T bs out keyAllowed room hroom ht hc hcompact hcolumn hsize hmore
    obtain ⟨room, rfl, hroom⟩ := Document.faultInItems_of_list hroom
    obtain ⟨u, rfl, hu⟩ := Document.LaidItems.of_lead ht
    rw [List.append_assoc] at hc
    cases compact with
    | true =>
      have houtside : indentOf (n :: bs) < (n + 2 : ℕ) := Int.ofNat_lt.mpr (Nat.lt_add_of_pos_right Nat.two_pos)
      refine yields_behind (m := n + 2) hc (hu.continues K) (fun h => ⟨congrArg (· + 1) (hcompact h).1, (hcompact h).2⟩) hsize
        fun c' hc' hcolumn' hsize' => ?_
      refine yields_items (d :: ds) hd (List.cons_ne_nil _ _) hroom hu hc' hcolumn' (.opens houtside) hsize'
        (Resumes.blockEnd ?_ (Nat.lt_add_of_pos_right Nat.two_pos))
      simpa [Document.tokens] using hmore
    | false =>
      refine yields_behind hc (hu.continues K) nofun hsize fun c' hc' hcolumn' hsize' => ?_
      exact yields_items (d :: ds) hd (List.cons_ne_nil _ _) hroom hu hc' hcolumn' (.inside bs) hsize' hmore
  | .map l [], _ => by
    intro n compact t K c T bs out keyAllowed room hroom ht hc hcompact hcolumn hsize hmore
    cases ht
    exact Resumes.brackets .map hc hcolumn hsize hmore
  | .map l (e :: es), hd => by
    intro n compact t K c T bs out keyAllowed room hroom ht hc hcompact hcolumn hsize hmore
    obtain ⟨room, rfl, hroom⟩ := Document.faultInEntries_of_map hroom
    obtain ⟨u, rfl, hu⟩ := Document.LaidEntries.of_lead ht
    have houtside : indentOf (n :: bs) < (n + 2 : ℕ) := Int.ofNat_lt.mpr (Nat.lt_add_of_pos_right Nat.two_pos)
    rw [List.append_assoc] at hc
    refine yields_behind hc (hu.continues hd hroom K) (fun h => ⟨congrArg (· + 1) (hcompact h).1, (hcompact h).2⟩) hsize
      fun c' hc' hcolumn' hsize' => ?_
    refine yields_entries (e :: es) hd (List.cons_ne_nil _ _) hroom hu hc' hcolumn' (.opens houtside) hsize'
      (Resumes.blockEnd ?_ (Nat.lt_add_of_pos_right Nat.two_pos))
    simpa [Document.tokens] using hmore
  | .null, hd => yields_of_scalar rfl hd
  | .bool _, hd => yields_of_scalar rfl hd
  | .int _, hd => yields_of_scalar rfl hd
  | .text _, hd => yields_of_scalar rfl hd

/-- In front of the first item a reader comes to the tokens of all items. -/
theorem yields_items : ∀ (ds : List Document), Document.AreSimple ds → ds ≠ [] → ∀ ⦃n : ℕ⦄ ⦃t K : List CodePoint⦄ ⦃c : Cursor⦄
    ⦃T opening blocks bs out⦄ ⦃room : ℕ⦄, Document.faultInItems room ds = none → LaidItems n [] ds t → c.rest = t ++ K →
      c.column = n → Opened n .blockSequenceStart blocks opening bs → c.rest.length ≤ c.size →
        Resumes n K (T ++ (opening ++ Document.itemTokens ds)) (n :: bs) out → Yields (inBlocks c T blocks true none) out
  | [], _, hne => absurd rfl hne
  | d :: ds, hds, _ => by
    intro n t K c T opening blocks bs out room hroom ht hc hcolumn hopened hsize hmore
    subst hcolumn
    obtain ⟨hdroom, hdsroom⟩ := Document.faultInItems_cons hroom
    obtain ⟨u, v, rfl, hu, hv⟩ := ht
    have hmark : c.rest = .char '-' :: (u ++ (v ++ K)) := hc.trans (congrArg _ (List.append_assoc u v K))
    refine yields_mark .item hopened hu hmark hsize fun c' hc' hcolumn' hsize' =>
      yields_node d hds.1 hdroom hu hc' (fun _ => ⟨hcolumn', rfl⟩) (hcolumn' ▸ Nat.lt_succ_self _) hsize' ?_
    cases ds with
    | nil =>
      cases hv
      simpa [Document.itemTokens] using hmore
    | cons d' ds =>
      obtain ⟨v', rfl, hv'⟩ := hv.of_lead
      refine ⟨c.column, v' ++ K, List.append_assoc _ _ _, le_rfl, hv'.continues K, fun c' hc' hcolumn' hsize' => ?_⟩
      refine yields_items (d' :: ds) hds.2 (List.cons_ne_nil _ _) hdsroom hv' hc' hcolumn' (.inside bs) hsize' ?_
      simpa [Document.itemTokens] using hmore

/-- In front of the first entry a reader comes to the tokens of all entries. -/
theorem yields_entries : ∀ (es : List (Document × Document)), Document.AreSimpleEntries es → es ≠ [] → ∀ ⦃n : ℕ⦄
    ⦃t K : List CodePoint⦄ ⦃c : Cursor⦄ ⦃T opening blocks bs out⦄ ⦃room : ℕ⦄, Document.faultInEntries room es = none →
      LaidEntries n [] es t → c.rest = t ++ K → c.column = n → Opened n .blockMappingStart blocks opening bs →
        c.rest.length ≤ c.size → Resumes n K (T ++ (opening ++ Document.entryTokens es)) (n :: bs) out →
          Yields (inBlocks c T blocks true none) out
  | [], _, hne => absurd rfl hne
  | (k, v) :: es, hes, _ => by
    intro n t K c T opening blocks bs out room hroom ht hc hcolumn hopened hsize hmore
    subst hcolumn
    obtain ⟨hkroom, hvroom, hesroom⟩ := Document.faultInEntries_cons hroom
    obtain ⟨⟨s, rfl, hs⟩, -, hv, hes⟩ := hes
    have hrest : ∀ {T' y}, LaidEntries c.column (newline c.column) es y →
        Resumes c.column K (T' ++ Document.entryTokens es) (c.column :: bs) out →
          Resumes c.column (y ++ K) T' (c.column :: bs) out := by
      intro T' y hy hmore
      cases es with
      | nil =>
        cases hy
        simpa [Document.entryTokens] using hmore
      | cons e es =>
        obtain ⟨y', rfl, hy'⟩ := hy.of_lead
        exact ⟨c.column, y' ++ K, List.append_assoc _ _ _, le_rfl, hy'.continues hes hesroom K, fun c' hc' hcolumn' hsize' =>
          yields_entries (e :: es) hes (List.cons_ne_nil _ _) hesroom hy' hc' hcolumn' (.inside bs) hsize' hmore⟩
    rw [LaidEntries] at ht
    cases hshort : (Document.text s).isShort with
    | true =>
      rw [if_pos hshort] at ht
      obtain ⟨_, x, y, ⟨⟩, rfl, hx, hy⟩ := ht
      have htame := (Scalar.isTame_and_standsFor (d := .text s) rfl hs hkroom).1
      obtain ⟨z, r, hxr, hz⟩ := hx.exists_blank
      have hkey : c.rest = (Scalar.ofText s).onOneLine ++ .char ':' :: (x ++ (y ++ K)) := by rw [hc]; simp
      have hblank : c.rest = (Scalar.ofText s).onOneLine ++ .char ':' :: z :: (r ++ (y ++ K)) := by rw [hkey, hxr]; rfl
      have hline : c.rest = ((Scalar.ofText s).onOneLine ++ [.char ':']) ++ (x ++ (y ++ K)) := by rw [hkey]; simp
      have hprintable : ArePrintable ((Scalar.ofText s).onOneLine ++ [.char ':']) :=
        List.forall_mem_append.mpr ⟨(isTame_onOneLine htame).1, by decide⟩
      have hplace := Cursor.advanceBy_printable hline hprintable
      rw [List.length_append, List.length_singleton] at hplace
      refine .shortKey htame (Document.length_codes_of_isShort hshort) hblank hz hopened hsize
        (yields_node v hv hvroom hx (by rw [hplace]) nofun ?_ (Cursor.fits_advanceBy _ hsize) (hrest hy ?_))
      · rw [hplace]
        exact Nat.lt_add_of_pos_right (Nat.succ_pos _)
      · rw [Document.entryTokens, NodeBuilder.tokens_eq_of_scalar rfl, hshort] at hmore
        simpa using hmore
    | false =>
      rw [if_neg (ne_true_of_eq_false hshort)] at ht
      obtain ⟨u, x, y, rfl, hu, hx, hy⟩ := ht
      obtain ⟨z, r, hxr, hz⟩ := hx.exists_blank
      have hkey : c.rest = .char '?' :: (u ++ (newline c.column ++ .char ':' :: (x ++ (y ++ K)))) := by rw [hc]; simp
      have hvalue : Continues (.char ':' :: (x ++ (y ++ K))) := by
        rw [hxr]
        exact continues_mark (by decide) (by decide) hz
      refine yields_mark .key hopened hu hkey hsize fun c₁ hc₁ hcolumn₁ hsize₁ =>
        yields_node (.text s) hs hkroom hu hc₁ (fun _ => ⟨hcolumn₁, rfl⟩) (hcolumn₁ ▸ Nat.lt_succ_self _) hsize₁
          ⟨c.column, _, rfl, le_rfl, hvalue, fun c₂ hc₂ hcolumn₂ hsize₂ => ?_⟩
      have hinside : Opened c₂.column .blockMappingStart (c.column :: bs) [] bs := by
        rw [hcolumn₂]
        exact .inside bs
      refine yields_mark .value hinside hx hc₂ hsize₂ fun c₃ hc₃ hcolumn₃ hsize₃ => ?_
      rw [hcolumn₂] at hcolumn₃ ⊢
      refine yields_node v hv hvroom hx hc₃ (fun _ => ⟨hcolumn₃, rfl⟩) (hcolumn₃ ▸ Nat.lt_succ_self _) hsize₃ (hrest hy ?_)
      rw [Document.entryTokens, hshort] at hmore
      simpa using hmore

end

/-- The end of the text. -/
theorem Yields.atEnd (hc : c.rest = []) : Yields (inBlocks c T [0] true none) (T ++ [.blockEnd, .streamEnd]) := by
  have hcontinues : Continues c.rest := hc ▸ continues_nil
  have hclosed : ((inBlocks c T [0] true none).unwindTo (-1)).dropCandidate = .ok (inBlocks c (T ++ [.blockEnd]) [] true none) := by
    rw [unwindTo_cons (by decide)]
    rfl
  have hzero : indentOf [0] ≤ c.column := Int.natCast_nonneg c.column
  have hlast := Yields.last (settle_eq_self hcontinues hzero rfl) hc hclosed
  rw [emit_inBlocks, List.append_assoc] at hlast
  exact (List.reverse_reverse (T ++ [Token.blockEnd, .streamEnd])) ▸ hlast

end Yaml.TokenReader

/-! ### Characters -/

namespace Yaml

/-- Printable characters and line feeds. -/
def AreLines (t : List CodePoint) : Prop := ∀ x ∈ t, IsPrintable x ∨ x = .char '\n'

variable {t cs : List CodePoint} {n : ℕ}

theorem ArePrintable.areLines (h : ArePrintable t) : AreLines t := fun x hx => .inl (h x hx)

theorem areLines_newline (n : ℕ) : AreLines (newline n) :=
  List.forall_mem_cons.mpr ⟨.inr rfl, (Cursor.arePrintable_spaces n).areLines⟩

theorem Folds.areLines {encode : List CodePoint → List CodePoint} (hencode : ∀ w, ArePrintable w → ArePrintable (encode w))
    (h : Folds n encode cs t) (hcs : ArePrintable cs) : AreLines t := by
  induction h with
  | last hw => exact (hencode _ hcs).areLines
  | gap k hw hnext hmore ih =>
    obtain ⟨hword, hafter⟩ := List.forall_mem_append.mp hcs
    exact List.forall_mem_append.mpr ⟨(hencode _ hword).areLines, List.forall_mem_append.mpr
      ⟨(Cursor.arePrintable_spaces _).areLines, ih (List.forall_mem_append.mp hafter).2⟩⟩
  | fold hw hnext hinner hmore ih =>
    obtain ⟨hword, hafter⟩ := List.forall_mem_append.mp hcs
    exact List.forall_mem_append.mpr ⟨(hencode _ hword).areLines, List.forall_mem_append.mpr
      ⟨areLines_newline n, ih (List.forall_mem_cons.mp hafter).2⟩⟩

theorem Scalar.Laid.areLines {s : Scalar} (hs : s.IsTame) (h : s.Laid n t) : AreLines t := by
  cases hplain : s.isPlain with
  | true =>
    rw [Scalar.Laid, if_pos hplain] at h
    exact h.areLines (fun _ hw => hw) hs.printable
  | false =>
    rw [Scalar.Laid, if_neg (ne_true_of_eq_false hplain)] at h
    obtain ⟨u, rfl, hu⟩ := h
    exact List.forall_mem_cons.mpr ⟨.inl (by decide), List.forall_mem_append.mpr
      ⟨hu.areLines (fun _ => TokenReader.printable_doubleQuotes) hs.printable, ArePrintable.areLines (by decide)⟩⟩

end Yaml

namespace Document

theorem areLines_of_scalar {d : Document} {s : Scalar} (hs : Scalar.ofDocument? d = some s) (hd : d.IsSimple) ⦃n : ℕ⦄
    ⦃compact : Bool⦄ ⦃t : List CodePoint⦄ ⦃room : ℕ⦄ (hroom : d.faultWithin room = none) (ht : d.Laid n compact t) : AreLines t := by
  obtain ⟨u, rfl, hu⟩ := ht.of_scalar hs
  exact List.forall_mem_cons.mpr ⟨.inl (by decide), hu.areLines (Scalar.isTame_and_standsFor hs hd hroom).1⟩

theorem areLines_lead (compact : Bool) (n : ℕ) : AreLines (if compact then [.char ' '] else newline n) := by
  cases compact with
  | true => exact ArePrintable.areLines (t := [.char ' ']) (by decide)
  | false => exact areLines_newline n

mutual

/-- The text of a document consists of printable characters and line feeds. -/
theorem Laid.areLines : ∀ (d : Document), d.IsSimple → ∀ ⦃n : ℕ⦄ ⦃compact : Bool⦄ ⦃t : List CodePoint⦄ ⦃room : ℕ⦄,
    d.faultWithin room = none → d.Laid n compact t → AreLines t
  | .list l [], _ => by
    rintro n compact t room - ⟨⟩
    exact ArePrintable.areLines (by decide)
  | .list l (d :: ds), hd => by
    intro n compact t room hroom ht
    obtain ⟨room, rfl, hroom⟩ := faultInItems_of_list hroom
    exact LaidItems.areLines (d :: ds) hd hroom (areLines_lead compact n) ht
  | .map l [], _ => by
    rintro n compact t room - ⟨⟩
    exact ArePrintable.areLines (by decide)
  | .map l (e :: es), hd => by
    intro n compact t room hroom ht
    obtain ⟨room, rfl, hroom⟩ := faultInEntries_of_map hroom
    exact LaidEntries.areLines (e :: es) hd hroom (areLines_lead compact (n + 2)) ht
  | .null, hd => areLines_of_scalar rfl hd
  | .bool _, hd => areLines_of_scalar rfl hd
  | .int _, hd => areLines_of_scalar rfl hd
  | .text _, hd => areLines_of_scalar rfl hd

theorem LaidItems.areLines : ∀ (ds : List Document), AreSimple ds → ∀ ⦃n : ℕ⦄ ⦃lead t : List CodePoint⦄ ⦃room : ℕ⦄,
    faultInItems room ds = none → AreLines lead → LaidItems n lead ds t → AreLines t
  | [], _ => by
    rintro n lead t room - - ⟨⟩
    exact nofun
  | d :: ds, hds => by
    intro n lead t room hroom hlead ht
    obtain ⟨hdroom, hdsroom⟩ := faultInItems_cons hroom
    obtain ⟨u, v, rfl, hu, hv⟩ := ht
    exact List.forall_mem_append.mpr ⟨hlead, List.forall_mem_cons.mpr ⟨.inl (by decide), List.forall_mem_append.mpr
      ⟨Laid.areLines d hds.1 hdroom hu, LaidItems.areLines ds hds.2 hdsroom (areLines_newline n) hv⟩⟩⟩

theorem LaidEntries.areLines : ∀ (es : List (Document × Document)), AreSimpleEntries es → ∀ ⦃n : ℕ⦄ ⦃lead t : List CodePoint⦄
    ⦃room : ℕ⦄, faultInEntries room es = none → AreLines lead → LaidEntries n lead es t → AreLines t
  | [], _ => by
    rintro n lead t room - - ⟨⟩
    exact nofun
  | (k, v) :: es, hes => by
    intro n lead t room hroom hlead ht
    obtain ⟨hkroom, hvroom, hesroom⟩ := faultInEntries_cons hroom
    obtain ⟨⟨s, rfl, hs⟩, -, hv, hes⟩ := hes
    rw [LaidEntries] at ht
    cases hshort : (text s).isShort with
    | true =>
      rw [if_pos hshort] at ht
      obtain ⟨_, x, y, ⟨⟩, rfl, hx, hy⟩ := ht
      have htame := (Scalar.isTame_and_standsFor (d := .text s) rfl hs hkroom).1
      exact List.forall_mem_append.mpr ⟨hlead, List.forall_mem_append.mpr
        ⟨(TokenReader.isTame_onOneLine htame).1.areLines, List.forall_mem_cons.mpr ⟨.inl (by decide), List.forall_mem_append.mpr
          ⟨Laid.areLines v hv hvroom hx, LaidEntries.areLines es hes hesroom (areLines_newline n) hy⟩⟩⟩⟩
    | false =>
      rw [if_neg (ne_true_of_eq_false hshort)] at ht
      obtain ⟨u, x, y, rfl, hu, hx, hy⟩ := ht
      exact List.forall_mem_append.mpr ⟨hlead, List.forall_mem_cons.mpr ⟨.inl (by decide), List.forall_mem_append.mpr
        ⟨Laid.areLines (.text s) hs hkroom hu, List.forall_mem_append.mpr ⟨areLines_newline n, List.forall_mem_cons.mpr
          ⟨.inl (by decide), List.forall_mem_append.mpr
            ⟨Laid.areLines v hv hvroom hx, LaidEntries.areLines es hes hesroom (areLines_newline n) hy⟩⟩⟩⟩⟩⟩

end

end Document

namespace Yaml

/-! ### Whole texts -/

theorem AreLines.all_isAllowed {t : List CodePoint} (h : AreLines t) : t.all isAllowed = true := by
  rw [List.all_eq_true]
  intro x hx
  rcases h x hx with hx | rfl
  · exact hx.isAllowed
  · rfl

/-- A text of lines has no byte order mark in front. -/
theorem ofText_eq_readAll {t : List CodePoint} (h : AreLines t) :
    Token.ofText t = TokenReader.readAll (t.length + 1) (TokenReader.inBlocks { size := t.length, rest := t } [] [] true none) := by
  have hmark : (Cursor.peek { size := t.length, rest := t } == CodePoint.char '\uFEFF') = false := by
    cases t with
    | nil => decide
    | cons x t =>
      rcases h x List.mem_cons_self with hx | rfl
      · exact hx.ne_mark
      · rfl
  rw [Token.ofText, if_pos h.all_isAllowed]
  dsimp only
  rw [hmark]
  rfl

/-- The tokens of the text that is written for a mapping are the tokens of that mapping. -/
theorem ofText_toYamlChars {l : ℕ} {es : List (Document × Document)} (hd : (Document.map l es).IsSimple)
    (hroom : (Document.map l es).dumpFault? = none) (hlabels : (Document.map l es).labels.Nodup) :
    Token.ofText (Document.map l es).toYamlChars = (Document.map l es).tokens false ++ [.streamEnd] := by
  cases es with
  | nil =>
    show Token.ofText ['\x7b', '\x7d', '\n'] = [.flowMappingStart, .flowMappingEnd, .streamEnd]
    decide +kernel
  | cons e es =>
    obtain ⟨t, ht, htext⟩ := Document.exists_laid hd hroom hlabels (List.cons_ne_nil e es)
    obtain ⟨room, -, hroom⟩ := Document.faultInEntries_of_map hroom
    have hlines : AreLines (t ++ newline 0) :=
      List.forall_mem_append.mpr ⟨Document.LaidEntries.areLines (e :: es) hd hroom (fun _ h => absurd h List.not_mem_nil) ht,
        areLines_newline 0⟩
    rw [htext, ofText_eq_readAll hlines]
    have htokens : (Document.map l (e :: es)).tokens false ++ [.streamEnd] =
        [] ++ ([.blockMappingStart] ++ Document.entryTokens (e :: es)) ++ [.blockEnd, .streamEnd] := by
      simp [Document.tokens]
    rw [htokens]
    exact TokenReader.Yields.readAll_eq (TokenReader.yields_entries (e :: es) hd (List.cons_ne_nil e es) hroom ht rfl rfl
      (.opens (by decide)) le_rfl ⟨0, [], rfl, le_rfl, continues_nil, fun c hc _ _ => .atEnd hc⟩) (Nat.lt_succ_self _)

end Yaml

end LintPreview
