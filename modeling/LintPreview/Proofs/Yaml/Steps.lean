import LintPreview.Proofs.Yaml.Reads

/-!
# What a reader comes to at a token

* `Opened`: a mark at a column stands in a block there, or opens one.
* `Yields.mark`, `Yields.brackets`: marks in front of items, keys and values, and empty flow collections.
* `Yields.scalar`: a scalar up to the end of its last line.
* `Yields.shortKey`: a scalar with a colon behind it.
-/

namespace LintPreview.Yaml

variable {x y : CodePoint} {cs t w rest K p : List CodePoint} {m n : ℕ}

/-! ### Starts of tokens -/

/-- A character that starts a token, with no mark between documents. -/
theorem continues_cons (hx : isBlankOrEnd x = false) (hsign : x ≠ .char '#')
    (hseparator : startsLikeSeparator (x :: rest) = false) : Continues (x :: rest) :=
  ⟨fun _ h => Option.some.inj h ▸ hx, fun h => hsign (Option.some.inj h), hseparator⟩

/-- A mark with a blank behind it. -/
theorem continues_mark (hx : isBlankOrEnd x = false) (hsign : x ≠ .char '#') (hy : isBlankOrEnd y = true) :
    Continues (x :: y :: rest) := by
  refine continues_cons hx hsign (startsLikeSeparator_eq_false_iff.mpr ⟨?_, ?_⟩)
  all_goals
    intro hprefix
    obtain ⟨-, hprefix⟩ := List.cons_prefix_cons.mp hprefix
    obtain ⟨rfl, -⟩ := List.cons_prefix_cons.mp hprefix
    cases hy

/-- A beginning that does not reach what comes behind. -/
theorem prefix_of_append (h : p <+: w ++ K) (hK : ∀ x ∈ K.head?, x ∉ p) : p <+: w := by
  rcases List.prefix_or_prefix_of_prefix h (List.prefix_append w K) with hp | ⟨q, rfl⟩
  · exact hp
  · cases q with
    | nil => rw [List.append_nil]
    | cons a q =>
      obtain ⟨K', rfl⟩ := (List.prefix_append_right_inj w).mp h
      exact absurd (List.mem_append_right w List.mem_cons_self) (hK a rfl)

/-- A mark between documents has no spaces inside, and so it stands in the first word. -/
theorem Folds.prefix_of_append (h : Folds n id cs t) (hp : p <+: t ++ K) (hspace : .char ' ' ∉ p) (hbreak : .char '\n' ∉ p)
    (hK : ∀ x ∈ K.head?, x ∉ p) : p <+: cs := by
  cases h with
  | last hw => exact Yaml.prefix_of_append hp hK
  | @gap w rest t k hw hnext hmore =>
    rw [id, List.append_assoc] at hp
    exact (Yaml.prefix_of_append hp (by rintro x ⟨⟩; exact hspace)).trans (List.prefix_append w _)
  | @fold w rest t hw hnext hinner hmore =>
    rw [id, List.append_assoc] at hp
    exact (Yaml.prefix_of_append hp (by rintro x ⟨⟩; exact hbreak)).trans (List.prefix_append w _)

/-- What is written for a text starts like the text. -/
theorem Folds.eq_cons (h : Folds n id (x :: rest) t) (hx : x ≠ .char ' ') :
    ∃ t', t = x :: t' ∧ (blankNext rest = false → ∃ y r t'', rest = y :: r ∧ t' = y :: t'') := by
  have hrest : blankNext rest = false → ∃ y r, rest = y :: r := fun hblank => by
    cases rest with
    | nil => cases hblank
    | cons y r => exact ⟨y, r, rfl⟩
  generalize hcs : x :: rest = cs at h
  cases h with
  | last hw =>
    subst hcs
    exact ⟨rest, rfl, fun hblank => (hrest hblank).imp fun y ⟨r, hr⟩ => ⟨r, r, hr, hr⟩⟩
  | @gap w r t k hw hnext hmore =>
    cases w with
    | nil => exact absurd (List.cons.inj hcs).1 hx
    | cons a w =>
      obtain ⟨rfl, rfl⟩ := List.cons.inj hcs
      refine ⟨_, rfl, fun hblank => ?_⟩
      cases w with
      | nil => cases hblank
      | cons b w => exact ⟨b, _, _, rfl, rfl⟩
  | @fold w r t hw hnext hinner hmore =>
    cases w with
    | nil => exact absurd (List.cons.inj hcs).1 hx
    | cons a w =>
      obtain ⟨rfl, rfl⟩ := List.cons.inj hcs
      refine ⟨_, rfl, fun hblank => ?_⟩
      cases w with
      | nil => cases hblank
      | cons b w => exact ⟨b, _, _, rfl, rfl⟩

/-- What may stand behind a scalar: neither a dash nor a dot. -/
def EndsScalar (K : List CodePoint) : Prop := ∀ x ∈ K.head?, x ≠ .char '-' ∧ x ≠ .char '.'

/-- A text without quotes starts with a character that may start one, and reads as no mark between documents. -/
theorem Scalar.IsTame.exists_plain {s : Scalar} (hs : s.IsTame) (hplain : s.isPlain = true) (ht : s.Laid n t) (hK : EndsScalar K) :
    ∃ x rest, t ++ K = x :: rest ∧ isBlankOrEnd x = false ∧ firstIsIndicator x rest = false ∧
      startsLikeSeparator (x :: rest) = false := by
  obtain ⟨hformed, hallow⟩ := Bool.and_eq_true_iff.mp hplain
  obtain ⟨hhead, -, hmarks⟩ := (hs.printable.allowPlain_iff (hs.nonempty hformed)).mp hallow
  rw [Scalar.Laid, if_pos hplain] at ht
  obtain ⟨x, rest, hcodes⟩ := List.exists_cons_of_ne_nil (hs.nonempty hformed)
  have hprintable := hs.printable
  rw [hcodes] at ht hhead hmarks hprintable
  have hspace : x ≠ .char ' ' := fun hx => hhead (congrArg some hx)
  obtain ⟨hfirst, -⟩ := Bool.or_eq_false_iff.mp hmarks
  obtain ⟨hseparator, hfirst⟩ := Bool.or_eq_false_iff.mp hfirst
  obtain ⟨hdash, hdot⟩ := startsLikeSeparator_eq_false_iff.mp hseparator
  have hlines : startsLikeSeparator (t ++ K) = false := by
    refine startsLikeSeparator_eq_false_iff.mpr ⟨fun h => hdash ?_, fun h => hdot ?_⟩
    · exact ht.prefix_of_append h (by decide) (by decide) fun x hx => by simpa using (hK x hx).1
    · exact ht.prefix_of_append h (by decide) (by decide) fun x hx => by simpa using (hK x hx).2
  obtain ⟨t, rfl, hsecond⟩ := ht.eq_cons hspace
  refine ⟨x, t ++ K, rfl, (hprintable x List.mem_cons_self).isBlankOrEnd hspace, ?_, hlines⟩
  cases hblank : blankNext rest with
  | true =>
    obtain ⟨hsigns, hafter⟩ := Bool.or_eq_false_iff.mp hfirst
    rw [hblank, Bool.and_true] at hafter
    rw [firstIsIndicator, hsigns, hafter]
    rfl
  | false =>
    obtain ⟨y, rest, t, rfl, rfl⟩ := hsecond hblank
    exact hfirst

theorem Scalar.IsTame.continues {s : Scalar} (hs : s.IsTame) (ht : s.Laid n t) (hK : EndsScalar K) : Continues (t ++ K) := by
  cases hplain : s.isPlain with
  | true =>
    obtain ⟨x, rest, heq, hblank, hfirst, hseparator⟩ := hs.exists_plain hplain ht hK
    rw [heq]
    refine continues_cons hblank ?_ hseparator
    rintro rfl
    cases hfirst
  | false =>
    rw [Scalar.Laid, if_neg (ne_true_of_eq_false hplain)] at ht
    obtain ⟨u, rfl, -⟩ := ht
    exact continues_cons (by decide) (by decide) rfl

/-! ### Marks -/

namespace TokenReader

variable {c : Cursor} {T opening : List Token} {blocks bs : List ℕ} {b : ℕ} {keyAllowed : Bool} {start t : Token} {out : List Token}
  {candidate : Option KeyCandidate}

/-- A mark at the column `n` stands in a block there, or opens one with the token `start`. -/
inductive Opened (n : ℕ) (start : Token) : (blocks : List ℕ) → (opening : List Token) → (bs : List ℕ) → Prop where
  | inside (bs : List ℕ) : Opened n start (n :: bs) [] bs
  | opens {bs : List ℕ} (outside : indentOf bs < n) : Opened n start bs [start] bs

theorem Opened.indentOf_le (h : Opened n start blocks opening bs) : indentOf blocks ≤ n := by
  cases h with
  | inside => exact le_rfl
  | opens h => exact h.le

/-- The marks in front of items, keys and values, with the token that opens a block and the one of the mark. -/
inductive IsMark : CodePoint → Token → Token → Prop where
  | item : IsMark (.char '-') .blockSequenceStart .blockEntry
  | key : IsMark (.char '?') .blockMappingStart .key
  | value : IsMark (.char ':') .blockMappingStart .value

theorem IsMark.not_blank (h : IsMark x start t) : isBlankOrEnd x = false ∧ x ≠ .char '#' := by
  cases h <;> decide

theorem token_mark (hmark : IsMark x start t) (hc : c.rest = x :: y :: rest) (hy : isBlankOrEnd y = true) :
    (inBlocks c T blocks true none).token = (inBlocks c T blocks true none).blockMark start t := by
  have hpeek := Cursor.peek_cons hc
  have hnext : c.peekAt 1 = y := by rw [Cursor.peekAt, hc]; rfl
  have hseparator := Cursor.atSeparator_eq_false (c := c)
    (hc ▸ (continues_mark hmark.not_blank.1 hmark.not_blank.2 hy).noSeparator)
  obtain ⟨hdash, hdot⟩ := Bool.or_eq_false_iff.mp hseparator
  cases hmark <;> simp [token, hpeek, hdash, hdot, blankFollows, hnext, hy, valueMark, inBlocks]

theorem inFlow_inBlocks : (inBlocks c T blocks keyAllowed candidate).inFlow = false := rfl

theorem openAt_of_lt (h : indentOf blocks < b) : (inBlocks c T blocks keyAllowed candidate).openAt b =
    some (inBlocks c T (b :: blocks) keyAllowed candidate) := if_pos h

theorem openAt_self : (inBlocks c T (b :: bs) keyAllowed candidate).openAt b = none := if_neg (lt_irrefl _)

/-- Behind a mark a key may start. -/
theorem blockMark_inBlocks (hopened : Opened c.column start blocks opening bs) :
    (inBlocks c T blocks true none).blockMark start t =
      .ok (inBlocks c.advance (T ++ (opening ++ [t])) (c.column :: bs) true none) := by
  have hmark : ∀ T', (inBlocks c T' (c.column :: bs) (t == .blockEntry || true) none |>.emit t).step 1 =
      inBlocks c.advance (T' ++ [t]) (c.column :: bs) true none := fun T' => by
    rw [Bool.or_true, emit_inBlocks]
    rfl
  cases hopened with
  | inside =>
    simp only [blockMark, inFlow_inBlocks, cursor_inBlocks, openAt_self, Bool.not_false]
    exact congrArg Except.ok (hmark T)
  | opens houtside =>
    simp only [blockMark, inFlow_inBlocks, cursor_inBlocks, openAt_of_lt houtside, emit_inBlocks, Bool.not_false]
    rw [← List.append_assoc]
    exact congrArg Except.ok (hmark (T ++ [start]))

/-- A mark in front of an item, a key or a value. -/
theorem Yields.mark (hmark : IsMark x start t) (hc : c.rest = x :: y :: rest) (hy : isBlankOrEnd y = true)
    (hopened : Opened c.column start blocks opening bs)
    (h : Yields (inBlocks c.advance (T ++ (opening ++ [t])) (c.column :: bs) true none) out) :
    Yields (inBlocks c T blocks true none) out := by
  have hcontinues : Continues c.rest := hc ▸ continues_mark hmark.not_blank.1 hmark.not_blank.2 hy
  refine .of_token hcontinues hopened.indentOf_le rfl ((token_mark hmark hc hy).trans (blockMark_inBlocks hopened)) rfl ?_ h
  show c.advance.rest.length < c.rest.length
  rw [Cursor.rest_advance, hc]
  exact Nat.lt_succ_self _

/-! ### Candidates for keys -/

/-- The candidate that stands at a place. -/
def candidateAt (c : Cursor) (T : List Token) (blocks : List ℕ) (keyAllowed : Bool) : Option KeyCandidate :=
  if keyAllowed then some ⟨T.length, indentOf blocks == c.column, c.index, c.line, c.column⟩ else none

theorem saveCandidate_inBlocks : (inBlocks c T blocks keyAllowed none).saveCandidate =
    .ok (inBlocks c T blocks keyAllowed (candidateAt c T blocks keyAllowed)) := by
  cases keyAllowed <;> rfl

/-- A candidate lasts on its line. -/
theorem freshen_candidateAt {c' : Cursor} (hline : c'.line = c.line) (hindex : c'.index ≤ c.index + maxKeyLength) :
    freshen c' (candidateAt c T blocks keyAllowed) = .ok (candidateAt c T blocks keyAllowed) := by
  cases keyAllowed with
  | false => rfl
  | true =>
    have hstale : isStale c' ⟨T.length, indentOf blocks == c.column, c.index, c.line, c.column⟩ = false := by
      rw [isStale, hline, decide_eq_false (not_lt.mpr hindex), bne_self_eq_false]
      rfl
    rw [candidateAt, if_pos rfl, freshen, hstale]
    rfl

/-- A candidate behind the indentation may be dropped. -/
theorem isLoose_candidateAt {c' : Cursor} (hcolumn : indentOf blocks < c.column) (hline : c.line ≤ c'.line) :
    IsLoose c' (candidateAt c T blocks keyAllowed) := by
  cases keyAllowed with
  | false => exact nofun
  | true =>
    rintro k ⟨⟩
    exact ⟨beq_eq_false_iff_ne.mpr hcolumn.ne, hline⟩

theorem exists_freshen {c' : Cursor} (h : IsLoose c' candidate) : ∃ k, freshen c' candidate = .ok k ∧ IsLoose c' k := by
  cases candidate with
  | none => exact ⟨none, rfl, isLoose_none c'⟩
  | some k =>
    obtain ⟨hrequired, -⟩ := h k rfl
    rw [freshen, hrequired]
    cases isStale c' k with
    | true => exact ⟨none, rfl, isLoose_none c'⟩
    | false => exact ⟨some k, rfl, h⟩

/-! ### Empty flow collections -/

/-- The brackets of flow collections with their tokens. -/
inductive AreBrackets : CodePoint → CodePoint → Token → Token → Prop where
  | list : AreBrackets (.char '[') (.char ']') .flowSequenceStart .flowSequenceEnd
  | map : AreBrackets (.char '\x7b') (.char '\x7d') .flowMappingStart .flowMappingEnd

/-- The reader inside the brackets of a flow collection. -/
def inBrackets (c : Cursor) (T : List Token) (blocks : List ℕ) (candidate : Option KeyCandidate) : TokenReader :=
  { inBlocks c T blocks true none with outerCandidates := [candidate] }

variable {first last : Token}

theorem AreBrackets.continues (h : AreBrackets x y first last) (rest : List CodePoint) :
    Continues (x :: rest) ∧ Continues (y :: rest) := by
  cases h <;> exact ⟨continues_cons (by decide) (by decide) rfl, continues_cons (by decide) (by decide) rfl⟩

theorem token_open (h : AreBrackets x y first last) (hc : c.rest = x :: rest) :
    (inBlocks c T blocks keyAllowed none).token =
      .ok (inBrackets c.advance (T ++ [first]) blocks (candidateAt c T blocks keyAllowed)) := by
  have hpeek := Cursor.peek_cons hc
  obtain ⟨hdash, hdot⟩ := Bool.or_eq_false_iff.mp (Cursor.atSeparator_eq_false (c := c) (hc ▸ (h.continues rest).1.noSeparator))
  have hopen : (inBlocks c T blocks keyAllowed none).token = (inBlocks c T blocks keyAllowed none).openFlow first := by
    cases h <;> simp [token, hpeek, hdash, hdot]
  rw [hopen, openFlow, saveCandidate_inBlocks]
  show Except.ok { ((inBlocks c T blocks keyAllowed _).emit first).step 1 with
    candidate := none, outerCandidates := [candidateAt c T blocks keyAllowed], keyAllowed := true } = _
  rw [emit_inBlocks]
  rfl

theorem token_close (h : AreBrackets x y first last) (hc : c.rest = y :: rest) :
    (inBrackets c T blocks candidate).token = .ok (inBlocks c.advance (T ++ [last]) blocks false candidate) := by
  have hpeek := Cursor.peek_cons hc
  obtain ⟨hdash, hdot⟩ := Bool.or_eq_false_iff.mp (Cursor.atSeparator_eq_false (c := c) (hc ▸ (h.continues rest).2.noSeparator))
  have hclose : (inBrackets c T blocks candidate).token = (inBrackets c T blocks candidate).closeFlow last := by
    cases h <;> simp [token, inBrackets, hpeek, hdash, hdot]
  have hemit : (inBlocks c T blocks false candidate).emit last = inBlocks c (T ++ [last]) blocks false candidate := emit_inBlocks
  rw [hclose]
  exact congrArg (fun r : TokenReader => Except.ok (r.step 1)) hemit

theorem dropStale_inBrackets (hfresh : freshen c candidate = .ok candidate) :
    (inBrackets c T blocks candidate).dropStale = .ok (inBrackets c T blocks candidate) := by
  show ([candidate].mapM (freshen c) >>= fun outer => _) = _
  rw [List.mapM_cons, hfresh]
  rfl

theorem settle_inBrackets (hc : Continues c.rest) (hfresh : freshen c candidate = .ok candidate) :
    (inBrackets c T blocks candidate).settle = .ok (inBrackets c T blocks candidate) := by
  have hskip := skipToToken_spaces (r := inBrackets c T blocks candidate) (m := 0) rfl hc.endsGap hc.noComment c.size
  unfold settle
  show ((inBrackets c T blocks candidate).skipToToken (c.size + 1)).dropStale >>= _ = _
  rw [hskip]
  show (inBrackets c T blocks candidate).dropStale >>= _ = _
  rw [dropStale_inBrackets hfresh]
  rfl

/-- An empty flow collection at the end of a line. -/
theorem Yields.brackets (h : AreBrackets x y first last) (hc : c.rest = x :: y :: (Yaml.newline m ++ rest)) (hrest : Continues rest)
    (hcolumn : indentOf blocks < c.column) (hsize : c.rest.length ≤ c.size)
    (hmore : Yields (inBlocks ((c.advanceBy 2).advanceBy (m + 1)) (T ++ [first, last]) blocks true none) out) :
    Yields (inBlocks c T blocks keyAllowed none) out := by
  have hprintable : ArePrintable [x, y] := by cases h <;> decide
  have hone : c.advance = ⟨c.size, y :: (Yaml.newline m ++ rest), c.index + 1, c.line, c.column + 1⟩ :=
    Cursor.advanceBy_printable (w := [x]) hc fun z hz => hprintable z (List.mem_cons.mpr (.inl (List.mem_singleton.mp hz)))
  have hfresh : freshen c.advance (candidateAt c T blocks keyAllowed) = .ok (candidateAt c T blocks keyAllowed) := by
    refine freshen_candidateAt (by rw [hone]) ?_
    rw [hone]
    exact Nat.add_le_add_left (by decide) _
  have hloose : IsLoose (c.advanceBy 2) (candidateAt c T blocks keyAllowed) :=
    isLoose_candidateAt hcolumn (Cursor.line_le_advanceBy 2 c)
  obtain ⟨k, hk, hkept⟩ := exists_freshen hloose
  have hclosed : (inBlocks (c.advanceBy 2) (T ++ [first] ++ [last]) blocks false (candidateAt c T blocks keyAllowed)).dropStale =
      .ok (inBlocks (c.advanceBy 2) (T ++ [first] ++ [last]) blocks false k) := by
    rw [dropStale_inBlocks, hk]
    rfl
  have hnewline : (c.advanceBy 2).rest = Yaml.newline m ++ rest := by rw [Cursor.rest_advanceBy, hc]; rfl
  have hbehind : c.advance.rest = y :: (Yaml.newline m ++ rest) := by rw [hone]
  refine .of_token (hc ▸ (h.continues _).1) hcolumn.le rfl (token_open h hc) (dropStale_inBrackets hfresh) ?_ ?_
  · show c.advance.rest.length < _
    rw [hbehind, hc]
    exact Nat.lt_succ_self _
  · refine .token (settle_inBrackets (hbehind ▸ (h.continues _).2) hfresh) (token_close h hbehind) hclosed ?_ ?_
    · show (c.advanceBy 2).rest.length < c.advance.rest.length
      rw [hnewline, hbehind]
      exact Nat.lt_succ_self _
    · rw [List.append_assoc]
      exact hmore.newline hnewline hrest hkept (Cursor.fits_advanceBy 2 hsize)

/-! ### Scalars -/

theorem blankFollows_eq (hc : c.rest = x :: rest) : blankFollows c = blankNext rest := by
  rw [blankFollows, Cursor.peekAt, hc, blankNext]
  cases rest <;> rfl

/-- What may be written first without quotes may be read first without quotes. -/
theorem startsPlain_eq (hc : c.rest = x :: rest) (hblank : isBlankOrEnd x = false) (hfirst : firstIsIndicator x rest = false) :
    startsPlain false c = true := by
  have hstarts : startsPlain false c = (!isIndicator x || !blankNext rest && (x == .char '-' || (x == .char '?' || x == .char ':'))) := by
    rw [startsPlain, Cursor.peek_cons hc, ← blankFollows_eq hc]
    rfl
  simp only [firstIsIndicator, isAnyOf_eq, List.any_cons, List.any_nil, Bool.or_eq_false_iff, Bool.or_false] at hfirst
  obtain ⟨hsigns, hafter⟩ := hfirst
  rw [hstarts]
  cases hmark : (x == CodePoint.char '?' || x == CodePoint.char ':' || x == CodePoint.char '-') with
  | true =>
    rw [hmark, Bool.true_and] at hafter
    rw [hafter, Bool.or_comm (x == CodePoint.char '-'), hmark]
    exact Bool.or_true _
  | false =>
    rw [Bool.or_eq_false_iff, Bool.or_eq_false_iff] at hmark
    simp only [isIndicator, isFlowMark, isAnyOf_eq, List.any_cons, List.any_nil, hblank, hsigns, hmark, Bool.or_false, Bool.not_false,
      Bool.true_or]

theorem token_plain (hc : c.rest = x :: rest) (hblank : isBlankOrEnd x = false) (hfirst : firstIsIndicator x rest = false)
    (hseparator : startsLikeSeparator (x :: rest) = false) :
    (inBlocks c T blocks keyAllowed candidate).token = (inBlocks c T blocks keyAllowed candidate).plainToken := by
  have hpeek := Cursor.peek_cons hc
  obtain ⟨hdash, hdot⟩ := Bool.or_eq_false_iff.mp (Cursor.atSeparator_eq_false (c := c) (hc ▸ hseparator))
  have hstarts := startsPlain_eq hc hblank hfirst
  simp only [firstIsIndicator, isAnyOf_eq, List.any_cons, List.any_nil, Bool.or_eq_false_iff, Bool.or_false,
    Bool.and_or_distrib_right] at hfirst
  simp only [token, cursor_inBlocks, inFlow_inBlocks, blankFollows_eq hc, hpeek, hdash, hdot, hfirst, hstarts, Bool.and_false,
    Bool.false_and, Bool.false_or, Bool.or_self, Bool.false_eq_true, if_false, if_true]

theorem token_quote (hc : c.rest = .char '\'' :: rest) :
    (inBlocks c T blocks keyAllowed candidate).token = (inBlocks c T blocks keyAllowed candidate).keyToken takeQuoted := by
  have hpeek := Cursor.peek_cons hc
  have hseparator : startsLikeSeparator c.rest = false := by rw [hc]; rfl
  obtain ⟨hdash, hdot⟩ := Bool.or_eq_false_iff.mp (Cursor.atSeparator_eq_false hseparator)
  simp [token, hpeek, hdash, hdot]

variable {c' : Cursor} {broke : Bool} {s : Scalar}

theorem emit_scalar : { (inBlocks c T blocks keyAllowed candidate).emit t with cursor := c', keyAllowed := broke } =
    inBlocks c' (T ++ [t]) blocks broke candidate := by
  rw [emit_inBlocks]
  rfl

theorem plainToken_inBlocks (h : takePlain false (indentOf blocks) c = (t, broke, c')) :
    (inBlocks c T blocks keyAllowed none).plainToken =
      .ok (inBlocks c' (T ++ [t]) blocks broke (candidateAt c T blocks keyAllowed)) := by
  rw [plainToken, saveCandidate_inBlocks]
  show (let taken := takePlain false (indentOf blocks) c; Except.ok { (inBlocks c T blocks keyAllowed _).emit taken.1 with
    cursor := taken.2.2, keyAllowed := taken.2.1 }) = _
  rw [h]
  exact congrArg Except.ok emit_scalar

theorem keyToken_inBlocks {take : Cursor → Except Fault (Token × Cursor)} (h : take c = .ok (t, c')) :
    (inBlocks c T blocks keyAllowed none).keyToken take =
      .ok (inBlocks c' (T ++ [t]) blocks false (candidateAt c T blocks keyAllowed)) := by
  rw [keyToken, saveCandidate_inBlocks]
  show (take c >>= fun taken => Except.ok { (inBlocks c T blocks keyAllowed _).emit taken.1 with
    cursor := taken.2, keyAllowed := false }) = _
  rw [h]
  exact congrArg Except.ok emit_scalar

theorem endsScalar_newline (m : ℕ) (rest : List CodePoint) : EndsScalar (Yaml.newline m ++ rest) := by
  rintro x ⟨⟩
  decide

theorem endsScalar_colon (rest : List CodePoint) : EndsScalar (.char ':' :: rest) := by
  rintro x ⟨⟩
  decide

/-- A scalar up to the end of its last line. -/
theorem Yields.scalar (hs : s.IsTame) {u : List CodePoint} (hu : s.Laid (n + 2) u) (hc : c.rest = u ++ (Yaml.newline m ++ rest)) (hrest : Continues rest)
    (hm : m ≤ n) (hcolumn : n < c.column) (hsize : c.rest.length ≤ c.size)
    (h : Yields (inBlocks ((c.advanceBy u.length).advanceBy (m + 1)) (T ++ [s.token]) (n :: bs) true none) out) :
    Yields (inBlocks c T (n :: bs) keyAllowed none) out := by
  have hcontinues := hs.continues hu (endsScalar_newline m rest)
  have hnewline := Cursor.rest_advanceBy_append hc
  have hplace := Cursor.advanceBy_newline hnewline
  have hindent : indentOf (n :: bs) < c.column := Int.ofNat_lt.mpr hcolumn
  have hline := Cursor.line_le_advanceBy u.length c
  cases hplain : s.isPlain with
  | true =>
    obtain ⟨x, r, heq, hblank, hfirst, hseparator⟩ := hs.exists_plain hplain hu (endsScalar_newline m rest)
    have hlater : c.line < ((c.advanceBy u.length).advanceBy (m + 1)).line := by
      rw [hplace]
      exact Nat.lt_succ_of_le hline
    have hloose : IsLoose c (candidateAt c T (n :: bs) keyAllowed) := isLoose_candidateAt hindent le_rfl
    have hstale : (inBlocks ((c.advanceBy u.length).advanceBy (m + 1)) (T ++ [s.token]) (n :: bs) true
        (candidateAt c T (n :: bs) keyAllowed)).dropStale =
          .ok (inBlocks ((c.advanceBy u.length).advanceBy (m + 1)) (T ++ [s.token]) (n :: bs) true none) :=
      dropStale_of_lt fun k hk => ⟨(hloose k hk).1, (hloose k hk).2.trans_lt hlater⟩
    refine .of_token (hc ▸ hcontinues) hindent.le rfl ((token_plain (hc.trans heq) hblank hfirst hseparator).trans
      (plainToken_inBlocks (takePlain_newline hs hplain hu hc hrest hm hcolumn.le hsize))) hstale ?_ h
    rw [cursor_inBlocks, hplace]
    show rest.length < _
    rw [hc, List.length_append, List.length_append, length_newline]
    omega
  | false =>
    have hloose : IsLoose (c.advanceBy u.length) (candidateAt c T (n :: bs) keyAllowed) := isLoose_candidateAt hindent hline
    obtain ⟨k, hk, hkept⟩ := exists_freshen hloose
    have hstale : (inBlocks (c.advanceBy u.length) (T ++ [s.token]) (n :: bs) false (candidateAt c T (n :: bs) keyAllowed)).dropStale =
        .ok (inBlocks (c.advanceBy u.length) (T ++ [s.token]) (n :: bs) false k) := by
      rw [dropStale_inBlocks, hk]
      rfl
    have htake := takeQuoted_eq hs hplain (Nat.succ_pos _) hu hc nofun hsize
    obtain ⟨v, hv⟩ : ∃ v, u = .char '\'' :: v := by
      rw [Scalar.Laid, if_neg (ne_true_of_eq_false hplain)] at hu
      exact hu.imp' _ fun v hv => hv.1
    refine .of_token (hc ▸ hcontinues) hindent.le rfl ((token_quote (hc.trans (by rw [hv]; rfl))).trans
      (keyToken_inBlocks htake)) hstale ?_ (h.newline hnewline hrest hkept (Cursor.fits_advanceBy _ hsize))
    rw [cursor_inBlocks, hnewline, hc, hv]
    simp only [List.length_append, List.length_cons]
    omega

/-! ### Short keys -/

theorem length_doubleQuotes_le (w : List CodePoint) : (Pen.doubleQuotes w).length ≤ 2 * w.length := by
  induction w with
  | nil => exact le_rfl
  | cons x w ih =>
    have hone : (Pen.doubleQuotes [x]).length ≤ 2 := by
      rw [Pen.doubleQuotes, List.flatMap_cons]
      split <;> simp
    rw [← List.singleton_append, Pen.doubleQuotes_append, List.length_append, List.length_append, List.length_singleton]
    omega

theorem printable_doubleQuotes (hw : ArePrintable w) : ArePrintable (Pen.doubleQuotes w) := by
  intro x hx
  obtain ⟨y, hy, hx⟩ := List.mem_flatMap.mp hx
  split at hx
  · rw [List.mem_cons, List.mem_singleton, or_self] at hx
    subst hx
    decide
  · rw [List.mem_singleton] at hx
    exact hx ▸ hw y hy

/-- A scalar on one line has no more than twice its characters, and two quotes. -/
theorem isTame_onOneLine (hs : s.IsTame) : ArePrintable s.onOneLine ∧ s.onOneLine.length ≤ 2 * s.codes.length + 2 := by
  unfold Scalar.onOneLine
  cases s.isPlain with
  | true => exact ⟨hs.printable, by rw [if_pos rfl]; omega⟩
  | false =>
    have hlength := length_doubleQuotes_le s.codes
    refine ⟨List.forall_mem_cons.mpr ⟨by decide, List.forall_mem_append.mpr ⟨printable_doubleQuotes hs.printable, ?_⟩⟩, ?_⟩
    · exact List.forall_mem_cons.mpr ⟨by decide, nofun⟩
    · rw [if_neg Bool.false_ne_true, List.length_cons, List.length_append, List.length_singleton]
      omega

theorem onOneLine_ne_nil (hs : s.IsTame) : s.onOneLine ≠ [] := by
  cases hplain : s.isPlain with
  | true =>
    rw [Scalar.onOneLine, if_pos hplain]
    exact hs.nonempty (Bool.and_eq_true_iff.mp hplain).1
  | false =>
    rw [Scalar.onOneLine, if_neg (ne_true_of_eq_false hplain)]
    exact List.cons_ne_nil _ _

/-- What stands in front of a colon becomes a key. -/
theorem valueMark_inBlocks {n : ℕ} {k : KeyCandidate} (hopened : Opened n .blockMappingStart blocks opening bs)
    (htokens : k.tokens = T.length) (hcolumn : k.column = n) :
    (inBlocks c (T ++ [t]) blocks false (some k)).valueMark =
      .ok (inBlocks c.advance (T ++ (opening ++ [.key, t, .value])) (n :: bs) false none) := by
  subst hcolumn
  have hcandidate : (inBlocks c (T ++ [t]) blocks false (some k)).candidate = some k := rfl
  have hkey : { inBlocks c (T ++ [t]) blocks false (some k) with candidate := none, keyAllowed := false }.emitAt k.tokens .key =
      inBlocks c (T ++ [.key, t]) blocks false none := by
    rw [htokens]
    exact emitAt_inBlocks
  cases hopened with
  | inside =>
    have hemit : inBlocks c (T ++ [.key, t] ++ [.value]) (k.column :: bs) false none =
        inBlocks c (T ++ ([] ++ [.key, t, .value])) (k.column :: bs) false none := by simp
    simp only [valueMark, hcandidate, hkey, inFlow_inBlocks, openAt_self, Bool.false_eq_true, if_false, emit_inBlocks, hemit]
    rfl
  | opens houtside =>
    have hopen : (inBlocks c (T ++ [.key, t]) (k.column :: blocks) false none).emitAt k.tokens .blockMappingStart =
        inBlocks c (T ++ .blockMappingStart :: [.key, t]) (k.column :: blocks) false none := by
      rw [htokens]
      exact emitAt_inBlocks
    have hemit : inBlocks c (T ++ .blockMappingStart :: [.key, t] ++ [.value]) (k.column :: blocks) false none =
        inBlocks c (T ++ ([.blockMappingStart] ++ [.key, t, .value])) (k.column :: blocks) false none := by simp
    simp only [valueMark, hcandidate, hkey, inFlow_inBlocks, openAt_of_lt houtside, hopen, Bool.false_eq_true, if_false, emit_inBlocks, hemit]
    rfl

theorem token_colon (hc : c.rest = .char ':' :: y :: rest) (hy : isBlankOrEnd y = true) :
    (inBlocks c T blocks keyAllowed candidate).token = (inBlocks c T blocks keyAllowed candidate).valueMark := by
  have hpeek := Cursor.peek_cons hc
  have hseparator := Cursor.atSeparator_eq_false (c := c) (hc ▸ (continues_mark (by decide) (by decide) hy).noSeparator)
  obtain ⟨hdash, hdot⟩ := Bool.or_eq_false_iff.mp hseparator
  have hfollows : blankFollows c = true := (blankFollows_eq hc).trans hy
  simp [token, hpeek, hdash, hdot, hfollows]

/-- A scalar in front of a colon. -/
theorem token_onOneLine (hs : s.IsTame) (hc : c.rest = s.onOneLine ++ .char ':' :: y :: rest) (hy : isBlankOrEnd y = true)
    (hindent : indentOf blocks ≤ c.column) (hsize : c.rest.length ≤ c.size) :
    (inBlocks c T blocks true none).token =
      .ok (inBlocks (c.advanceBy s.onOneLine.length) (T ++ [s.token]) blocks false (candidateAt c T blocks true)) := by
  have hlaid := s.laid_onOneLine 1
  cases hplain : s.isPlain with
  | true =>
    obtain ⟨x, r, heq, hblank, hfirst, hseparator⟩ := hs.exists_plain hplain hlaid (endsScalar_colon (y :: rest))
    have hline : s.onOneLine = s.codes := by rw [Scalar.onOneLine, if_pos hplain]
    rw [hline] at hc ⊢
    exact (token_plain (hc.trans (hline ▸ heq)) hblank hfirst hseparator).trans
      (plainToken_inBlocks (takePlain_colon hs hplain hc hy hindent hsize))
  | false =>
    have hline : ∃ v, s.onOneLine = .char '\'' :: v := by
      rw [Scalar.onOneLine, if_neg (ne_true_of_eq_false hplain)]
      exact ⟨_, rfl⟩
    obtain ⟨v, hv⟩ := hline
    exact (token_quote (hc.trans (by rw [hv]; rfl))).trans
      (keyToken_inBlocks (takeQuoted_eq hs hplain Nat.one_pos hlaid hc nofun hsize))

/-- A scalar with a colon behind it, on one line. -/
theorem Yields.shortKey (hs : s.IsTame) (hshort : s.codes.length < 128) (hc : c.rest = s.onOneLine ++ .char ':' :: y :: rest)
    (hy : isBlankOrEnd y = true) (hopened : Opened c.column .blockMappingStart blocks opening bs) (hsize : c.rest.length ≤ c.size)
    (h : Yields (inBlocks (c.advanceBy (s.onOneLine.length + 1)) (T ++ (opening ++ [.key, s.token, .value])) (c.column :: bs)
      false none) out) : Yields (inBlocks c T blocks true none) out := by
  obtain ⟨hprintable, hlength⟩ := isTame_onOneLine hs
  have hcontinues := hs.continues (s.laid_onOneLine 1) (endsScalar_colon (y :: rest))
  have hplace := Cursor.advanceBy_printable hc hprintable
  have hcolon := Cursor.rest_advanceBy_append hc
  have hfresh : freshen (c.advanceBy s.onOneLine.length) (candidateAt c T blocks true) = .ok (candidateAt c T blocks true) := by
    refine freshen_candidateAt (by rw [hplace]) ?_
    rw [hplace]
    show c.index + s.onOneLine.length ≤ c.index + 1024
    omega
  have hstale : (inBlocks (c.advanceBy s.onOneLine.length) (T ++ [s.token]) blocks false (candidateAt c T blocks true)).dropStale =
      .ok (inBlocks (c.advanceBy s.onOneLine.length) (T ++ [s.token]) blocks false (candidateAt c T blocks true)) := by
    rw [dropStale_inBlocks, hfresh]
    rfl
  have hindent : indentOf blocks ≤ (c.advanceBy s.onOneLine.length).column := by
    rw [hplace]
    exact hopened.indentOf_le.trans (Int.ofNat_le.mpr (Nat.le_add_right _ _))
  have hvalue : (c.advanceBy s.onOneLine.length).advance.rest.length < (c.advanceBy s.onOneLine.length).rest.length := by
    rw [Cursor.rest_advance, hcolon]
    exact Nat.lt_succ_self _
  have hpos := List.length_pos_of_ne_nil (onOneLine_ne_nil hs)
  refine .of_token (hc ▸ hcontinues) hopened.indentOf_le rfl (token_onOneLine hs hc hy hopened.indentOf_le hsize) hstale ?_ ?_
  · rw [cursor_inBlocks, hcolon, hc]
    simp only [List.length_append]
    omega
  · rw [Cursor.advanceBy_add] at h
    exact .of_token (hcolon ▸ continues_mark (by decide) (by decide) hy) hindent hfresh
      ((token_colon hcolon hy).trans (valueMark_inBlocks hopened rfl rfl)) rfl hvalue h

end TokenReader

end LintPreview.Yaml
