import LintPreview.Proofs.Outcome
import LintPreview.Proofs.Yaml.Scanned

/-!
# The steps of reading tokens

* `TokenReader.settle`: the reader in front of the next token, with the blocks closed that end there.
* `TokenReader.Yields`: the tokens that a reader comes to, step by step; `Yields.readAll_eq`: those are the tokens that are
  read.
* `TokenReader.inBlocks`: a reader outside of flow collections. What it does at a line end, at a mark, at brackets, at a scalar
  and at a key follows in lemmas on what it yields.
-/

namespace LintPreview.Yaml.TokenReader

/-! ### Tokens one by one -/

/-- The reader in front of the next token. -/
def settle (r : TokenReader) : Except Fault TokenReader := do
  let s ← (r.skipToToken (r.cursor.size + 1)).dropStale
  return s.unwindTo s.cursor.column

theorem next_eq (r : TokenReader) : r.next = r.settle >>= fun s =>
    if s.cursor.rest.isEmpty then do return ((← (s.unwindTo (-1)).dropCandidate).emit .streamEnd, false)
    else do return (← (← s.token).dropStale, true) := by
  unfold next settle
  rw [bind_assoc]
  rfl

/-- The tokens that a reader comes to. Every step leaves less of the text. -/
inductive Yields : TokenReader → List Token → Prop where
  | token {r s t r' : TokenReader} {out : List Token} (settled : r.settle = .ok s) (read : s.token = .ok t)
      (fresh : t.dropStale = .ok r') (shorter : r'.cursor.rest.length < s.cursor.rest.length) (more : Yields r' out) :
      Yields r out
  | last {r s e : TokenReader} (settled : r.settle = .ok s) (nothing : s.cursor.rest = [])
      (closed : (s.unwindTo (-1)).dropCandidate = .ok e) : Yields r (e.emit .streamEnd).tokens.reverse

variable {r r' s : TokenReader} {out : List Token}

/-- Only what comes in front of the next token counts. -/
theorem Yields.of_settle (h : Yields r' out) (hsettle : r.settle = r'.settle) : Yields r out := by
  cases h with
  | token settled read fresh shorter more => exact .token (hsettle.trans settled) read fresh shorter more
  | last settled nothing closed => exact .last (hsettle.trans settled) nothing closed

theorem length_takeLineBreak {c c' : Cursor} {x : CodePoint} (h : c.takeLineBreak? = some (x, c')) :
    c'.rest.length ≤ c.rest.length := by
  have hby : ∀ n, (c.advanceBy n).rest.length ≤ c.rest.length := fun n => by
    rw [Cursor.rest_advanceBy, List.length_drop]
    omega
  unfold Cursor.takeLineBreak? at h
  split at h
  · cases h
    exact hby 2
  · split at h
    · cases h
      exact hby 1
    · split at h
      · cases h
        exact hby 1
      · cases h
  · cases h

theorem length_skipWhile (p : CodePoint → Bool) (c : Cursor) : (c.skipWhile p).rest.length ≤ c.rest.length := by
  rw [Cursor.skipWhile, Cursor.takeWhile, Cursor.rest_advanceBy, List.length_drop]
  omega

/-- Skipping goes on behind a line break. -/
theorem exists_skipToToken_eq (fuel : ℕ) (r : TokenReader) : ∃ c : Cursor, c.rest.length ≤ r.cursor.rest.length ∧
    r.skipToToken (fuel + 1) = match c.takeLineBreak? with
      | some (_, c) => skipToToken fuel { r with cursor := c, keyAllowed := r.keyAllowed || !r.inFlow }
      | none => { r with cursor := c } := by
  let c := r.cursor.skipWhile fun x : CodePoint => x == ' '
  refine ⟨if c.peek == '#' then c.skipWhile fun x => !isBreakOrEnd x else c, ?_, rfl⟩
  split
  · exact (length_skipWhile _ c).trans (length_skipWhile _ _)
  · exact length_skipWhile _ _

theorem length_skipToToken (fuel : ℕ) (r : TokenReader) : (r.skipToToken fuel).cursor.rest.length ≤ r.cursor.rest.length := by
  induction fuel generalizing r with
  | zero => exact le_rfl
  | succ fuel ih =>
    obtain ⟨c, hc, hskipped⟩ := exists_skipToToken_eq fuel r
    rw [hskipped]
    cases hbreak : c.takeLineBreak? with
    | none => exact hc
    | some found => exact (ih _).trans ((length_takeLineBreak hbreak).trans hc)

theorem cursor_dropStale (h : r.dropStale = .ok s) : s.cursor = r.cursor := by
  unfold dropStale at h
  obtain ⟨k, -, h⟩ := exists_of_bind_ok h
  obtain ⟨ks, -, h⟩ := exists_of_bind_ok h
  cases h
  rfl

theorem cursor_unwindTo (r : TokenReader) (column : ℤ) : (r.unwindTo column).cursor = r.cursor := by
  have hgo : ∀ (outer : List ℤ) (r : TokenReader), (unwindTo.go column r outer).cursor = r.cursor := by
    intro outer
    induction outer with
    | nil => exact fun r => rfl
    | cons i outer ih =>
      intro r
      rw [unwindTo.go]
      split
      · exact ih _
      · rfl
  unfold unwindTo
  split
  · rfl
  · exact hgo _ r

theorem length_settle (h : r.settle = .ok s) : s.cursor.rest.length ≤ r.cursor.rest.length := by
  obtain ⟨r₁, hstale, h⟩ := exists_of_bind_ok h
  cases h
  rw [cursor_unwindTo, cursor_dropStale hstale]
  exact length_skipToToken _ r

/-- A reader that comes to tokens reads them, if it may take enough steps. -/
theorem Yields.readAll_eq (h : Yields r out) {fuel : ℕ} (hfuel : r.cursor.rest.length < fuel) : readAll fuel r = out := by
  induction h generalizing fuel with
  | @token r s t r' out settled read fresh shorter more ih =>
    obtain ⟨fuel, rfl⟩ := Nat.exists_eq_add_of_lt (Nat.zero_lt_of_lt hfuel)
    have hlength := length_settle settled
    have hne : s.cursor.rest.isEmpty = false := by
      rw [List.isEmpty_eq_false_iff]
      intro hnil
      rw [hnil] at shorter
      cases shorter
    have hnext : r.next = .ok (r', true) := by
      rw [next_eq, settled]
      show (if s.cursor.rest.isEmpty then _ else _) = _
      rw [hne, if_neg Bool.false_ne_true, read]
      show (do return (← t.dropStale, true)) = _
      rw [fresh]
      rfl
    rw [readAll, hnext]
    exact ih (by omega)
  | @last r s e settled nothing closed =>
    obtain ⟨fuel, rfl⟩ := Nat.exists_eq_add_of_lt (Nat.zero_lt_of_lt hfuel)
    have hnext : r.next = .ok (e.emit .streamEnd, false) := by
      rw [next_eq, settled]
      show (if s.cursor.rest.isEmpty then _ else _) = _
      rw [nothing, closed]
      rfl
    rw [readAll, hnext]

/-! ### Readers outside of flow collections -/

/-- The indentation of the innermost block. -/
def indentOf : List ℕ → ℤ
  | [] => -1
  | b :: _ => b

/-- The indentations around the innermost block. -/
def outerOf : List ℕ → List ℤ
  | [] => []
  | _ :: bs => indentOf bs :: outerOf bs

/-- A reader outside of flow collections, with the columns of the open blocks, innermost first. -/
def inBlocks (c : Cursor) (tokens : List Token) (blocks : List ℕ) (keyAllowed : Bool) (candidate : Option KeyCandidate) :
    TokenReader :=
  { cursor := c, tokens := tokens.reverse, count := tokens.length, indent := indentOf blocks, outer := outerOf blocks,
    keyAllowed := keyAllowed, candidate := candidate }

variable {c : Cursor} {T A : List Token} {blocks bs : List ℕ} {b m n : ℕ} {keyAllowed : Bool} {candidate : Option KeyCandidate}
  {t : Token} {rest : List CodePoint}

@[simp] theorem cursor_inBlocks : (inBlocks c T blocks keyAllowed candidate).cursor = c := rfl

theorem emit_inBlocks : (inBlocks c T blocks keyAllowed candidate).emit t = inBlocks c (T ++ [t]) blocks keyAllowed candidate := by
  simp [emit, inBlocks]

/-- A token put in front of the last ones. -/
theorem emitAt_inBlocks : (inBlocks c (T ++ A) blocks keyAllowed candidate).emitAt T.length t =
    inBlocks c (T ++ t :: A) blocks keyAllowed candidate := by
  have hcount : (T ++ A).length - T.length = A.reverse.length := by simp
  unfold emitAt inBlocks
  dsimp only
  rw [hcount, List.reverse_append, List.splitAt_eq, List.take_left, List.drop_left]
  simp [Nat.add_assoc]

/-- The innermost block ends in front of a column to the left of it. -/
theorem unwindTo_cons {column : ℤ} (h : column < b) : (inBlocks c T (b :: bs) keyAllowed candidate).unwindTo column =
    (inBlocks c (T ++ [.blockEnd]) bs keyAllowed candidate).unwindTo column := by
  have hemit : { (inBlocks c T (b :: bs) keyAllowed candidate).emit .blockEnd with indent := indentOf bs, outer := outerOf bs } =
      inBlocks c (T ++ [.blockEnd]) bs keyAllowed candidate := by
    simp [emit, inBlocks]
  show unwindTo.go column _ (indentOf bs :: outerOf bs) = unwindTo.go column _ (outerOf bs)
  rw [unwindTo.go, if_pos (show column < (inBlocks c T (b :: bs) keyAllowed candidate).indent from h), hemit]

theorem unwindTo_eq_self {column : ℤ} (h : indentOf blocks ≤ column) :
    (inBlocks c T blocks keyAllowed candidate).unwindTo column = inBlocks c T blocks keyAllowed candidate := by
  show unwindTo.go column _ (outerOf blocks) = _
  cases blocks with
  | nil => rfl
  | cons b bs =>
    rw [outerOf, unwindTo.go,
      if_neg (show ¬ column < (inBlocks c T (b :: bs) keyAllowed candidate).indent from not_lt.mpr h)]

/-! ### Line ends and spaces -/

theorem skipToToken_spaces (hc : r.cursor.rest = List.replicate m (.char ' ') ++ rest) (hgap : EndsGap rest)
    (hcomment : rest.head? ≠ some (.char '#')) (fuel : ℕ) :
    r.skipToToken (fuel + 1) = { r with cursor := r.cursor.advanceBy m } := by
  have hbehind := Cursor.rest_advanceBy_spaces hc
  have hpeek : ((r.cursor.advanceBy m).peek == CodePoint.char '#') = false := by
    rw [Cursor.peek, hbehind, beq_eq_false_iff_ne]
    cases rest with
    | nil => decide
    | cons x rest => exact fun h => hcomment (congrArg some h)
  rw [skipToToken, Cursor.skipWhile_spaces hc rfl hgap.not_space, hpeek]
  rw [if_neg Bool.false_ne_true, Cursor.takeLineBreak?_eq_none (by rw [hbehind]; exact hgap.not_break)]

theorem skipToToken_newline (hc : c.rest = newline m ++ rest) (hrest : Continues rest) (fuel : ℕ) :
    (inBlocks c T blocks keyAllowed candidate).skipToToken (fuel + 2) =
      inBlocks (c.advanceBy (m + 1)) T blocks true candidate := by
  have hskip : c.skipWhile (fun x : CodePoint => x == ' ') = c := Cursor.skipWhile_spaces (m := 0) hc rfl (by rintro x ⟨⟩; rfl)
  have hpeek : (c.peek == CodePoint.char '#') = false := by rw [Cursor.peek, hc]; rfl
  have hadvance : c.advance.rest = List.replicate m (.char ' ') ++ rest := by
    rw [Cursor.rest_advance, hc]
    rfl
  rw [skipToToken, cursor_inBlocks, hskip, hpeek]
  rw [if_neg Bool.false_ne_true, Cursor.takeLineBreak?_newline hc]
  dsimp only
  rw [skipToToken_spaces (r := { inBlocks c T blocks keyAllowed candidate with cursor := c.advance, keyAllowed := _ }) hadvance
    hrest.endsGap hrest.noComment, Nat.add_comm m 1, Cursor.advanceBy_add]
  show inBlocks (c.advance.advanceBy m) T blocks (keyAllowed || true) candidate = _
  rw [Bool.or_true]
  rfl

/-- A candidate that may be dropped, and that stands before the place. -/
def IsLoose (c : Cursor) (candidate : Option KeyCandidate) : Prop := ∀ k ∈ candidate, k.required = false ∧ k.line ≤ c.line

theorem isLoose_none (c : Cursor) : IsLoose c none := nofun

theorem dropStale_inBlocks : (inBlocks c T blocks keyAllowed candidate).dropStale =
    (freshen c candidate).map fun k => inBlocks c T blocks keyAllowed k := by
  unfold dropStale
  show (freshen c candidate >>= fun k => _) = _
  cases freshen c candidate <;> rfl

/-- A new line makes the candidates before it stale. -/
theorem dropStale_of_lt (h : ∀ k ∈ candidate, k.required = false ∧ k.line < c.line) :
    (inBlocks c T blocks keyAllowed candidate).dropStale = .ok (inBlocks c T blocks keyAllowed none) := by
  rw [dropStale_inBlocks]
  cases candidate with
  | none => rfl
  | some k =>
    obtain ⟨hrequired, hline⟩ := h k rfl
    have hstale : isStale c k = true := by
      rw [isStale, bne_iff_ne.mpr (Nat.ne_of_lt hline)]
      rfl
    rw [freshen, hstale, hrequired]
    rfl

/-- What a reader finds behind spaces. -/
theorem settle_spaces (hc : c.rest = List.replicate m (.char ' ') ++ rest) (hrest : Continues rest) :
    (inBlocks c T blocks keyAllowed candidate).settle =
      (inBlocks (c.advanceBy m) T blocks keyAllowed candidate).dropStale >>= fun s =>
        .ok (s.unwindTo s.cursor.column) := by
  unfold settle
  rw [skipToToken_spaces (r := inBlocks c T blocks keyAllowed candidate) hc hrest.endsGap hrest.noComment]
  rfl

theorem settle_here (hc : Continues c.rest) : (inBlocks c T blocks keyAllowed candidate).settle =
    (inBlocks c T blocks keyAllowed candidate).dropStale >>= fun s => .ok (s.unwindTo s.cursor.column) :=
  settle_spaces (m := 0) rfl hc

/-- A reader in front of a token. -/
theorem settle_eq_self (hc : Continues c.rest) (hcolumn : indentOf blocks ≤ c.column) (hfresh : freshen c candidate = .ok candidate) :
    (inBlocks c T blocks keyAllowed candidate).settle = .ok (inBlocks c T blocks keyAllowed candidate) := by
  rw [settle_here hc, dropStale_inBlocks, hfresh]
  exact congrArg Except.ok (unwindTo_eq_self hcolumn)

namespace Yields

/-- Spaces in front of a token are passed over. -/
theorem spaces (hc : c.rest = List.replicate m (.char ' ') ++ rest) (hrest : Continues rest)
    (h : Yields (inBlocks (c.advanceBy m) T blocks keyAllowed candidate) out) :
    Yields (inBlocks c T blocks keyAllowed candidate) out := by
  refine h.of_settle ?_
  rw [settle_spaces hc hrest, settle_here (by rwa [Cursor.rest_advanceBy_spaces hc])]

/-- At a line end nothing on the line becomes a key any more, and a key may start. -/
theorem newline (hc : c.rest = Yaml.newline m ++ rest) (hrest : Continues rest) (hloose : IsLoose c candidate)
    (hsize : c.rest.length ≤ c.size) (h : Yields (inBlocks (c.advanceBy (m + 1)) T blocks true none) out) :
    Yields (inBlocks c T blocks keyAllowed candidate) out := by
  have hplace := Cursor.advanceBy_newline hc
  have hbehind : (c.advanceBy (m + 1)).rest = rest := by rw [hplace]
  have hdrop : (inBlocks (c.advanceBy (m + 1)) T blocks true candidate).dropStale =
      .ok (inBlocks (c.advanceBy (m + 1)) T blocks true none) := by
    refine dropStale_of_lt fun k hk => ⟨(hloose k hk).1, ?_⟩
    rw [hplace]
    exact Nat.lt_succ_of_le (hloose k hk).2
  obtain ⟨size, hsize⟩ : ∃ size, c.size = size + 1 := by
    rw [hc, List.length_append, length_newline] at hsize
    exact ⟨c.size - 1, by omega⟩
  refine h.of_settle ?_
  rw [settle_here (c := c.advanceBy (m + 1)) (by rwa [hbehind])]
  show ((inBlocks c T blocks keyAllowed candidate).skipToToken (c.size + 1)).dropStale >>= _ = _
  rw [hsize, skipToToken_newline hc hrest, hdrop]
  rfl

/-- A block ends in front of what stands to the left of it. -/
theorem blockEnd (hc : Continues c.rest) (hcolumn : c.column < b)
    (h : Yields (inBlocks c (T ++ [.blockEnd]) bs keyAllowed none) out) :
    Yields (inBlocks c T (b :: bs) keyAllowed none) out := by
  refine h.of_settle ?_
  rw [settle_here hc, settle_here hc]
  exact congrArg Except.ok (unwindTo_cons (by exact_mod_cast hcolumn))

/-- A token that starts here. -/
theorem of_token (hc : Continues c.rest) (hcolumn : indentOf blocks ≤ c.column) (hfresh : freshen c candidate = .ok candidate)
    {t : TokenReader} (htoken : (inBlocks c T blocks keyAllowed candidate).token = .ok t) {r' : TokenReader}
    (hstale : t.dropStale = .ok r') (hshorter : t.cursor.rest.length < c.rest.length) (h : Yields r' out) :
    Yields (inBlocks c T blocks keyAllowed candidate) out :=
  .token (settle_eq_self hc hcolumn hfresh) htoken hstale ((cursor_dropStale hstale).symm ▸ hshorter) h

end Yields

end LintPreview.Yaml.TokenReader
