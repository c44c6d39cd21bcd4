import Mathlib.Data.List.Forall2
import Mathlib.Data.Nat.Notation

/-!
# Steps that can fail

What is known of steps done one after the other when the last one has succeeded, or when it has failed.

* `exists_of_bind_ok`: two steps.
* `eq_ok_of_mapError` and `exists_of_mapError_error`: a step whose failure is put in other words.
* `exists_of_mapM_append_singleton`: one step for each item of a list, the last one singled out; `exists_of_mem_mapM`
  singles out any one, and `forall₂_of_mapM_eq_ok` takes all of them together.
* `mapM_eq_error_iff`: one step for each item of a list, of which the first failure counts.
* `Ends`: what a step gives and how it fails, both told beforehand.
-/

namespace LintPreview

variable {ε α β : Type}

theorem exists_of_bind_ok {x : Except ε α} {f : α → Except ε β} {b : β} (h : (x >>= f) = .ok b) :
    ∃ a, x = .ok a ∧ f a = .ok b := by
  cases x with
  | error e => cases h
  | ok a => exact ⟨a, rfl, h⟩

theorem eq_ok_of_mapError {ε' : Type} {x : Except ε α} {f : ε → ε'} {a : α} (h : x.mapError f = .ok a) : x = .ok a := by
  cases x with
  | error e => cases h
  | ok b =>
    cases h
    rfl

theorem exists_of_mapError_error {ε' : Type} {x : Except ε α} {f : ε → ε'} {e' : ε'} (h : x.mapError f = .error e') :
    ∃ e, x = .error e ∧ f e = e' := by
  cases x with
  | error e => exact ⟨e, rfl, Except.error.inj h⟩
  | ok a => cases h

theorem exists_of_map_ok {x : Except ε α} {f : α → β} {b : β} (h : x.map f = .ok b) : ∃ a, x = .ok a ∧ f a = b := by
  cases x with
  | error e => cases h
  | ok a =>
    cases h
    exact ⟨a, rfl, rfl⟩

theorem exists_of_mapM_append_singleton {f : α → Except ε β} {as : List α} {a : α} {bs : List β}
    (h : (as ++ [a]).mapM f = .ok bs) : ∃ bs' b, bs = bs' ++ [b] ∧ f a = .ok b := by
  rw [List.mapM_append] at h
  obtain ⟨bs', -, h⟩ := exists_of_bind_ok h
  obtain ⟨last, hlast, h⟩ := exists_of_bind_ok h
  rw [List.mapM_cons] at hlast
  obtain ⟨b, hb, hlast⟩ := exists_of_bind_ok hlast
  cases h
  cases hlast
  exact ⟨bs', b, rfl, hb⟩

theorem exists_of_mem_mapM {f : α → Except ε β} {as : List α} {bs : List β} (h : as.mapM f = .ok bs) {b : β}
    (hb : b ∈ bs) : ∃ a ∈ as, f a = .ok b := by
  induction as generalizing bs with
  | nil =>
    cases h
    cases hb
  | cons a as ih =>
    rw [List.mapM_cons] at h
    obtain ⟨first, hfirst, h⟩ := exists_of_bind_ok h
    obtain ⟨rest, hrest, h⟩ := exists_of_bind_ok h
    cases h
    rcases List.mem_cons.mp hb with rfl | hb
    · exact ⟨a, List.mem_cons_self, hfirst⟩
    · obtain ⟨a', ha', hfa'⟩ := ih hrest hb
      exact ⟨a', List.mem_cons_of_mem _ ha', hfa'⟩

theorem forall₂_of_mapM_eq_ok {f : α → Except ε β} {as : List α} {bs : List β} (h : as.mapM f = .ok bs) :
    List.Forall₂ (fun a b => f a = .ok b) as bs := by
  induction as generalizing bs with
  | nil =>
    cases h
    exact .nil
  | cons a as ih =>
    rw [List.mapM_cons] at h
    obtain ⟨b, hb, h⟩ := exists_of_bind_ok h
    obtain ⟨rest, hrest, h⟩ := exists_of_bind_ok h
    cases h
    exact .cons hb (ih hrest)

/-- Steps on a list fail where the first of them does. -/
theorem mapM_eq_error_iff {f : α → Except ε β} {as : List α} {e : ε} : as.mapM f = .error e ↔
    ∃ before a after, as = before ++ a :: after ∧ (∀ b ∈ before, ∃ v, f b = .ok v) ∧ f a = .error e := by
  induction as with
  | nil =>
    constructor
    · nofun
    · rintro ⟨before, a, after, h, -⟩
      cases before <;> cases h
  | cons a as ih =>
    rw [List.mapM_cons]
    constructor
    · intro h
      cases ha : f a with
      | error e' =>
        rw [ha] at h
        cases h
        exact ⟨[], a, as, rfl, List.forall_mem_nil _, ha⟩
      | ok v =>
        rw [ha] at h
        cases hrest : as.mapM f with
        | error e' =>
          rw [hrest] at h
          cases h
          obtain ⟨before, b, after, rfl, hbefore, hb⟩ := ih.mp hrest
          exact ⟨a :: before, b, after, rfl, List.forall_mem_cons.mpr ⟨⟨v, ha⟩, hbefore⟩, hb⟩
        | ok vs =>
          rw [hrest] at h
          cases h
    · rintro ⟨before, b, after, heq, hbefore, hb⟩
      cases before with
      | nil =>
        cases heq
        rw [hb]
        rfl
      | cons a' before =>
        cases heq
        obtain ⟨⟨v, hv⟩, hbefore⟩ := List.forall_mem_cons.mp hbefore
        rw [hv, ih.mpr ⟨before, b, after, rfl, hbefore, hb⟩]
        rfl

/-! ### Both ways to end -/

/-- What a step gives is as it is told, and so is the error with which it fails. -/
structure Ends (E : ε → Prop) (P : α → Prop) (x : Except ε α) : Prop where
  gives : ∀ a, x = .ok a → P a
  fails : ∀ e, x = .error e → E e

namespace Ends

variable {E : ε → Prop} {P : α → Prop} {Q : β → Prop}

theorem ok {a : α} (h : P a) : Ends E P (.ok a) where
  gives _ ha := Except.ok.inj ha ▸ h
  fails := by rintro e ⟨⟩

theorem error {e : ε} (h : E e) : Ends E P (.error e) where
  gives := by rintro a ⟨⟩
  fails _ he := Except.error.inj he ▸ h

theorem imp {E' : ε → Prop} {P' : α → Prop} {x : Except ε α} (h : Ends E P x) (hE : ∀ e, E e → E' e)
    (hP : ∀ a, P a → P' a) : Ends E' P' x where
  gives a ha := hP a (h.gives a ha)
  fails e he := hE e (h.fails e he)

theorem bind {x : Except ε α} {f : α → Except ε β} (hx : Ends E P x) (hf : ∀ a, P a → Ends E Q (f a)) :
    Ends E Q (x >>= f) := by
  cases hresult : x with
  | error e => exact error (hx.fails e hresult)
  | ok a => exact hf a (hx.gives a hresult)

theorem map {x : Except ε α} {f : α → β} (hx : Ends E P x) (hf : ∀ a, P a → Q (f a)) : Ends E Q (x.map f) := by
  cases hresult : x with
  | error e => exact error (hx.fails e hresult)
  | ok a => exact ok (hf a (hx.gives a hresult))

theorem ite {p : Prop} [Decidable p] {x y : Except ε α} (hx : p → Ends E P x) (hy : ¬ p → Ends E P y) :
    Ends E P (if p then x else y) := by
  split
  · exact hx ‹_›
  · exact hy ‹_›

theorem mapM {f : α → Except ε β} (hf : ∀ a, Ends E (fun _ => True) (f a)) (as : List α) :
    Ends E (fun _ => True) (as.mapM f) := by
  induction as with
  | nil => exact ok trivial
  | cons a as ih =>
    rw [List.mapM_cons]
    exact (hf a).bind fun b _ => ih.bind fun bs _ => ok trivial

/-- A step that keeps a property keeps it along a list. -/
theorem foldlM {f : β → α → Except ε β} (hf : ∀ b a, Q b → Ends E Q (f b a)) {b : β} (hb : Q b) (as : List α) :
    Ends E Q (as.foldlM f b) := by
  induction as generalizing b with
  | nil => exact ok hb
  | cons a as ih =>
    rw [List.foldlM_cons]
    exact (hf b a hb).bind fun b' hb' => ih hb'

end Ends

end LintPreview
