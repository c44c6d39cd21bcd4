import LintPreview.Proofs.Remote.Transfer
import LintPreview.Proofs.Simulation.Course

/-!
# Failures of a fetch that nobody expects

* `Job.FailsFor`: the kind of failures that a job ends with.
* `Remote.Asks`: the addresses that are asked for a URL.
* `Remote.Unexpected`: the failures of a fetch that are not the services' own, each with what it comes from.
* `Remote.failsFor_fetchConfig`: where the network answers, or tells that it does not, every failure of a fetch is one
  of the services' own, or unexpected in one of these ways.
-/

namespace LintPreview

open Program (World)

/-! ### Why a job fails -/

namespace Job

variable {σ α β : Type} {w : World ServiceAct ServiceAct.Reply σ} {kind : Failure → Prop}

/-- A job that stops has failed, for a reason of a kind. -/
def FailsFor (w : World ServiceAct ServiceAct.Reply σ) (kind : Failure → Prop) (job : Job α) : Prop :=
  ∀ q events stop q', Runs w job q events (.error stop) q' → ∃ f, stop = .failed f ∧ kind f

theorem failsFor_pure (a : α) : FailsFor w kind (pure a : Job α) := by
  intro q events stop q' h
  cases (runs_pure_iff.mp h).2.1

theorem failsFor_fail {f : Failure} (h : kind f) : FailsFor w kind (fail f : Job α) := by
  intro q events stop q' hrun
  cases (runs_fail_iff.mp hrun).2.1
  exact ⟨f, rfl, h⟩

theorem failsFor_ofResult {x : Except Failure α} (h : ∀ f, x = .error f → kind f) : FailsFor w kind (ofResult x) := by
  cases x with
  | ok a => exact failsFor_pure a
  | error f => exact failsFor_fail (h f rfl)

theorem FailsFor.bind {job : Job α} {f : α → Job β} (hjob : job.FailsFor w kind) (hf : ∀ a, (f a).FailsFor w kind) :
    FailsFor w kind (job >>= f) := by
  intro q events stop q' h
  rcases runs_bind_iff.mp h with ⟨a, q₁, events₁, events₂, -, hrest, -⟩ | ⟨stop', hfails, hstop⟩
  · exact hf a _ _ _ _ hrest
  · cases hstop
    exact hjob _ _ _ _ hfails

theorem failsFor_ofResult_bind {x : Except Failure α} {f : α → Job β} (herror : ∀ f, x = .error f → kind f)
    (hok : ∀ a, x = .ok a → (f a).FailsFor w kind) : FailsFor w kind (ofResult x >>= f) := by
  intro q events stop q' h
  rcases runs_ofResult_bind_iff.mp h with ⟨a, ha, hrest⟩ | ⟨failure, hx, -, he, -⟩
  · exact hok a ha _ _ _ _ hrest
  · cases he
    exact ⟨failure, rfl, herror _ hx⟩

/-- A job that goes on with the reply to an act. -/
theorem failsFor_ask_bind (act : ServiceAct) (result : act.Reply → α) {f : α → Job β}
    (hf : ∀ q reply q', w act q reply q' → (f (result reply)).FailsFor w kind) :
    FailsFor w kind (ExceptT.mk (.ask act fun reply => .done (.ok (result reply))) >>= f) := by
  intro q events stop q' h
  obtain ⟨reply, q₁, events₁, hact, hrest, -⟩ := (runs_ask_bind_iff act result).mp h
  exact hf _ _ _ hact _ _ _ _ hrest

/-- Logging an operation adds no failure, if no record clashes. -/
theorem FailsFor.logged {job : Job α} (h : job.FailsFor w kind) {threshold : LogLevel} {operation : Text}
    {context : List (Text × Json)}
    (hstart : (LogRecord.mk .info ("🚀 Starting " ++ operation)
      (collectEntries (("operation", .text operation) :: context)) false).clash? = none)
    (hstop : ∀ (took : Nat) (end₁ : Except Stop α), (withLatency took
      (endRecord operation (collectEntries (("operation", .text operation) :: context)) took end₁)).clash? = none) :
    (job.logged threshold operation context).FailsFor w kind := by
  intro q events stop q' hrun
  obtain ⟨q₁, q₂, events', hjob, -⟩ := exists_of_runs_logged hrun hstart hstop
  exact h _ _ _ _ hjob

end Job

namespace Remote

/-! ### Unexpected failures -/

/-- The addresses that are asked for a resolved URL: its own, and those that they redirect to. -/
inductive Asks (resolved : Text) : Address → Prop where
  | first {a : Address} (reads : Address.ofText resolved = .ok a) : Asks resolved a.first
  | redirected {asked target : Address} {location : Text} (before : Asks resolved asked)
      (leads : asked.redirect location = .ok target) : Asks resolved target

/-- The failures of a fetch that are not the services' own. -/
inductive Unexpected (url : Text) : Failure → Prop where
  /-- The URL passes for a valid one, but no URL can be made of it. -/
  | raw {fault : UrlFault} (valid : validateUrl url = .valid) (fails : rawUrl url = .error fault) :
      Unexpected url (.badUrl fault.message)
  /-- The URL to ask for is no address. -/
  | address {resolved : Text} {fault : AddressFault} (resolves : requestUrl url = .ok resolved)
      (fails : Address.ofText resolved = .error fault) : Unexpected url fault.toFailure
  /-- It names no host. -/
  | host {resolved : Text} {a : Address} {fault : AddressFault} (resolves : requestUrl url = .ok resolved)
      (reads : Address.ofText resolved = .ok a) (fails : a.checkHost = .error fault) : Unexpected url fault.toFailure
  /-- An address that is asked does not say how. -/
  | unschemed {resolved : Text} {asked : Address} (resolves : requestUrl url = .ok resolved)
      (asks : Asks resolved asked) (noScheme : asked.scheme = []) :
      Unexpected url (.badUrl ("unknown url type: " ++ Text.quoted asked.text))
  /-- It redirects to what is no address. -/
  | redirect {resolved location : Text} {asked : Address} {fault : Address.RedirectFault}
      (resolves : requestUrl url = .ok resolved) (asks : Asks resolved asked)
      (fails : asked.redirect location = .error fault) (foreign : (fault.toFailure resolved).isOwn = false) :
      Unexpected url (fault.toFailure resolved)
  /-- The declared length of a response is a number of too many digits. -/
  | length {declared : Text} {e : LiteralError} (fails : Literal.readInt 10 declared = .error e) :
      Unexpected url (.literal e)
  /-- A value in the text that comes back has no meaning. -/
  | content {text : List CodePoint} {fault : Yaml.Fault} (fails : checkConfiguration text = .error (.value fault)) :
      Unexpected url (.yaml fault)

/-- A failure of a fetch that is one of the services' own, or unexpected. -/
def Known (url : Text) (f : Failure) : Prop := f.isOwn = true ∨ Unexpected url f

/-- The network gives an answer, or tells that it does not. -/
structure IsTelling {σ : Type} (w : World ServiceAct ServiceAct.Reply σ) : Prop where
  send : ∀ url q reply q', w (.send url) q reply q' → ∀ s, reply ≠ .error (.stopped s)
  receive : ∀ decoding q reply q', w (.receive decoding) q reply q' → ∀ s, reply ≠ .error (.stopped s)
  drain : ∀ decoding q reply q', w (.drain decoding) q reply q' → ∀ s, reply ≠ .error (.stopped s)

variable {σ : Type} {w : World ServiceAct ServiceAct.Reply σ} {settings : RemoteSettings} {url resolved : Text}

theorem failsFor_networkResult {α : Type} {reply : Except TransportStop α} (h : ∀ s, reply ≠ .error (.stopped s)) :
    (networkResult settings resolved reply).FailsFor w (Known url) := by
  rcases reply with (_ | reason | s) | a
  · exact Job.failsFor_fail (.inl rfl)
  · exact Job.failsFor_fail (.inl rfl)
  · exact absurd rfl (h s)
  · exact Job.failsFor_pure a

theorem failsFor_readBody (hw : IsTelling w) (fuel : Nat) (sofar : List UInt8) (decoding : ContentDecoding) :
    (readBody settings resolved fuel sofar decoding).FailsFor w (Known url) := by
  induction fuel generalizing sofar decoding with
  | zero => exact Job.failsFor_pure sofar
  | succ fuel ih =>
    refine Job.failsFor_ask_bind (.receive decoding) id fun q reply q' hreceive => ?_
    refine (failsFor_networkResult (hw.receive _ _ _ _ hreceive)).bind fun part? => ?_
    rcases part? with _ | ⟨part, decoding⟩
    · exact Job.failsFor_pure sofar
    · dsimp only
      split
      · exact Job.failsFor_fail (.inl rfl)
      · exact ih _ decoding

theorem failsFor_heed (hw : IsTelling w) (hresolved : requestUrl url = .ok resolved) {left : Nat} {asked : Address}
    (hasked : Asks resolved asked) (head : ResponseHead)
    (hfollow : ∀ n target, left = n + 1 → Asks resolved target →
      (follow settings resolved n target).FailsFor w (Known url)) :
    (heed settings resolved left asked head).FailsFor w (Known url) := by
  unfold heed
  split
  · rename_i hscheme
    exact Job.failsFor_fail (.inr (.unschemed hresolved hasked (List.isEmpty_iff.mp hscheme)))
  · split
    · exact Job.failsFor_pure head
    · rename_i location hlocation
      refine Job.failsFor_ofResult_bind (fun f hf => ?_) fun target htarget => ?_
      · obtain ⟨fault, hfault, rfl⟩ := exists_of_mapError_error hf
        by_cases hown : (fault.toFailure resolved).isOwn = true
        · exact .inl hown
        · exact .inr (.redirect hresolved hasked hfault (Bool.not_eq_true _ ▸ hown))
      · refine Job.failsFor_ask_bind (.drain _) id fun q reply q' hdrain => ?_
        refine (failsFor_networkResult (hw.drain _ _ _ _ hdrain)).bind fun _ => ?_
        cases left with
        | zero => exact Job.failsFor_fail (.inl rfl)
        | succ left => exact hfollow left target rfl (.redirected hasked (eq_ok_of_mapError htarget))

theorem failsFor_follow (hw : IsTelling w) (hresolved : requestUrl url = .ok resolved) {left : Nat} {asked : Address}
    (hasked : Asks resolved asked) : (follow settings resolved left asked).FailsFor w (Known url) := by
  induction left generalizing asked with
  | zero =>
    rw [follow_eq]
    refine Job.failsFor_ask_bind (.send asked.text) id fun q reply q' hsend => ?_
    refine (failsFor_networkResult (hw.send _ _ _ _ hsend)).bind fun head => ?_
    exact failsFor_heed hw hresolved hasked head fun n _ hn => nomatch hn
  | succ left ih =>
    rw [follow_eq]
    refine Job.failsFor_ask_bind (.send asked.text) id fun q reply q' hsend => ?_
    refine (failsFor_networkResult (hw.send _ _ _ _ hsend)).bind fun head => ?_
    refine failsFor_heed hw hresolved hasked head fun n target hn htarget => ?_
    cases hn
    exact ih htarget

theorem failsFor_checkLength (declared : Text) :
    (Job.ofResult (checkLength settings resolved declared)).FailsFor w (Known url) := by
  refine Job.failsFor_ofResult fun f hf => ?_
  unfold checkLength at hf
  split at hf
  · split at hf
    · rename_i e he
      cases hf
      exact .inr (.length he)
    · split at hf
      · cases hf
        exact .inl rfl
      · cases hf
  · cases hf

theorem failsFor_download (hw : IsTelling w) (hresolved : requestUrl url = .ok resolved) :
    (download settings resolved).FailsFor w (Known url) := by
  refine Job.failsFor_ofResult_bind (fun f hf => ?_) fun a ha => ?_
  · obtain ⟨fault, hfault, rfl⟩ := exists_of_mapError_error hf
    exact .inr (.address hresolved hfault)
  · replace ha := eq_ok_of_mapError ha
    refine Job.failsFor_ofResult_bind (fun f hf => ?_) fun _ _ => ?_
    · obtain ⟨fault, hfault, rfl⟩ := exists_of_mapError_error hf
      exact .inr (.host hresolved ha hfault)
    · refine (failsFor_follow hw hresolved (.first ha)).bind fun head => ?_
      split
      · exact Job.failsFor_fail (.inl rfl)
      · exact (failsFor_checkLength _).bind fun _ => failsFor_readBody hw _ _ _

theorem failsFor_configurationText (body : List UInt8) :
    (Job.ofResult (configurationText resolved body)).FailsFor w (Known url) := by
  refine Job.failsFor_ofResult fun f hf => ?_
  unfold configurationText at hf
  split at hf
  · cases hf
    exact .inl rfl
  · rename_i cs hcs
    cases hcheck : checkConfiguration cs with
    | ok _ =>
      rw [hcheck] at hf
      cases hf
    | error fault =>
      rw [hcheck] at hf
      cases fault with
      | value fault =>
        cases hf
        exact .inr (.content hcheck)
      | notYaml | notMapping =>
        cases hf
        exact .inl rfl

/-- Every failure of a fetch is one of the services' own, or unexpected. -/
theorem failsFor_fetchConfig (hw : IsTelling w) (settings : RemoteSettings) (threshold : LogLevel) (url : Text) :
    (fetchConfig settings threshold url).FailsFor w (Known url) := by
  refine Job.failsFor_ofResult_bind (fun f hf => ?_) fun resolved hresolved => ?_
  · unfold requestUrl at hf
    cases hvalid : validateUrl url with
    | valid =>
      rw [hvalid] at hf
      obtain ⟨fault, hraw, rfl⟩ := exists_of_mapError_error hf
      exact .inr (.raw hvalid hraw)
    | insecureScheme | unsupportedScheme | invalid =>
      rw [hvalid] at hf
      cases hf
      exact .inl rfl
  · refine Job.FailsFor.logged ?_ rfl clash?_fetchConfig
    exact (failsFor_download hw hresolved).bind fun body => failsFor_configurationText body

end Remote

end LintPreview
