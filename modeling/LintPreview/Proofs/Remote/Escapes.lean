import LintPreview.Proofs.Remote.Heard
import LintPreview.Proofs.Run.Rehearsed

/-!
# How a fetch ends

* `Remote.Fate`: how a fetch ends for the last response and what is received of its body (`fate_of_runs_download`).
* `Remote.Slips`, `Remote.Escapes`: the failures that are not those of configurations from the network, each with what
  it comes from.
* `Remote.ends_fetchConfig`: a fetch always comes to an end, with a text or a failure, and those failures are the end
  just where there is what they come from. A text is that of a whole body (`Remote.exists_body_of_runs_fetchConfig`).
* `Rehearsal.Telling`: rehearsals in which the network tells how it ends.
-/

namespace LintPreview

open Program (World)

namespace Remote

variable {σ α : Type} {w : World ServiceAct ServiceAct.Reply σ} {settings : RemoteSettings} {url : Text} {q q' : σ}
  {events : List ServiceEvent}

/-! ### The end of a fetch -/

/-- A response that is read: it comes from an address with a scheme, does not redirect, and tells of success. -/
structure IsFinal (asked : Address) (head : ResponseHead) : Prop where
  scheme : asked.scheme ≠ []
  stays : ResponseHead.target? head = none
  success : isSuccess head.status = true

/-- How fetching a configuration ends for the last response and what is received of its body. -/
inductive Fate (settings : RemoteSettings) (url : Text) (replies : List PartReply) (asked : Address)
    (head : ResponseHead) : Except Stop Text → Prop where
  /-- The last response is not followed, and not read. -/
  | unread {stop : Stop} (heeded : Heeded url asked head (.error stop)) : Fate settings url replies asked head (.error stop)
  /-- It does not tell of success. -/
  | refused (scheme : asked.scheme ≠ []) (stays : ResponseHead.target? head = none)
      (status : isSuccess head.status = false) :
      Fate settings url replies asked head (.error (.failed (.httpStatus url head.status)))
  /-- Its declared length is too large, or no number. -/
  | undeclared {f : Failure} (final : IsFinal asked head) (fails : checkLength settings url head.declaredLength = .error f) :
      Fate settings url replies asked head (.error (.failed f))
  /-- Its body does not come to an end. -/
  | cut {e : Except Stop Text} (final : IsFinal asked head) (declared : checkLength settings url head.declaredLength = .ok ())
      (incomplete : ∀ body, ¬ IsBody settings replies body) (remote : IsRemoteEnd e) :
      Fate settings url replies asked head e
  /-- Its body is read. -/
  | whole {body : List UInt8} (final : IsFinal asked head)
      (declared : checkLength settings url head.declaredLength = .ok ()) (complete : IsBody settings replies body) :
      Fate settings url replies asked head ((configurationText url body).mapError .failed)

/-- What is done with the last response. -/
def transfer (settings : RemoteSettings) (url : Text) (head : ResponseHead) : Job (List UInt8) :=
  if !isSuccess head.status then Job.fail (.httpStatus url head.status)
  else do
    Job.ofResult (checkLength settings url head.declaredLength)
    readBody settings url (settings.maxBytes.toNat + 1) [] (ContentDecoding.ofHeader head.codings)

theorem download_eq {a : Address} (ha : Address.ofText url = .ok a) (hhost : a.checkHost = .ok ()) :
    download settings url = follow settings url maxRedirects a.first >>= transfer settings url := by
  unfold download
  rw [ha]
  show (Job.ofResult (a.checkHost.mapError _) >>= _) = _
  rw [hhost]
  rfl

/-- A response that comes from an address with a scheme and does not redirect. -/
theorem fate_of_runs_transfer (hw : IsNetwork w) {asked : Address} {head : ResponseHead} {e : Except Stop Text}
    (hscheme : asked.scheme ≠ []) (hstays : ResponseHead.target? head = none)
    (h : Job.Runs w (transfer settings url head >>= fun body => Job.ofResult (configurationText url body)) q events e q') :
    Fate settings url (receivedOf events) asked head e := by
  unfold transfer at h
  cases hsuccess : isSuccess head.status with
  | false =>
    rw [hsuccess] at h
    rcases Job.runs_bind_iff.mp h with ⟨body, q₁, events₁, events₂, hfails, -, -⟩ | ⟨stop, hfails, rfl⟩
    · cases (Job.runs_fail_iff.mp hfails).2.1
    · cases (Job.runs_fail_iff.mp hfails).2.1
      exact .refused hscheme hstays hsuccess
  | true =>
    rw [hsuccess] at h
    have hfinal : IsFinal asked head := ⟨hscheme, hstays, hsuccess⟩
    rcases Job.runs_bind_iff.mp h with ⟨body, q₁, events₁, events₂, hread, hresult, rfl⟩ | ⟨stop, hread, rfl⟩
    · obtain ⟨rfl, rfl, -⟩ := Job.runs_ofResult_iff.mp hresult
      rw [List.append_nil]
      rcases Job.runs_ofResult_bind_iff.mp hread with ⟨⟨⟩, hdeclared, hread⟩ | ⟨f, -, -, ⟨⟩, -⟩
      rcases body_of_runs_readBody_nil hw hread with ⟨body', hbody, ⟨⟩⟩ | ⟨-, f, ⟨⟩, -⟩
      exact .whole hfinal hdeclared hbody
    · rcases Job.runs_ofResult_bind_iff.mp hread with ⟨⟨⟩, hdeclared, hread⟩ | ⟨f, hdeclared, -, hstop, -⟩
      · rcases body_of_runs_readBody_nil hw hread with ⟨body, -, ⟨⟩⟩ | ⟨hincomplete, f, ⟨⟩, hremote⟩
        exact .cut hfinal hdeclared hincomplete ⟨f, rfl, hremote⟩
      · cases hstop
        exact .undeclared hfinal hdeclared

theorem onlyAsks_transfer {kind : ServiceAct → Prop} (hreceive : ∀ decoding, kind (.receive decoding))
    (settings : RemoteSettings) (url : Text) (head : ResponseHead) :
    (transfer settings url head >>= fun body => Job.ofResult (configurationText url body)).OnlyAsks kind := by
  refine Job.OnlyAsks.bind ?_ fun body => Job.onlyAsks_ofResult _
  unfold transfer
  split
  · exact Job.onlyAsks_fail _
  · exact (Job.onlyAsks_ofResult _).bind fun _ => onlyAsks_readBody hreceive ..

/-- Every run that fetches a text ends for the last response and its body, or the network fails before there is one. -/
theorem fate_of_runs_download (hw : IsNetwork w) {a : Address} (ha : Address.ofText url = .ok a)
    (hhost : a.checkHost = .ok ()) {e : Except Stop Text}
    (h : Job.Runs w (download settings url >>= fun body => Job.ofResult (configurationText url body)) q events e q') :
    (∃ asked head, Hears a.first (exchangesOf events) asked head ∧ Fate settings url (receivedOf events) asked head e) ∨
      (∀ asked head, ¬ Hears a.first (exchangesOf events) asked head) ∧ IsRemoteEnd e := by
  have hdownload : (download settings url >>= fun body => Job.ofResult (configurationText url body)) =
      follow settings url maxRedirects a.first >>= fun head =>
        transfer settings url head >>= fun body => Job.ofResult (configurationText url body) := by
    rw [download_eq ha hhost, Job.bind_assoc]
  rw [hdownload] at h
  rcases Job.runs_bind_iff.mp h with ⟨head, q₁, events₁, events₂, hfollow, htransfer, rfl⟩ | ⟨stop, hfollow, rfl⟩
  · have hquiet : exchangesOf events₂ = [] :=
      exchangesOf_eq_nil ((onlyAsks_transfer (fun _ _ => by simp) settings url head).of_mem htransfer)
    obtain ⟨-, hdeaf, hends⟩ := endsFor_of_runs_follow hw.toIsTelling _ _ hfollow
    rw [exchangesOf_append, hquiet, List.append_nil, receivedOf_append, hdeaf, List.nil_append]
    rcases hends with ⟨asked, last, hhears, hheeded⟩ | ⟨-, f, ⟨⟩, -⟩
    cases hheeded with
    | final hscheme hstays => exact .inl ⟨asked, head, hhears, fate_of_runs_transfer hw hscheme hstays htransfer⟩
  · obtain ⟨-, -, hends⟩ := endsFor_of_runs_follow hw.toIsTelling _ _ hfollow
    rcases hends with ⟨asked, last, hhears, hheeded⟩ | ⟨hnone, f, hstop, hremote⟩
    · exact .inl ⟨asked, last, hhears, .unread hheeded⟩
    · exact .inr ⟨hnone, f, congrArg Except.error (Except.error.inj hstop), hremote⟩

/-! ### Escapes -/

/-- The last of some requests for a text that is an address is for `asked`, and `head` is the response to it. -/
def LastResponse (url : Text) (xs : List Exchange) (asked : Address) (head : ResponseHead) : Prop :=
  ∃ a, Address.ofText url = .ok a ∧ a.checkHost = .ok () ∧ Hears a.first xs asked head

/-- The failures of other kinds with which asking for an address ends. -/
inductive Slips (settings : RemoteSettings) (url : Text) (xs : List Exchange) (replies : List PartReply) :
    Failure → Prop where
  /-- The text is no address. -/
  | address {fault : AddressFault} (fails : Address.ofText url = .error fault) :
      Slips settings url xs replies fault.toFailure
  /-- Its host cannot be asked for. -/
  | host {a : Address} {fault : AddressFault} (reads : Address.ofText url = .ok a) (fails : a.checkHost = .error fault) :
      Slips settings url xs replies fault.toFailure
  /-- The address that was asked last names no scheme. -/
  | unschemed {asked : Address} {head : ResponseHead} (hears : LastResponse url xs asked head)
      (noScheme : asked.scheme = []) :
      Slips settings url xs replies (.badUrl ("unknown url type: " ++ Text.quoted asked.text))
  /-- The last response redirects to where nothing can be asked for. -/
  | redirect {asked : Address} {head : ResponseHead} {location : Text} {fault : Address.RedirectFault}
      (hears : LastResponse url xs asked head) (scheme : asked.scheme ≠ [])
      (redirects : ResponseHead.target? head = some location) (fails : asked.redirect location = .error fault)
      (foreign : (fault.toFailure url).isRemote = false) : Slips settings url xs replies (fault.toFailure url)
  /-- The declared length of the last response is made of digits, but no number is read from it. -/
  | length {asked : Address} {head : ResponseHead} {e : LiteralError} (hears : LastResponse url xs asked head)
      (final : IsFinal asked head) (digits : head.declaredLength.toList ≠ [] ∧
        ∀ c ∈ head.declaredLength.toList, Text.isDigit c = true)
      (fails : Literal.readInt 10 head.declaredLength = .error e) : Slips settings url xs replies (.literal e)
  /-- Its body is a text with a value that has no meaning. -/
  | content {asked : Address} {head : ResponseHead} {body : List UInt8} {text : List CodePoint} {fault : Yaml.Fault}
      (hears : LastResponse url xs asked head) (final : IsFinal asked head)
      (declared : checkLength settings url head.declaredLength = .ok ()) (complete : IsBody settings replies body)
      (decodes : Text.decode body = .ok text) (fails : checkConfiguration text = .error (.value fault)) :
      Slips settings url xs replies (.yaml fault)

/-- The failures of other kinds with which fetching a configuration ends. -/
inductive Escapes (settings : RemoteSettings) (url : Text) (xs : List Exchange) (replies : List PartReply) :
    Failure → Prop where
  /-- The URL passes for a valid one, but it has no raw address. -/
  | raw {fault : UrlFault} (valid : validateUrl url = .valid) (fails : rawUrl url = .error fault) :
      Escapes settings url xs replies (.badUrl fault.message)
  /-- The raw address cannot be asked for, or what comes from there is not what it should be. -/
  | resolved {resolved : Text} {f : Failure} (resolves : requestUrl url = .ok resolved)
      (slips : Slips settings resolved xs replies f) : Escapes settings url xs replies f

theorem isRemote_toFailure (fault : AddressFault) : fault.toFailure.isRemote = false := by
  cases fault <;> rfl

theorem checkLength_eq_error_iff {declared : Text} {f : Failure} (hf : f.isRemote = false) :
    checkLength settings url declared = .error f ↔ (declared.toList ≠ [] ∧ ∀ c ∈ declared.toList, Text.isDigit c = true) ∧
      ∃ e, Literal.readInt 10 declared = .error e ∧ f = .literal e := by
  have hdigits : (!declared.isEmpty && declared.toList.all Text.isDigit) = true ↔
      declared.toList ≠ [] ∧ ∀ c ∈ declared.toList, Text.isDigit c = true := by
    rw [Bool.and_eq_true, Bool.not_eq_true', List.all_eq_true]
    exact and_congr_left' List.isEmpty_eq_false_iff
  unfold checkLength
  rw [← hdigits]
  split_ifs with hnumber
  · rw [and_iff_right hnumber]
    cases hread : Literal.readInt 10 declared with
    | error e => simp [eq_comm]
    | ok n =>
      refine iff_of_false (fun h => ?_) (by simp)
      dsimp only at h
      split_ifs at h
      cases h
      cases hf
  · simp [hnumber]

theorem configurationText_eq_error_iff {body : List UInt8} {f : Failure} (hf : f.isRemote = false) :
    configurationText url body = .error f ↔
      ∃ text fault, Text.decode body = .ok text ∧ checkConfiguration text = .error (.value fault) ∧ f = .yaml fault := by
  unfold configurationText
  cases hdecode : Text.decode body with
  | error fault =>
    refine iff_of_false (fun h => ?_) (by simp)
    cases h
    cases hf
  | ok cs =>
    cases hcheck : checkConfiguration cs with
    | ok => simp [hcheck, Except.mapError, bind, Except.bind, pure, Except.pure]
    | error fault =>
      cases fault with
      | value fault =>
        simp [hcheck, Except.mapError, bind, Except.bind, ConfigurationFault.toFailure, eq_comm]
      | notYaml | notMapping =>
        refine iff_of_false (fun h => ?_) (by simp [hcheck])
        dsimp only at h
        rw [hcheck] at h
        cases h
        cases hf

section

variable {xs : List Exchange} {replies : List PartReply} {asked asked' : Address} {head head' : ResponseHead}
  {e : Except Stop Text} {f : Failure}

theorem LastResponse.unique (h : LastResponse url xs asked head) (h' : LastResponse url xs asked' head') :
    asked = asked' ∧ head = head' := by
  obtain ⟨a, ha, -, hhears⟩ := h
  obtain ⟨a', ha', -, hhears'⟩ := h'
  cases ha.symm.trans ha'
  exact hhears.unique hhears'

theorem Fate.ends (h : Fate settings url replies asked head e) : (∃ t, e = .ok t) ∨ ∃ f, e = .error (.failed f) := by
  cases h with
  | unread heeded => cases heeded <;> exact .inr ⟨_, rfl⟩
  | refused | undeclared => exact .inr ⟨_, rfl⟩
  | cut _ _ _ remote =>
    obtain ⟨f, he, -⟩ := remote
    exact .inr ⟨f, he⟩
  | @whole body =>
    cases configurationText url body with
    | ok t => exact .inl ⟨t, rfl⟩
    | error f => exact .inr ⟨f, rfl⟩

/-- A failure of another kind slips through. -/
theorem Fate.slips (hfate : Fate settings url replies asked head (.error (.failed f))) (hf : f.isRemote = false)
    (hears : LastResponse url xs asked head) : Slips settings url xs replies f := by
  generalize he : (.error (.failed f) : Except Stop Text) = e at hfate
  cases hfate with
  | unread heeded =>
    cases he
    cases heeded with
    | unschemed noScheme => exact .unschemed hears noScheme
    | lost scheme redirects fails => exact .redirect hears scheme redirects fails hf
    | stuck _ _ _ remote => exact absurd (remote.symm.trans hf) (by decide)
  | refused =>
    cases he
    cases hf
  | undeclared final fails =>
    cases he
    obtain ⟨hdigits, e, hread, rfl⟩ := (checkLength_eq_error_iff hf).mp fails
    exact .length hears final hdigits hread
  | cut _ _ _ remote =>
    obtain ⟨f', hf', hremote⟩ := remote
    cases he.trans hf'
    exact absurd (hremote.symm.trans hf) (by decide)
  | @whole body final declared complete =>
    cases htext : configurationText url body with
    | ok t =>
      rw [htext] at he
      cases he
    | error f' =>
      rw [htext] at he
      cases he
      obtain ⟨text, fault, hdecode, hcheck, rfl⟩ := (configurationText_eq_error_iff hf).mp htext
      exact .content hears final declared complete hdecode hcheck

/-- A response that is not read ends as following does. -/
theorem Fate.of_not_read (h : Fate settings url replies asked head e)
    (hnot : ¬ (asked.scheme ≠ [] ∧ ResponseHead.target? head = none)) :
    ∃ stop, e = .error stop ∧ Heeded url asked head (.error stop) := by
  cases h with
  | unread heeded => exact ⟨_, rfl, heeded⟩
  | refused scheme stays => exact absurd ⟨scheme, stays⟩ hnot
  | undeclared final | cut final | whole final => exact absurd ⟨final.scheme, final.stays⟩ hnot

/-- A response that is read ends as its declared length and its body tell. -/
theorem Fate.of_isFinal (h : Fate settings url replies asked head e) (final : IsFinal asked head) :
    (∃ f, checkLength settings url head.declaredLength = .error f ∧ e = .error (.failed f)) ∨
    checkLength settings url head.declaredLength = .ok () ∧
      ((∀ body, ¬ IsBody settings replies body) ∨
        ∃ body, IsBody settings replies body ∧ e = (configurationText url body).mapError .failed) := by
  cases h with
  | unread heeded =>
    cases heeded with
    | unschemed noScheme => exact absurd noScheme final.scheme
    | lost _ redirects | stuck _ redirects => cases redirects.symm.trans final.stays
  | refused _ _ status => exact absurd (status.symm.trans final.success) (by decide)
  | undeclared _ fails => exact .inl ⟨_, fails, rfl⟩
  | cut _ declared incomplete => exact .inr ⟨declared, .inl incomplete⟩
  | whole _ declared complete => exact .inr ⟨declared, .inr ⟨_, complete, rfl⟩⟩

/-- What slips through is how it ends. -/
theorem Slips.eq_of_fate (hslips : Slips settings url xs replies f) (hears : LastResponse url xs asked head)
    (hfate : Fate settings url replies asked head e) : e = .error (.failed f) := by
  cases hslips with
  | address fails =>
    obtain ⟨a, ha, -⟩ := hears
    cases ha.symm.trans fails
  | host reads fails =>
    obtain ⟨a, ha, hhost, -⟩ := hears
    cases ha.symm.trans reads
    cases hhost.symm.trans fails
  | unschemed hears' noScheme =>
    obtain ⟨rfl, rfl⟩ := hears.unique hears'
    obtain ⟨stop, rfl, heeded⟩ := hfate.of_not_read fun h => h.1 noScheme
    cases heeded with
    | unschemed => rfl
    | lost scheme | stuck scheme => exact absurd noScheme scheme
  | redirect hears' scheme redirects fails =>
    obtain ⟨rfl, rfl⟩ := hears.unique hears'
    obtain ⟨stop, rfl, heeded⟩ := hfate.of_not_read fun h => by cases redirects.symm.trans h.2
    cases heeded with
    | unschemed noScheme => exact absurd noScheme scheme
    | lost _ redirects' fails' =>
      cases redirects.symm.trans redirects'
      cases fails.symm.trans fails'
      rfl
    | stuck _ redirects' leads =>
      cases redirects.symm.trans redirects'
      cases fails.symm.trans leads
  | length hears' final digits fails =>
    obtain ⟨rfl, rfl⟩ := hears.unique hears'
    have hlength : checkLength settings url head.declaredLength = .error (.literal _) :=
      (checkLength_eq_error_iff rfl).mpr ⟨digits, _, fails, rfl⟩
    rcases hfate.of_isFinal final with ⟨f, hfails, rfl⟩ | ⟨hdeclared, -⟩
    · cases hlength.symm.trans hfails
      rfl
    · cases hlength.symm.trans hdeclared
  | content hears' final declared complete decodes fails =>
    obtain ⟨rfl, rfl⟩ := hears.unique hears'
    have htext : configurationText url _ = .error (.yaml _) :=
      (configurationText_eq_error_iff rfl).mpr ⟨_, _, decodes, fails, rfl⟩
    rcases hfate.of_isFinal final with ⟨f, hfails, -⟩ | ⟨-, hincomplete | ⟨body, hbody, rfl⟩⟩
    · cases declared.symm.trans hfails
    · exact absurd complete (hincomplete _)
    · rw [hbody.unique complete, htext]
      rfl

theorem Slips.isRemote (h : Slips settings url xs replies f) : f.isRemote = false := by
  cases h with
  | address | host => exact isRemote_toFailure _
  | redirect _ _ _ _ foreign => exact foreign
  | unschemed | length | content => rfl

/-- What slips through comes from the text itself, or from a response. -/
theorem Slips.comesFrom (h : Slips settings url xs replies f) :
    (∃ fault, Address.ofText url = .error fault ∧ f = fault.toFailure) ∨
    (∃ a fault, Address.ofText url = .ok a ∧ a.checkHost = .error fault ∧ f = fault.toFailure) ∨
    ∃ a asked head, Address.ofText url = .ok a ∧ a.checkHost = .ok () ∧ Hears a.first xs asked head := by
  cases h with
  | address fails => exact .inl ⟨_, fails, rfl⟩
  | host reads fails => exact .inr (.inl ⟨_, _, reads, fails, rfl⟩)
  | unschemed hears | redirect hears | length hears | content hears =>
    obtain ⟨a, ha, hhost, hhears⟩ := hears
    exact .inr (.inr ⟨a, _, _, ha, hhost, hhears⟩)

/-- A text that is no address, or one of a host that cannot be asked for, is asked for nowhere. -/
theorem eq_of_runs_download {fault : AddressFault} {e : Except Stop (List UInt8)}
    (hfault : Address.ofText url = .error fault ∨ ∃ a, Address.ofText url = .ok a ∧ a.checkHost = .error fault)
    (h : Job.Runs w (download settings url) q events e q') : e = .error (.failed fault.toFailure) := by
  unfold download at h
  rcases hfault with ha | ⟨a, ha, hhost⟩
  · rw [ha] at h
    rcases Job.runs_ofResult_bind_iff.mp h with ⟨a, ⟨⟩, -⟩ | ⟨f, ⟨⟩, -, rfl, -⟩
    rfl
  · rw [ha] at h
    rcases Job.runs_ofResult_bind_iff.mp h with ⟨a', ⟨⟩, hrest⟩ | ⟨f, ⟨⟩, -⟩
    rw [hhost] at hrest
    rcases Job.runs_ofResult_bind_iff.mp hrest with ⟨_, ⟨⟩, -⟩ | ⟨f, ⟨⟩, -, rfl, -⟩
    rfl

theorem slips_iff_of_fault {fault : AddressFault}
    (hfault : Address.ofText url = .error fault ∨ ∃ a, Address.ofText url = .ok a ∧ a.checkHost = .error fault) :
    Slips settings url xs replies f ↔ f = fault.toFailure := by
  constructor
  · intro h
    rcases hfault with ha | ⟨a, ha, hhost⟩
    · rcases h.comesFrom with ⟨fault', ha', rfl⟩ | ⟨a', fault', ha', -⟩ | ⟨a', asked, head, ha', -⟩
      · cases ha.symm.trans ha'
        rfl
      · cases ha.symm.trans ha'
      · cases ha.symm.trans ha'
    · rcases h.comesFrom with ⟨fault', ha', rfl⟩ | ⟨a', fault', ha', hhost', rfl⟩ | ⟨a', asked, head, ha', hhost', -⟩
      · cases ha.symm.trans ha'
      · cases ha.symm.trans ha'
        cases hhost.symm.trans hhost'
        rfl
      · cases ha.symm.trans ha'
        cases hhost.symm.trans hhost'
  · rintro rfl
    rcases hfault with ha | ⟨a, ha, hhost⟩
    · exact .address ha
    · exact .host ha hhost

/-- Asking for an address ends with a text, or with a failure: one of configurations from the network, or one that
slips through, and this is so if and only if there is what it comes from. -/
theorem slips_iff_of_runs (hw : IsNetwork w)
    (h : Job.Runs w (download settings url >>= fun body => Job.ofResult (configurationText url body)) q events e q') :
    ((∃ t, e = .ok t) ∨ ∃ f, e = .error (.failed f)) ∧
      ∀ f, e = .error (.failed f) ∧ f.isRemote = false ↔ Slips settings url (exchangesOf events) (receivedOf events) f := by
  have hfaulty : ∀ fault : AddressFault,
      (Address.ofText url = .error fault ∨ ∃ a, Address.ofText url = .ok a ∧ a.checkHost = .error fault) →
      ((∃ t, e = .ok t) ∨ ∃ f, e = .error (.failed f)) ∧
      ∀ f, e = .error (.failed f) ∧ f.isRemote = false ↔ Slips settings url (exchangesOf events) (receivedOf events) f := by
    intro fault hfault
    obtain rfl := Job.eq_of_runs_bind (fun _ _ _ hrun => eq_of_runs_download hfault hrun) h
    refine ⟨.inr ⟨_, rfl⟩, fun f => ?_⟩
    rw [slips_iff_of_fault hfault]
    constructor
    · rintro ⟨hf, -⟩
      cases hf
      rfl
    · rintro rfl
      exact ⟨rfl, isRemote_toFailure fault⟩
  cases ha : Address.ofText url with
  | error fault => exact hfaulty fault (.inl ha)
  | ok a =>
    cases hhost : a.checkHost with
    | error fault => exact hfaulty fault (.inr ⟨a, ha, hhost⟩)
    | ok =>
      rcases fate_of_runs_download hw ha hhost h with ⟨asked, head, hhears, hfate⟩ | ⟨hnone, failure, rfl, hremote⟩
      · have hears : LastResponse url (exchangesOf events) asked head := ⟨a, ha, hhost, hhears⟩
        refine ⟨hfate.ends, fun f => ⟨?_, fun hslips => ⟨hslips.eq_of_fate hears hfate, hslips.isRemote⟩⟩⟩
        rintro ⟨rfl, hf⟩
        exact hfate.slips hf hears
      · refine ⟨.inr ⟨failure, rfl⟩, fun f => iff_of_false ?_ fun hslips => ?_⟩
        · rintro ⟨hf, hforeign⟩
          cases hf
          exact absurd (hremote.symm.trans hforeign) (by decide)
        · rcases hslips.comesFrom with ⟨fault, ha', -⟩ | ⟨a', fault, ha', hhost', -⟩ | ⟨a', asked, head, ha', -, hhears⟩
          · cases ha.symm.trans ha'
          · cases ha.symm.trans ha'
            cases hhost.symm.trans hhost'
          · cases ha.symm.trans ha'
            exact hnone asked head hhears

end

/-- Without a URL to ask for, a fetch fails as one of configurations from the network does, or there is no raw address. -/
theorem escapes_iff_of_requestUrl {failure : Failure} (h : requestUrl url = .error failure) {xs : List Exchange}
    {replies : List PartReply} {f : Failure} :
    failure = f ∧ f.isRemote = false ↔ Escapes settings url xs replies f := by
  constructor
  · rintro ⟨rfl, hforeign⟩
    unfold requestUrl at h
    cases hvalid : validateUrl url with
    | valid =>
      cases hraw : rawUrl url with
      | ok resolved =>
        rw [hvalid, hraw] at h
        cases h
      | error fault =>
        rw [hvalid, hraw] at h
        cases h
        exact .raw hvalid hraw
    | insecureScheme | unsupportedScheme | invalid =>
      rw [hvalid] at h
      cases h
      cases hforeign
  · intro hescapes
    cases hescapes with
    | raw valid fails =>
      unfold requestUrl at h
      rw [valid, fails] at h
      cases h
      exact ⟨rfl, rfl⟩
    | resolved resolves => cases h.symm.trans resolves

/-- Fetching a configuration always comes to an end where everything gets a reply. It gives a text, or fails. The
failures that are not those of configurations from the network are these, and each of them is the end whenever there is
what it comes from, in the URL or in what came back. -/
theorem ends_fetchConfig (hw : IsNetwork w) (settings : RemoteSettings) (threshold : LogLevel) (url : Text) :
    (w.IsTotal → ∀ q, ∃ events e q', Job.Runs w (fetchConfig settings threshold url) q events e q') ∧
    ∀ q events e q', Job.Runs w (fetchConfig settings threshold url) q events e q' →
      ((∃ text, e = .ok text) ∨ ∃ f, e = .error (.failed f)) ∧
      ∀ f, e = .error (.failed f) ∧ f.isRemote = false ↔
        Escapes settings url (exchangesOf events) (receivedOf events) f := by
  refine ⟨fun htotal q => Program.exists_runs htotal _ q, fun q events e q' h => ?_⟩
  unfold fetchConfig at h
  rcases Job.runs_ofResult_bind_iff.mp h with ⟨resolved, hresolved, hlogged⟩ | ⟨failure, hfailure, rfl, rfl, -⟩
  · obtain ⟨q₁, q₂, before, events', after, hfetch, rfl, hnotes⟩ :=
      Job.exists_between_of_runs_logged hlogged rfl clash?_fetchConfig
    obtain ⟨hexchanges, hreceived⟩ := exchangesOf_between hnotes
    obtain ⟨hends, hslips⟩ := slips_iff_of_runs hw hfetch
    refine ⟨hends, fun f => ?_⟩
    rw [hexchanges, hreceived, hslips f]
    constructor
    · exact .resolved hresolved
    · intro hescapes
      cases hescapes with
      | raw valid fails =>
        cases (requestUrl_eq_ok_iff.mp hresolved).2.symm.trans fails
      | resolved resolves slips =>
        cases hresolved.symm.trans resolves
        exact slips
  · refine ⟨.inr ⟨failure, rfl⟩, fun f => ?_⟩
    rw [← escapes_iff_of_requestUrl hfailure, Except.error.injEq, Stop.failed.injEq]

/-- A text that has been fetched is that of a whole body. -/
theorem exists_body_of_runs_fetchConfig (hw : IsNetwork w) {threshold : LogLevel} {text : Text}
    (h : Job.Runs w (fetchConfig settings threshold url) q events (.ok text) q') :
    ∃ body, IsBody settings (receivedOf events) body ∧ Text.encode text = .ok body := by
  unfold fetchConfig at h
  rcases Job.runs_ofResult_bind_iff.mp h with ⟨resolved, hresolved, hlogged⟩ | ⟨failure, -, -, ⟨⟩, -⟩
  obtain ⟨q₁, q₂, before, events', after, hfetch, rfl, hnotes⟩ :=
    Job.exists_between_of_runs_logged hlogged rfl clash?_fetchConfig
  rw [(exchangesOf_between hnotes).2]
  have hfaultless : ∀ fault : AddressFault, ¬ (Address.ofText resolved = .error fault ∨
      ∃ a, Address.ofText resolved = .ok a ∧ a.checkHost = .error fault) := by
    intro fault hfault
    cases Job.eq_of_runs_bind (fun _ _ _ hrun => eq_of_runs_download hfault hrun) hfetch
  cases ha : Address.ofText resolved with
  | error fault => exact absurd (.inl ha) (hfaultless fault)
  | ok a =>
    cases hhost : a.checkHost with
    | error fault => exact absurd (.inr ⟨a, ha, hhost⟩) (hfaultless fault)
    | ok =>
      rcases fate_of_runs_download hw ha hhost hfetch with ⟨asked, head, -, hfate⟩ | ⟨-, f, ⟨⟩, -⟩
      generalize hend : (.ok text : Except Stop Text) = e at hfate
      cases hfate with
      | unread | refused | undeclared => cases hend
      | cut _ _ _ hremote =>
        obtain ⟨f, rfl, -⟩ := hremote
        cases hend
      | @whole body _ _ complete =>
        exact ⟨body, complete, (configurationText_eq_ok_iff.mp (eq_ok_of_mapError hend.symm)).1⟩

end Remote

namespace Rehearsal

/-- Whether a reply of the network is more than a stop. -/
def isStopped {α : Type} : Except TransportStop α → Bool
  | .error (.stopped _) => true
  | _ => false

/-- Whether a reply tells how the network ends. -/
def tells : (act : ServiceAct) → act.Reply → Bool
  | .send _, reply => !isStopped reply
  | .receive _, reply => !isStopped reply
  | .drain _, reply => !isStopped reply
  | _, _ => true

/-- What rehearsals answer, where the network tells how it ends. -/
def Telling : World ServiceAct ServiceAct.Reply Rehearsal :=
  fun act r reply r' => answer act r = (reply, r') ∧ tells act reply = true

/-- No part of a body is empty. -/
theorem ne_nil_of_nextPart {decoding rest : Remote.ContentDecoding} {part : List UInt8}
    {parts : List (Except TransportStop (List UInt8))} (h : (nextPart decoding parts).1 = .ok (some (part, rest))) :
    part ≠ [] := by
  fun_induction nextPart decoding parts with
  | case1 | case2 | case4 => cases h
  | case3 _ _ reply _ _ heq ih => exact ih (by rw [heq]; exact h)
  | case5 _ _ _ _ _ _ reply _ _ heq ih => exact ih (by rw [heq]; exact h)
  | case6 _ _ _ _ part' _ hne =>
    cases h
    exact hne

theorem isNetwork_telling : Remote.IsNetwork Telling where
  send url r reply r' h s hreply := by
    rw [hreply] at h
    cases h.2
  receive decoding r reply r' h s hreply := by
    rw [hreply] at h
    cases h.2
  drain decoding r reply r' h s hreply := by
    rw [hreply] at h
    cases h.2
  part decoding r part rest r' h := by
    have hreply : (nextPart decoding r.body).1 = .ok (some (part, rest)) := congrArg Prod.fst h.1
    exact ne_nil_of_nextPart hreply

/-- A rehearsal in which the network always tells how it ends. -/
theorem exists_runs_telling {α : Type} (job : Job α) (r : Rehearsal)
    (h : job.run.passes answer (fun act r => tells act (answer act r).1) r = true) :
    ∃ events, Job.Runs Telling job r events (run job r).1 (run job r).2 := by
  have htells : ∀ act r, tells act (answer act r).1 = true → Telling act (id r) (answer act r).1 (id (answer act r).2) :=
    fun _ _ hact => ⟨rfl, hact⟩
  exact Program.runs_of_passes htells h

end Rehearsal

namespace Remote

/-- A text with a day in a month that does not exist. -/
def monthThirteen : List UInt8 := [97, 58, 32, 50, 48, 48, 49, 45, 49, 51, 45, 48, 49, 10]

/-- Whether a fetch has given a text, or failed as one of configurations from the network does. -/
def isExpected : Except Stop Text → Bool
  | .ok _ => true
  | .error (.failed f) => f.isRemote
  | .error .cancelled => false

theorem isExpected_run_monthThirteen : isExpected (Rehearsal.run (fetchConfig {} .warning "https://example.com/c.yml")
    (answering { status := 200 } [monthThirteen])).1 = false := by
  decide +kernel

/-- Such a text comes back. -/
theorem ends_fetchConfig_monthThirteen : IsNetwork Rehearsal.Telling ∧
    ∃ events f r', Job.Runs Rehearsal.Telling (fetchConfig {} .warning "https://example.com/c.yml")
        (answering { status := 200 } [monthThirteen]) events (.error (.failed f)) r' ∧
      Escapes {} "https://example.com/c.yml" (exchangesOf events) (receivedOf events) f := by
  refine ⟨Rehearsal.isNetwork_telling, ?_⟩
  obtain ⟨events, hrun⟩ := Rehearsal.exists_runs_telling (fetchConfig {} .warning "https://example.com/c.yml")
    (answering { status := 200 } [monthThirteen]) (by decide +kernel)
  have hunexpected := isExpected_run_monthThirteen
  generalize Rehearsal.run (fetchConfig {} .warning "https://example.com/c.yml")
    (answering { status := 200 } [monthThirteen]) = ended at hrun hunexpected
  obtain ⟨e, r'⟩ := ended
  obtain ⟨⟨text, rfl⟩ | ⟨f, rfl⟩, hescapes⟩ :=
    (ends_fetchConfig Rehearsal.isNetwork_telling {} .warning "https://example.com/c.yml").2 _ _ _ _ hrun
  · cases hunexpected
  · exact ⟨events, f, r', hrun, (hescapes f).mp ⟨rfl, hunexpected⟩⟩

/-- Not every failure of a fetch is one of configurations from the network: a day in a month that does not exist is
another one. -/
theorem not_isExpected_fetchConfig_monthThirteen :
    ¬ ∀ (settings : RemoteSettings) (threshold : LogLevel) (url : Text) (head : ResponseHead) (parts : List (List UInt8)),
      isExpected (Rehearsal.run (fetchConfig settings threshold url) (answering head parts)).1 = true := by
  intro hall
  have hexpected := hall {} .warning "https://example.com/c.yml" { status := 200 } [monthThirteen]
  rw [isExpected_run_monthThirteen] at hexpected
  cases hexpected

end Remote

end LintPreview
