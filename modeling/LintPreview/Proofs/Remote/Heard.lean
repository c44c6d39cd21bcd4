import LintPreview.Proofs.Remote.Exchange
import LintPreview.Proofs.Remote.Unexpected

/-!
# What is heard of a configuration

* `exchangesOf`, `receivedOf`: the requests and the parts of a body among the events of a run. Logging adds none
  (`Job.exists_between_of_runs_logged`, `exchangesOf_between`).
* `Hears`: the last of the requests that follow each other, with the response to it. There is at most one.
* `Heeded`: how following redirections ends for it (`endsFor_of_runs_follow`).
* `wholeBody?`, `IsBody`: the whole body of a response, within the limit. Reading ends with it, or fails
  (`body_of_runs_readBody_nil`).
-/

namespace LintPreview

open Program (World)

/-- Whether a failure is one of configurations from the network. -/
def Failure.isRemote : Failure → Bool
  | .remote .. | .insecureScheme _ | .unsupportedScheme _ | .invalidUrl _ | .httpStatus .. | .network ..
  | .contentInvalid .. => true
  | _ => false

theorem Job.bind_assoc {α β γ : Type} (job : Job α) (f : α → Job β) (g : β → Job γ) :
    job >>= f >>= g = job >>= fun a => f a >>= g := by
  apply ExceptT.ext
  rw [Program.run_stoppable_bind, Program.run_stoppable_bind, Program.run_stoppable_bind, Program.bind_assoc]
  congr
  funext e
  cases e with
  | ok a => exact (Program.run_stoppable_bind (f a) g).symm
  | error stop => rfl

/-! ### What is sent and received -/

/-- The reply to asking for a part of a body. -/
abbrev PartReply : Type := Except TransportStop (Option (List UInt8 × Remote.ContentDecoding))

namespace ServiceEvent

/-- The request in an event, with what came back. -/
def exchange? : ServiceEvent → Option Exchange
  | ⟨.send url, reply⟩ => some (url, reply)
  | _ => none

/-- What is received in an event. -/
def received? : ServiceEvent → Option PartReply
  | ⟨.receive _, reply⟩ => some reply
  | _ => none

end ServiceEvent

/-- The requests among events, with what came back. -/
def exchangesOf (events : List ServiceEvent) : List Exchange := events.filterMap ServiceEvent.exchange?

/-- What is received in events. -/
def receivedOf (events : List ServiceEvent) : List PartReply := events.filterMap ServiceEvent.received?

/-- An act that receives nothing. -/
def ServiceAct.IsDeaf (act : ServiceAct) : Prop := ∀ decoding, act ≠ .receive decoding

section

variable {events events' : List ServiceEvent}

theorem exchangesOf_append : exchangesOf (events ++ events') = exchangesOf events ++ exchangesOf events' :=
  List.filterMap_append

theorem receivedOf_append : receivedOf (events ++ events') = receivedOf events ++ receivedOf events' :=
  List.filterMap_append

theorem exchangesOf_eq_nil (h : ∀ event ∈ events, event.1.IsQuiet) : exchangesOf events = [] := by
  rw [exchangesOf, List.filterMap_eq_nil_iff]
  rintro ⟨act, reply⟩ hevent
  cases act with
  | send url => exact absurd rfl (h _ hevent url)
  | _ => rfl

theorem receivedOf_eq_nil (h : ∀ event ∈ events, event.1.IsDeaf) : receivedOf events = [] := by
  rw [receivedOf, List.filterMap_eq_nil_iff]
  rintro ⟨act, reply⟩ hevent
  cases act with
  | receive decoding => exact absurd rfl (h _ hevent decoding)
  | _ => rfl

/-- Notes are no part of what is sent and received. -/
theorem exchangesOf_between {before after : List ServiceEvent} (h : ∀ event ∈ before ++ after, event.1.IsNote) :
    exchangesOf (before ++ events ++ after) = exchangesOf events ∧
      receivedOf (before ++ events ++ after) = receivedOf events := by
  have hquiet : ∀ event : ServiceEvent, event.1.IsNote → event.1.IsQuiet ∧ event.1.IsDeaf := by
    rintro ⟨act, reply⟩ (rfl | ⟨record, rfl⟩) <;> exact ⟨fun _ => by simp, fun _ => by simp⟩
  have hbefore := fun event hevent => hquiet event (h event (List.mem_append_left after hevent))
  have hafter := fun event hevent => hquiet event (h event (List.mem_append_right before hevent))
  rw [exchangesOf_append, exchangesOf_append, receivedOf_append, receivedOf_append,
    exchangesOf_eq_nil fun event hevent => (hbefore event hevent).1,
    exchangesOf_eq_nil fun event hevent => (hafter event hevent).1,
    receivedOf_eq_nil fun event hevent => (hbefore event hevent).2,
    receivedOf_eq_nil fun event hevent => (hafter event hevent).2]
  simp

theorem exchangesOf_send_cons (url : Text) (reply : Except TransportStop ResponseHead) :
    exchangesOf (⟨.send url, reply⟩ :: events) = (url, reply) :: exchangesOf events := rfl

theorem exchangesOf_drain_cons (decoding : Remote.ContentDecoding) (reply : Except TransportStop Unit) :
    exchangesOf (⟨.drain decoding, reply⟩ :: events) = exchangesOf events := rfl

theorem receivedOf_receive_cons (decoding : Remote.ContentDecoding) (reply : PartReply) :
    receivedOf (⟨.receive decoding, reply⟩ :: events) = reply :: receivedOf events := rfl

end

namespace Remote

variable {σ α : Type} {w : World ServiceAct ServiceAct.Reply σ} {settings : RemoteSettings} {url : Text} {q q' : σ}
  {events : List ServiceEvent}

/-! ### The last response -/

/-- After requests that follow each other from an address on, `Hears a xs asked head`: the last one is for `asked`, and
`head` is the response to it. -/
inductive Hears : Address → List Exchange → Address → ResponseHead → Prop where
  | last (a : Address) (head : ResponseHead) : Hears a [(a.text, .ok head)] a head
  | redirected {a b asked : Address} {head last : ResponseHead} {location : Text} {xs : List Exchange}
      (scheme : a.scheme ≠ []) (redirects : ResponseHead.target? head = some location)
      (target : a.redirect location = .ok b) (goesOn : Hears b xs asked last) :
      Hears a ((a.text, .ok head) :: xs) asked last

theorem Hears.ne_nil {a asked : Address} {xs : List Exchange} {head : ResponseHead} (h : Hears a xs asked head) :
    xs ≠ [] := by
  cases h <;> exact List.cons_ne_nil _ _

theorem Hears.unique {a asked asked' : Address} {xs : List Exchange} {head head' : ResponseHead}
    (h : Hears a xs asked head) (h' : Hears a xs asked' head') : asked = asked' ∧ head = head' := by
  induction h with
  | last a head =>
    cases h' with
    | last => exact ⟨rfl, rfl⟩
    | redirected _ _ _ goesOn => exact absurd rfl goesOn.ne_nil
  | redirected _ redirects target goesOn ih =>
    cases h' with
    | last => exact absurd rfl goesOn.ne_nil
    | redirected _ redirects' target' goesOn' =>
      cases redirects.symm.trans redirects'
      cases target.symm.trans target'
      exact ih goesOn'

/-- How following ends for the last response. -/
inductive Heeded (url : Text) (asked : Address) (head : ResponseHead) : Except Stop ResponseHead → Prop where
  /-- The address that was asked names no scheme. -/
  | unschemed (noScheme : asked.scheme = []) :
      Heeded url asked head (.error (.failed (.badUrl ("unknown url type: " ++ Text.quoted asked.text))))
  /-- The response does not redirect. -/
  | final (scheme : asked.scheme ≠ []) (stays : ResponseHead.target? head = none) : Heeded url asked head (.ok head)
  /-- It redirects nowhere. -/
  | lost {location : Text} {fault : Address.RedirectFault} (scheme : asked.scheme ≠ [])
      (redirects : ResponseHead.target? head = some location) (fails : asked.redirect location = .error fault) :
      Heeded url asked head (.error (.failed (fault.toFailure url)))
  /-- It redirects somewhere, but its body does not come to an end, or it is one redirection too many. -/
  | stuck {location : Text} {target : Address} {f : Failure} (scheme : asked.scheme ≠ [])
      (redirects : ResponseHead.target? head = some location) (leads : asked.redirect location = .ok target)
      (remote : f.isRemote = true) : Heeded url asked head (.error (.failed f))

/-- The end of a job that has failed as jobs of the network do. -/
def IsRemoteEnd (e : Except Stop α) : Prop := ∃ f, e = .error (.failed f) ∧ f.isRemote = true

/-- Following from an address on ends for the last response, or the network fails before there is one. -/
def EndsFor (url : Text) (a : Address) (xs : List Exchange) (e : Except Stop ResponseHead) : Prop :=
  (∃ asked head, Hears a xs asked head ∧ Heeded url asked head e) ∨ (∀ asked head, ¬ Hears a xs asked head) ∧ IsRemoteEnd e

theorem EndsFor.redirected {a b : Address} {head : ResponseHead} {location : Text} {xs : List Exchange}
    {e : Except Stop ResponseHead} (h : EndsFor url b xs e) (scheme : a.scheme ≠ [])
    (redirects : ResponseHead.target? head = some location) (target : a.redirect location = .ok b) (hne : xs ≠ []) :
    EndsFor url a ((a.text, .ok head) :: xs) e := by
  rcases h with ⟨asked, last, hears, heeded⟩ | ⟨hnone, hremote⟩
  · exact .inl ⟨asked, last, .redirected scheme redirects target hears, heeded⟩
  · refine .inr ⟨fun asked last hears => ?_, hremote⟩
    cases hears with
    | last => exact hne rfl
    | redirected _ redirects' target' goesOn =>
      cases redirects.symm.trans redirects'
      cases target.symm.trans target'
      exact hnone asked last goesOn

/-- What the network gives is passed on; otherwise the job fails as jobs of the network do. -/
theorem runs_networkResult_bind {β : Type} {reply : Except TransportStop α} (htells : ∀ s, reply ≠ .error (.stopped s))
    {f : α → Job β} {e : Except Stop β} (h : Job.Runs w (networkResult settings url reply >>= f) q events e q') :
    (∃ a, reply = .ok a ∧ Job.Runs w (f a) q events e q') ∨
    (∀ a, reply ≠ .ok a) ∧ events = [] ∧ IsRemoteEnd e := by
  have hfails : ∀ failure, failure.isRemote = true → Job.Runs w (Job.fail failure >>= f) q events e q' →
      events = [] ∧ IsRemoteEnd e := by
    intro failure hremote hrun
    rcases Job.runs_bind_iff.mp hrun with ⟨a, q₁, events₁, events₂, hfirst, -, -⟩ | ⟨stop, hfirst, rfl⟩
    · cases (Job.runs_fail_iff.mp hfirst).2.1
    · obtain ⟨rfl, hstop, -⟩ := Job.runs_fail_iff.mp hfirst
      exact ⟨rfl, failure, congrArg Except.error (Except.error.inj hstop), hremote⟩
  rcases reply with (_ | reason | s) | a
  · exact .inr ⟨fun _ => by simp, hfails _ rfl h⟩
  · exact .inr ⟨fun _ => by simp, hfails _ rfl h⟩
  · exact absurd rfl (htells s)
  · exact .inl ⟨a, rfl, h⟩

theorem endsFor_of_runs_heed (hw : IsTelling w) {left : ℕ} {a : Address} {head : ResponseHead} {e : Except Stop ResponseHead}
    (hfollow : ∀ left' b q events e q', left = left' + 1 → Job.Runs w (follow settings url left' b) q events e q' →
      exchangesOf events ≠ [] ∧ receivedOf events = [] ∧ EndsFor url b (exchangesOf events) e)
    (h : Job.Runs w (heed settings url left a head) q events e q') :
    receivedOf events = [] ∧ EndsFor url a ((a.text, .ok head) :: exchangesOf events) e := by
  unfold heed at h
  split at h
  · rename_i hscheme
    obtain ⟨rfl, rfl, -⟩ := Job.runs_fail_iff.mp h
    exact ⟨rfl, .inl ⟨a, head, .last a head, .unschemed (List.isEmpty_iff.mp hscheme)⟩⟩
  · rename_i hscheme
    replace hscheme : a.scheme ≠ [] := by simpa using hscheme
    split at h
    · rename_i hstays
      obtain ⟨rfl, rfl, -⟩ := Job.runs_pure_iff.mp h
      exact ⟨rfl, .inl ⟨a, head, .last a head, .final hscheme hstays⟩⟩
    · rename_i location hlocation
      rcases Job.runs_ofResult_bind_iff.mp h with ⟨target, htarget, hdrains⟩ | ⟨failure, hfailure, rfl, rfl, -⟩
      · replace htarget := eq_ok_of_mapError htarget
        obtain ⟨reply, q₁, events', hdrain, hrest, rfl⟩ :=
          (Job.runs_ask_bind_iff (.drain (ContentDecoding.ofHeader head.codings)) id).mp hdrains
        rw [exchangesOf_drain_cons]
        rcases runs_networkResult_bind (hw.drain _ _ _ _ hdrain) hrest with ⟨-, -, hrest⟩ | ⟨-, rfl, f, rfl, hremote⟩
        · cases left with
          | zero =>
            obtain ⟨rfl, rfl, -⟩ := Job.runs_fail_iff.mp hrest
            exact ⟨rfl, .inl ⟨a, head, .last a head, .stuck hscheme hlocation htarget rfl⟩⟩
          | succ left =>
            obtain ⟨hne, hdeaf, hends⟩ := hfollow left target _ _ _ _ rfl hrest
            exact ⟨hdeaf, hends.redirected hscheme hlocation htarget hne⟩
        · exact ⟨rfl, .inl ⟨a, head, .last a head, .stuck hscheme hlocation htarget hremote⟩⟩
      · cases hfault : a.redirect location with
        | ok target =>
          rw [hfault] at hfailure
          cases hfailure
        | error fault =>
          rw [hfault] at hfailure
          cases hfailure
          exact ⟨rfl, .inl ⟨a, head, .last a head, .lost hscheme hlocation hfault⟩⟩

/-- Every run that follows redirections ends for the last response, or the network fails before there is one. -/
theorem endsFor_of_runs_follow (hw : IsTelling w) (left : ℕ) (a : Address) {e : Except Stop ResponseHead}
    (h : Job.Runs w (follow settings url left a) q events e q') :
    exchangesOf events ≠ [] ∧ receivedOf events = [] ∧ EndsFor url a (exchangesOf events) e := by
  induction left using Nat.strong_induction_on generalizing a q q' events e with
  | _ left ih =>
    rw [follow_eq] at h
    obtain ⟨reply, q₁, events', hsend, hrest, rfl⟩ := (Job.runs_ask_bind_iff (.send a.text) id).mp h
    rw [exchangesOf_send_cons]
    refine ⟨List.cons_ne_nil _ _, ?_⟩
    rcases runs_networkResult_bind (hw.send _ _ _ _ hsend) hrest with ⟨head, rfl, hheed⟩ | ⟨hfails, rfl, hremote⟩
    · refine endsFor_of_runs_heed hw ?_ hheed
      rintro left' b q events e q' rfl hrun
      exact ih left' (Nat.lt_succ_self left') b hrun
    · refine ⟨rfl, .inr ⟨fun asked last hhears => ?_, hremote⟩⟩
      cases hhears with
      | last | redirected => exact hfails _ rfl

/-! ### The body -/

/-- The body that is received part by part, if it comes to an end. -/
def wholeBody? : List PartReply → Option (List UInt8)
  | [.ok none] => some []
  | .ok (some part) :: replies => (wholeBody? replies).map (part.1 ++ ·)
  | _ => none

theorem wholeBody?_part (part : List UInt8 × ContentDecoding) (replies : List PartReply) :
    wholeBody? (.ok (some part) :: replies) = (wholeBody? replies).map (part.1 ++ ·) := rfl

theorem wholeBody?_of_fails {reply : PartReply} (h : ∀ part?, reply ≠ .ok part?) (replies : List PartReply) :
    wholeBody? (reply :: replies) = none := by
  cases reply with
  | ok part? => exact absurd rfl (h part?)
  | error => rfl

/-- The whole body of a response has been received, and keeps the limit. -/
structure IsBody (settings : RemoteSettings) (replies : List PartReply) (body : List UInt8) : Prop where
  whole : wholeBody? replies = some body
  fits : body.length ≤ settings.maxBytes.toNat

theorem IsBody.unique {replies : List PartReply} {body body' : List UInt8} (h : IsBody settings replies body)
    (h' : IsBody settings replies body') : body = body' :=
  Option.some.inj (h.whole.symm.trans h'.whole)

/-- The network tells how it ends, and no part of a body is empty. -/
structure IsNetwork (w : World ServiceAct ServiceAct.Reply σ) : Prop extends IsTelling w where
  part : ∀ decoding q part rest q', w (.receive decoding) q (.ok (some (part, rest))) q' → part ≠ []

/-- Reading the rest of a body ends with all of it, or as jobs of the network fail: then it does not come to an end, or
is too long. -/
theorem body_of_runs_readBody (hw : IsNetwork w) {fuel : ℕ} {sofar : List UInt8} {decoding : ContentDecoding}
    {e : Except Stop (List UInt8)} (hfuel : settings.maxBytes.toNat < fuel + sofar.length)
    (hfits : sofar.length ≤ settings.maxBytes.toNat)
    (h : Job.Runs w (readBody settings url fuel sofar decoding) q events e q') :
    (∃ rest, wholeBody? (receivedOf events) = some rest ∧ sofar.length + rest.length ≤ settings.maxBytes.toNat ∧
      e = .ok (sofar ++ rest)) ∨
    (∀ rest, wholeBody? (receivedOf events) = some rest → settings.maxBytes.toNat < sofar.length + rest.length) ∧
      IsRemoteEnd e := by
  -- each part makes the body longer, so the fuel lasts until the limit is passed
  induction fuel generalizing sofar decoding q events with
  | zero => omega
  | succ fuel ih =>
    rw [readBody_succ] at h
    obtain ⟨reply, q₁, events', hreceive, hrest, rfl⟩ := (Job.runs_ask_bind_iff (.receive decoding) id).mp h
    rw [receivedOf_receive_cons]
    rcases runs_networkResult_bind (hw.receive _ _ _ _ hreceive) hrest with ⟨part?, rfl, hpart⟩ | ⟨hfails, rfl, hremote⟩
    · rcases part? with - | ⟨part, decoding'⟩
      · obtain ⟨rfl, rfl, -⟩ := Job.runs_pure_iff.mp hpart
        exact .inl ⟨[], rfl, hfits, by rw [List.append_nil]⟩
      · have hne : 0 < part.length := List.length_pos_of_ne_nil (hw.part _ _ _ _ _ hreceive)
        have hlength : (sofar ++ part).length = sofar.length + part.length := List.length_append
        rw [wholeBody?_part]
        rw [heedPart] at hpart
        split at hpart
        · obtain ⟨rfl, rfl, -⟩ := Job.runs_fail_iff.mp hpart
          exact .inr ⟨fun rest hwhole => (by cases hwhole), _, rfl, rfl⟩
        · rcases ih (by omega) (by omega) hpart with ⟨rest, hwhole, hlimit, rfl⟩ | ⟨hlong, hremote⟩
          · refine .inl ⟨part ++ rest, by rw [hwhole]; rfl, ?_, by rw [List.append_assoc]⟩
            rwa [List.length_append, ← Nat.add_assoc, ← hlength]
          · refine .inr ⟨fun rest hwhole => ?_, hremote⟩
            obtain ⟨rest', hwhole', rfl⟩ := Option.map_eq_some_iff.mp hwhole
            rw [List.length_append, ← Nat.add_assoc, ← hlength]
            exact hlong rest' hwhole'
    · refine .inr ⟨fun rest hwhole => ?_, hremote⟩
      rw [wholeBody?_of_fails hfails] at hwhole
      cases hwhole

/-- Reading a body ends with all of it, or as jobs of the network fail. -/
theorem body_of_runs_readBody_nil (hw : IsNetwork w) {decoding : ContentDecoding} {e : Except Stop (List UInt8)}
    (h : Job.Runs w (readBody settings url (settings.maxBytes.toNat + 1) [] decoding) q events e q') :
    (∃ body, IsBody settings (receivedOf events) body ∧ e = .ok body) ∨
      (∀ body, ¬ IsBody settings (receivedOf events) body) ∧ IsRemoteEnd e := by
  rcases body_of_runs_readBody hw (by simp) (by simp) h with ⟨body, hwhole, hfits, rfl⟩ | ⟨hlong, hremote⟩
  · exact .inl ⟨body, ⟨hwhole, by simpa using hfits⟩, rfl⟩
  · refine .inr ⟨fun body hbody => ?_, hremote⟩
    have hlimit := hlong body hbody.whole
    rw [List.length_nil, Nat.zero_add] at hlimit
    exact absurd hbody.fits (Nat.not_le.mpr hlimit)

end Remote

end LintPreview
