import LintPreview.Proofs.Run.Moments
import LintPreview.Remote.Fetch

/-!
# The steps of a download

* `Remote.Address.first`: the address that is asked for first.
* `Remote.networkResult_eq`: what the network replies is passed on, or ends the job.
* `Remote.heed`, `Remote.follow_eq`: following redirections is asking, and then doing what the response says.
* `Remote.onlyAsks_readBody`: reading a body only asks for its parts.
-/

namespace LintPreview.Remote

variable {α : Type} {kind : ServiceAct → Prop}

/-- The address that is asked for first: one that does not say where it leads is asked from nowhere. -/
def Address.first (a : Address) : Address := if a.isAbsolute then a else a.fromNowhere

/-- What the network replies to a request is passed on, or ends the job. -/
theorem networkResult_eq (settings : RemoteSettings) (url : Text) (reply : Except TransportStop α) :
    (∃ a, reply = .ok a ∧ networkResult settings url reply = pure a) ∨
    ∃ stop, networkResult settings url reply = Job.ofEnd (.error stop) := by
  cases reply with
  | ok a => exact .inl ⟨a, rfl, rfl⟩
  | error why => cases why <;> exact .inr ⟨_, rfl⟩

/-- What is done with the response to a request for an address. -/
def heed (settings : RemoteSettings) (url : Text) (left : Nat) (a : Address) (head : ResponseHead) : Job ResponseHead :=
  if a.scheme.isEmpty then Job.fail (.badUrl ("unknown url type: " ++ Text.quoted a.text))
  else match ResponseHead.target? head with
    | none => return head
    | some location => do
      let target ← Job.ofResult ((a.redirect location).mapError (Address.RedirectFault.toFailure url))
      networkResult settings url (← Job.drain (ContentDecoding.ofHeader head.codings))
      match left with
      | 0 => Job.fail (.network url "Exceeded maximum allowed redirects.")
      | left + 1 => follow settings url left target

theorem follow_eq (settings : RemoteSettings) (url : Text) (left : Nat) (a : Address) :
    follow settings url left a =
      Job.send a.text >>= fun reply => networkResult settings url reply >>= heed settings url left a := by
  -- The equations of the recursion are large, so it is opened itself.
  cases left <;> delta heed follow <;> rfl

theorem onlyAsks_networkResult (settings : RemoteSettings) (url : Text) (reply : Except TransportStop α) :
    (networkResult settings url reply).OnlyAsks kind := by
  rcases networkResult_eq settings url reply with ⟨a, -, h⟩ | ⟨stop, h⟩
  · exact h ▸ Job.onlyAsks_pure a
  · exact h ▸ Job.onlyAsks_ofEnd _

/-- Reading a body only asks for its parts. -/
theorem onlyAsks_readBody (hreceive : ∀ decoding, kind (.receive decoding)) (settings : RemoteSettings) (url : Text)
    (fuel : Nat) (sofar : List UInt8) (decoding : ContentDecoding) :
    (readBody settings url fuel sofar decoding).OnlyAsks kind := by
  induction fuel generalizing sofar decoding with
  | zero => exact Job.onlyAsks_pure sofar
  | succ fuel ih =>
    refine (Job.onlyAsks_ask (hreceive decoding)).bind fun _ => (onlyAsks_networkResult ..).bind fun part? => ?_
    rcases part? with _ | ⟨part, decoding⟩
    · exact Job.onlyAsks_pure sofar
    · dsimp only
      split
      · exact Job.onlyAsks_fail _
      · exact ih _ decoding

end LintPreview.Remote
