import LintPreview.Remote.Address
import LintPreview.Service.Act
import LintPreview.Settings

/-!
Configurations from the network.

* `fetchConfig`: the text behind a URL. A URL that may not be fetched sends nothing; redirections are followed; a body
  is read no further than the limit; the text must be UTF-8 and YAML that holds a mapping or nothing.
* `download`: the bytes behind a URL.
-/

namespace LintPreview.Remote

/-- The most redirections that are followed. -/
def maxRedirects : Nat := 20

/-- The statuses of a redirection. -/
def redirectStatuses : List Nat := [301, 302, 303, 307, 308]

/-- Where a response redirects to. -/
def ResponseHead.target? (head : ResponseHead) : Option Text :=
  if redirectStatuses.contains head.status then head.location else none

/-- Whether a status tells of success. -/
def isSuccess (status : Nat) : Bool := 200 ≤ status && status < 300

/-- The reply of the network, where a fault of the transport is a failure for the URL. -/
def networkResult {α : Type} (settings : RemoteSettings) (url : Text) : Except TransportStop α → Job α
  | .ok a => pure a
  | .error .timedOut =>
    Job.fail (.network url ("request timed out after " ++ settings.timeout.toText ++ " seconds"))
  | .error (.broken reason) => Job.fail (.network url reason)
  | .error (.stopped s) => throw s

/-- Why a text is no address, as a failure. -/
def AddressFault.toFailure : AddressFault → Failure
  | .loneHalf fault => .unencodable fault.message
  | .hostBeyondAscii fault => .unencodable fault.message
  | fault => .badAddress fault.message

/-- Why a redirection leads nowhere, as a failure for the URL. -/
def Address.RedirectFault.toFailure (url : Text) : Address.RedirectFault → Failure
  | .badLocation (.loneHalf fault) => .unencodable fault.message
  | .badLocation fault => .network url ("Invalid URL in location header: " ++ fault.message ++ ".")
  | .badTarget fault => fault.toFailure
  | .badUrl fault => .badUrl fault.message
  | .badHost fault => .badLabel fault

/-- The first response that does not redirect, after at most `left` redirections. -/
def follow (settings : RemoteSettings) (url : Text) : (left : Nat) → Address → Job ResponseHead
  | left, address => do
    let head ← networkResult settings url (← Job.send address.text)
    if address.scheme.isEmpty then
      Job.fail (.badUrl ("unknown url type: " ++ Text.quoted address.text))
    else match ResponseHead.target? head with
      | none => return head
      | some location => do
        let target ← Job.ofResult ((address.redirect location).mapError (Address.RedirectFault.toFailure url))
        networkResult settings url (← Job.drain (ContentDecoding.ofHeader head.codings))
        match left with
        | 0 => Job.fail (.network url "Exceeded maximum allowed redirects.")
        | left + 1 => follow settings url left target

/-- The failure of a body that is too long. -/
def tooLong (settings : RemoteSettings) (url : Text) : Failure :=
  .contentInvalid url ("response exceeds " ++ Text.ofInt settings.maxBytes ++ " bytes")

/-- Whether a declared length, if it is a number, keeps the limit. -/
def checkLength (settings : RemoteSettings) (url declared : Text) : Except Failure Unit :=
  if !declared.isEmpty && declared.toList.all Text.isDigit then
    match Literal.readInt 10 declared with
    | .error e => .error (.literal e)
    | .ok n => if settings.maxBytes < n then .error (tooLong settings url) else .ok ()
  else .ok ()

/-- The body of a response behind what has been read. As no part is empty, the limit ends the reading before the fuel
does. -/
def readBody (settings : RemoteSettings) (url : Text) :
    (fuel : Nat) → (sofar : List UInt8) → ContentDecoding → Job (List UInt8)
  | 0, sofar, _ => return sofar
  | fuel + 1, sofar, decoding => do
    match ← networkResult settings url (← Job.receive decoding) with
    | none => return sofar
    | some (part, decoding) =>
      let body := sofar ++ part
      if settings.maxBytes < body.length then Job.fail (tooLong settings url)
      else readBody settings url fuel body decoding

/-- The bytes behind a URL. -/
def download (settings : RemoteSettings) (url : Text) : Job (List UInt8) := do
  let address ← Job.ofResult ((Address.ofText url).mapError AddressFault.toFailure)
  Job.ofResult (address.checkHost.mapError AddressFault.toFailure)
  let head ← follow settings url maxRedirects (if address.isAbsolute then address else address.fromNowhere)
  if !isSuccess head.status then Job.fail (.httpStatus url head.status)
  else do
    Job.ofResult (checkLength settings url head.declaredLength)
    readBody settings url (settings.maxBytes.toNat + 1) [] (ContentDecoding.ofHeader head.codings)

/-- The text of a body, if it may be a configuration. -/
def configurationText (url : Text) (body : List UInt8) : Except Failure Text := do
  match Text.decode body with
  | .error _ => throw (.contentInvalid url "could not decode response as UTF-8 text")
  | .ok cs =>
    (checkConfiguration cs).mapError (ConfigurationFault.toFailure url)
    return Text.ofList cs

/-- The URL to ask for a user's URL. -/
def requestUrl (url : Text) : Except Failure Text :=
  match validateUrl url with
  | .insecureScheme => .error (.insecureScheme url)
  | .unsupportedScheme => .error (.unsupportedScheme url)
  | .invalid => .error (.invalidUrl url)
  | .valid => (rawUrl url).mapError fun fault => .badUrl fault.message

/-- The configuration text behind a URL. -/
def fetchConfig (settings : RemoteSettings) (threshold : LogLevel) (url : Text) : Job Text := do
  let resolved ← Job.ofResult (requestUrl url)
  Job.logged threshold "remote_config_fetch" [("url", .text resolved)] do
    let body ← download settings resolved
    Job.ofResult (configurationText resolved body)

end LintPreview.Remote
