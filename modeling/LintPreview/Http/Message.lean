import LintPreview.Json.Bytes
import LintPreview.Json.Writer
import LintPreview.Remote.Address
import LintPreview.Schema.Checked

/-!
Requests and responses.

* `pathOf`: the path that the target of a request leads to, without percent codes.
* `bodyOf`: the body of a request that holds a value.
* `Response.json`, `Response.text`: responses.
* `readForm`: the form in the body of a request, or the response that refuses it.
-/

namespace LintPreview.Http

/-- A request. The target is a path, with a query if there is one. -/
structure Request where
  method : Text := "GET"
  target : Text
  body : List UInt8 := []
deriving Repr

/-- What stands in front of a path on the site. -/
def siteStart : List CodePoint := Text.toList "http://localhost"

/-- The path that a target leads to, without percent codes. A target that names no host is read at the root of the
site, where slashes in front count as one. -/
def pathOf (target : Text) : Except Remote.AddressFault (List CodePoint) := do
  let named ← Remote.Address.ofText target
  let placed ←
    if named.isAbsolute then pure named else Remote.Address.ofChars (siteStart ++ named.fromNowhere.chars)
  return if placed.path.isEmpty then ['/'] else Text.decodeLossy (Remote.Address.percentDecoded placed.path)

/-- Why a value cannot be a body: JSON cannot write a number in it, or a text in it has no bytes. -/
inductive BodyFault where
  | notFinite
  | noBytes (run : Text.LoneHalves)
deriving DecidableEq, Repr

/-- The wording of a fault. -/
def BodyFault.message : BodyFault → Text
  | .notFinite => "Out of range float values are not JSON compliant"
  | .noBytes run => run.message

/-- The body that holds a value. -/
def bodyOf (v : Json) : Except BodyFault (List UInt8) :=
  if v.isFinite then v.toBytes.mapError .noBytes else .error .notFinite

/-- What a response holds. -/
inductive Content where
  | json (v : Json)
  | text (s : Text)

/-- A response. -/
structure Response where
  status : Nat
  content : Content

namespace Response

/-- A response that holds a value. -/
def json (status : Nat) (v : Json) : Response := ⟨status, .json v⟩

/-- A response that holds a text. -/
def text (status : Nat) (s : Text) : Response := ⟨status, .text s⟩

/-- A response that holds what there is to say. -/
def detail (status : Nat) (v : Json) : Response := .json status (.object [("detail", v)])

/-- The response to a request that cannot be answered for reasons of our own. -/
def internalError : Response := .text 500 "Internal Server Error"

/-- Whether a response can be written: no text in it holds a lone half. -/
def isWritable (r : Response) : Bool :=
  match r.content with
  | .json v => v.isWhole
  | .text s => s.isWhole

/-- The response as it is written. -/
def written (r : Response) : Response := if r.isWritable then r else .internalError

/-- The response without its content. -/
def headOnly (r : Response) : Response := { r with content := .text "" }

end Response

/-! ### Forms -/

/-- The value at a place. -/
def valueAt (v : Json) : List PlaceStep → Json
  | [] => v
  | .key name :: rest => valueAt (v.field name) rest
  | .index n :: rest =>
    match v with
    | .list items => valueAt ((items[n]?).getD .null) rest
    | _ => .null

/-- The value that is quoted with a fault: the one that has it, or the one in which something is missing. -/
def quotedValue (v : Json) (p : PlacedFault) : Json :=
  valueAt v (if p.fault = .missing then p.place.dropLast else p.place)

/-- Whether a value can be quoted in a response. -/
def isQuotable (v : Json) : Bool := v.isWhole && v.isFinite

/-- The response to a body with faults. -/
def refusal (faults : List PlacedFault) : Response :=
  .detail 422 (.list (faults.map fun p => PlacedFault.toJson { p with place := .key "body" :: p.place }))

/-- The response to a body that is no text. -/
def unreadable : Response := .detail 400 (.text "There was an error parsing the body")

/-- The form in a value. -/
def checkForm {α : Type} (check : Json → Checked α) (v : Json) : Checked α :=
  match v with
  | .object _ => check v
  | _ => Checked.fault .notFields

/-- The form in a body. -/
def readForm {α : Type} (check : Json → Checked α) (body : List UInt8) : Except Response α :=
  if body.isEmpty then .error (refusal [⟨.missing, []⟩])
  else match Json.ofBytes body with
    | none => .error unreadable
    | some (.error (.malformed m)) => .error (refusal [⟨.malformedJson, [.index m.position]⟩])
    | some (.error _) => .error unreadable
    | some (.ok v) =>
      match checkForm check v with
      | .valid form => .ok form
      | .invalid faults =>
        .error (if faults.all fun p => isQuotable (quotedValue v p) then refusal faults else .internalError)

end LintPreview.Http
