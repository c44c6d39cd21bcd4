import LintPreview.Remote.Ip
import LintPreview.Text.Lines
import LintPreview.Text.Case
import LintPreview.Text.Quoted

/-!
URLs as users write them.

* `Url.split`: a text cut into scheme, authority, path, query and fragment.
* `Url.host?`: the host in the authority.
* `validateUrl`: whether a text is a URL that may be fetched, and if not, why.
* `rawUrl`: the address of the plain text behind the page that a URL shows; every other URL stays as it is.
-/

namespace LintPreview.Remote

/-- Why a text is no URL. -/
inductive UrlFault where
  | brackets
  | futureAddress
  | notAddress (host : Text)
  | bracketedIpv4
  | hiddenDelimiter (authority : Text)
deriving DecidableEq, Repr

/-- The wording of a fault. -/
def UrlFault.message : UrlFault → Text
  | .brackets => "Invalid IPv6 URL"
  | .futureAddress => "IPvFuture address is invalid"
  | .notAddress host => Text.quoted host ++ " does not appear to be an IPv4 or IPv6 address"
  | .bracketedIpv4 => "An IPv4 address cannot be in brackets"
  | .hiddenDelimiter authority => "netloc '" ++ authority ++ "' contains invalid characters under NFKC normalization"

/-- The parts of a URL. A query or fragment that is missing and one that is empty are the same. -/
structure Url where
  scheme : List CodePoint := []
  authority : List CodePoint := []
  path : List CodePoint := []
  query : List CodePoint := []
  fragment : List CodePoint := []
deriving DecidableEq, Repr

/-! ### Cutting a text -/

/-- Characters that are dropped from the front of a URL: blanks and controls. -/
def isLeadingJunk (c : CodePoint) : Bool := c.toNat ≤ 0x20

/-- Characters that are dropped anywhere in a URL. -/
def isInnerJunk (c : CodePoint) : Bool := c == '\t' || c == '\r' || c == '\n'

/-- A text without the characters that a URL drops. -/
def cleaned (cs : List CodePoint) : List CodePoint := (cs.dropWhile isLeadingJunk).filter fun c => !isInnerJunk c

/-- Whether a character may stand in a scheme. -/
def isSchemeChar (c : CodePoint) : Bool := c.isLetter || c.isDigit || c == '+' || c == '-' || c == '.'

/-- The scheme in front of a text, in lower case, and the rest. -/
def takeScheme (cs : List CodePoint) : List CodePoint × List CodePoint :=
  match Text.cutAt ':' cs with
  | (front, some rest) =>
    if (front.head?).any CodePoint.isLetter && front.all isSchemeChar then (front.map CodePoint.toLower, rest) else ([], cs)
  | (_, none) => ([], cs)

/-- Whether a character ends an authority. -/
def endsAuthority (c : CodePoint) : Bool := c == '/' || c == '?' || c == '#'

/-- The authority in front of a text, and the rest. -/
def takeAuthority : List CodePoint → List CodePoint × List CodePoint
  | '/' :: '/' :: rest => (rest.takeWhile fun c => !endsAuthority c, rest.dropWhile fun c => !endsAuthority c)
  | cs => ([], cs)

/-- Characters that stand for a text with a delimiter in it. -/
def hidingDelimiter : List Nat := [
  0x2047, 0x2048, 0x2049, 0x2100, 0x2101, 0x2105, 0x2106, 0x2A74, 0xFE13, 0xFE16, 0xFE55, 0xFE56, 0xFE5F, 0xFE6B,
  0xFF03, 0xFF0F, 0xFF1A, 0xFF1F, 0xFF20]

/-- The authority after a user name. -/
def afterUser (authority : List CodePoint) : List CodePoint := (Text.cutAtLast '@' authority).2

/-- Whether a text is an address of a kind to come: `v`, a version, a dot and something behind it. -/
def isFutureAddress (host : List CodePoint) : Bool :=
  match Text.cutAt '.' (host.drop 1) with
  | (version, some rest) => !version.isEmpty && version.all (fun c => (Text.hexValue? c).isSome) &&
      !rest.isEmpty && !rest.contains '\n'
  | (_, none) => false

/-- Whether a host may stand in brackets. -/
def checkBracketed (host : List CodePoint) : Except UrlFault Unit :=
  if host.head? = some 'v' then if isFutureAddress host then .ok () else .error .futureAddress
  else if isIpv4 host then .error .bracketedIpv4
  else if isIpv6 host then .ok ()
  else .error (.notAddress (Text.ofList host))

/-- Whether the brackets of an authority hold an address and nothing stands around them but a port. -/
def checkBrackets (authority : List CodePoint) : Except UrlFault Unit :=
  match Text.cutAt '[' (afterUser authority) with
  | (front, some bracketed) =>
    let (host, after) := Text.cutAt ']' bracketed
    let port := after.getD []
    if !front.isEmpty then .error .brackets
    else if !port.isEmpty && port.head? ≠ some ':' then .error .brackets
    else checkBracketed host
  | (rest, none) => checkBracketed (Text.cutAt ':' rest).1

/-- Whether an authority is well formed. -/
def checkAuthority (authority : List CodePoint) : Except UrlFault Unit := do
  let opens := authority.contains '['
  let closes := authority.contains ']'
  if opens ≠ closes then throw .brackets
  if opens && closes then checkBrackets authority
  if authority.any fun c => hidingDelimiter.contains c.toNat then
    throw (.hiddenDelimiter (Text.ofList authority))

/-- The parts of a text; the scheme is in lower case. -/
def Url.split (cs : List CodePoint) : Except UrlFault Url := do
  let (scheme, rest) := takeScheme (cleaned cs)
  let (authority, rest) := takeAuthority rest
  checkAuthority authority
  let (rest, fragment) := Text.cutAt '#' rest
  let (path, query) := Text.cutAt '?' rest
  return { scheme, authority, path, query := query.getD [], fragment := fragment.getD [] }

/-- The host of a URL in lower case, without brackets; nothing if there is none. A zone keeps its case. -/
def Url.host? (u : Url) : Option (List CodePoint) :=
  let place := afterUser u.authority
  let host := match Text.cutAt '[' place with
    | (_, some bracketed) => (Text.cutAt ']' bracketed).1
    | (rest, none) => (Text.cutAt ':' rest).1
  if host.isEmpty then none
  else match Text.cutAt '%' host with
    | (name, some zone) => some (Text.lowerChars name ++ CodePoint.char '%' :: zone)
    | (name, none) => some (Text.lowerChars name)

/-- The text of parts. -/
def Url.join (u : Url) : List CodePoint :=
  let path := if !u.path.isEmpty && u.path.head? ≠ some '/' then CodePoint.char '/' :: u.path else u.path
  let text := if u.authority.isEmpty then u.path else .char '/' :: .char '/' :: (u.authority ++ path)
  let text := if u.scheme.isEmpty then text else u.scheme ++ CodePoint.char ':' :: text
  let text := if u.query.isEmpty then text else text ++ CodePoint.char '?' :: u.query
  if u.fragment.isEmpty then text else text ++ CodePoint.char '#' :: u.fragment

/-! ### Validation -/

/-- Whether a text is a URL that may be fetched. -/
inductive UrlVerdict where
  | valid
  | insecureScheme
  | unsupportedScheme
  | invalid
deriving DecidableEq, Repr

namespace UrlVerdict

/-- All verdicts. -/
def all : List UrlVerdict := [valid, insecureScheme, unsupportedScheme, invalid]

/-- The key of a verdict. -/
def key : UrlVerdict → Text
  | valid => "valid"
  | insecureScheme => "insecure_scheme"
  | unsupportedScheme => "unsupported_scheme"
  | invalid => "invalid"

/-- The verdict with exactly this key. -/
def ofKey? (key : Text) : Option UrlVerdict := all.find? (·.key = key)

end UrlVerdict

/-- The verdict on the parts of a URL. -/
def Url.verdict (u : Url) : UrlVerdict :=
  if u.scheme.isEmpty then .invalid
  else if u.scheme = Text.toList "http" then .insecureScheme
  else if u.scheme ≠ Text.toList "https" then .unsupportedScheme
  else if u.host?.isNone then .invalid
  else .valid

/-- Whether a text, without the blanks around it, is a URL that may be fetched. -/
def validateUrl (url : Text) : UrlVerdict :=
  match Url.split (Text.trimChars url.toList) with
  | .ok u => u.verdict
  | .error _ => .invalid

/-! ### Raw addresses -/

/-- The host of repository pages. -/
def pageHost : List CodePoint := Text.toList "github.com"

/-- The host of the plain files of repositories. -/
def rawPageHost : List CodePoint := Text.toList "raw.githubusercontent.com"

/-- The host of snippet pages. -/
def snippetHost : List CodePoint := Text.toList "gist.github.com"

/-- The host of plain snippets. -/
def rawSnippetHost : List CodePoint := Text.toList "gist.githubusercontent.com"

/-- The parts of a path between slashes, without empty ones. -/
def Url.segments (u : Url) : List (List CodePoint) := (Text.splitOnChar '/' u.path).filter (!·.isEmpty)

/-- The URL of segments on a host, with the query of another URL. -/
def Url.elsewhere (u : Url) (host : List CodePoint) (segments : List (List CodePoint)) : Url :=
  { scheme := Text.toList "https", authority := host, path := segments.flatMap fun s => CodePoint.char '/' :: s, query := u.query }

/-- The segments of a plain snippet. -/
def snippetSegments (segments : List (List CodePoint)) : List (List CodePoint) :=
  let raw := Text.toList "raw"
  if segments.getLast? = some raw ∨ segments[2]? = some raw then segments else segments.take 2 ++ [raw]

/-- The parts of the raw address behind a URL, if it has one. -/
def Url.raw? (u : Url) : Option Url :=
  match u.host? with
  | none => none
  | some host =>
    if host = pageHost then
      match u.segments with
      | owner :: repository :: mark :: reference :: rest =>
        if mark = Text.toList "blob" then some (u.elsewhere rawPageHost (owner :: repository :: reference :: rest)) else none
      | _ => none
    else if host = snippetHost ∧ 2 ≤ u.segments.length then
      some (u.elsewhere rawSnippetHost (snippetSegments u.segments))
    else none

/-- The raw address behind a URL, or the URL itself. -/
def rawUrl (url : Text) : Except UrlFault Text := do
  match (← Url.split url.toList).raw? with
  | some u => return Text.ofList u.join
  | none => return url

end LintPreview.Remote
