import LintPreview.Number.Literal
import LintPreview.Remote.HostName
import LintPreview.Remote.Url
import LintPreview.Text.Utf8

/-!
Addresses: URLs as they are sent.

* `Address.ofText`: the address of a text: scheme and host in lower case, the usual port left out, dots in the path
  resolved, and what may not be sent written as percent codes.
* `Address.text`: the text of an address.
* `Address.redirect`: the address that a redirection leads to, read from the one that was asked.
-/

namespace LintPreview.Remote

/-- Why a text is no address. -/
inductive AddressFault where
  | tooLong
  | control (c : CodePoint) (position : Nat)
  | partTooLong (name : Text)
  | controlIn (name : Text) (c : CodePoint) (position : Nat)
  | badIpv4 (host : Text)
  | badIpv6 (host : Text)
  | badHost (host : Text)
  | badPort (port : Text)
  | loneHalf (fault : Text.LoneHalves)
  | hostBeyondAscii (fault : Text.BeyondAscii)
  | pathWithoutSlash
  | pathWithTwoSlashes
  | pathWithColon
deriving DecidableEq, Repr

/-- The wording of a fault. -/
def AddressFault.message : AddressFault → Text
  | .tooLong => "URL too long"
  | .control c position =>
    "Invalid non-printable ASCII character in URL, " ++ Text.quoted (Text.ofList [c]) ++ " at position " ++
      Text.ofNat position ++ "."
  | .partTooLong name => "URL component '" ++ name ++ "' too long"
  | .controlIn name c position =>
    "Invalid non-printable ASCII character in URL " ++ name ++ " component, " ++ Text.quoted (Text.ofList [c]) ++
      " at position " ++ Text.ofNat position ++ "."
  | .badIpv4 host => "Invalid IPv4 address: " ++ Text.quoted host
  | .badIpv6 host => "Invalid IPv6 address: " ++ Text.quoted host
  | .badHost host => "Invalid IDNA hostname: " ++ Text.quoted host
  | .badPort port => "Invalid port: " ++ Text.quoted port
  | .loneHalf fault => fault.message
  | .hostBeyondAscii fault => fault.message
  | .pathWithoutSlash => "For absolute URLs, path must be empty or begin with '/'"
  | .pathWithTwoSlashes => "Relative URLs cannot have a path starting with '//'"
  | .pathWithColon => "Relative URLs cannot have a path starting with ':'"

/-- An address. A query or fragment that is empty is not one that is missing. -/
structure Address where
  scheme : List CodePoint := []
  user : List CodePoint := []
  host : List CodePoint := []
  port : Option Int := none
  path : List CodePoint := []
  query : Option (List CodePoint) := none
  fragment : Option (List CodePoint) := none
deriving DecidableEq, Repr

/-! ### Percent codes -/

/-- The percent code of bytes. -/
def percentCode (bytes : List UInt8) : List CodePoint :=
  bytes.flatMap fun b => CodePoint.char '%' :: (Text.toHex 2 b.toNat).map CodePoint.toUpper

/-- A text in which the characters that may not be sent stand as percent codes. A lone half has no code. -/
def percentQuoted (maySend : CodePoint → Bool) (cs : List CodePoint) : Except AddressFault (List CodePoint) := do
  let parts ← cs.mapM fun c =>
    if maySend c then pure [c] else ((Text.encode (Text.ofList [c])).mapError .loneHalf).map percentCode
  return parts.flatten

/-- Whether a character is printable ASCII and none of those excepted. -/
def isPlainBut (excepted : List Char) (c : CodePoint) : Bool :=
  0x20 < c.toNat && c.toNat < 0x7F && !c.isAnyOf excepted

/-- What may be sent in a fragment. -/
def inFragment : CodePoint → Bool := isPlainBut ['"', '<', '>', '`']

/-- What may be sent in a query. -/
def inQuery : CodePoint → Bool := isPlainBut ['"', '#', '<', '>']

/-- What may be sent in a path. -/
def inPath : CodePoint → Bool := isPlainBut ['"', '#', '<', '>', '?', '`', '\x7b', '\x7d']

/-- What may be sent in a user name. -/
def inUser : CodePoint → Bool :=
  isPlainBut ['"', '#', '<', '>', '?', '`', '\x7b', '\x7d', '/', ';', '=', '@', '[', '\\', ']', '^', '|']

/-- What may be sent in a host. -/
def inHost (c : CodePoint) : Bool :=
  c.isLetter || c.isDigit || c.isAnyOf ['-', '.', '_', '~', '!', '$', '&', '\'', '(', ')', '*', '+', ',', ';', '=', '"', '`',
    '\x7b', '\x7d', '%', '|', '\\']

/-! ### The parts of an address -/

/-- The most characters in an address. -/
def maxAddressLength : Nat := 65536

/-- The first ASCII control character and its place. -/
def firstControl? (position : Nat) : List CodePoint → Option (CodePoint × Nat)
  | [] => none
  | c :: rest => if c.toNat < 0x20 || c.toNat == 0x7F then some (c, position) else firstControl? (position + 1) rest

/-- Whether a text is four numbers with dots between them. -/
def looksIpv4 (cs : List CodePoint) : Bool :=
  let parts := Text.splitOnChar '.' cs
  parts.length == 4 && parts.all fun part => !part.isEmpty && part.all CodePoint.isDigit

/-- The host of an address. -/
def hostOf (host : List CodePoint) : Except AddressFault (List CodePoint) :=
  let named := Text.ofList host
  if host.isEmpty then .ok []
  else if looksIpv4 host then if isIpv4 host then .ok host else .error (.badIpv4 named)
  else if host.head? = some '[' ∧ host.getLast? = some ']' then
    let inner := (host.drop 1).dropLast
    if isIpv6 inner then .ok inner else .error (.badIpv6 named)
  else if host.all CodePoint.isAscii then percentQuoted inHost (host.map CodePoint.toLower)
  else (asciiHost (Text.lowerChars host)).mapError fun _ => .badHost named

/-- The usual ports of schemes. -/
def usualPorts : List (Text × Int) := [("ftp", 21), ("http", 80), ("https", 443), ("ws", 80), ("wss", 443)]

/-- The port of an address; the usual one of the scheme is left out. -/
def portOf (scheme port : List CodePoint) : Except AddressFault (Option Int) :=
  if port.isEmpty then .ok none
  else match Literal.readInt 10 (Text.ofList port) with
    | .error _ => .error (.badPort (Text.ofList port))
    | .ok n => .ok (if (usualPorts.lookup (Text.ofList scheme)) = some n then none else some n)

/-- The host and the port in an authority without user name. -/
def cutPort (place : List CodePoint) : List CodePoint × List CodePoint :=
  let dropColon : List CodePoint → List CodePoint
    | ':' :: rest => rest
    | rest => rest
  match place, Text.cutAtLast ']' place with
  | '[' :: _, (some front, after) => (front ++ [.char ']'], dropColon after)
  | _, _ => (place.takeWhile fun c => c != ':' && c != '@', dropColon (place.dropWhile fun c => c != ':' && c != '@'))

/-- One segment of a path put behind the resolved ones, which stand in reverse. -/
def resolveSegment (done : List (List CodePoint)) (s : List CodePoint) : List (List CodePoint) :=
  if s = [.char '.'] then done
  else if s = [.char '.', .char '.'] then if done = [] ∨ done = [[]] then done else done.drop 1
  else s :: done

/-- A path without single and double dots. -/
def withoutDots (path : List CodePoint) : List CodePoint :=
  let segments := Text.splitOnChar '/' path
  if segments.any fun s => s == [.char '.'] || s == [.char '.', .char '.'] then
    Text.joinWith ['/'] (segments.foldl resolveSegment []).reverse
  else path

/-- Whether a path fits what stands in front of it. -/
def checkPath (path : List CodePoint) (hasScheme hasAuthority : Bool) : Except AddressFault Unit :=
  if hasAuthority && !path.isEmpty && path.head? ≠ some '/' then .error .pathWithoutSlash
  else if !hasScheme && !hasAuthority then
    if Text.startsWith ['/', '/'] path then .error .pathWithTwoSlashes
    else if path.head? = some ':' then .error .pathWithColon
    else .ok ()
  else .ok ()

namespace Address

/-- The address of parts that are not normal yet. -/
def ofParts (scheme user host port path : List CodePoint) (query fragment : Option (List CodePoint)) :
    Except AddressFault Address := do
  let user ← percentQuoted inUser user
  let host ← hostOf host
  let port ← portOf scheme port
  let hasScheme := !scheme.isEmpty
  let hasAuthority := !user.isEmpty || !host.isEmpty || port.isSome
  checkPath path hasScheme hasAuthority
  let path := if hasScheme || hasAuthority then withoutDots path else path
  let path ← percentQuoted inPath path
  let query ← query.mapM (percentQuoted inQuery)
  let fragment ← fragment.mapM (percentQuoted inFragment)
  return { scheme := scheme.map CodePoint.toLower, user, host, port, path, query, fragment }

/-- The scheme in front of a text, if a colon ends it, and the rest. -/
def takeScheme (cs : List CodePoint) : List CodePoint × List CodePoint :=
  match Text.cutAt ':' cs with
  | (front, some rest) =>
    if front.isEmpty || ((front.head?).any CodePoint.isLetter && front.all isSchemeChar) then (front, rest) else ([], cs)
  | (_, none) => ([], cs)

/-- A text of an address without faults that show at once. -/
def checkText (cs : List CodePoint) : Except AddressFault Unit :=
  if maxAddressLength < cs.length then .error .tooLong
  else match firstControl? 0 cs with
    | some (c, position) => .error (.control c position)
    | none => .ok ()

/-- The address of a text. -/
def ofChars (cs : List CodePoint) : Except AddressFault Address := do
  checkText cs
  let (scheme, rest) := takeScheme cs
  let (authority, rest) := takeAuthority rest
  let (rest, fragment) := Text.cutAt '#' rest
  let (path, query) := Text.cutAt '?' rest
  let (user, place) := Text.cutAtLast '@' authority
  let (host, port) := cutPort place
  ofParts scheme (user.getD []) host port path query fragment

/-- The address of a text. -/
def ofText (s : Text) : Except AddressFault Address := ofChars s.toList

/-- The host in brackets if it holds a colon. -/
def bracketedHost (a : Address) : List CodePoint := if a.host.contains ':' then .char '[' :: (a.host ++ [.char ']']) else a.host

/-- The port as a text. -/
def portText (a : Address) : List CodePoint := (a.port.map fun n => (Text.ofInt n).toList).getD []

/-- The authority of an address. -/
def authority (a : Address) : List CodePoint :=
  (if a.user.isEmpty then [] else a.user ++ [.char '@']) ++ a.bracketedHost ++
    (if a.port.isSome then .char ':' :: a.portText else [])

/-- The text of an address. -/
def chars (a : Address) : List CodePoint :=
  (if a.scheme.isEmpty then [] else a.scheme ++ [.char ':']) ++
    (if a.authority.isEmpty then [] else .char '/' :: .char '/' :: a.authority) ++ a.path ++
    ((a.query.map (CodePoint.char '?' :: ·)).getD []) ++ ((a.fragment.map (CodePoint.char '#' :: ·)).getD [])

/-- The text of an address. -/
def text (a : Address) : Text := Text.ofList a.chars

/-- Whether an address says by itself where it leads. -/
def isAbsolute (a : Address) : Bool := !a.scheme.isEmpty && !a.host.isEmpty

/-- An address that does not say where it leads, as it is asked from nowhere: its path and query alone. -/
def fromNowhere (a : Address) : Address :=
  { path := CodePoint.char '/' :: a.path.dropWhile (· == CodePoint.char '/'), query := a.query }

/-! ### Redirections -/

/-- Schemes in which one address can be read from another one. -/
def hierarchical : List Text := [
  "", "ftp", "http", "gopher", "nntp", "imap", "wais", "file", "https", "shttp", "mms", "prospero", "rtsp", "rtspu",
  "sftp", "svn", "svn+ssh", "ws", "wss"]

/-- Schemes whose last segment may carry parameters. -/
def parametrised : List Text := [
  "", "ftp", "hdl", "prospero", "http", "imap", "https", "shttp", "rtsp", "rtspu", "sip", "sips", "mms", "sftp", "tel"]

/-- A path and the parameters of its last segment. -/
def cutParameters (scheme path : List CodePoint) : List CodePoint × List CodePoint :=
  if parametrised.contains (Text.ofList scheme) then
    let (front, last) := Text.cutAtLast '/' path
    match Text.cutAt ';' last with
    | (name, some parameters) => ((front.map (· ++ [CodePoint.char '/'])).getD [] ++ name, parameters)
    | (_, none) => (path, [])
  else (path, [])

/-- Segments without the empty ones between the ends. -/
def withoutInnerGaps (segments : List (List CodePoint)) : List (List CodePoint) :=
  match segments with
  | [] => []
  | first :: rest =>
    match rest.getLast? with
    | none => [first]
    | some last => first :: (rest.dropLast.filter (!·.isEmpty) ++ [last])

/-- The path `path` read from the path `base`. -/
def joinPaths (base path : List CodePoint) : List CodePoint :=
  let front := Text.splitOnChar '/' base
  let front := if front.getLast? = some [] then front else front.dropLast
  let segments :=
    if path.head? = some '/' then Text.splitOnChar '/' path
    else withoutInnerGaps (front ++ Text.splitOnChar '/' path)
  let step (done : List (List CodePoint)) (s : List CodePoint) : List (List CodePoint) :=
    if s = [.char '.', .char '.'] then done.drop 1 else if s = [.char '.'] then done else s :: done
  let done := segments.foldl step []
  let last := segments.getLast?
  let done := if last = some [.char '.'] ∨ last = some [.char '.', .char '.'] then [] :: done else done
  let text := Text.joinWith ['/'] done.reverse
  if text.isEmpty then [.char '/'] else text

/-- The URL `u` read from the URL `base`; nothing if that is not possible and `u` stands for itself. -/
def joinUrls? (base u : Url) : Option Url :=
  let scheme := if u.scheme.isEmpty then base.scheme else u.scheme
  if scheme ≠ base.scheme ∨ !hierarchical.contains (Text.ofList scheme) then none
  else if !u.authority.isEmpty then some { u with scheme }
  else
    let u := { u with scheme, authority := base.authority }
    let (path, parameters) := cutParameters scheme u.path
    if path.isEmpty && parameters.isEmpty then
      some { u with path := base.path, query := if u.query.isEmpty then base.query else u.query }
    else
      let joined := joinPaths (cutParameters base.scheme base.path).1 path
      some { u with path := if parameters.isEmpty then joined else joined ++ CodePoint.char ';' :: parameters }

/-- The text `s` read from the text `base`. -/
def joinTexts (base s : List CodePoint) : Except UrlFault (List CodePoint) :=
  if base.isEmpty then .ok s
  else if s.isEmpty then .ok base
  else do
    let b ← Url.split base
    let u ← Url.split s
    return ((joinUrls? b u).map Url.join).getD s

/-- Why a redirection leads nowhere. -/
inductive RedirectFault where
  | badLocation (fault : AddressFault)
  | badTarget (fault : AddressFault)
  | badUrl (fault : UrlFault)
  | badHost (fault : LabelFault)
deriving DecidableEq, Repr

/-- The bytes behind percent codes. -/
def percentDecoded : List CodePoint → List UInt8
  | '%' :: a :: b :: rest =>
    match Text.hexValue? a, Text.hexValue? b with
    | some x, some y => UInt8.ofNat (x * 16 + y) :: percentDecoded rest
    | _, _ => 0x25 :: percentDecoded (a :: b :: rest)
  | c :: rest => ((c.char?.map Text.utf8Bytes).getD []) ++ percentDecoded rest
  | [] => []

/-- The fragment of an address, without percent codes. -/
def fragmentText (a : Address) : List CodePoint := Text.decodeLossy (percentDecoded (a.fragment.getD []))

/-- Checks a part that an address is put together from anew. -/
def checkPart (name : Text) (cs : List CodePoint) : Except AddressFault Unit :=
  if maxAddressLength < cs.length then .error (.partTooLong name)
  else match firstControl? 0 cs with
    | some (c, position) => .error (.controlIn name c position)
    | none => .ok ()

/-- Checks the parts that an address is put together from anew. -/
def checkParts (a : Address) (fragment : Option (List CodePoint)) : Except AddressFault Unit := do
  checkPart "scheme" a.scheme
  checkPart "authority" a.authority
  checkPart "path" a.path
  checkPart "query" (a.query.getD [])
  checkPart "fragment" (fragment.getD [])

/-- An address with the host of another one. -/
def withHost (a : Address) (host : List CodePoint) : Except AddressFault Address := do
  let host := if host.contains ':' then .char '[' :: (host ++ [.char ']']) else host
  a.checkParts a.fragment
  checkPart "host" host
  ofParts a.scheme a.user host a.portText a.path a.query a.fragment

/-- An address with a fragment. -/
def withFragment (a : Address) (fragment : List CodePoint) : Except AddressFault Address := do
  a.checkParts (some fragment)
  return { a with fragment := some (← percentQuoted inFragment fragment) }

/-- Checks that the host of an address, with its port, can be sent. -/
def checkHost (a : Address) : Except AddressFault Unit :=
  match Text.beyondAscii? (Text.ofList a.bracketedHost) with
  | some fault => .error (.hostBeyondAscii fault)
  | none => .ok ()

/-- The host of an address as it is read. -/
def readHost (a : Address) : Except RedirectFault (List CodePoint) := (readableHost a.host).mapError .badHost

/-- Checks that the hosts on both sides of a redirection can be read, and that the target can be sent. -/
def checkHosts (asked target : Address) : Except RedirectFault Unit := do
  let (first, second) := if target.scheme = asked.scheme then (target, asked) else (asked, target)
  discard first.readHost
  discard second.readHost
  target.checkHost.mapError .badTarget

/-- The address that the location of a redirection names, read from the address that was asked. The fragment that was
asked for is kept unless the location has its own. -/
def redirect (asked : Address) (location : Text) : Except RedirectFault Address := do
  let named ← (ofText location).mapError .badLocation
  let placed ←
    if named.scheme.isEmpty then pure named
    else if (← named.readHost).isEmpty then (named.withHost (← asked.readHost)).mapError .badTarget
    else pure named
  let target ←
    if placed.isAbsolute then pure placed
    else do
      let joined ← (joinTexts asked.chars placed.chars).mapError .badUrl
      (ofChars joined).mapError .badTarget
  let target ←
    if !asked.fragmentText.isEmpty && target.fragmentText.isEmpty then
      (target.withFragment asked.fragmentText).mapError .badTarget
    else pure target
  checkHosts asked target
  return target

end Address

end LintPreview.Remote
