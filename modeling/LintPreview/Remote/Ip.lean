import LintPreview.Text.Digit
import LintPreview.Text.Lines

/-!
Internet addresses in text.

* `isIpv4`: four decimal numbers below 256 with dots between them.
* `isIpv6`: eight groups of hexadecimal digits with colons between them, where one run of zeros may be left out, the
  last two may be written as four decimal numbers, and a zone may follow.
-/

namespace LintPreview.Remote

/-- Whether a text is a decimal number below 256 without zeros in front. -/
def isOctet (cs : List CodePoint) : Bool :=
  !cs.isEmpty && cs.all CodePoint.isDigit && cs.length ≤ 3 && (cs.length == 1 || cs.head? != some '0') &&
    cs.foldl (fun n c => n * 10 + (c.toNat - 48)) 0 < 256

/-- Whether a text is an address of four numbers. -/
def isIpv4 (cs : List CodePoint) : Bool :=
  let parts := Text.splitOnChar '.' cs
  parts.length == 4 && parts.all isOctet

/-- Whether a text is a group of one to four hexadecimal digits. -/
def isGroup (cs : List CodePoint) : Bool := !cs.isEmpty && cs.length ≤ 4 && cs.all fun c => (Text.hexValue? c).isSome

/-- The parts of an address, the last four numbers counting as two groups; nothing if these are no numbers. -/
def groupParts? (cs : List CodePoint) : Option (List (List CodePoint)) :=
  let parts := Text.splitOnChar ':' cs
  match parts.getLast? with
  | some last =>
    if last.contains '.' then
      if isIpv4 last then some (parts.dropLast ++ List.replicate 2 (Text.toList "0")) else none
    else some parts
  | none => none

/-- The places of empty parts between the ends. -/
def innerGaps (parts : List (List CodePoint)) : List Nat :=
  (List.range parts.length).filter fun i => 0 < i && i + 1 < parts.length && (parts[i]?) == some []

/-- Whether parts on one side of a gap are groups; an empty part at the outer end must be the only one. -/
def isSide (parts : List (List CodePoint)) (outer : Option (List CodePoint)) : Bool :=
  if outer == some [] then parts.length == 1 else parts.all isGroup

/-- The number of groups that a side of a gap holds. -/
def sideSize (parts : List (List CodePoint)) (outer : Option (List CodePoint)) : Nat :=
  if outer == some [] then parts.length - 1 else parts.length

/-- Whether parts make an address. -/
def isGroups (parts : List (List CodePoint)) : Bool :=
  3 ≤ parts.length && parts.length ≤ 9 &&
    match innerGaps parts with
    | [] => parts.length == 8 && parts.all isGroup
    | [gap] =>
      let front := parts.take gap
      let back := parts.drop (gap + 1)
      isSide front front.head? && isSide back back.getLast? &&
        sideSize front front.head? + sideSize back back.getLast? < 8
    | _ => false

/-- Whether a text is an address of eight groups. -/
def isIpv6 (cs : List CodePoint) : Bool :=
  let (address, zone) := Text.cutAt '%' cs
  let zoneFits := match zone with
    | none => true
    | some z => !z.isEmpty && !z.contains '%'
  zoneFits && !address.contains '/' &&
    match groupParts? address with
    | some parts => isGroups parts
    | none => false

end LintPreview.Remote
