import SnippetStudio.Text.Digit
import SnippetStudio.Text.Lines
import SnippetStudio.Text.Scan

/-!
# Numeric hosts

`isIpv4` accepts four decimal octets without leading zeros.  `isIpv6` accepts eight groups of up to four
hexadecimal digits, of which one run, written `::`, may be left out; the last two groups may be
written as an IPv4 address, and a zone may follow a percent sign.
-/

namespace SnippetStudio.Host

open Text

def isOctet (s : List Char) : Bool :=
  !s.isEmpty && s.all Char.isDigit && s.length ≤ 3 && (s.length == 1 || s.head? != some '0') &&
    numeral s ≤ 255

def isIpv4 (s : List Char) : Bool :=
  let parts := cut '.' s
  parts.length == 4 && parts.all isOctet

def isHex (c : Char) : Bool := c.isDigit || ('a' ≤ c && c ≤ 'f') || ('A' ≤ c && c ≤ 'F')

/-- a group of one to four hexadecimal digits -/
def isGroup (s : List Char) : Bool := !s.isEmpty && s.length ≤ 4 && s.all isHex

/-- the groups, an IPv4 address at the end counted as two -/
def groups? (s : List Char) : Option (List (List Char)) :=
  let parts := cut ':' s
  match parts.getLast? with
  | some l =>
    if l.contains '.' then
      if isIpv4 l then some (parts.dropLast ++ [['0'], ['0']]) else none
    else some parts
  | none => some parts

/-- the places of the empty groups inside an address, its two ends left out -/
def gaps (parts : List (List Char)) : List Nat :=
  (List.range parts.length).filter fun i =>
    0 < i && i + 1 < parts.length && (parts.getD i []).isEmpty

/-- the groups before or behind a run that is left out; none of them may be empty, unless the run
reaches the end of the address and nothing else stands there -/
def isSide : List (List Char) → Bool
  | [[]] => true
  | side => side.all isGroup

def sideSize : List (List Char) → Nat
  | [[]] => 0
  | side => side.length

def isGroups (parts : List (List Char)) : Bool :=
  match gaps parts with
  | [] => parts.length == 8 && parts.all isGroup
  | [i] =>
    let before := parts.take i
    let behind := parts.drop (i + 1)
    isSide before && isSide behind && sideSize before + sideSize behind ≤ 7
  | _ => false

/-- an address without the zone behind a percent sign; a zone is not empty and holds no other percent -/
def withoutZone? (s : List Char) : Option (List Char) :=
  match cutOnce '%' s with
  | (a, none) => some a
  | (a, some z) => if z.isEmpty || z.contains '%' then none else some a

def isIpv6 (s : List Char) : Bool :=
  match withoutZone? s with
  | none => false
  | some a =>
    !a.contains '/' && 3 ≤ (cut ':' a).length &&
      match groups? a with
      | some parts => parts.length ≤ 9 && isGroups parts
      | none => false

/-- an address of a later version: `v`, hexadecimal digits, a point and something behind it -/
def isFuture (s : List Char) : Bool :=
  match s with
  | 'v' :: r =>
    match r.takeWhile isHex, r.dropWhile isHex with
    | _ :: _, '.' :: c :: _ => c != '\n'
    | _, _ => false
  | _ => false

end SnippetStudio.Host
