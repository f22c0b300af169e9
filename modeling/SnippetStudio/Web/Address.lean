import SnippetStudio.Fault
import SnippetStudio.Text.Blank
import SnippetStudio.Web.Host

/-!
# Addresses of pages

An address that can be fetched is absolute: its scheme is `http` or `https`, in any letter case, and a
host stands between `//` and the path (`Address.check`).  Tabs and line breaks inside an address, and
controls and spaces in front of it, do not count.  `Address.complete` puts a scheme in front of an
address that begins with neither.
-/

namespace SnippetStudio.Address

open Text

inductive Refusal where
  /-- not absolute, or another scheme -/
  | notAbsolute
  /-- a bracket without another one -/
  | brackets
  /-- an address of a later version that is not formed well -/
  | badFuture
  | ipv4InBrackets
  /-- brackets that hold no numeric host -/
  | notNumeric (host : List Char)
  /-- a character that stands for one that ends a host -/
  | disguised (authority : List Char)
deriving Repr, DecidableEq

def Refusal.message : Refusal → String
  | notAbsolute => "Please enter a valid URL"
  | brackets => "Invalid IPv6 URL"
  | badFuture => "IPvFuture address is invalid"
  | ipv4InBrackets => "An IPv4 address cannot be in brackets"
  | notNumeric host =>
    quoted (String.ofList host) ++ " does not appear to be an IPv4 or IPv6 address"
  | disguised a =>
    "netloc '" ++ String.ofList a ++ "' contains invalid characters under NFKC normalization"

def isSchemeChar (c : Char) : Bool := c.isAlphanum || c == '+' || c == '-' || c == '.'

/-- the scheme in small letters, and the rest behind the colon -/
def scheme? (s : List Char) : Option (List Char × List Char) :=
  match s, cutOnce ':' s with
  | c :: _, (name, some rest) =>
    if c.isAlpha && name.all isSchemeChar then some (name.map Char.toLower, rest) else none
  | _, _ => none

def endsAuthority (c : Char) : Bool := c == '/' || c == '?' || c == '#'

/-- what stands between `//` and the path -/
def authority? (s : List Char) : Option (List Char) :=
  (after? ['/', '/'] s).map fun r => r.takeWhile fun c => !endsAuthority c

/-- the characters that a compatible form turns into one that ends a host -/
def disguises : List Nat :=
  [0x2047, 0x2048, 0x2049, 0x2100, 0x2101, 0x2105, 0x2106, 0x2A74, 0xFE13, 0xFE16, 0xFE55, 0xFE56,
   0xFE5F, 0xFE6B, 0xFF03, 0xFF0F, 0xFF1A, 0xFF1F, 0xFF20]

def isDisguise (c : Char) : Bool := disguises.contains c.toNat

def checkBracketed (host : List Char) : Except Refusal Unit :=
  if host.head? == some 'v' then
    if Host.isFuture host then .ok () else .error .badFuture
  else if Host.isIpv4 host then .error .ipv4InBrackets
  else if Host.isIpv6 host then .ok ()
  else .error (.notNumeric host)

/-- what stands behind the last `@` -/
def afterUser (authority : List Char) : List Char :=
  (authority.reverse.takeWhile (· != '@')).reverse

/-- a host in brackets, with nothing in front, and nothing but a number with its colon behind -/
def checkEnclosed (before rest : List Char) : Except Refusal Unit :=
  let (host, behind) := cutOnce ']' rest
  if !before.isEmpty then .error .brackets
  else if (behind.getD []).head?.any (· != ':') then .error .brackets
  else checkBracketed host

/-- brackets come in a pair, and where there are any, the host behind the last `@` is a numeric one -/
def checkBrackets (authority : List Char) : Except Refusal Unit :=
  match authority.contains '[', authority.contains ']' with
  | false, false => .ok ()
  | true, true =>
    let s := afterUser authority
    match cutOnce '[' s with
    | (before, some rest) => checkEnclosed before rest
    | (_, none) => checkBracketed (upTo ':' s)
  | _, _ => .error .brackets

def checkAuthority (authority : List Char) : Except Refusal Unit := do
  checkBrackets authority
  if authority.any isDisguise then .error (.disguised authority) else .ok ()

/-- the address without what does not count -/
def clean (s : List Char) : List Char :=
  (s.dropWhile fun c => c.toNat ≤ 0x20).filter fun c => !(c == '\t' || c == '\r' || c == '\n')

/-- the address, without blanks around it, can be fetched -/
def check (url : String) : Except Refusal String := do
  let s := clean (trim url.toList)
  let (scheme, rest) := (scheme? s).getD ([], s)
  let authority := authority? rest
  checkAuthority (authority.getD [])
  if (scheme = "http".toList ∨ scheme = "https".toList) ∧ authority.getD [] ≠ [] then
    .ok (trimmed url)
  else .error .notAbsolute

/-- the address with a scheme: one that begins with neither in small letters gets `https://` -/
def complete (url : String) : String :=
  let s := trim url.toList
  if begins "http://".toList s || begins "https://".toList s then String.ofList s
  else "https://" ++ String.ofList s

end SnippetStudio.Address
