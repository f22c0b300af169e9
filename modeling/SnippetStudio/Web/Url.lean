import SnippetStudio.Text.Digit
import SnippetStudio.Text.Lines
import SnippetStudio.Text.Quoted
import SnippetStudio.Web.Host
import SnippetStudio.Web.Label.Basic
import SnippetStudio.Web.Percent

/-!
# URLs

The parts of a URL, as a client of the web sends them (`Url`).  `Url.parse` cuts a text into its parts,
writes what may not stand in them behind percent signs, brings scheme and host to small
letters, leaves out the number that goes with the scheme, and takes out `.` and `..` from the path.  A host
that is not in ASCII is written as it is sent.
-/

namespace SnippetStudio

structure Url where
  /-- empty where there is none, as the user and the host -/
  scheme : String := ""
  user : String := ""
  host : String := ""
  /-- the number behind the host, where it is not the usual one -/
  portNumber : Option Int := none
  path : String := ""
  query : Option String := none
  fragment : Option String := none
deriving Repr, DecidableEq

namespace Url

open Text

inductive Flaw where
  | control (c : Char) (place : Nat)
  | badIpv4 (host : String)
  | badIpv6 (host : String)
  | badName (host : String)
  | badPortNumber (text : String)
  | relativePath
  | doubleSlash
  | leadingColon
  | long
  | longPart (name : String)
  | controlIn (name : String) (c : Char) (place : Nat)
deriving Repr, DecidableEq

def Flaw.message : Flaw → String
  | control c place =>
    "Invalid non-printable ASCII character in URL, " ++ quoted (String.singleton c) ++
      " at position " ++ toString place ++ "."
  | badIpv4 h => "Invalid IPv4 address: " ++ quoted h
  | badIpv6 h => "Invalid IPv6 address: " ++ quoted h
  | badName h => "Invalid IDNA hostname: " ++ quoted h
  | badPortNumber p => "Invalid port: " ++ quoted p
  | relativePath => "For absolute URLs, path must be empty or begin with '/'"
  | doubleSlash => "Relative URLs cannot have a path starting with '//'"
  | leadingColon => "Relative URLs cannot have a path starting with ':'"
  | long => "URL too long"
  | longPart name => "URL component '" ++ name ++ "' too long"
  | controlIn name c place =>
    "Invalid non-printable ASCII character in URL " ++ name ++ " component, " ++
      quoted (String.singleton c) ++ " at position " ++ toString place ++ "."

/-- the most characters of a URL, and of each of its parts -/
def lengthLimit : Nat := 65536

/-! ## Parts -/

/-- a character of ASCII that is neither blank nor a control -/
def isVisible (c : Char) : Bool := decide (0x20 < c.toNat ∧ c.toNat < 0x7F)

def inQuery (c : Char) : Bool := isVisible c && !"\"#<>".toList.contains c
def inFragment (c : Char) : Bool := isVisible c && !"\"<>`".toList.contains c
def inPath (c : Char) : Bool := inQuery c && !"?`{}".toList.contains c
def inUser (c : Char) : Bool := inPath c && !"/;=@[\\]^|".toList.contains c
def inHost (c : Char) : Bool := "!$&'()*+,;=\"`{}%|\\".toList.contains c

def isSchemeChar (c : Char) : Bool := c.isAlphanum || c == '+' || c == '-' || c == '.'

/-- the scheme in front of the first colon, and the rest; no scheme where the front cannot be one -/
def cutScheme (s : List Char) : List Char × List Char :=
  match cutOnce ':' s with
  | ([], some rest) => ([], rest)
  | (c :: name, some rest) =>
    if c.isAlpha && name.all isSchemeChar then (c :: name, rest) else ([], s)
  | _ => ([], s)

/-- what stands between `//` and the path, and the rest -/
def cutAuthority (s : List Char) : List Char × List Char :=
  match s with
  | '/' :: '/' :: r =>
    (r.takeWhile fun c => !(c == '/' || c == '?' || c == '#'),
     r.dropWhile fun c => !(c == '/' || c == '?' || c == '#'))
  | _ => ([], s)

/-- what stands before the last `@`, and behind it -/
def cutUser (s : List Char) : List Char × List Char :=
  let behind := (s.reverse.takeWhile (· != '@')).reverse
  (s.take (s.length - behind.length - 1), behind)

/-- the host and the number behind its colon; a host in brackets ends at the last of them -/
def cutPortNumber (s : List Char) : List Char × List Char :=
  if s.head? == some '[' && s.contains ']' then
    let tail := (s.reverse.takeWhile (· != ']')).reverse
    (s.take (s.length - tail.length), if tail.head? == some ':' then tail.drop 1 else tail)
  else ((cutOnce ':' s).1, ((cutOnce ':' s).2).getD [])

/-- the lengths of the runs of digits before, between and behind all other characters -/
def digitRuns : List Char → List Nat
  | [] => [0]
  | c :: s =>
    match digitRuns s with
    | n :: ns => if c.isDigit then (n + 1) :: ns else 0 :: n :: ns
    | [] => [0]

/-- four numbers with any one character between two of them, which may be one more digit -/
def looksLikeIpv4 (s : List Char) : Bool :=
  let runs := digitRuns s
  runs.all (0 < ·) && runs.length ≤ 4 && 4 ≤ runs.length + (runs.map fun n => (n - 1) / 2).foldl (· + ·) 0

def readHost (s : List Char) : Except Flaw String :=
  if s.isEmpty then .ok ""
  else if looksLikeIpv4 s then
    if Host.isIpv4 s then .ok (String.ofList s) else .error (.badIpv4 (String.ofList s))
  else if s.head? == some '[' && s.getLast? == some ']' then
    let inside := (s.drop 1).dropLast
    if Host.isIpv6 inside then .ok (String.ofList inside) else .error (.badIpv6 (String.ofList s))
  else if s.all fun c => c.toNat < 0x80 then
    .ok (String.ofList (Percent.quote inHost (s.map Char.toLower)))
  else match Hostname.ascii? (lower s) with
    | some name => .ok (String.ofList name)
    | none => .error (.badName (String.ofList s))

/-- the number that goes with a scheme -/
def usualPortNumber? (scheme : String) : Option Int :=
  [("ftp", 21), ("http", 80), ("https", 443), ("ws", 80), ("wss", 443)].lookup scheme

/-- a number, unless it is the one that goes with the scheme -/
def unusual (scheme : String) (n : Int) : Option Int :=
  if usualPortNumber? scheme = some n then none else some n

def readPortNumber (scheme : String) (s : List Char) : Except Flaw (Option Int) :=
  if s.isEmpty then .ok none
  else match integer? s with
    | some n => .ok (unusual scheme n)
    | none => .error (.badPortNumber (String.ofList s))

/-- the path without the parts `.` and `..`; the latter takes the part before it away -/
def withoutDots (s : List Char) : List Char :=
  let parts := cut '/' s
  if parts.any fun p => p == ['.'] || p == ['.', '.'] then
    let step (out : List (List Char)) (p : List Char) : List (List Char) :=
      if p == ['.'] then out
      else if p == ['.', '.'] then (if out.isEmpty || out == [[]] then out else out.dropLast)
      else out ++ [p]
    glue ['/'] (parts.foldl step [])
  else s

/-- a path goes with what stands before it -/
def checkPath (hasScheme hasAuthority : Bool) (path : List Char) : Except Flaw Unit :=
  if hasAuthority && !path.isEmpty && path.head? != some '/' then .error .relativePath
  else if !hasScheme && !hasAuthority && path.take 2 == ['/', '/'] then .error .doubleSlash
  else if !hasScheme && !hasAuthority && path.head? == some ':' then .error .leadingColon
  else .ok ()

/-- the first control character, with its place -/
def control? (s : List Char) : Option (Char × Nat) :=
  s.zipIdx.find? fun x => decide (x.1.toNat < 0x20 ∨ x.1.toNat = 0x7F)

/-- the URL of a text; the number that goes with a scheme is left out where the scheme is in small letters -/
def parse (text : String) : Except Flaw Url := do
  let s := text.toList
  if lengthLimit < s.length then throw .long
  if let some (c, place) := control? s then throw (.control c place)
  let (scheme, s) := cutScheme s
  let (authority, s) := cutAuthority s
  let (s, fragment) := cutOnce '#' s
  let (path, query) := cutOnce '?' s
  let (user, s) := cutUser authority
  let (hostText, numberText) := cutPortNumber s
  let user := Percent.quote inUser user
  let host ← readHost hostText
  let portNumber ← readPortNumber (String.ofList scheme) numberText
  let hasScheme := !scheme.isEmpty
  let hasAuthority := !user.isEmpty || !host.isEmpty || portNumber.isSome
  checkPath hasScheme hasAuthority path
  let path := if hasScheme || hasAuthority then withoutDots path else path
  return { scheme := String.ofList (scheme.map Char.toLower)
           user := String.ofList user, host, portNumber
           path := String.ofList (Percent.quote inPath path)
           query := query.map fun q => String.ofList (Percent.quote inQuery q)
           fragment := fragment.map fun f => String.ofList (Percent.quote inFragment f) }

/-! ## Text -/

def authority (u : Url) : String :=
  (if u.user.isEmpty then "" else u.user ++ "@") ++
    (if u.host.toList.contains ':' then "[" ++ u.host ++ "]" else u.host) ++
    (match u.portNumber with
      | some p => ":" ++ toString p
      | none => "")

/-- a part behind its mark, nothing where there is none -/
def marked (mark : String) : Option String → String
  | some s => mark ++ s
  | none => ""

def text (u : Url) : String :=
  (if u.scheme.isEmpty then "" else u.scheme ++ ":") ++
    (if u.authority.isEmpty then "" else "//" ++ u.authority) ++
    u.path ++ marked "?" u.query ++ marked "#" u.fragment

/-- the parts that a URL is put together from, with their names -/
def parts (u : Url) : List (String × String) :=
  [("scheme", u.scheme), ("authority", u.authority), ("path", u.path)] ++
    (u.query.map fun q => ("query", q)).toList ++ (u.fragment.map fun f => ("fragment", f)).toList

/-- a URL as it is, unless one of its parts is too long -/
def fit (u : Url) : Except Flaw Url :=
  match u.parts.find? fun p => lengthLimit < p.2.length with
  | some p => .error (.longPart p.1)
  | none => .ok u

/-- without the number that goes with the scheme -/
def normal (u : Url) : Url := { u with portNumber := u.portNumber.bind (unusual u.scheme) }

/-- it says on its own where it leads -/
def isAbsolute (u : Url) : Bool := !u.scheme.isEmpty && !u.host.isEmpty

/-! ## Parameters -/

/-- names and values as a query -/
def queryText (params : List (String × String)) : String :=
  "&".intercalate <| params.map fun p =>
    String.ofList (Percent.encodeForm p.1.toList ++ '=' :: Percent.encodeForm p.2.toList)

/-- the parameters put in place of the query -/
def withParams (u : Url) (params : List (String × String)) : Url :=
  { u.normal with query := if params.isEmpty then none else some (queryText params) }

/-- the query left out -/
def withoutQuery (u : Url) : Url := { u.normal with query := none }

/-- a parameter put behind the last one of its name, or at the end -/
def place (p : String × String) : List (String × String) → List (String × String)
  | [] => [p]
  | q :: qs => if q.1 == p.1 && !qs.any (·.1 == p.1) then q :: p :: qs else q :: place p qs

/-- parameters of one name put together, in the place of the first -/
def grouped (ps : List (String × String)) : List (String × String) := ps.foldl (fun qs p => place p qs) []

/-- the names and values of a query -/
def paramsOf (query : String) : List (String × String) :=
  let read (p : List Char) : Option (String × String) :=
    if p.isEmpty then none
    else
      let (name, value) := cutOnce '=' p
      some (String.ofList (Percent.decodeForm name), String.ofList (Percent.decodeForm (value.getD [])))
  grouped ((cut '&' query.toList).filterMap read)

def params (u : Url) : List (String × String) := paramsOf (u.query.getD "")

/-- an address that is not absolute, as a path on a server without a name -/
def rooted (u : Url) : Url :=
  if u.isAbsolute then u
  else { path := "/" ++ String.ofList (u.path.toList.dropWhile (· == '/')), query := u.query }

end Url

end SnippetStudio
