import SnippetStudio.Web.Url

/-!
# Links

Where a link on a page leads (`Url.join`).  A link may leave out the host, or begin in the middle of the page's
path.  The last part of a path may have parameters behind a semicolon, which do not take part in this; a
semicolon, a question mark or a hash with nothing behind it is left out.
-/

namespace SnippetStudio.Url

open Text

/-- the schemes whose links may leave something out -/
def relativeSchemes : List String :=
  ["", "ftp", "http", "gopher", "nntp", "imap", "wais", "file", "https", "shttp", "mms", "prospero", "rtsp",
   "rtspu", "sftp", "svn", "svn+ssh", "ws", "wss"]

/-- the schemes whose paths may have parameters -/
def parameterSchemes : List String :=
  ["", "ftp", "hdl", "prospero", "http", "imap", "https", "shttp", "rtsp", "rtspu", "sip", "sips", "mms",
   "sftp", "tel"]

/-- the path without the parameters of its last part, and these -/
def cutParameters (scheme : String) (path : List Char) : List Char × List Char :=
  if parameterSchemes.contains scheme then
    let last := (path.reverse.takeWhile (· != '/')).reverse
    let before := path.take (path.length - last.length)
    (before ++ (cutOnce ';' last).1, (cutOnce ';' last).2.getD [])
  else (path, [])

def withParameters (path parameters : List Char) : List Char :=
  if parameters.isEmpty then path else path ++ ';' :: parameters

/-- a path without a semicolon that nothing stands behind -/
def tidyPath (scheme : String) (path : String) : String :=
  let (path, parameters) := cutParameters scheme path.toList
  String.ofList (withParameters path parameters)

/-- a part that is there and not empty -/
def filled (part : Option String) : Option String := part.filter (!·.isEmpty)

/-- the parts of a path one after the other, `.` and `..` followed -/
def resolve (parts : List (List Char)) : List Char :=
  let step (out : List (List Char)) (p : List Char) : List (List Char) :=
    if p == ['.', '.'] then out.dropLast else if p == ['.'] then out else out ++ [p]
  let out := parts.foldl step []
  let last := parts.getLast?.getD []
  glue ['/'] (if last == ['.'] || last == ['.', '.'] then out ++ [[]] else out)

/-- the inner parts that are not empty, between the first and the last -/
def withoutEmptyParts : List (List Char) → List (List Char)
  | [] => []
  | p :: ps => p :: (ps.dropLast.filter (!·.isEmpty) ++ ps.getLast?.toList)

/-- a path seen from another one -/
def joinPath (base path : List Char) : List Char :=
  let parts := cut '/' path
  let joined :=
    if path.head? == some '/' then parts
    else
      let baseParts := cut '/' base
      let kept := if baseParts.getLast? == some [] then baseParts else baseParts.dropLast
      withoutEmptyParts (kept ++ parts)
  let s := resolve joined
  if s.head? == some '/' then s else '/' :: s

/-- where a link without a scheme leads on the page of a URL; what is left out of the link is the page's -/
def join (base link : Url) : Url :=
  if link.text.isEmpty then base
  else if !relativeSchemes.contains base.scheme then link
  else
    let (path, parameters) := cutParameters base.scheme link.path.toList
    let fragment := filled link.fragment
    if !link.authority.isEmpty then
      { link with scheme := base.scheme, path := tidyPath base.scheme link.path
                  query := filled link.query, fragment }
    else if path.isEmpty && parameters.isEmpty then
      { base with path := tidyPath base.scheme base.path
                  query := (filled link.query).or (filled base.query), fragment }
    else
      let path := joinPath (cutParameters base.scheme base.path.toList).1 path
      { base with path := String.ofList (withParameters path parameters)
                  query := filled link.query, fragment }

/-- a link with a scheme, which may leave out the host alone, on the page of a URL -/
def housed (base link : Url) : Except Flaw Url := do
  if link.scheme.isEmpty || !link.host.isEmpty then return link
  let whole ← { link with host := base.host }.fit
  checkPath true true whole.path.toList
  return whole.normal

/-- the URL that a link stands for on the page of a URL -/
def led (base link : Url) : Except Flaw Url :=
  if link.isAbsolute then .ok link
  else if lengthLimit < (base.join link).text.length then .error .long
  else .ok (base.join link).normal

/-- a URL with the fragment of the page that led there, unless it has one of its own -/
def withFragmentOf (base u : Url) : Except Flaw Url :=
  match filled base.fragment, filled u.fragment with
  | some fragment, none => do
    let moved := String.ofList (Percent.decode fragment.toList)
    let whole ← { u with fragment := some moved }.fit
    if let some (c, place) := control? moved.toList then throw (.controlIn "fragment" c place)
    return { whole.normal with fragment := some (String.ofList (Percent.quote inFragment moved.toList)) }
  | _, _ => .ok u

end SnippetStudio.Url
