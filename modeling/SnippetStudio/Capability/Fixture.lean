import SnippetStudio.Fault
import SnippetStudio.Json.Plain

/-!
# Fixture data

The data that snippets read from is a tree whose containers are either open, so that a holder may
change them, or sealed (`Fixture`).  `ofJson` gives a tree of open containers; `freeze` seals every
container, `thaw` opens the sealed ones again, and `toJson` reads the value off.  An open container is
passed by `thaw` as it stands, with all that is in it.  All of them go to any depth: the room that is left on a stack
is not counted, here as in writing JSON.
-/

namespace SnippetStudio

inductive Fixture where
  | null
  | bool (b : Bool)
  | int (n : Int)
  | real (x : Float)
  | str (s : String)
  | arr (isSealed : Bool) (items : List Fixture)
  | obj (isSealed : Bool) (fields : List (String × Fixture))
deriving Inhabited

namespace Fixture

mutual

def ofJson : Json → Fixture
  | .null => .null
  | .bool b => .bool b
  | .int n => .int n
  | .real x => .real x
  | .str s => .str s
  | .arr xs => .arr false (ofItems xs)
  | .obj fs => .obj false (ofFields fs)

def ofItems : List Json → List Fixture
  | [] => []
  | x :: xs => ofJson x :: ofItems xs

def ofFields : List (String × Json) → List (String × Fixture)
  | [] => []
  | f :: fs => (f.1, ofJson f.2) :: ofFields fs

end

mutual

def toJson : Fixture → Json
  | .null => .null
  | .bool b => .bool b
  | .int n => .int n
  | .real x => .real x
  | .str s => .str s
  | .arr _ xs => .arr (toItems xs)
  | .obj _ fs => .obj (toFields fs)

def toItems : List Fixture → List Json
  | [] => []
  | x :: xs => toJson x :: toItems xs

def toFields : List (String × Fixture) → List (String × Json)
  | [] => []
  | f :: fs => (f.1, toJson f.2) :: toFields fs

end

mutual

/-- every open container sealed, at any depth -/
def freeze : Fixture → Fixture
  | .arr false xs => .arr true (freezeItems xs)
  | .obj false fs => .obj true (freezeFields fs)
  | v => v

def freezeItems : List Fixture → List Fixture
  | [] => []
  | x :: xs => freeze x :: freezeItems xs

def freezeFields : List (String × Fixture) → List (String × Fixture)
  | [] => []
  | f :: fs => (f.1, freeze f.2) :: freezeFields fs

end

mutual

/-- every sealed container opened, as far as sealed ones reach -/
def thaw : Fixture → Fixture
  | .arr true xs => .arr false (thawItems xs)
  | .obj true fs => .obj false (thawFields fs)
  | v => v

def thawItems : List Fixture → List Fixture
  | [] => []
  | x :: xs => thaw x :: thawItems xs

def thawFields : List (String × Fixture) → List (String × Fixture)
  | [] => []
  | f :: fs => (f.1, thaw f.2) :: thawFields fs

end

mutual

/-- no open container at any depth -/
def isFrozen : Fixture → Bool
  | .arr isSealed xs => isSealed && frozenItems xs
  | .obj isSealed fs => isSealed && frozenFields fs
  | _ => true

def frozenItems : List Fixture → Bool
  | [] => true
  | x :: xs => isFrozen x && frozenItems xs

def frozenFields : List (String × Fixture) → Bool
  | [] => true
  | f :: fs => isFrozen f.2 && frozenFields fs

end

/-- the word for the kind of a value; a list that is sealed is of another kind than an open one -/
def kindWord : Fixture → String
  | .arr true _ => "tuple"
  | .obj true _ => "mappingproxy"
  | v => Json.kindWord v.toJson

/-- the keys of a record, in order -/
def keys : Fixture → Except Fault (List String)
  | .obj _ fs => .ok (fs.map (·.1))
  | v => .error ⟨.unknown "AttributeError", "'" ++ v.kindWord ++ "' object has no attribute 'keys'"⟩

end Fixture

end SnippetStudio
