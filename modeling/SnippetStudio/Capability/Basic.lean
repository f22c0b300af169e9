import SnippetStudio.Capability.Fixture
import SnippetStudio.Json.Sequence

/-!
# Capabilities

What a snippet finds in scope without importing anything: components, hooks, icons and fixture
data.  `Capabilities.build` refuses a set of components of which two share a name, or of which one
has a name that the scope already uses (`Clash`).  A set built by it lists its names sorted.
-/

namespace SnippetStudio

/-- a component, as the page's component factory takes it; all but the name are passed on to the page -/
structure Component where
  name : String
  tag : Json
  className : Json := ""
  /-- tables of class names -/
  variants : Json := .obj []
  sizes : Json := .obj []
  attrs : Json := .obj []
  /-- properties that are not passed on -/
  dropped : Json := .arr []
  /-- properties that are passed on under another name -/
  renamed : Json := .obj []
  /-- the entry of the page's table of behaviours, where there is one -/
  behavior : Json := .null
deriving Repr, Inhabited

namespace Component

/-- names with a text for each -/
def table (fields : List (String × String)) : Json := .obj (fields.map fun f => (f.1, .str f.2))

def words (names : List String) : Json := .arr (names.map .str)

/-- a set of choices has a default if it has any choice -/
private def defaultOf (choices : Json) : Json := if Json.truthy choices then "default" else .null

/-- a component with its tables and lists taken as such -/
def payload (c : Component) : Except Fault Json := do
  let variants ← Json.table c.variants
  let sizes ← Json.table c.sizes
  let attrs ← Json.table c.attrs
  let dropped ← Json.parts c.dropped
  let renamed ← Json.table c.renamed
  return .obj [("name", .str c.name), ("tag", c.tag), ("className", c.className),
    ("variants", .obj variants), ("sizes", .obj sizes),
    ("defaultVariant", defaultOf c.variants), ("defaultSize", defaultOf c.sizes),
    ("attrs", .obj attrs), ("omit", .arr dropped), ("rename", .obj renamed), ("behavior", c.behavior)]

end Component

namespace Scope

/-- the hooks of a set that names no others -/
def hookNames : List String :=
  ["useState", "useEffect", "useMemo", "useRef", "useCallback", "useReducer", "useContext"]

/-- what else is taken from `React` -/
def extras : List String := ["Fragment"]

/-- the parameters of the function that a compiled snippet becomes -/
def parameters : List String := ["React", "ShadcnUI", "LucideIcons", "cn", "mockData"]

end Scope

structure Capabilities where
  components : List Component
  mockData : Fixture
  icons : List String
  hooks : List String := Scope.hookNames
deriving Inhabited

/-- names in the order of their characters' codes -/
def sortNames (names : List String) : List String :=
  names.mergeSort fun a b => decide (a ≤ b)

/-- why a set of components is refused -/
inductive Clash where
  | duplicate (names : List String)
  | reserved (names : List String)
deriving Repr, DecidableEq

def Clash.message : Clash → String
  | duplicate names => "Duplicate capability names: " ++ quotedList names
  | reserved names => "Capability names shadow reserved identifiers: " ++ quotedList names

namespace Capabilities

def names (c : Capabilities) : List String := sortNames (c.components.map (·.name))

/-- the document installed into the page -/
def payload (c : Capabilities) : Except Fault Json := do
  let components ← c.components.mapM (·.payload)
  return .obj [("components", .arr components), ("mockData", c.mockData.thaw.toJson)]

/-- the names that occur more than once, each listed once -/
def repeated (names : List String) : List String :=
  (names.filter fun n => 1 < names.count n).eraseDups

/-- the names that the scope already uses, each listed once -/
def taken (names : List String) : List String :=
  (names.filter fun n => n ∈ Scope.hookNames ++ Scope.extras ++ Scope.parameters).eraseDups

/-- why components of these names are refused, if they are -/
def clash? (names : List String) : Option Clash :=
  if repeated names ≠ [] then some (.duplicate (sortNames (repeated names)))
  else if taken names ≠ [] then some (.reserved (sortNames (taken names)))
  else none

def build (components : List Component) (icons : List String) (mockData : Fixture) :
    Except Clash Capabilities :=
  match clash? (components.map (·.name)) with
  | some clash => .error clash
  | none => .ok { components, mockData := mockData.freeze, icons := sortNames icons }

end Capabilities

end SnippetStudio
