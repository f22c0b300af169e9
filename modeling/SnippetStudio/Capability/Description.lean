import SnippetStudio.Capability.Catalogue
import SnippetStudio.Json.Order

/-!
# Capability sets described in JSON

A description may name components, icons, fixture data and hooks; what it leaves out is taken from
the standard set.  A component is described by its fields, or by its name alone, and then is a
`div`.  The fields of a component may hold anything, but they must be known, and name and tag must be there.

What is described is a `Draft`, in which names need not be texts.  `Draft.set` is the set of what does have texts
for names; `Draft.checkWrapped` and `Draft.checkListed` refuse a draft with other names where they would have to
be written out.
-/

namespace SnippetStudio

namespace Component

/-- the names of the fields that a description may have -/
def fieldNames : List String :=
  ["name", "tag", "class_name", "variants", "sizes", "attrs", "omit", "rename", "behavior"]

private def refusal (text : String) : Fault := ⟨.type, "ComponentSpec.__init__() " ++ text⟩

def unknownField (name : String) : Fault := refusal ("got an unexpected keyword argument " ++ quoted name)

def lackingFields (names : List String) : Fault :=
  refusal ("missing " ++ toString names.length ++ " required positional argument" ++
    (if names.length = 1 then "" else "s") ++ ": " ++ " and ".intercalate (names.map quoted))

/-- the component with some fields -/
def ofFields (fields : List (String × Json)) : Except Fault Component := do
  if let some f := fields.find? fun f => !fieldNames.contains f.1 then throw (unknownField f.1)
  let lacking := ["name", "tag"].filter fun name => (Json.get? name fields).isNone
  if !lacking.isEmpty then throw (lackingFields lacking)
  let field (key : String) (default : Json) : Json := (Json.get? key fields).getD default
  return { name := Json.plain (field "name" "")
           tag := field "tag" .null
           className := field "class_name" ""
           variants := field "variants" (.obj [])
           sizes := field "sizes" (.obj [])
           attrs := field "attrs" (.obj [])
           dropped := field "omit" (.arr [])
           renamed := field "rename" (.obj [])
           behavior := field "behavior" .null }

/-- a component, and its name as it is described -/
def ofJson : Json → Except Fault (Json × Component)
  | .str name => .ok (name, { name, tag := "div" })
  | v => do
    let fields := v.fields?.getD []
    return ((Json.get? "name" fields).getD "", ← ofFields fields)

end Component

/-- a set of capabilities whose names may be any values -/
structure Draft where
  components : List (Json × Component)
  mockData : Fixture
  icons : List Json
  hooks : List Json

namespace Draft

def ofCapabilities (c : Capabilities) : Draft where
  components := c.components.map fun k => (.str k.name, k)
  mockData := c.mockData
  icons := c.icons.map .str
  hooks := c.hooks.map .str

def names (d : Draft) : Except Fault (List Json) := Json.sorted (d.components.map (·.1))

/-- the document installed into the page -/
def payload (d : Draft) : Except Fault Json := do
  let components ← d.components.mapM fun k => do
    match ← k.2.payload with
    | .obj fields => return .obj (Json.put "name" k.1 fields)
    | v => return v
  return .obj [("components", .arr components), ("mockData", d.mockData.thaw.toJson)]

/-- what has texts for names -/
def set (d : Draft) : Capabilities where
  components := (d.components.filter fun k => k.1.str?.isSome).map (·.2)
  mockData := d.mockData
  icons := d.icons.filterMap (·.str?)
  hooks := d.hooks.filterMap (·.str?)

/-- names can be written out around a snippet -/
def checkWrapped (d : Draft) : Except Fault Unit := do
  let _ ← Json.textItems 0 (← d.names)
  let _ ← Json.textItems Scope.extras.length d.hooks

/-- names can be listed in a prompt -/
def checkListed (d : Draft) : Except Fault Unit := do
  for names in [← d.names, d.hooks, d.icons] do
    let _ ← Json.textItems 0 names

/-- names of which some are no texts: each must be one that can be looked up -/
def checkMixed (names : List Json) : Except Fault Unit := do
  let repeated ← (names.filter fun n => 1 < (names.filter (Json.same n)).length).mapM Json.key
  if !repeated.isEmpty then
    let each := repeated.foldl (fun ns n => if ns.any (Json.same n) then ns else ns ++ [n]) []
    throw (.value ("Duplicate capability names: " ++ Json.plain (.arr (← Json.sorted each))))
  let _ ← names.mapM Json.key
  match Capabilities.taken (names.filterMap (·.str?)) with
  | [] => return ()
  | taken => throw (.value (Clash.reserved (sortNames taken)).message)

/-- names that occur more than once, and those that the scope uses, are refused -/
def checkNames (names : List Json) : Except Fault Unit :=
  match Json.textItems 0 names with
  | .ok texts =>
    match Capabilities.clash? texts with
    | some clash => .error (.value clash.message)
    | none => .ok ()
  | .error _ => checkMixed names

/-- what a field of a description gives, or what stands in for a field that is left out -/
def given {α : Type} (key : String) (v : Json) (read : Json → Except Fault α) (standard : α) :
    Except Fault α :=
  match v.present? key with
  | some x => read x
  | none => .ok standard

/-- the set that a description stands for; no description stands for the standard set -/
def ofJson (v : Json) : Except Fault Draft := do
  let standard := ofCapabilities Capabilities.standard
  if v.isNull then return standard
  let components ← given "components" v (fun x => do (← Json.parts x).mapM Component.ofJson)
    standard.components
  let icons ← given "icons" v Json.parts (Catalogue.icons.map .str)
  let mockData ← given "mock_data" v (fun x => .ok (Fixture.ofJson x)) Catalogue.mockData
  checkNames (components.map (·.1))
  let icons ← Json.sorted icons
  let hooks ← given "hooks" v Json.parts standard.hooks
  return { components, mockData := mockData.freeze, icons, hooks }

end Draft

/-- what has texts for names in the set that a description stands for -/
def Capabilities.ofJson (v : Json) : Except Fault Capabilities := Draft.set <$> Draft.ofJson v

end SnippetStudio
