import SnippetStudio.Json.Sequence

/-!
# The order of values

Two values are the same (`same`) where truth values count as the numbers 1 and 0, and the order of fields does not
matter.  Numbers, texts and lists have an order among themselves (`below`), all other values have none;
`sorted` puts values in it by halving, and is refused at the first two values that have no order.  Only a value
that cannot change can be looked up (`key`), and only texts can be put together (`textItems`).
-/

namespace SnippetStudio.Json

/-- the number of a value that is one -/
def number? : Json → Option Float
  | .real x => some x
  | v => v.integer?.map Float.ofInt

mutual

def same : Json → Json → Bool
  | .null, w => w.isNull
  | .bool b, w => (if b then 1 else 0 : Float) == (number? w).getD (0.0 / 0.0)
  | .int n, w =>
    match w.integer? with
    | some m => n == m
    | none => Float.ofInt n == (number? w).getD (0.0 / 0.0)
  | .real x, w => x == (number? w).getD (0.0 / 0.0)
  | .str s, w => w.str? == some s
  | .arr xs, .arr ys => sameItems xs ys
  | .obj fs, .obj gs => fs.length == gs.length && sameFields fs gs
  | _, _ => false

def sameItems : List Json → List Json → Bool
  | [], [] => true
  | x :: xs, y :: ys => same x y && sameItems xs ys
  | _, _ => false

/-- each field stands among others, with the same value -/
def sameFields : List (String × Json) → List (String × Json) → Bool
  | [], _ => true
  | f :: fs, gs => ((get? f.1 gs).any fun v => same f.2 v) && sameFields fs gs

end

def noOrder (v w : Json) : Fault :=
  ⟨.type, "'<' not supported between instances of '" ++ kindWord v ++ "' and '" ++ kindWord w ++ "'"⟩

mutual

/-- one value comes before another -/
def below : Json → Json → Except Fault Bool
  | .str s, .str t => .ok (decide (s < t))
  | .arr xs, .arr ys => belowItems xs ys
  | v, w =>
    match v.integer?, w.integer?, number? v, number? w with
    | some m, some n, _, _ => .ok (decide (m < n))
    | _, _, some x, some y => .ok (decide (x < y))
    | _, _, _, _ => .error (noOrder v w)

/-- the first items that are not the same tell the order -/
def belowItems : List Json → List Json → Except Fault Bool
  | [], ys => .ok !ys.isEmpty
  | _ :: _, [] => .ok false
  | x :: xs, y :: ys => if same x y then belowItems xs ys else below x y

end

/-- the place of a value between two places of a list in order, behind all that are not above it -/
def placeIn (v : Json) (xs : List Json) (low high : Nat) : Except Fault Nat :=
  if low < high then do
    let middle := low + (high - low) / 2
    if ← below v (xs.getD middle .null) then placeIn v xs low middle else placeIn v xs (middle + 1) high
  else .ok low
termination_by high - low

/-- a value put into a list in order -/
def insertSorted (xs : List Json) (v : Json) : Except Fault (List Json) := do
  return xs.insertIdx (← placeIn v xs 0 xs.length) v

/-- the values that each come before the last one of those before, newest first; then what is left -/
def falling (last : Json) (run : List Json) : List Json → Except Fault (List Json × List Json)
  | [] => .ok (run, [])
  | v :: vs => do if ← below v last then falling v (v :: run) vs else return (run, v :: vs)

/-- the values of which none comes before the last one, newest first; then what is left -/
def rising (last : Json) (run : List Json) : List Json → Except Fault (List Json × List Json)
  | [] => .ok (run, [])
  | v :: vs => do if ← below v last then return (run, v :: vs) else rising v (v :: run) vs

/-- values in their order: a run at the front is taken as it stands or turned round, the others are put in -/
def sorted : List Json → Except Fault (List Json)
  | v :: w :: vs => do
    let (run, rest) ←
      if ← below w v then falling w [w, v] vs
      else (fun r => (r.1.reverse, r.2)) <$> rising w [w, v] vs
    rest.foldlM insertSorted run
  | vs => .ok vs

/-- a value that can be looked up; a list or a record cannot -/
def key (v : Json) : Except Fault Json :=
  match v with
  | .arr _ | .obj _ => .error ⟨.type, "unhashable type: '" ++ kindWord v ++ "'"⟩
  | _ => .ok v

/-- the texts that a sequence consists of; `place` is the number of the first one -/
def textItems (place : Nat) (vs : List Json) : Except Fault (List String) :=
  (vs.zipIdx place).mapM fun x =>
    match x.1 with
    | .str s => Except.ok s
    | v => .error ⟨.type, "sequence item " ++ toString x.2 ++ ": expected str instance, " ++ kindWord v ++
        " found"⟩

end SnippetStudio.Json
