import SnippetStudio.Decimal.Binary
import SnippetStudio.Decimal.Layout

/-!
# JSON values

`Tree ρ` is a JSON value whose numbers with a point or an exponent are of type `ρ`; whole numbers
are kept apart from them and have any size.  An object keeps its fields in the order in which they
first arrived: `put` overwrites a field in place and appends a new one.

`Json` is the value with doubles for `ρ`.
-/

namespace SnippetStudio.Json

inductive Tree (ρ : Type) where
  | null
  | bool (b : Bool)
  | int (n : Int)
  | real (x : ρ)
  | str (s : String)
  | arr (items : List (Tree ρ))
  | obj (fields : List (String × Tree ρ))
deriving Inhabited, Repr

variable {α ρ : Type}

/-- the value of a key, if the key is there -/
def get? (key : String) : List (String × α) → Option α
  | [] => none
  | f :: fs => if f.1 = key then some f.2 else get? key fs

/-- a key that is there keeps its place, a new one goes to the end -/
def put (key : String) (value : α) : List (String × α) → List (String × α)
  | [] => [(key, value)]
  | f :: fs => if f.1 = key then (key, value) :: fs else f :: put key value fs

/-- the fields of the second list put one by one into the first -/
def merge (fields more : List (String × α)) : List (String × α) :=
  more.foldl (fun fs f => put f.1 f.2 fs) fields

def keys (fields : List (String × α)) : List String := fields.map (·.1)

@[simp] theorem keys_nil : keys ([] : List (String × α)) = [] := rfl

@[simp] theorem keys_cons (f : String × α) (fs : List (String × α)) :
    keys (f :: fs) = f.1 :: keys fs := rfl

theorem put_of_not_mem {key : String} {fields : List (String × α)} (value : α)
    (h : key ∉ keys fields) : put key value fields = fields ++ [(key, value)] := by
  induction fields with
  | nil => rfl
  | cons f fs ih =>
    rw [keys_cons, List.mem_cons, not_or] at h
    rw [put, if_neg (Ne.symm h.1), ih h.2, List.cons_append]

theorem get?_of_not_mem {key : String} {fields : List (String × α)} (h : key ∉ keys fields) :
    get? key fields = none := by
  induction fields with
  | nil => rfl
  | cons f fs ih =>
    rw [keys_cons, List.mem_cons, not_or] at h
    rw [get?, if_neg (Ne.symm h.1), ih h.2]

theorem mem_of_get? {key : String} {value : α} {fields : List (String × α)}
    (h : get? key fields = some value) : (key, value) ∈ fields := by
  induction fields with
  | nil => cases h
  | cons f fs ih =>
    rw [get?] at h
    split at h
    · next same =>
      obtain rfl := Option.some.inj h
      exact same ▸ List.mem_cons_self
    · exact List.mem_cons_of_mem _ (ih h)

theorem get?_put_self (key : String) (value : α) (fields : List (String × α)) :
    get? key (put key value fields) = some value := by
  induction fields with
  | nil => simp [put, get?]
  | cons f fs ih =>
    by_cases e : f.1 = key
    · simp [put, e, get?]
    · simp [put, e, get?, ih]

theorem get?_put_of_ne {key other : String} (h : other ≠ key) (value : α)
    (fields : List (String × α)) : get? other (put key value fields) = get? other fields := by
  induction fields with
  | nil => simp [put, get?, h.symm]
  | cons f fs ih =>
    by_cases e : f.1 = key
    · subst e; simp [put, get?, h.symm]
    · simp [put, e, get?, ih]

namespace Tree

def field? (key : String) : Tree ρ → Option (Tree ρ)
  | .obj fs => get? key fs
  | _ => none

def str? : Tree ρ → Option String
  | .str s => some s
  | _ => none

def int? : Tree ρ → Option Int
  | .int n => some n
  | _ => none

def bool? : Tree ρ → Option Bool
  | .bool b => some b
  | _ => none

def items? : Tree ρ → Option (List (Tree ρ))
  | .arr xs => some xs
  | _ => none

def fields? : Tree ρ → Option (List (String × Tree ρ))
  | .obj fs => some fs
  | _ => none

def isNull : Tree ρ → Bool
  | .null => true
  | _ => false

/-- a whole number, or a truth value, which counts as 1 or 0 -/
def integer? : Tree ρ → Option Int
  | .int n => some n
  | .bool b => some (if b then 1 else 0)
  | _ => none

mutual

/-- the whole numbers of a value can be turned into texts -/
def fits : Tree ρ → Bool
  | .int n => Text.isShort n
  | .arr xs => fitItems xs
  | .obj fs => fitFields fs
  | _ => true

def fitItems : List (Tree ρ) → Bool
  | [] => true
  | x :: xs => x.fits && fitItems xs

def fitFields : List (String × Tree ρ) → Bool
  | [] => true
  | f :: fs => f.2.fits && fitFields fs

end

/-- a field that is there and is not null -/
def present? (key : String) (t : Tree ρ) : Option (Tree ρ) :=
  (t.field? key).filter fun v => !v.isNull

end Tree

end SnippetStudio.Json

namespace SnippetStudio

abbrev Json := Json.Tree Float

/-- a text is a value -/
instance : Coe String Json := ⟨.str⟩

end SnippetStudio
