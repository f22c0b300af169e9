import SnippetStudio.Text.Digit
import SnippetStudio.Text.Quoted

/-!
# Faults

What a collaborator (the page, the network, a model, a listener) can fail with: a kind and a text.
`Fault.message` is the text as it is reported; a missing key is reported between quotes.
`Fault.report` is the text, or the kind's label where the text is empty.

A whole number is turned into a text unless it has too many digits (`written`).
-/

namespace SnippetStudio

inductive Fault.Kind where
  | runtime
  | value
  | key
  | type
  | timeout
  | connect
  | readTimeout
  | compile
  | notReady
  | acquisition
  | notInitialized
  | notStarted
  | cancelled
  | encoding
  | unknown (label : String) (named : label.isEmpty = false := by exact Eq.refl false)
deriving Repr, DecidableEq

/-- the name a kind is reported under -/
def Fault.Kind.label : Fault.Kind → String
  | runtime => "RuntimeError"
  | value => "ValueError"
  | key => "KeyError"
  | type => "TypeError"
  | timeout => "TimeoutError"
  | connect => "ConnectError"
  | readTimeout => "ReadTimeout"
  | compile => "CompileError"
  | notReady => "DependencyNotReadyError"
  | acquisition => "AcquisitionError"
  | notInitialized => "EngineNotInitializedError"
  | notStarted => "HostNotStartedError"
  | cancelled => "CancelledError"
  | encoding => "Error"
  | unknown l _ => l

theorem Fault.Kind.label_ne_empty (k : Fault.Kind) : k.label ≠ "" := by
  cases k with
  | unknown label named =>
    rintro rfl
    cases named
  | _ => decide

structure Fault where
  kind : Fault.Kind
  text : String
deriving Repr, DecidableEq

namespace Fault

def message (f : Fault) : String :=
  match f.kind with
  | .key => quoted f.text
  | _ => f.text

/-- kind and message -/
def full (f : Fault) : String := f.kind.label ++ ": " ++ f.message

/-- the message, or the kind where there is none -/
def report (f : Fault) : String := if f.message.isEmpty then f.kind.label else f.message

def value (text : String) : Fault := ⟨.value, text⟩

def key (k : String) : Fault := ⟨.key, k⟩

def runtime (text : String) : Fault := ⟨.runtime, text⟩

def acquisition (text : String) : Fault := ⟨.acquisition, text⟩

def cancelled : Fault := ⟨.cancelled, ""⟩

/-- a whole number has too many digits to be turned into a text -/
def overlong : Fault :=
  .value ("Exceeds the limit (" ++ toString Text.integerLimit ++
    " digits) for integer string conversion; use sys.set_int_max_str_digits() to increase the limit")

theorem report_ne_empty (f : Fault) : f.report ≠ "" := by
  unfold report
  split
  · exact f.kind.label_ne_empty
  · next there =>
    intro empty
    rw [empty] at there
    exact there rfl

end Fault

/-- the digits that write a number, up to the limit -/
def written (n : Int) : Except Fault String :=
  if Text.isShort n then .ok (toString n) else .error .overlong

theorem written_eq_ok_iff {n : Int} {t : String} :
    written n = .ok t ↔ Text.isShort n = true ∧ t = toString n := by
  rw [written]
  split
  · next short =>
    rw [Except.ok.injEq]
    exact ⟨fun h => ⟨short, h.symm⟩, fun h => h.2.symm⟩
  · next long => exact ⟨nofun, fun h => absurd h.1 long⟩

end SnippetStudio
