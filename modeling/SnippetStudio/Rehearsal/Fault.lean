import SnippetStudio.Fault
import SnippetStudio.Json.Basic

/-!
# Faults in scripts

A script names a fault by its kind and its message; a kind without a name is a plain one.
-/

namespace SnippetStudio.Rehearsal

def faultKinds : List Fault.Kind :=
  [.runtime, .value, .key, .type, .timeout, .connect, .readTimeout, .compile, .notReady, .acquisition]

def kindOf (label : String) : Fault.Kind :=
  (faultKinds.find? fun k => k.label == label).getD
    (if named : label.isEmpty = false then .unknown label named else .runtime)

def faultOf (v : Json) : Fault :=
  ⟨kindOf (((v.field? "kind").bind (·.str?)).getD "RuntimeError"),
    ((v.field? "message").bind (·.str?)).getD ""⟩

/-- the fault in a field -/
def fault? (key : String) (v : Json) : Option Fault := (v.present? key).map faultOf

end SnippetStudio.Rehearsal
