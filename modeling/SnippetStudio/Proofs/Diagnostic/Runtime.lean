import SnippetStudio.Proofs.Diagnostic.Reading

/-!
# Errors of a snippet that runs

An error that is met while a snippet runs is told by its name and its message (`told`).  The message is read as
those of the compiler are, so what looks like a file name in front or like a position at the end is taken
off, although the snippet itself has put it there.

* `missingIdentifier?_eq_some_iff`  when a message says that a name is not defined;
* `runtimeMessage_eq`               what is told of an error;
* `message_kept_iff`                **a message of one line is told whole just when it looks like none
                                    of the compiler's**.
-/

namespace SnippetStudio.Diagnostic

open Text

/-- name and message of an error, and the hint that the entry component is missing -/
def told (name message : String) : String :=
  name ++ ": " ++ message ++
    if name = "ReferenceError" ∧ message = "Preview is not defined" then entryHint else ""

theorem missingIdentifier?_eq_some_iff {message name : String} :
    missingIdentifier? message = some name ↔ name ≠ "" ∧ (∀ c ∈ name.toList, isBlank c = false) ∧
      trimmed message = name ++ " is not defined" := by
  have split := run_iff (p := fun c => !isBlank c) (s := trim message.toList) (w := name.toList)
    (c := ' ') (r := "is not defined".toList)
  have spelled : trimmed message = name ++ " is not defined" ↔
      trim message.toList = name.toList ++ ' ' :: "is not defined".toList := by
    rw [trimmed, ← String.toList_inj, String.toList_ofList, String.toList_append]
    rfl
  have word : (∀ c ∈ name.toList, isBlank c = false) ↔ ∀ c ∈ name.toList, (!isBlank c) = true := by
    simp
  rw [spelled, word, missingIdentifier?]
  constructor
  · intro h
    split at h
    · cases h
    · next some =>
      split at h
      · next rest =>
        have same : name.toList = (trim message.toList).takeWhile fun c => !isBlank c := by
          rw [← Option.some.inj h, String.toList_ofList]
        obtain ⟨whole, inside, -⟩ := split.mp ⟨same.symm, rest⟩
        refine ⟨fun empty => ?_, inside, whole⟩
        rw [← same, empty] at some
        exact some rfl
      · cases h
  · rintro ⟨some, inside, whole⟩
    obtain ⟨front, rest⟩ := split.mpr ⟨whole, inside, by decide⟩
    have nonempty : name.toList.isEmpty = false := by simpa using some
    have rest' : (trim message.toList).dropWhile (fun c => !isBlank c) = " is not defined".toList := rest
    simp only [front, rest', nonempty, Bool.false_eq_true, if_false, if_true, String.ofList_toList]

variable {fields : List (String × Json)} {name message : String}

/-- the description of an error that has a name and a message -/
theorem description_of_named (hn : Json.get? "name" fields = some (.str name)) (named : name ≠ "")
    (hm : Json.get? "message" fields = some (.str message)) :
    (Description.ofFields fields).name = some (.str name) ∧
      (Description.ofFields fields).message = some message := by
  have counts : Json.truthy (.str name) = true := by simpa [Json.truthy] using named
  constructor
  · rw [Description.ofFields, hn, Option.filter_some, if_pos counts]
  · rw [Description.ofFields, hm]
    rfl

/-- **What is told of an error**: what is left of its message. -/
theorem runtimeMessage_eq (hn : Json.get? "name" fields = some (.str name)) (named : name ≠ "")
    (hm : Json.get? "message" fields = some (.str message)) (short : ¬Overlong (.obj fields)) :
    runtimeMessage (.obj fields) = .ok (
      let kept := String.ofList (Description.ofFields fields).kept
      name ++ ": " ++ kept ++
        if name = "ReferenceError" ∧ trimmed kept = "Preview is not defined" then entryHint else "") := by
  have legible : ¬(Description.ofFields fields).Overlong := fun long => short ⟨_, rfl, long⟩
  obtain ⟨line, column, placing⟩ := placing_of_not_overlong legible
  have ofJson : Description.ofJson (.obj fields) = .ok (Description.ofFields fields) := rfl
  have entry : ∀ kept : String, missingIdentifier? kept = some entryPoint ↔
      trimmed kept = "Preview is not defined" := fun kept => by
    have nonempty : entryPoint ≠ "" := by decide
    have visible : (entryPoint.toList.all fun c => !isBlank c) = true := by decide
    rw [missingIdentifier?_eq_some_iff]
    refine ⟨fun h => h.2.2, fun h => ⟨nonempty, fun c hc => ?_, h⟩⟩
    simpa using List.all_eq_true.mp visible c hc
  have reference : isReference (.obj [("name", .str name)]) = true ↔ name = "ReferenceError" := by
    simp [isReference, Json.Tree.field?, Json.get?]
  simp only [runtimeMessage, ofJson, bind, Except.bind, parse_of_placing placing,
    (description_of_named hn named hm).1, Option.getD_some, Json.plain, entry, reference]
  split <;> simp [pure, Except.pure]

theorem length_unplaced_le (s : List Char) : (unplaced (dropOrigin s)).length ≤ s.length :=
  (unplaced_front _).length_le.trans (dropOrigin_suffix s).length_le

/-- a message of which something is taken off is not told as the whole one -/
theorem kept_of_told {s : List Char}
    (h : told name (String.ofList (unplaced (dropOrigin s))) = told name (String.ofList s)) :
    unplaced (dropOrigin s) = s := by
  have shorter := length_unplaced_le s
  simp only [told, ← String.toList_inj, String.toList_append, List.append_assoc,
    List.append_cancel_left_eq, String.toList_ofList] at h
  split at h
  · next hint =>
    split at h
    · exact List.append_cancel_right h
    · -- the hint itself looks like nothing of the compiler's
      have whole : unplaced (dropOrigin ("Preview is not defined".toList ++ entryHint.toList)) =
          "Preview is not defined".toList ++ entryHint.toList := by decide +kernel
      rw [hint.2, String.toList_empty, List.append_nil] at h
      rw [← h]
      exact whole
  · split at h
    · have longer := congrArg List.length h
      have some : 0 < entryHint.toList.length := by decide
      rw [String.toList_empty, List.append_nil, List.length_append] at longer
      omega
    · exact List.append_cancel_right h

/-- **A message of one line is told whole just when it looks like none of the compiler's**: it begins with no name
of a file, and ends with no position.  Of every other one only what is left without them is told, if the position
can be read at all; the hint comes just with a missing entry component. -/
theorem message_kept_iff (hn : Json.get? "name" fields = some (.str name)) (named : name ≠ "")
    (hm : Json.get? "message" fields = some (.str message)) (line : '\n' ∉ message.toList)
    (trims : trimmed message = message) :
    (runtimeMessage (.obj fields) = .ok (told name message) ↔
      (∀ o ∈ origins, ¬o <+: message.toList) ∧
        ¬∃ pre line column, EndsWith message.toList pre line column) ∧
    (¬Overlong (.obj fields) → runtimeMessage (.obj fields) =
      .ok (told name (String.ofList (unplaced (dropOrigin message.toList))))) := by
  have trim_ : trim message.toList = message.toList := by
    rw [trimmed, ← String.toList_inj, String.toList_ofList] at trims
    exact trims
  have text : (Description.ofFields fields).text = dropOrigin message.toList := by
    rw [Description.text, (description_of_named hn named hm).2, Option.getD_some,
      headline_of_line line, trim_]
  have left : trimmed (String.ofList (unplaced (dropOrigin message.toList))) =
      String.ofList (unplaced (dropOrigin message.toList)) := by
    rw [trimmed, String.toList_ofList, trim_unplaced trim_]
  have tells (short : ¬Overlong (.obj fields)) : runtimeMessage (.obj fields) =
      .ok (told name (String.ofList (unplaced (dropOrigin message.toList)))) := by
    have eq := runtimeMessage_eq hn named hm short
    simp only [Description.kept, text, left] at eq
    exact eq
  refine ⟨?_, tells⟩
  rw [← dropOrigin_eq_self_iff, ← unplaced_eq_self_iff]
  constructor
  · intro h
    have short : ¬Overlong (.obj fields) := fun long => by
      obtain ⟨f, unread, -⟩ := runtimeMessage_of_overlong long
      rw [unread] at h
      cases h
    rw [tells short, Except.ok.injEq, ← String.ofList_toList (s := message), String.toList_ofList] at h
    have whole := kept_of_told h
    have named_ : dropOrigin message.toList = message.toList :=
      (dropOrigin_suffix _).eq_of_length (Nat.le_antisymm (dropOrigin_suffix _).length_le (by
        have rest := (unplaced_front (dropOrigin message.toList)).length_le
        rwa [whole] at rest))
    exact ⟨named_, by rwa [named_] at whole⟩
  · rintro ⟨origin, position⟩
    have short : ¬Overlong (.obj fields) := by
      rintro ⟨d, hd, -, pre, line, column, ends, -⟩
      cases hd
      rw [text, origin] at ends
      exact unplaced_eq_self_iff.mp position ⟨pre, line, column, ends⟩
    rw [tells short, origin, position, String.ofList_toList]

/-- an error whose message ends with a time of the day -/
def meeting : List (String × Json) :=
  [("name", .str "Error"), ("message", .str "Meeting moved (10:30)")]

theorem message_kept_iff_meeting :
    "Error" ≠ "" ∧ '\n' ∉ "Meeting moved (10:30)".toList ∧
    trimmed "Meeting moved (10:30)" = "Meeting moved (10:30)" ∧ ¬Overlong (.obj meeting) ∧
    runtimeMessage (.obj meeting) ≠ .ok (told "Error" "Meeting moved (10:30)") ∧
    runtimeMessage (.obj meeting) = .ok "Error: Meeting moved" := by
  have named : "Error" ≠ "" := by decide
  have line : '\n' ∉ "Meeting moved (10:30)".toList := by decide
  have trims : trimmed "Meeting moved (10:30)" = "Meeting moved (10:30)" := by decide +kernel
  have found : suffix? "Meeting moved (10:30)".toList =
      some ⟨"Meeting moved".toList, "10".toList, "30".toList⟩ := by decide +kernel
  obtain ⟨pre, ends, -⟩ := suffix?_eq_some_iff.mp found
  have short : ¬Overlong (.obj meeting) := by
    rintro ⟨d, hd, -, pre, line, column, ends, long⟩
    cases hd
    have text : (Description.ofFields meeting).text = "Meeting moved (10:30)".toList := by
      decide +kernel
    have again := suffix?_eq_some_iff (x := ⟨trimEnd pre, line, column⟩) |>.mpr ⟨pre, ends, rfl⟩
    rw [text, found] at again
    obtain ⟨-, rfl, rfl⟩ := Suffix.mk.inj (Option.some.inj again)
    revert long
    decide
  have name : Json.get? "name" meeting = some (.str "Error") := rfl
  have message : Json.get? "message" meeting = some (.str "Meeting moved (10:30)") := rfl
  obtain ⟨whole, left⟩ := message_kept_iff name named message line trims
  refine ⟨named, line, trims, short, fun same => (whole.mp same).2 ⟨pre, _, _, ends⟩, ?_⟩
  rw [left short]
  decide +kernel

end SnippetStudio.Diagnostic
