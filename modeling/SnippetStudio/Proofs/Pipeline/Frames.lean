import SnippetStudio.Pipeline.Stream
import SnippetStudio.Proofs.Json.RoundTrip

/-!
# Events apart

An event is one line behind `data: ` and a blank line.  Whatever its data hold, line breaks among it, the line is
visible ASCII, so that no blank line stands inside an event: a stream is cut into its events again (`blocks`).
The line is read back as the data, with the type in front.

* `eventFields_eq`     the type comes first, unless the data bring their own;
* `blocks_flatMap`     a stream of texts without line breaks is cut behind each;
* `eventText_blocks`   **what an event is, and how a stream of events is cut**.
-/

namespace SnippetStudio

open Json

variable {ρ : Type}

/-! ## The fields of an event -/

/-- fields put one by one behind a first one: its value may change, and the others follow in their order -/
theorem merge_behind {α : Type} (key : String) (value : α) (acc : List (String × α))
    {fields : List (String × α)} (nodup : (keys acc ++ keys fields).Nodup) (other : key ∉ keys acc) :
    merge ((key, value) :: acc) fields =
      (key, (get? key fields).getD value) :: (acc ++ fields.filter (·.1 ≠ key)) := by
  induction fields generalizing value acc with
  | nil => simp [merge, get?]
  | cons f fs ih =>
    obtain ⟨distinct, rest, apart⟩ := List.nodup_append.mp nodup
    obtain ⟨first, rest⟩ := List.nodup_cons.mp rest
    show merge (put f.1 f.2 ((key, value) :: acc)) fs = _
    by_cases same : f.1 = key
    · have gone : get? key fs = none := get?_of_not_mem (same ▸ first)
      have others : (keys acc ++ keys fs).Nodup :=
        nodup.sublist (List.Sublist.append_left (List.sublist_cons_self ..) _)
      rw [put, if_pos same.symm, same, ih f.2 acc others other, gone, get?, if_pos same,
        List.filter_cons_of_neg (by simpa using same)]
      rfl
    · have fresh : f.1 ∉ keys acc := fun mem => apart _ mem _ List.mem_cons_self rfl
      have others : (keys (acc ++ [f]) ++ keys fs).Nodup := by simpa [keys] using nodup
      have later : key ∉ keys (acc ++ [f]) := by simpa [keys, Ne.symm same] using other
      rw [put, if_neg (Ne.symm same), put_of_not_mem f.2 fresh, ih value _ others later, get?, if_neg same,
        List.filter_cons_of_pos (by simpa using same), List.append_assoc]
      rfl

theorem eventFields_eq (type : String) {data : List (String × Json)} (nodup : (keys data).Nodup) :
    eventFields type data =
      ("type", (get? "type" data).getD (.str type)) :: data.filter (·.1 ≠ "type") :=
  merge_behind "type" _ [] nodup List.not_mem_nil

theorem distinct_eventFields (type : String) {data : List (String × Json)} (distinct : (Tree.obj data).Distinct) :
    (Tree.obj (eventFields type data)).Distinct := by
  cases distinct with
  | obj nodup values =>
    rw [eventFields_eq type nodup]
    refine .obj (List.nodup_cons.mpr ⟨?_, nodup.sublist (List.filter_sublist.map _)⟩)
      (List.forall_mem_cons.mpr ⟨?_, fun f mem => values f (List.mem_filter.mp mem).1⟩)
    · simp
    · cases own : get? "type" data with
      | none => exact .str type
      | some v => exact values _ (mem_of_get? own)

/-! ## Blank lines -/

/-- a text cut behind each blank line -/
def blocks : List Char → List (List Char)
  | [] => []
  | '\n' :: '\n' :: s => ['\n', '\n'] :: blocks s
  | c :: s =>
    match blocks s with
    | [] => [[c]]
    | b :: bs => (c :: b) :: bs

theorem blocks_append {line : List Char} (h : '\n' ∉ line) (s : List Char) :
    blocks (line ++ '\n' :: '\n' :: s) = (line ++ ['\n', '\n']) :: blocks s := by
  induction line with
  | nil => rfl
  | cons c line ih =>
    rw [List.mem_cons, not_or] at h
    have tail := ih h.2
    rw [List.cons_append, blocks, tail]
    · rfl
    · rintro rest rfl
      exact absurd rfl h.1

theorem blocks_flatMap {lines : List (List Char)} (h : ∀ line ∈ lines, '\n' ∉ line) :
    blocks (lines.flatMap fun line => line ++ ['\n', '\n']) = lines.map fun line => line ++ ['\n', '\n'] := by
  induction lines with
  | nil => rfl
  | cons line lines ih =>
    obtain ⟨first, rest⟩ := List.forall_mem_cons.mp h
    rw [List.flatMap_cons, List.append_assoc, List.map_cons, ← ih rest]
    exact blocks_append first _

/-! ## Events -/

theorem fitFields_iff {fs : List (String × Json.Tree ρ)} :
    Tree.fitFields fs = true ↔ ∀ f ∈ fs, f.2.fits = true := by
  induction fs with
  | nil => simp [Tree.fitFields]
  | cons f fs ih => simp [Tree.fitFields, ih]

theorem get?_of_mem {α : Type} {key : String} {value : α} {fields : List (String × α)}
    (nodup : (keys fields).Nodup) (mem : (key, value) ∈ fields) : get? key fields = some value := by
  induction fields with
  | nil => exact absurd mem List.not_mem_nil
  | cons f fs ih =>
    obtain ⟨first, rest⟩ := List.nodup_cons.mp nodup
    rw [get?]
    rcases List.mem_cons.mp mem with rfl | mem
    · exact if_pos rfl
    · have other : f.1 ≠ key := by
        rintro rfl
        exact first (List.mem_map.mpr ⟨_, mem, rfl⟩)
      rw [if_neg other, ih rest mem]

/-- the type is a text, so that an event fits when its data fit -/
theorem fitFields_eventFields (type : String) {data : List (String × Json)} (nodup : (keys data).Nodup) :
    Tree.fitFields (eventFields type data) = Tree.fitFields data := by
  rw [Bool.eq_iff_iff, fitFields_iff, fitFields_iff, eventFields_eq type nodup, List.forall_mem_cons]
  constructor
  · rintro ⟨first, others⟩ f mem
    by_cases same : f.1 = "type"
    · obtain ⟨key, value⟩ := f
      obtain rfl : key = "type" := same
      rwa [get?_of_mem nodup mem] at first
    · exact others f (List.mem_filter.mpr ⟨mem, by simpa using same⟩)
  · intro all
    refine ⟨?_, fun f mem => all f (List.mem_filter.mp mem).1⟩
    cases own : get? "type" data with
    | none => rfl
    | some v => exact all _ (mem_of_get? own)

theorem mapM_ok {ε α β : Type} {f : α → Except ε β} {g : α → β} {xs : List α}
    (h : ∀ x ∈ xs, f x = .ok (g x)) : xs.mapM f = .ok (xs.map g) := by
  induction xs with
  | nil => rfl
  | cons x xs ih =>
    obtain ⟨first, rest⟩ := List.forall_mem_cons.mp h
    rw [List.mapM_cons, first, ih rest]
    rfl

/-- the line of an event -/
def eventLine (type : String) (data : List (String × Json)) : List Char :=
  "data: ".toList ++ write doubles (.obj (eventFields type data))

theorem isPlain_eventLine (type : String) (data : List (String × Json)) : IsPlain (eventLine type data) :=
  isPlain_append.mpr ⟨by decide, isPlain_write spelled_doubles _⟩

theorem toList_eventOf (type : String) (data : List (String × Json)) :
    (eventOf (spell (.obj (eventFields type data)))).toList = eventLine type data ++ ['\n', '\n'] := by
  rw [eventOf, spell, String.toList_append, String.toList_append]
  exact congrArg (fun line => "data: ".toList ++ line ++ ['\n', '\n']) String.toList_ofList

theorem eventText_eq (type : String) {data : List (String × Json)} (nodup : (keys data).Nodup) :
    eventText type data =
      if (Tree.obj data).fits then .ok (eventOf (spell (.obj (eventFields type data)))) else .error .overlong := by
  have same : (Tree.obj (eventFields type data)).fits = (Tree.obj data).fits := fitFields_eventFields type nodup
  rw [eventText, text, same]
  split <;> rfl

/-- **An event is one line and a blank line.**  The line is visible ASCII, and behind `data: ` it is read back as
the data with their type; so a stream of events is cut into them at its blank lines.  Data with a whole number of
more than 4300 digits give no event. -/
theorem eventText_blocks (es : List (String × List (String × Json)))
    (distinct : ∀ e ∈ es, (Tree.obj e.2).Distinct) :
    (∀ e ∈ es, (Tree.obj e.2).fits = true → ∃ text body, eventText e.1 e.2 = .ok text ∧
      text.toList = "data: ".toList ++ body ++ ['\n', '\n'] ∧ IsPlain body ∧
      readFreely tokens body = .ok ((Tree.obj (eventFields e.1 e.2)).map doubles.write) ∧
      (∀ l : Limits, (Tree.obj (eventFields e.1 e.2)).Within l.digits l.depth →
        readWithin l tokens body = .ok ((Tree.obj (eventFields e.1 e.2)).map doubles.write)) ∧
      eventFields e.1 e.2 = ("type", (get? "type" e.2).getD (.str e.1)) :: e.2.filter (·.1 ≠ "type")) ∧
    (∀ e ∈ es, (Tree.obj e.2).fits = false → eventText e.1 e.2 = .error .overlong) ∧
    ((∀ e ∈ es, (Tree.obj e.2).fits = true) → ∃ texts, es.mapM (fun e => eventText e.1 e.2) = .ok texts ∧
      blocks (texts.flatMap String.toList) = texts.map String.toList) := by
  have own (e) (mem : e ∈ es) : (keys e.2).Nodup := by
    cases distinct e mem with
    | obj nodup _ => exact nodup
  refine ⟨fun e mem fits => ?_, fun e mem long => ?_, fun fit => ?_⟩
  · have whole := distinct_eventFields e.1 (distinct e mem)
    exact ⟨_, write doubles (.obj (eventFields e.1 e.2)), by rw [eventText_eq e.1 (own e mem), if_pos fits],
      toList_eventOf e.1 e.2, isPlain_write spelled_doubles _, readFreely_write spelled_doubles whole,
      fun l => readWithin_write spelled_doubles whole, eventFields_eq e.1 (own e mem)⟩
  · rw [eventText_eq e.1 (own e mem), long]
    rfl
  · refine ⟨es.map fun e => eventOf (spell (.obj (eventFields e.1 e.2))), ?_, ?_⟩
    · exact mapM_ok fun e mem => by rw [eventText_eq e.1 (own e mem), if_pos (fit e mem)]
    · have oneLine : ∀ line ∈ es.map fun e => eventLine e.1 e.2, '\n' ∉ line := by
        intro line mem feed
        obtain ⟨e, -, rfl⟩ := List.mem_map.mp mem
        exact absurd (isPlain_eventLine e.1 e.2 _ feed).1 (by decide)
      have cut := blocks_flatMap oneLine
      rw [List.flatMap_map, List.map_map] at cut
      simp only [List.flatMap_map, List.map_map, Function.comp_def, toList_eventOf]
      exact cut

/-- a line break in the data stays inside its event -/
theorem eventText_blocks_break :
    ∃ texts, [("status", [("step", Tree.str "a\nb")]), ("done", [])].mapM (fun e => eventText e.1 e.2) = .ok texts ∧
      blocks (texts.flatMap String.toList) = texts.map String.toList := by
  have distinct : ∀ e ∈ [("status", [("step", Tree.str "a\nb")]), ("done", [])],
      (Tree.obj (e.2 : List (String × Json))).Distinct := by
    refine List.forall_mem_cons.mpr ⟨.obj (by simp [keys]) ?_, ?_⟩
    · exact List.forall_mem_cons.mpr ⟨.str _, List.forall_mem_nil _⟩
    · exact List.forall_mem_cons.mpr ⟨.obj List.nodup_nil (List.forall_mem_nil _), List.forall_mem_nil _⟩
  exact (eventText_blocks _ distinct).2.2 (by simp [Tree.fits, Tree.fitFields])

theorem eventText_of_long {n : Int} (long : Text.isShort n = false) (type key : String) :
    eventText type [(key, .int n)] = .error .overlong := by
  have unfit : (Tree.obj [(key, (.int n : Json))]).fits = false := by
    rw [Tree.fits, Tree.fitFields, Tree.fits, long, Bool.false_and]
  have nodup : (keys [(key, (.int n : Json))]).Nodup := by simp
  rw [eventText_eq type nodup, unfit]
  rfl

/-- the least whole number that has too many digits gives no event -/
theorem eventText_overlong :
    eventText "n" [("n", .int (Text.leastBeyond Text.integerLimit))] = .error .overlong := by
  refine eventText_of_long (Bool.eq_false_iff.mpr fun short => ?_) "n" "n"
  rw [Text.isShort_iff, Int.natAbs_natCast] at short
  exact Nat.lt_irrefl _ short

end SnippetStudio
