import Mathlib.Data.List.Chain
import SnippetStudio.Buffer.Tape

/-!
# Undo and redo

Edits of a tape are edits of the history that it shows, and of neighbouring texts on it no two are the same,
so that every step changes the text.

* `run_history`    the same edits have the same answers on both;
* `uneven_run`     neighbours stay different;
* `run_back`       steps that an opposite step takes back, taken back one after the other;
* `edits_history`  **a tape edited from a text on, at any time**.
-/

namespace SnippetStudio

namespace Tape

/-- of neighbouring texts no two are the same -/
def Uneven (t : Tape) : Prop := t.texts.IsChain (· ≠ ·)

theorem uneven_ofText (text : String) : (ofText text).Uneven := .singleton text

theorem uneven_around {before behind : List String} {text : String} :
    (around before text behind).Uneven ↔
      (before ++ [text]).IsChain (· ≠ ·) ∧ (text :: behind).IsChain (· ≠ ·) :=
  List.isChain_split

theorem uneven_set {t : Tape} (h : t.Uneven) (text : String) : (t.set text).Uneven := by
  obtain ⟨before, c, behind, rfl⟩ := exists_around t
  rw [set_around]
  split
  · exact h
  · next other =>
    refine uneven_around.mpr ⟨?_, .singleton text⟩
    rw [List.append_assoc]
    exact List.isChain_split.mpr ⟨(uneven_around.mp h).1, List.isChain_pair.mpr (Ne.symm other)⟩

theorem texts_undo (t : Tape) : t.undo.1.texts = t.texts := by
  unfold undo
  split <;> rfl

theorem texts_redo (t : Tape) : t.redo.1.texts = t.texts := by
  unfold redo
  split <;> rfl

theorem uneven_edit {t : Tape} (h : t.Uneven) (e : Edit) : (t.edit e).1.Uneven := by
  cases e with
  | set text => exact uneven_set h text
  | undo => exact (congrArg (List.IsChain (· ≠ ·)) (texts_undo t)).mpr h
  | redo => exact (congrArg (List.IsChain (· ≠ ·)) (texts_redo t)).mpr h

theorem current_undo_ne {t : Tape} (uneven : t.Uneven) (h : t.undo.2 = true) :
    t.undo.1.current ≠ t.current := by
  obtain ⟨before, c, behind, rfl⟩ := exists_around t
  rcases List.eq_nil_or_concat before with rfl | ⟨before, x, rfl⟩
  · cases h
  · rw [List.concat_eq_append] at uneven ⊢
    rw [undo_around_concat, current_around, current_around]
    have neighbours := (uneven_around.mp uneven).1
    rw [List.append_assoc] at neighbours
    exact List.isChain_pair.mp (List.isChain_split.mp neighbours).2

theorem current_redo_ne {t : Tape} (uneven : t.Uneven) (h : t.redo.2 = true) :
    t.redo.1.current ≠ t.current := by
  have back := undo_redo h
  have uneven' : t.redo.1.Uneven := uneven_edit uneven .redo
  have changes := current_undo_ne uneven' (by rw [back])
  rw [back] at changes
  exact Ne.symm changes

end Tape

/-! ## Edits one after the other -/

namespace Edit

variable {σ α : Type} {step : σ → Edit → σ × α}

theorem run_append (s : σ) (es es' : List Edit) :
    run step s (es ++ es') =
      ((run step (run step s es).1 es').1, (run step s es).2 ++ (run step (run step s es).1 es').2) := by
  induction es generalizing s with
  | nil => rfl
  | cons e es ih => simp only [List.cons_append, run, ih]

/-- what every edit keeps is kept -/
theorem run_keeps {P : σ → Prop} (keeps : ∀ s e, P s → P (step s e).1) {s : σ} (h : P s) (es : List Edit) :
    P (run step s es).1 := by
  induction es generalizing s with
  | nil => exact h
  | cons e es ih => exact ih (keeps s e h)

/-- what is seen of the one takes the same edits with the same answers -/
theorem run_seen {σ' : Type} {step' : σ' → Edit → σ' × α} {seen : σ → σ'}
    (same : ∀ s e, (seen (step s e).1, (step s e).2) = step' (seen s) e) (s : σ) (es : List Edit) :
    (seen (run step s es).1, (run step s es).2) = run step' (seen s) es := by
  induction es generalizing s with
  | nil => rfl
  | cons e es ih =>
    have later := ih (step s e).1
    simp only [run, ← same, ← later]

/-- edits that an edit takes back, all of them taken back -/
theorem run_back {e back : Edit} {a : α} (takes : ∀ s, (step s e).2 = a → step (step s e).1 back = (s, a))
    {s : σ} {k : Nat} (h : (run step s (List.replicate k e)).2 = List.replicate k a) :
    run step (run step s (List.replicate k e)).1 (List.replicate k back) = (s, List.replicate k a) := by
  induction k generalizing s with
  | zero => rfl
  | succ k ih =>
    obtain ⟨first, rest⟩ := List.cons.inj h
    have last : List.replicate (k + 1) back = List.replicate k back ++ [back] := List.replicate_succ'
    show run step (run step (step s e).1 (List.replicate k e)).1 (List.replicate (k + 1) back) = _
    rw [last, run_append, ih rest]
    simp only [run, takes s first, List.replicate_succ']

end Edit

namespace Tape

theorem run_history (t : Tape) (es : List Edit) :
    ((Edit.run edit t es).1.history, (Edit.run edit t es).2) = Edit.run History.edit t.history es :=
  Edit.run_seen history_edit t es

theorem uneven_run {t : Tape} (h : t.Uneven) (es : List Edit) : (Edit.run edit t es).1.Uneven :=
  Edit.run_keeps (P := Uneven) (fun _ e h => uneven_edit h e) h es

/-- **A tape and its history.**  After any edits of a text the tape shows the history that the same edits
lead to, and every edit was answered as the history answers it: the text is the current one, and
there is a step to take back or forward if something is there.  The place lies on the tape, neighbouring
texts on it are different, and steps that could be taken are undone by as many opposite
ones. -/
theorem edits_history (text : String) (es : List Edit) :
    let t := (Edit.run edit (.ofText text) es).1
    let h := (Edit.run History.edit { current := text } es).1
    t.history = h ∧
    (Edit.run edit (.ofText text) es).2 = (Edit.run History.edit { current := text } es).2 ∧
    t.current = h.current ∧ t.canUndo = !h.past.isEmpty ∧ t.canRedo = !h.future.isEmpty ∧
    t.place < t.texts.length ∧ t.texts.IsChain (· ≠ ·) ∧
    ∀ k,
      ((Edit.run edit t (List.replicate k .undo)).2 = List.replicate k (some true) →
        Edit.run edit (Edit.run edit t (List.replicate k .undo)).1 (List.replicate k .redo) =
          (t, List.replicate k (some true))) ∧
      ((Edit.run edit t (List.replicate k .redo)).2 = List.replicate k (some true) →
        Edit.run edit (Edit.run edit t (List.replicate k .redo)).1 (List.replicate k .undo) =
          (t, List.replicate k (some true))) := by
  intro t h
  obtain ⟨same, answers⟩ := Prod.mk.inj (run_history (.ofText text) es)
  have forward (s : Tape) (took : (s.edit .undo).2 = some true) :
      (s.edit .undo).1.edit .redo = (s, some true) := by
    have taken := redo_undo (Option.some.inj took)
    exact congrArg (fun x : Tape × Bool => (x.1, some x.2)) taken
  have back (s : Tape) (took : (s.edit .redo).2 = some true) :
      (s.edit .redo).1.edit .undo = (s, some true) := by
    have taken := undo_redo (Option.some.inj took)
    exact congrArg (fun x : Tape × Bool => (x.1, some x.2)) taken
  refine ⟨same, answers, congrArg History.current same, ?_, ?_, t.inside,
    uneven_run (uneven_ofText text) es, fun k => ⟨Edit.run_back forward, Edit.run_back back⟩⟩
  · rw [canUndo_eq, same]
    rfl
  · rw [canRedo_eq, same]
    rfl

theorem edits_history_twice :
    (Edit.run edit (.ofText "a") [.set "b", .set "c", .undo, .undo]).2 =
      [none, none, some true, some true] ∧
    Edit.run edit (Edit.run edit (.ofText "a") [.set "b", .set "c", .undo, .undo]).1 [.redo, .redo] =
      ((Edit.run edit (.ofText "a") [.set "b", .set "c"]).1, [some true, some true]) := by
  have back : (Edit.run edit (Edit.run edit (.ofText "a") [.set "b", .set "c"]).1
      (List.replicate 2 .undo)).2 = List.replicate 2 (some true) := rfl
  obtain ⟨-, -, -, -, -, -, -, steps⟩ := edits_history "a" [.set "b", .set "c"]
  exact ⟨rfl, (steps 2).1 back⟩

end Tape

end SnippetStudio
