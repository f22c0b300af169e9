import Mathlib.Data.List.Destutter
import SnippetStudio.Proofs.Buffer.LastWord
import SnippetStudio.Proofs.Buffer.Undo

/-!
# Notices of changes

Calls of a buffer may be made one after the other, each when everybody has been told of the edit before it
(`Telling.Orderly`).  Then what was told and what is still to be told (`Telling.ledger`) grows by the news of
every edit that changes the text, and by nothing else.

* `result_edit`      an edit of a tape answers whether it changes the text;
* `ledger_move`, `notices_after`   what one move, and what a whole run adds to the notices;
* `filter_number`    the notices of one edit are those of its listeners, in their order;
* `destutter_texts`  what one listener hears are the texts that the buffer takes on;
* `exact_notices`    **every change is told once to everybody who listens, and nothing else is told**.
-/

namespace SnippetStudio

namespace Buffer

variable {ι : Type}

theorem result_edit {b : Buffer ι} {tape : Tape} (memory : b.surface = .memory tape)
    (uneven : tape.Uneven) (e : Edit) :
    (b.edit e).buffer.surface = .memory (tape.edit e).1 ∧
      ((b.edit e).result = true ↔ (b.edit e).buffer.text ≠ b.text) := by
  obtain ⟨surface, listeners⟩ := b
  obtain rfl : surface = .memory tape := memory
  have stepped (step : Tape × Bool) (changes : step.2 = true → step.1.current ≠ tape.current)
      (stays : step.2 = false → step.1 = tape) (a : Option (Announcement ι)) :
      let edited : Edited ι := if step.2 then ⟨⟨.memory step.1, listeners⟩, true, a⟩
        else ⟨⟨.memory step.1, listeners⟩, false, none⟩
      edited.buffer.surface = .memory step.1 ∧
        (edited.result = true ↔ edited.buffer.text ≠ tape.current) := by
    obtain ⟨tape', took⟩ := step
    cases took with
    | true => exact ⟨rfl, fun _ => changes rfl, fun _ => rfl⟩
    | false => exact ⟨rfl, nofun, fun other => absurd (congrArg Tape.current (stays rfl)) other⟩
  cases e with
  | set text =>
    refine ⟨rfl, ?_⟩
    simp only [edit, announcement?]
    split
    · next same => simp [same]
    · next other => simp [other]
  | undo => exact stepped tape.undo (Tape.current_undo_ne uneven) Tape.undo_of_not _
  | redo => exact stepped tape.redo (Tape.current_redo_ne uneven) Tape.redo_of_not _

end Buffer

/-- an announcement as the notices of an edit -/
def Announcement.notices {ι : Type} (a : Announcement ι) (n : Nat) : List (Notice ι) :=
  a.listeners.map fun l => ⟨n, l, a.text⟩

namespace Telling

variable {ι : Type} [DecidableEq ι]

/-- nobody is being told -/
def Still (t : Telling ι) : Prop := t.underway.isEmpty = true

/-- a call may begin when nobody is being told; listeners go on at any time, and do not fail -/
def Allows (t : Telling ι) : Move ι → Prop
  | .resume _ => True
  | .fail _ => False
  | _ => t.Still

/-- calls one after the other, with no listener registered twice -/
def Orderly (t : Telling ι) : List (Move ι) → Prop
  | [] => t.buffer.listeners.Nodup
  | m :: ms => t.buffer.listeners.Nodup ∧ t.Allows m ∧ (t.move m).Orderly ms

instance (t : Telling ι) : Decidable t.Still := inferInstanceAs (Decidable (_ = true))

instance (t : Telling ι) : (m : Move ι) → Decidable (t.Allows m)
  | .resume _ => .isTrue trivial
  | .fail _ => .isFalse id
  | .edit _ | .subscribe _ | .unsubscribe _ => inferInstanceAs (Decidable t.Still)

instance : (t : Telling ι) → (ms : List (Move ι)) → Decidable (t.Orderly ms)
  | t, [] => inferInstanceAs (Decidable t.buffer.listeners.Nodup)
  | t, m :: ms =>
    have : Decidable ((t.move m).Orderly ms) := instDecidableOrderly (t.move m) ms
    inferInstanceAs (Decidable (t.buffer.listeners.Nodup ∧ t.Allows m ∧ (t.move m).Orderly ms))

/-- what is still to be told -/
def due (t : Telling ι) : List (Notice ι) := t.underway.entries.flatMap fun e => e.2.notices e.1

/-- what was told, and what is still to be told -/
def ledger (t : Telling ι) : List (Notice ι) := t.notices ++ t.due

/-- at most one edit is under way -/
def Sole (t : Telling ι) : Prop := t.underway.entries.length ≤ 1

/-- what a move has to tell: an edit that changes the text tells it to those who listen -/
def news (t : Telling ι) : Move ι → List (Notice ι)
  | .edit e =>
    if (t.buffer.edit e).buffer.text = t.buffer.text then []
    else Announcement.notices ⟨(t.buffer.edit e).buffer.text, t.buffer.listeners⟩ t.next
  | _ => []

def newsOf (t : Telling ι) : List (Move ι) → List (Notice ι)
  | [] => []
  | m :: ms => t.news m ++ (t.move m).newsOf ms

/-- the text at the beginning of a run, and after each of its moves -/
def texts (t : Telling ι) : List (Move ι) → List String
  | [] => [t.buffer.text]
  | m :: ms => t.buffer.text :: (t.move m).texts ms

section

variable {t : Telling ι}

theorem orderly_append {ms ms' : List (Move ι)} :
    t.Orderly (ms ++ ms') ↔ t.Orderly ms ∧ (t.after ms).Orderly ms' := by
  induction ms generalizing t with
  | nil =>
    refine ⟨fun h => ⟨?_, h⟩, And.right⟩
    cases ms' with
    | nil => exact h
    | cons m ms' => exact h.1
  | cons m ms ih =>
    have rest : (t.move m).Orderly (ms ++ ms') ↔ _ := ih
    simp only [List.cons_append, Orderly, rest, and_assoc]
    rfl

omit [DecidableEq ι] in
theorem Still.entries (h : t.Still) : t.underway.entries = [] := List.isEmpty_iff.mp h

omit [DecidableEq ι] in
theorem Still.ledger (h : t.Still) : t.ledger = t.notices := by
  rw [Telling.ledger, due, h.entries]
  exact List.append_nil _

/-! ## What a run adds -/

omit [DecidableEq ι] in
/-- whoever is told next, all that an edit has to tell is told or still to be told -/
theorem ledger_tell {n : Nat} (alone : (t.underway.drop n).entries = []) (a : Announcement ι) :
    (t.tell n a).ledger = t.notices ++ a.notices n ∧ (t.tell n a).Sole := by
  obtain ⟨text, ls⟩ := a
  cases ls with
  | nil =>
    refine ⟨?_, ?_⟩
    · simp only [tell, Telling.ledger, due, alone]
      rfl
    · simp only [tell, Sole, alone]
      exact Nat.zero_le 1
  | cons l ls =>
    have entries : (t.underway.put n ⟨text, ls⟩).entries = [(n, ⟨text, ls⟩)] :=
      congrArg (_ :: ·) alone
    refine ⟨?_, ?_⟩
    · simp only [tell, Telling.ledger, due, entries]
      simp [Announcement.notices]
    · simp only [tell, Sole, entries]
      exact Nat.le_refl 1

omit [DecidableEq ι] in
theorem ledger_edit (still : t.Still) (e : Edit) :
    (t.edit e).ledger = t.ledger ++ t.news (.edit e) ∧ (t.edit e).Sole := by
  have none := still.entries
  by_cases same : (t.buffer.edit e).buffer.text = t.buffer.text
  · rw [edit_of_eq t e same, news, if_pos same, List.append_nil]
    exact ⟨rfl, (congrArg (List.length · ≤ 1) none).mpr (Nat.zero_le 1)⟩
  · rw [edit_of_ne t e same, news, if_neg same, still.ledger]
    refine ledger_tell ?_ _
    exact congrArg (List.filter _) none

omit [DecidableEq ι] in
theorem Sole.of_find {n : Nat} {a : Announcement ι} (sole : t.Sole) (h : t.underway.find? n = some a) :
    t.underway.entries = [(n, a)] := by
  obtain ⟨e, found, rfl⟩ := Option.map_eq_some_iff.mp h
  have mem := List.mem_of_find?_eq_some found
  have number : e.1 = n := by simpa using List.find?_some found
  obtain ⟨x, only⟩ := List.length_eq_one_iff.mp
    (Nat.le_antisymm sole (List.length_pos_of_mem mem))
  rw [only] at mem ⊢
  rw [← List.mem_singleton.mp mem, ← number]

theorem ledger_move (sole : t.Sole) {m : Move ι} (allowed : t.Allows m) :
    (t.move m).ledger = t.ledger ++ t.news m ∧ (t.move m).Sole := by
  cases m with
  | edit e => exact ledger_edit allowed e
  | resume n =>
    have quiet : t.ledger ++ t.news (.resume n) = t.ledger := List.append_nil _
    rw [quiet]
    cases ha : t.underway.find? n with
    | none =>
      have still : t.move (.resume n) = t := by simp only [move, ha]
      rw [still]
      exact ⟨rfl, sole⟩
    | some a =>
      have goes : t.move (.resume n) = t.tell n a := by simp only [move, ha]
      have entries := sole.of_find ha
      have owed : t.ledger = t.notices ++ a.notices n := by
        rw [Telling.ledger, due, entries]
        exact congrArg (_ ++ ·) (List.append_nil _)
      rw [goes, owed]
      refine ledger_tell ?_ a
      rw [Roster.drop, entries]
      simp
  | fail n => exact absurd allowed id
  | subscribe l => exact ⟨(List.append_nil _).symm, sole⟩
  | unsubscribe l => exact ⟨(List.append_nil _).symm, sole⟩

theorem ledger_after (sole : t.Sole) {ms : List (Move ι)} (orderly : t.Orderly ms) :
    (t.after ms).ledger = t.ledger ++ t.newsOf ms := by
  induction ms generalizing t with
  | nil => exact (List.append_nil _).symm
  | cons m ms ih =>
    obtain ⟨step, sole'⟩ := ledger_move sole orderly.2.1
    show ((t.move m).after ms).ledger = _
    rw [ih sole' orderly.2.2, step, newsOf, List.append_assoc]

/-- between two moments at which nobody is being told the news were told -/
theorem notices_after {ms : List (Move ι)} (still : t.Still) (orderly : t.Orderly ms)
    (rest : (t.after ms).Still) : (t.after ms).notices = t.notices ++ t.newsOf ms := by
  have sole : t.Sole := (congrArg (List.length · ≤ 1) still.entries).mpr (Nat.zero_le 1)
  rw [← rest.ledger, ledger_after sole orderly, still.ledger]

/-! ## The notices of one edit -/

theorem newsOf_append (ms ms' : List (Move ι)) :
    t.newsOf (ms ++ ms') = t.newsOf ms ++ (t.after ms).newsOf ms' := by
  induction ms generalizing t with
  | nil => rfl
  | cons m ms ih =>
    simp only [List.cons_append, newsOf, ih, List.append_assoc]
    rfl

omit [DecidableEq ι] in
theorem next_edit (e : Edit) : (t.edit e).next = t.next + 1 := by
  by_cases same : (t.buffer.edit e).buffer.text = t.buffer.text
  · rw [edit_of_eq t e same]
  · rw [edit_of_ne t e same, next_tell]

theorem next_move (m : Move ι) : t.next ≤ (t.move m).next := by
  cases m with
  | edit e => exact Nat.le_of_lt (Nat.lt_of_lt_of_eq (Nat.lt_succ_self _) (next_edit e).symm)
  | resume n =>
    cases ha : t.underway.find? n with
    | none => simp [move, ha]
    | some a => simp [move, ha]
  | fail n => exact Nat.le_refl _
  | subscribe l => exact Nat.le_refl _
  | unsubscribe l => exact Nat.le_refl _

omit [DecidableEq ι] in
theorem edit_of_news {m : Move ι} {k : Notice ι} (h : k ∈ t.news m) : k.edit = t.next ∧ ∃ e, m = .edit e := by
  cases m with
  | edit e =>
    rw [news] at h
    split at h
    · cases h
    · obtain ⟨l, -, rfl⟩ := List.mem_map.mp h
      exact ⟨rfl, e, rfl⟩
  | _ => cases h

theorem edit_of_newsOf {ms : List (Move ι)} {k : Notice ι} (h : k ∈ t.newsOf ms) :
    t.next ≤ k.edit ∧ k.edit < (t.after ms).next := by
  induction ms generalizing t with
  | nil => cases h
  | cons m ms ih =>
    show _ ∧ k.edit < ((t.move m).after ms).next
    rcases List.mem_append.mp h with now | later
    · obtain ⟨number, e, rfl⟩ := edit_of_news now
      refine ⟨Nat.le_of_eq number.symm, ?_⟩
      have grows : (t.move (.edit e)).next ≤ ((t.move (.edit e)).after ms).next := by
        clear now ih h
        generalize t.move (.edit e) = s
        induction ms generalizing s with
        | nil => exact Nat.le_refl _
        | cons m ms ih => exact Nat.le_trans (next_move m) (ih _)
      have next : (t.move (.edit e)).next = t.next + 1 := next_edit e
      omega
    · obtain ⟨low, high⟩ := ih later
      exact ⟨Nat.le_trans (next_move m) low, high⟩

theorem filter_number (pre post : List (Move ι)) (e : Edit) :
    (t.newsOf (pre ++ .edit e :: post)).filter (·.edit = (t.after pre).next) =
      (t.after pre).news (.edit e) := by
  have before : (t.newsOf pre).filter (·.edit = (t.after pre).next) = [] := by
    refine List.filter_eq_nil_iff.mpr fun k hk => ?_
    simpa using Nat.ne_of_lt (edit_of_newsOf hk).2
  have own : ((t.after pre).news (.edit e)).filter (·.edit = (t.after pre).next) =
      (t.after pre).news (.edit e) :=
    List.filter_eq_self.mpr fun k hk => by simpa using (edit_of_news hk).1
  have behind : (((t.after pre).move (.edit e)).newsOf post).filter (·.edit = (t.after pre).next) = [] := by
    refine List.filter_eq_nil_iff.mpr fun k hk => ?_
    have low := (edit_of_newsOf hk).1
    have next : ((t.after pre).move (.edit e)).next = (t.after pre).next + 1 := next_edit e
    simpa using (show k.edit ≠ (t.after pre).next by omega)
  rw [newsOf_append, newsOf, List.filter_append, List.filter_append, before, own, behind]
  simp

/-! ## What one listener hears -/

theorem heard_news {l : ι} (distinct : t.buffer.listeners.Nodup) (listens : l ∈ t.buffer.listeners)
    (m : Move ι) : ((t.news m).filter (·.listener = l)).map (·.text) =
      if (t.move m).buffer.text = t.buffer.text then [] else [(t.move m).buffer.text] := by
  by_cases changed : (t.move m).buffer.text = t.buffer.text
  · rw [if_pos changed]
    cases m with
    | edit e =>
      have same : (t.buffer.edit e).buffer.text = t.buffer.text :=
        (congrArg Buffer.text (buffer_edit t e)).symm.trans changed
      rw [news, if_pos same]
      rfl
    | _ => rfl
  · obtain ⟨e, rfl⟩ := edit_of_changed changed
    have text : (t.move (.edit e)).buffer.text = (t.buffer.edit e).buffer.text :=
      congrArg Buffer.text (buffer_edit t e)
    have own : t.buffer.listeners.filter (· = l) = [l] := by
      rw [List.filter_eq, List.count_eq_one_of_mem distinct listens]
      rfl
    rw [if_neg changed, text, news, if_neg (text ▸ changed), Announcement.notices, List.filter_map]
    show List.map _ (List.map _ (t.buffer.listeners.filter fun x => x = l)) = _
    rw [own]
    rfl

omit [DecidableEq ι] in
theorem unheard_news {l : ι} (deaf : l ∉ t.buffer.listeners) (m : Move ι) : ∀ k ∈ t.news m, k.listener ≠ l := by
  intro k hk
  cases m with
  | edit e =>
    rw [news] at hk
    split at hk
    · cases hk
    · obtain ⟨x, hx, rfl⟩ := List.mem_map.mp hk
      exact fun same => deaf (same ▸ hx)
  | _ => cases hk

theorem unheard_newsOf {l : ι} {ms : List (Move ι)}
    (deaf : ∀ p, p <+: ms → l ∉ (t.after p).buffer.listeners) : ∀ k ∈ t.newsOf ms, k.listener ≠ l := by
  induction ms generalizing t with
  | nil => exact fun k hk => absurd hk List.not_mem_nil
  | cons m ms ih =>
    intro k hk
    rcases List.mem_append.mp hk with now | later
    · exact unheard_news (deaf [] List.nil_prefix) m k now
    · exact ih (fun p hp => deaf (m :: p) ((List.cons_prefix_cons).mpr ⟨rfl, hp⟩)) k later

theorem destutter_texts {l : ι} {ms : List (Move ι)} (orderly : t.Orderly ms)
    (listens : ∀ p, p <+: ms → l ∈ (t.after p).buffer.listeners) :
    (t.texts ms).destutter (· ≠ ·) =
      t.buffer.text :: ((t.newsOf ms).filter (·.listener = l)).map (·.text) := by
  induction ms generalizing t with
  | nil => rfl
  | cons m ms ih =>
    have now := heard_news orderly.1 (listens [] List.nil_prefix) m
    have later := ih orderly.2.2 fun p hp => listens (m :: p) ((List.cons_prefix_cons).mpr ⟨rfl, hp⟩)
    obtain ⟨rest, texts⟩ : ∃ rest, (t.move m).texts ms = (t.move m).buffer.text :: rest := by
      cases ms with
      | nil => exact ⟨_, rfl⟩
      | cons m' ms => exact ⟨_, rfl⟩
    rw [texts, List.destutter_cons'] at later
    rw [Telling.texts, texts, List.destutter_cons_cons, newsOf, List.filter_append, List.map_append, now]
    by_cases same : (t.move m).buffer.text = t.buffer.text
    · rw [if_neg (not_not.mpr same.symm), if_pos same, ← same, later]
      rfl
    · rw [if_pos (Ne.symm same), if_neg same, later]
      rfl

end

/-- on a tape the buffer stays on a tape -/
theorem memory_after {t : Telling ι} {tape : Tape} (memory : t.buffer.surface = .memory tape)
    (uneven : tape.Uneven) (ms : List (Move ι)) :
    ∃ tape', (t.after ms).buffer.surface = .memory tape' ∧ tape'.Uneven := by
  induction ms generalizing t tape with
  | nil => exact ⟨tape, memory, uneven⟩
  | cons m ms ih =>
    have step : ∃ tape', (t.move m).buffer.surface = .memory tape' ∧ tape'.Uneven := by
      cases m with
      | edit e =>
        have edited := (Buffer.result_edit memory uneven e).1
        rw [← buffer_edit t e] at edited
        exact ⟨_, edited, Tape.uneven_edit uneven e⟩
      | resume n =>
        refine ⟨tape, ?_, uneven⟩
        cases ha : t.underway.find? n with
        | none => simpa only [move, ha] using memory
        | some a => simpa only [move, ha, buffer_tell] using memory
      | fail n => exact ⟨tape, memory, uneven⟩
      | subscribe l => exact ⟨tape, memory, uneven⟩
      | unsubscribe l => exact ⟨tape, memory, uneven⟩
    obtain ⟨tape', memory', uneven'⟩ := step
    exact ih memory' uneven'

/-- **Every change is told, once, and nothing else.**  A buffer over a tape, which may have been edited
before, is called in an orderly way, from a moment at which nobody has been told anything until everybody has
been told.  An edit answers `true` if it changes
the text, and if it does, its notices are the new text for those who listen, in the order of their
registrations; else it has none.  In any part of the run that begins and ends with nobody being told, a
listener that is registered all the time hears the texts that the buffer takes on behind the one that it
has, each of them once, and one that is not registered hears nothing. -/
theorem exact_notices {t : Telling ι} {text : String} {es : List Edit}
    (memory : t.buffer.surface = .memory (Edit.run Tape.edit (.ofText text) es).1)
    (still : t.Still) (untold : t.notices = []) {ms : List (Move ι)}
    (orderly : t.Orderly ms) (rest : (t.after ms).Still) :
    (∀ pre e post, ms = pre ++ .edit e :: post →
      let b := (t.after pre).buffer
      let n := (t.after pre).next
      ((b.edit e).result = true ↔ (b.edit e).buffer.text ≠ b.text) ∧
      (t.after ms).notices.filter (·.edit = n) =
        if (b.edit e).result then b.listeners.map fun l => ⟨n, l, (b.edit e).buffer.text⟩ else []) ∧
    ∀ pre mid post, ms = pre ++ mid ++ post → (t.after pre).Still → (t.after (pre ++ mid)).Still →
      ∀ l : ι,
        ((∀ p, p <+: mid → l ∈ (t.after (pre ++ p)).buffer.listeners) →
          ∃ heard, (t.after (pre ++ mid)).told l = (t.after pre).told l ++ heard ∧
            ((t.after pre).texts mid).destutter (· ≠ ·) =
              (t.after pre).buffer.text :: heard.map (·.text)) ∧
        ((∀ p, p <+: mid → l ∉ (t.after (pre ++ p)).buffer.listeners) →
          (t.after (pre ++ mid)).told l = (t.after pre).told l) := by
  refine ⟨?_, fun pre mid post split still' rest' l => ?_⟩
  · intro pre e post split b n
    have uneven := Tape.uneven_run (Tape.uneven_ofText text) es
    obtain ⟨tape', memory', uneven'⟩ := memory_after memory uneven pre
    have answer := (Buffer.result_edit memory' uneven' e).2
    refine ⟨answer, ?_⟩
    rw [notices_after still orderly rest, untold, List.nil_append, split, filter_number]
    by_cases same : (b.edit e).buffer.text = b.text
    · have no : (b.edit e).result = false := Bool.eq_false_iff.mpr fun yes => answer.mp yes same
      rw [news, if_pos same, no]
      rfl
    · rw [news, if_neg same, answer.mpr same]
      rfl
  · have part : (t.after pre).Orderly mid := by
      rw [split, orderly_append, orderly_append] at orderly
      exact orderly.1.2
    rw [after_append] at rest' ⊢
    have grown := notices_after still' part rest'
    have told : ((t.after pre).after mid).told l =
        (t.after pre).told l ++ ((t.after pre).newsOf mid).filter (·.listener = l) := by
      rw [Telling.told, grown, List.filter_append]
      rfl
    simp only [after_append] at *
    refine ⟨fun listens => ⟨_, told, destutter_texts part listens⟩, fun deaf => ?_⟩
    have silent : ((t.after pre).newsOf mid).filter (·.listener = l) = [] := by
      refine List.filter_eq_nil_iff.mpr fun k hk => ?_
      simpa using unheard_newsOf deaf k hk
    rw [told, silent, List.append_nil]

/-- a buffer to which nobody listens yet -/
def unheard : Telling Bool where
  buffer := .ofText "a"

/-- one listener from the start, another one later, and a step back while both listen -/
def joining : List (Move Bool) :=
  [.subscribe true, .edit (.set "b"), .resume 0, .subscribe false, .edit .undo, .resume 1, .resume 1,
    .edit (.set "a"), .unsubscribe true, .edit .redo, .resume 3]

theorem exact_notices_joining :
    (unheard.after joining).notices =
      [⟨0, true, "b"⟩, ⟨1, true, "a"⟩, ⟨1, false, "a"⟩, ⟨3, false, "b"⟩] ∧
    ∃ heard, (unheard.after (joining.take 8)).told true = heard ∧
      ["a", "b", "a"] = "a" :: heard.map (·.text) := by
  have listens : ∀ p, p <+: (joining.drop 1).take 7 →
      true ∈ (unheard.after ([.subscribe true] ++ p)).buffer.listeners := by
    have all : ∀ n ≤ 7, true ∈
        (unheard.after ([.subscribe true] ++ ((joining.drop 1).take 7).take n)).buffer.listeners := by
      decide
    intro p h
    rw [List.prefix_iff_eq_take.mp h]
    exact all _ h.length_le
  have memory : unheard.buffer.surface = .memory (Edit.run Tape.edit (.ofText "a") []).1 := rfl
  obtain ⟨-, parts⟩ := exact_notices memory (by decide) rfl
    (show unheard.Orderly joining by decide) (by decide)
  obtain ⟨heard, told, texts⟩ := (parts [.subscribe true] ((joining.drop 1).take 7) (joining.drop 8)
    rfl (by decide) (by decide) true).1 listens
  have values : ((unheard.after [.subscribe true]).texts ((joining.drop 1).take 7)).destutter (· ≠ ·) =
      ["a", "b", "a"] := by decide
  exact ⟨by decide, heard, told, values.symm.trans texts⟩

end Telling

end SnippetStudio
