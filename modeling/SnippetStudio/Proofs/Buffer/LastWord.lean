import Mathlib.Data.List.Induction
import SnippetStudio.Buffer.Telling

/-!
# The last word of a listener

Every change of the text is told to everybody who listens, but telling takes its time: a change may be made
while the listeners of an earlier one are still being told, and those that are left hear the earlier text
after the later one.

* `Telling.Backed`     a notice that is the last change told, or was still to be told when it was made;
* `Telling.Since`      the listeners since the last change, whatever has happened in between;
* `since_edit`, `since_move`   it begins with a change, and every move keeps it;
* `last_word`          what a listener hears last, when all is said.
-/

namespace SnippetStudio.Telling

variable {ι : Type} [DecidableEq ι]

/-- what a listener was told, the earliest first -/
def told (t : Telling ι) (l : ι) : List (Notice ι) := t.notices.filter fun k => k.listener = l

/-- all that is under way has been numbered -/
def Numbered (t : Telling ι) : Prop := ∀ n, t.next ≤ n → t.underway.find? n = none

/-- the edit of a number has a listener still to tell -/
def Owes (t : Telling ι) (n : Nat) (l : ι) : Prop :=
  ∃ a, t.underway.find? n = some a ∧ l ∈ a.listeners

section

variable {t : Telling ι} {l : ι} {n : Nat}

theorem told_tell (t : Telling ι) (n : Nat) (a : Announcement ι) (l : ι) :
    (t.tell n a).told l =
      t.told l ++ if a.listeners.head? = some l then [⟨n, l, a.text⟩] else [] := by
  rw [told, notices_tell, List.filter_append]
  congr 1
  obtain ⟨text, ls⟩ := a
  cases ls with
  | nil => rfl
  | cons x ls =>
    by_cases h : x = l
    · simp [h]
    · simp [h]

omit [DecidableEq ι] in
theorem numbered_tell (h : t.Numbered) (hn : n < t.next) (a : Announcement ι) :
    (t.tell n a).Numbered := by
  intro m hm
  rw [next_tell] at hm
  rw [find?_tell_of_ne t n a (by omega)]
  exact h m hm

omit [DecidableEq ι] in
theorem numbered_edit (h : t.Numbered) (e : Edit) : (t.edit e).Numbered := by
  have next : ({ t with buffer := (t.buffer.edit e).buffer, next := t.next + 1 } :
      Telling ι).Numbered := fun n hn => h n (Nat.le_of_succ_le hn)
  by_cases same : (t.buffer.edit e).buffer.text = t.buffer.text
  · rw [edit_of_eq t e same]
    exact next
  · rw [edit_of_ne t e same]
    exact numbered_tell next (Nat.lt_succ_self _) _

omit [DecidableEq ι] in
theorem Numbered.lt (h : t.Numbered) {a : Announcement ι} (ha : t.underway.find? n = some a) :
    n < t.next := by
  refine Nat.lt_of_not_le fun hn => ?_
  rw [h n hn] at ha
  cases ha

theorem numbered_move (h : t.Numbered) (m : Move ι) : (t.move m).Numbered := by
  cases m with
  | edit e => exact numbered_edit h e
  | resume n =>
    cases ha : t.underway.find? n with
    | none => simpa only [move, ha] using h
    | some a => simpa only [move, ha] using numbered_tell h (h.lt ha) a
  | fail n =>
    intro k hk
    by_cases same : k = n
    · rw [same]
      exact Roster.find?_drop_self _ n
    · exact (Roster.find?_drop_of_ne _ same).trans (h k hk)
  | subscribe l => exact h
  | unsubscribe l => exact h

theorem numbered_after (h : t.Numbered) (ms : List (Move ι)) : (t.after ms).Numbered := by
  induction ms generalizing t with
  | nil => exact h
  | cons m ms ih => exact ih (numbered_move h m)

end

/-- a notice that is of the change made at `early`, or of one that still owed it then -/
def Backed (early : Telling ι) (l : ι) (text : String) (k : Notice ι) : Prop :=
  k = ⟨early.next, l, text⟩ ∨
    ∃ a, early.underway.find? k.edit = some a ∧ l ∈ a.listeners ∧ a.text = k.text

/-- the listeners since a change at `early` behind which the text stayed what it is -/
structure Since (early : Telling ι) (l : ι) (t : Telling ι) : Prop where
  /-- what is under way tells the present text, or is what is left from before -/
  underway : ∀ n a, t.underway.find? n = some a →
    n = early.next ∧ a.text = t.buffer.text ∨
      ∃ b, early.underway.find? n = some b ∧ a.text = b.text ∧ a.listeners <:+ b.listeners
  told : t.Owes early.next l ∨
    ⟨early.next, l, t.buffer.text⟩ ∈ t.notices ∧
      ∃ k, (t.told l).getLast? = some k ∧ Backed early l t.buffer.text k

section

variable {early t : Telling ι} {l : ι}

theorem Since.of_same {t' : Telling ι} (h : Since early l t) (text : t'.buffer.text = t.buffer.text)
    (under : t'.underway = t.underway) (notices : t'.notices = t.notices) : Since early l t' := by
  constructor
  · rw [under, text]
    exact h.underway
  · have told : t'.told l = t.told l := congrArg (List.filter _) notices
    rw [Owes, under, text, notices, told]
    exact h.told

/-- whoever is told next, the change is told to `l`, and what it hears behind it is backed -/
theorem Since.tell (h : Since early l t) (numbered : early.Numbered) {n : Nat} {a : Announcement ι}
    (ha : t.underway.find? n = some a) : Since early l (t.tell n a) := by
  constructor
  · intro m b hb
    rw [buffer_tell]
    by_cases same : m = n
    · subst same
      obtain ⟨x, rfl⟩ := find?_tell_self t m a hb
      rcases h.underway m _ ha with own | ⟨c, hc, text, left⟩
      · exact .inl own
      · exact .inr ⟨c, hc, text, (List.suffix_cons x _).trans left⟩
    · rw [find?_tell_of_ne t n a same] at hb
      exact h.underway m b hb
  · rw [buffer_tell, notices_tell, told_tell]
    rcases h.told with ⟨b, hb, mem⟩ | ⟨sent, k, last, backed⟩
    · by_cases same : n = early.next
      · subst same
        have whole : a = b := Option.some.inj (ha.symm.trans hb)
        have present : a.text = t.buffer.text := by
          rcases h.underway _ a ha with own | ⟨c, hc, -⟩
          · exact own.2
          · exact absurd (numbered.lt hc) (Nat.lt_irrefl _)
        subst whole
        obtain ⟨text, ls⟩ := a
        cases mem with
        | head ls =>
          refine .inr ⟨?_, ⟨early.next, l, text⟩, ?_, .inl ?_⟩
          · simp [← present]
          · simp
          · rw [← present]
        | tail x mem => exact .inl ⟨_, Roster.find?_put_self _ _ _, mem⟩
      · exact .inl ⟨b, (find?_tell_of_ne t n a (Ne.symm same)).trans hb, mem⟩
    · refine .inr ⟨List.mem_append_left _ sent, ?_⟩
      by_cases hears : a.listeners.head? = some l
      · refine ⟨⟨n, l, a.text⟩, by simp [hears], ?_⟩
        rcases h.underway n a ha with ⟨rfl, present⟩ | ⟨c, hc, text, left⟩
        · exact .inl (by rw [present])
        · exact .inr ⟨c, hc, left.subset (List.mem_of_head? hears), text.symm⟩
      · exact ⟨k, by simp [hears, last], backed⟩

theorem since_edit (numbered : early.Numbered) (listens : l ∈ early.buffer.listeners) {e : Edit}
    (changed : (early.buffer.edit e).buffer.text ≠ early.buffer.text) :
    Since early l (early.edit e) := by
  rw [edit_of_ne early e changed, ← tell_put _ _ _ ⟨(early.buffer.edit e).buffer.text, early.buffer.listeners⟩]
  refine Since.tell ⟨?_, .inl ⟨_, Roster.find?_put_self _ _ _, listens⟩⟩ numbered
    (Roster.find?_put_self _ _ _)
  intro n a ha
  by_cases same : n = early.next
  · subst same
    rw [Roster.find?_put_self] at ha
    cases ha
    exact .inl ⟨rfl, rfl⟩
  · rw [Roster.find?_put_of_ne _ _ same] at ha
    exact .inr ⟨a, ha, rfl, List.suffix_refl _⟩

/-- a move that neither fails nor changes the text tells the next listener of a change, or nobody -/
theorem move_of_same {m : Move ι} (goes : ∀ n, m ≠ .fail n)
    (same : (t.move m).buffer.text = t.buffer.text) :
    ((t.move m).underway = t.underway ∧ (t.move m).notices = t.notices) ∨
      ∃ n a, t.underway.find? n = some a ∧ t.move m = t.tell n a := by
  cases m with
  | edit e =>
    have kept : (t.buffer.edit e).buffer.text = t.buffer.text :=
      (congrArg Buffer.text (buffer_edit t e)).symm.trans same
    have whole : t.move (.edit e) = _ := edit_of_eq t e kept
    rw [whole]
    exact .inl ⟨rfl, rfl⟩
  | resume n =>
    cases ha : t.underway.find? n with
    | none =>
      have still : t.move (.resume n) = t := by simp only [move, ha]
      rw [still]
      exact .inl ⟨rfl, rfl⟩
    | some a =>
      refine .inr ⟨n, a, ha, ?_⟩
      simp only [move, ha]
  | fail n => exact absurd rfl (goes n)
  | subscribe x => exact .inl ⟨rfl, rfl⟩
  | unsubscribe x => exact .inl ⟨rfl, rfl⟩

/-- nothing but another change ends what is kept since the last one -/
theorem since_move (h : Since early l t) (numbered : early.Numbered) {m : Move ι}
    (goes : ∀ n, m ≠ .fail n) (same : (t.move m).buffer.text = t.buffer.text) :
    Since early l (t.move m) := by
  rcases move_of_same goes same with ⟨under, notices⟩ | ⟨n, a, ha, tells⟩
  · exact h.of_same same under notices
  · rw [tells]
    exact h.tell numbered ha

end

/-- nothing is being told, and nothing was -/
def Silent (t : Telling ι) : Prop := t.notices = [] ∧ ∀ n, t.underway.find? n = none

theorem silent_move {t : Telling ι} (h : t.Silent) {m : Move ι} (goes : ∀ n, m ≠ .fail n)
    (same : (t.move m).buffer.text = t.buffer.text) : (t.move m).Silent := by
  rcases move_of_same goes same with ⟨under, notices⟩ | ⟨n, a, ha, -⟩
  · refine ⟨notices.trans h.1, fun n => ?_⟩
    rw [under]
    exact h.2 n
  · rw [h.2 n] at ha
    cases ha

theorem edit_of_changed {t : Telling ι} {m : Move ι}
    (changed : (t.move m).buffer.text ≠ t.buffer.text) : ∃ e, m = .edit e := by
  cases m with
  | edit e => exact ⟨e, rfl⟩
  | resume n =>
    refine absurd ?_ changed
    cases ha : t.underway.find? n with
    | none => simp only [move, ha]
    | some a => simp only [move, ha, buffer_tell]
  | fail n => exact absurd rfl changed
  | subscribe x => exact absurd rfl changed
  | unsubscribe x => exact absurd rfl changed

/-- at the end of a run either nothing was told, or there was a last change -/
theorem last_change {t : Telling ι} (start : t.Silent) {l : ι} {ms : List (Move ι)}
    (goes : ∀ n, .fail n ∉ ms) (listens : ∀ pre, pre <+: ms → l ∈ (t.after pre).buffer.listeners) :
    (t.after ms).Silent ∨ ∃ pre e post, ms = pre ++ .edit e :: post ∧
      (t.after (pre ++ [.edit e])).buffer.text ≠ (t.after pre).buffer.text ∧
      (∀ p, p <+: post →
        (t.after (pre ++ .edit e :: p)).buffer.text = (t.after ms).buffer.text) ∧
      Since (t.after pre) l (t.after ms) := by
  have numbered : ∀ pre, (t.after pre).Numbered := numbered_after fun n _ => start.2 n
  induction ms using List.reverseRecOn with
  | nil => exact .inl start
  | append_singleton ms m ih =>
    have goes' : ∀ n, .fail n ∉ ms := fun n hn => goes n (List.mem_append_left _ hn)
    have goes_m : ∀ n, m ≠ .fail n := fun n hn => goes n (by simp [hn])
    have listens' : ∀ pre, pre <+: ms → l ∈ (t.after pre).buffer.listeners :=
      fun pre h => listens pre (h.trans (List.prefix_append ms [m]))
    rw [after_concat]
    by_cases same : ((t.after ms).move m).buffer.text = (t.after ms).buffer.text
    · rcases ih goes' listens' with silent | ⟨pre, e, post, split, changed, kept, since⟩
      · exact .inl (silent_move silent goes_m same)
      · refine .inr ⟨pre, e, post ++ [m], by simp [split], changed, ?_,
          since_move since (numbered pre) goes_m same⟩
        intro p hp
        rcases List.prefix_concat_iff.mp hp with rfl | hp
        · rw [← List.cons_append, ← List.append_assoc, ← split, after_concat]
        · exact (kept p hp).trans same.symm
    · obtain ⟨e, rfl⟩ := edit_of_changed same
      have changed : ((t.after ms).buffer.edit e).buffer.text ≠ (t.after ms).buffer.text := by
        rw [← buffer_edit]
        exact same
      refine .inr ⟨ms, e, [], rfl, ?_, ?_, since_edit (numbered ms)
        (listens' ms (List.prefix_refl ms)) changed⟩
      · rwa [after_concat]
      · intro p hp
        rw [List.prefix_nil.mp hp, after_concat]

/-- **What a listener hears last.**  Nothing is being told, and in a run without failures `l` listens all
the time; at its end everything that was to be told has been told.  If `l` has been told anything, there
was a last change of the text, and `l` has been told the text that the buffer has.  But this need not be the
last that it was told: that is the last change, or an earlier one that was still to be told to `l` when the
last change was made. -/
theorem last_word {t : Telling ι} (still : ∀ n, t.underway.find? n = none) (untold : t.notices = [])
    {l : ι} {ms : List (Move ι)} (goes : ∀ n, .fail n ∉ ms)
    (listens : ∀ pre, pre <+: ms → l ∈ (t.after pre).buffer.listeners)
    (rest : ∀ n, (t.after ms).underway.find? n = none) {k : Notice ι}
    (last : ((t.after ms).told l).getLast? = some k) :
    ∃ pre e post, ms = pre ++ .edit e :: post ∧
      (t.after (pre ++ [.edit e])).buffer.text ≠ (t.after pre).buffer.text ∧
      (∀ p, p <+: post →
        (t.after (pre ++ .edit e :: p)).buffer.text = (t.after ms).buffer.text) ∧
      ⟨(t.after pre).next, l, (t.after ms).buffer.text⟩ ∈ (t.after ms).notices ∧
      (k = ⟨(t.after pre).next, l, (t.after ms).buffer.text⟩ ∨
        ∃ a, (t.after pre).underway.find? k.edit = some a ∧ l ∈ a.listeners ∧
          a.text = k.text) := by
  rcases last_change ⟨untold, still⟩ goes listens with silent | ⟨pre, e, post, split, changed, kept, since⟩
  · rw [told, silent.1] at last
    cases last
  · rcases since.told with ⟨a, ha, -⟩ | ⟨sent, k', last', backed⟩
    · rw [rest] at ha
      cases ha
    · cases Option.some.inj (last.symm.trans last')
      exact ⟨pre, e, post, split, changed, kept, sent, backed⟩

/-- two listeners to a text -/
def pair : Telling Bool where
  buffer := { surface := .memory (.ofText "a"), listeners := [true, false] }

/-- the first listener sets another text before it goes on -/
def reentrant : List (Move Bool) :=
  [.edit (.set "x"), .edit (.set "y"), .resume 1, .resume 1, .resume 0, .resume 0]

theorem last_word_reentrant :
    (pair.after reentrant).buffer.text = "y" ∧
    ((pair.after reentrant).told false).getLast? = some ⟨0, false, "x"⟩ ∧
    ∃ pre, pre <+: reentrant ∧ ∃ a, (pair.after pre).underway.find? 0 = some a ∧
      false ∈ a.listeners ∧ a.text = "x" := by
  have text : (pair.after reentrant).buffer.text = "y" := rfl
  have last : ((pair.after reentrant).told false).getLast? = some ⟨0, false, "x"⟩ := by decide
  have goes : ∀ n, .fail n ∉ reentrant := by simp [reentrant]
  have listens : ∀ pre, pre <+: reentrant → false ∈ (pair.after pre).buffer.listeners := by
    have all : ∀ n ≤ reentrant.length, false ∈ (pair.after (reentrant.take n)).buffer.listeners := by
      decide
    intro pre h
    rw [List.prefix_iff_eq_take.mp h]
    exact all _ h.length_le
  have rest : ∀ n, (pair.after reentrant).underway.find? n = none := fun _ => rfl
  refine ⟨text, last, ?_⟩
  obtain ⟨pre, e, post, split, -, -, -, own | owed⟩ :=
    last_word (fun _ => rfl) rfl goes listens rest last
  · rw [text] at own
    simp at own
  · exact ⟨pre, ⟨_, split.symm⟩, owed⟩

end SnippetStudio.Telling
