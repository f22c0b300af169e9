import Mathlib.Data.List.Induction
import SnippetStudio.Buffer.Registry

/-!
# Registrations and their handles

A listener is registered as many times as there are handles of it that have not been called, as long as
no handle is called again while its listener is still registered: such a call takes away the registration
of another handle.

* `registered_call`  a call keeps the two numbers the same, unless it is such a call (`Takes`);
* `call_again`       a handle called again changes nothing, unless it is such a call;
* `registered_iff`   the numbers are the same all the time if and only if there is no such call.
-/

namespace SnippetStudio.Registry

variable {ι : Type} [DecidableEq ι] {r : Registry ι} {l : ι}

theorem registered_register (x : ι) :
    (r.call (.register x)).registered l = r.registered l + if x = l then 1 else 0 := by
  simp [call, registered, Buffer.subscribe, List.count_singleton]

theorem uncalled_register (x : ι) :
    (r.call (.register x)).uncalled l = r.uncalled l + if x = l then 1 else 0 := by
  simp [call, uncalled, List.count_singleton]

theorem call_release {n : Nat} {h : Handle ι} (given : r.handles[n]? = some h) :
    r.call (.release n) =
      { buffer := r.buffer.unsubscribe h.listener, handles := r.handles.set n { h with called := true } } := by
  simp only [call, given]

theorem call_release_none {n : Nat} (none : r.handles[n]? = none) : r.call (.release n) = r := by
  simp only [call, none]

theorem registered_release {n : Nat} {h : Handle ι} (given : r.handles[n]? = some h) :
    (r.call (.release n)).registered l = r.registered l - if h.listener = l then 1 else 0 := by
  rw [call_release given]
  simp [registered, Buffer.unsubscribe, List.count_erase]

theorem uncalled_release {n : Nat} {h : Handle ι} (given : r.handles[n]? = some h) :
    (r.call (.release n)).uncalled l = r.uncalled l - if h = { listener := l } then 1 else 0 := by
  obtain ⟨inside, rfl⟩ := List.getElem?_eq_some_iff.mp given
  rw [call_release given]
  simp [uncalled, List.count_set inside]

theorem registered_pos : 0 < r.registered l ↔ l ∈ r.buffer.listeners := List.count_pos_iff

theorem registered_le_call (le : r.registered l ≤ r.uncalled l) (c : Call ι) :
    (r.call c).registered l ≤ (r.call c).uncalled l := by
  cases c with
  | register x => simpa only [registered_register, uncalled_register, Nat.add_le_add_iff_right]
  | release n =>
    cases given : r.handles[n]? with
    | none => rwa [call_release_none given]
    | some h =>
      obtain ⟨x, called⟩ := h
      rw [registered_release given, uncalled_release given]
      cases called <;> simp <;> split <;> omega

/-- A call takes away the registration of another handle: it calls a handle of the listener again while the
listener is registered. -/
def Takes (r : Registry ι) (l : ι) (c : Call ι) : Prop :=
  ∃ n, c = .release n ∧ r.handles[n]? = some { listener := l, called := true } ∧ l ∈ r.buffer.listeners

theorem takes_release {n : Nat} :
    r.Takes l (.release n) ↔
      r.handles[n]? = some { listener := l, called := true } ∧ 0 < r.registered l := by
  simp [Takes, registered_pos]

/-- Two numbers that are the same stay so in every other call. -/
theorem registered_call (same : r.registered l = r.uncalled l) (c : Call ι) :
    (r.call c).registered l = (r.call c).uncalled l ↔ ¬ r.Takes l c := by
  cases c with
  | register x => simp [Takes, registered_register, uncalled_register, same]
  | release n =>
    cases given : r.handles[n]? with
    | none => simp [takes_release, call_release_none given, same, given]
    | some h =>
      obtain ⟨x, called⟩ := h
      rw [registered_release given, uncalled_release given, takes_release, given]
      cases called with
      | false => simp [same]
      | true =>
        by_cases own : x = l
        · simp [own, same]
          omega
        · simp [own, same]

/-- A handle that is called again changes something if and only if it takes away a registration. -/
theorem call_again {n : Nat} (again : r.handles[n]? = some { listener := l, called := true }) :
    r.call (.release n) = r ↔ ¬ r.Takes l (.release n) := by
  obtain ⟨inside, eq⟩ := List.getElem?_eq_some_iff.mp again
  have handles : r.handles.set n { listener := l, called := true } = r.handles := by
    rw [← eq, List.set_getElem_self]
  have takes : r.Takes l (.release n) ↔ l ∈ r.buffer.listeners := by
    simp [takes_release, again, registered_pos]
  rw [takes, call_release again, handles]
  refine ⟨fun same member => ?_, fun free => ?_⟩
  · have := congrArg (fun r => r.buffer.listeners.length) same
    simp only [Buffer.unsubscribe, List.length_erase_of_mem member] at this
    have := List.length_pos_of_mem member
    omega
  · simp only [Buffer.unsubscribe, List.erase_of_not_mem free]

/-- nobody has registered yet -/
def fresh (s : Surface) : Registry ι := { buffer := { surface := s } }

variable {s : Surface}

theorem registered_le (cs : List (Call ι)) :
    ((fresh s).after cs).registered l ≤ ((fresh s).after cs).uncalled l := by
  induction cs using List.reverseRecOn with
  | nil => exact Nat.le_refl 0
  | append_singleton cs c ih =>
    rw [after_concat]
    exact registered_le_call ih c

theorem registered_same_iff (cs : List (Call ι)) :
    (∀ p, p <+: cs → ((fresh s).after p).registered l = ((fresh s).after p).uncalled l) ↔
      ∀ p c, p ++ [c] <+: cs → ¬ ((fresh s).after p).Takes l c := by
  induction cs using List.reverseRecOn with
  | nil => simp [after, fresh, registered, uncalled]
  | append_singleton cs c ih =>
    have step (same : ((fresh s).after cs).registered l = ((fresh s).after cs).uncalled l) :=
      registered_call same c
    rw [← after_concat] at step
    constructor
    · intro same p d below
      have sofar : ∀ p, p <+: cs → _ := fun p hp => same p (hp.trans (List.prefix_append cs [c]))
      rcases List.prefix_concat_iff.mp below with last | before
      · obtain ⟨rfl, rfl⟩ := List.append_singleton_inj.mp last
        exact (step (sofar _ List.prefix_rfl)).mp (same _ List.prefix_rfl)
      · exact ih.mp sofar p d before
    · intro none p below
      have sofar := ih.mpr fun p d hp => none p d (hp.trans (List.prefix_append cs [c]))
      rcases List.prefix_concat_iff.mp below with rfl | before
      · exact (step (sofar _ List.prefix_rfl)).mpr (none _ _ List.prefix_rfl)
      · exact sofar p before

/-- **When a handle owns its registration.**  A listener is never registered more often than it has handles
that were not called.  The two numbers are the same all the time if and only if no call takes away the
registration of another handle; and a handle that is called again changes nothing unless it does that. -/
theorem registered_iff (s : Surface) (l : ι) (cs : List (Call ι)) :
    (∀ p, p <+: cs → ((fresh s).after p).registered l ≤ ((fresh s).after p).uncalled l) ∧
    ((∀ p, p <+: cs → ((fresh s).after p).registered l = ((fresh s).after p).uncalled l) ↔
      ∀ p c, p ++ [c] <+: cs → ¬ ((fresh s).after p).Takes l c) ∧
    (∀ p n, p <+: cs →
      ((fresh s).after p).handles[n]? = some { listener := l, called := true } →
      (((fresh s).after p).call (.release n) = (fresh s).after p ↔
        ¬ ((fresh s).after p).Takes l (.release n))) :=
  ⟨fun p _ => registered_le p, registered_same_iff cs, fun _ _ _ again => call_again again⟩

/-- Two handles of one listener, and the first of them is called twice: the listener is gone, and the second
handle has not been called. -/
theorem registered_iff_twice :
    let r : Registry Unit := fresh (.memory (.ofText "a"))
    let cs : List (Call Unit) := [.register (), .register (), .release 0, .release 0]
    (r.after cs).registered () = 0 ∧ (r.after cs).uncalled () = 1 ∧
      ∃ p c, p ++ [c] <+: cs ∧ (r.after p).Takes () c := by
  refine ⟨by decide, by decide, ?_⟩
  by_contra none
  have same := (registered_iff (.memory (.ofText "a")) ()
    [.register (), .register (), .release 0, .release 0]).2.1.mpr fun p c below takes =>
      none ⟨p, c, below, takes⟩
  exact absurd (same _ List.prefix_rfl) (by decide)

end SnippetStudio.Registry
