import Rehearsal.Instant

/-!
# Runs

A run is a list of **events**, each something that happens and the instant at which it does. The
clock is part of the event and not of the state, so nothing is assumed of it: it may stand
still, and it may go backwards. Whether what happens succeeds is no part of the event; a step is
total, and after one that fails the run goes on.

What is asked of a run is asked of **all states on the way** (`Run.Throughout`), from the first to
the last.
-/

namespace Rehearsal

/-- **Something and when it happens.** -/
abbrev Timed (α : Type) : Type := Instant × α

namespace Run

variable {α σ : Type} {step : Instant → α → σ → σ}

/-- **The state after a run.** -/
def state (step : Instant → α → σ → σ) (events : List (Timed α)) (s : σ) : σ :=
  events.foldl (fun s e => step e.1 e.2 s) s

@[simp] theorem state_nil (s : σ) : state step [] s = s := rfl

theorem state_concat (events : List (Timed α)) (e : Timed α) (s : σ) :
    state step (events ++ [e]) s = step e.1 e.2 (state step events s) := by
  rw [state, List.foldl_append]
  rfl

theorem state_append (first second : List (Timed α)) (s : σ) :
    state step (first ++ second) s = state step second (state step first s) :=
  List.foldl_append

/-- **All states on the way of a run** have a property. -/
def Throughout (step : Instant → α → σ → σ) (P : σ → Prop) (events : List (Timed α)) (s : σ) :
    Prop :=
  ∀ before, before <+: events → P (state step before s)

namespace Throughout

variable {P Q : σ → Prop} {events : List (Timed α)} {e : Timed α} {s : σ}

theorem first (h : Throughout step P events s) : P s := h [] List.nil_prefix

theorem last (h : Throughout step P events s) : P (state step events s) :=
  h events (List.prefix_refl events)

/-- What holds throughout a run holds throughout the run without its first event. -/
theorem tail (h : Throughout step P (e :: events) s) : Throughout step P events (step e.1 e.2 s) :=
  fun before hbefore => h (e :: before) (List.cons_prefix_cons.mpr ⟨rfl, hbefore⟩)

/-- What holds throughout a run holds throughout the run without its last event. -/
theorem init (h : Throughout step P (events ++ [e]) s) : Throughout step P events s :=
  fun before hbefore => h before (hbefore.trans (List.prefix_append events [e]))

theorem imp (h : Throughout step P events s) (hPQ : ∀ s, P s → Q s) : Throughout step Q events s :=
  fun before hbefore => hPQ _ (h before hbefore)

end Throughout

/-- **What every step preserves holds throughout every run.** -/
theorem throughout_of_step {P : σ → Prop} (hstep : ∀ now a s, P s → P (step now a s))
    (events : List (Timed α)) {s : σ} (h : P s) : Throughout step P events s := by
  intro before hbefore
  clear hbefore
  induction before generalizing s with
  | nil => exact h
  | cons e before ih => exact ih (hstep e.1 e.2 s h)

/-- **What the events of a run preserve** is preserved by the run. -/
theorem state_of_forall {P : σ → Prop} {events : List (Timed α)} {s : σ}
    (hstep : ∀ e ∈ events, ∀ s, P s → P (step e.1 e.2 s)) (h : P s) : P (state step events s) := by
  induction events generalizing s with
  | nil => exact h
  | cons e events ih =>
    exact ih (fun e' he' => hstep e' (List.mem_cons_of_mem e he')) (hstep e List.mem_cons_self s h)

/-- **What the events of two runs preserve between them** is preserved by the runs. -/
theorem related_of_forall {R : σ → σ → Prop} {events : List (Timed α)} {s s' : σ}
    (hstep : ∀ e ∈ events, ∀ s s', R s s' → R (step e.1 e.2 s) (step e.1 e.2 s')) (h : R s s') :
    R (state step events s) (state step events s') := by
  induction events generalizing s s' with
  | nil => exact h
  | cons e events ih =>
    exact ih (fun e' he' => hstep e' (List.mem_cons_of_mem e he'))
      (hstep e List.mem_cons_self s s' h)

/-- **What is lost on a run** is lost at one of its events. -/
theorem exists_event_of_lost {P : σ → Prop} {events : List (Timed α)} {s : σ} (h : P s)
    (h' : ¬P (state step events s)) :
    ∃ before e later, events = before ++ e :: later ∧ P (state step before s)
      ∧ ¬P (step e.1 e.2 (state step before s)) := by
  induction events generalizing s with
  | nil => exact absurd h h'
  | cons e events ih =>
    by_cases he : P (step e.1 e.2 s)
    · obtain ⟨before, e', later, rfl, hbefore, hlost⟩ := ih he h'
      exact ⟨e :: before, e', later, rfl, hbefore, hlost⟩
    · exact ⟨[], e, events, rfl, h, he⟩

end Run

end Rehearsal
