import Rehearsal.Routine

/-!
# Routines that agree

Two states may differ in what no one sees, such as where a document is kept. That a routine does not
see the difference says that from related states it gives the same value, narrates the same lines and
goes over to related states again (`Routine.Agree`). What it logs is of no account.

Agreement is proved along the text of a routine, by a rule for each way to make one from others. A
routine that looks at the state goes on differently in the two states, so two routines are compared
and not one with itself.
-/

namespace Rehearsal

variable {σ τ α β : Type}

/-- **Replies that tell the same**, from states that are related. -/
structure Reply.Agrees (R : σ → σ → Prop) (r r' : Reply σ α) : Prop where
  value : r'.value = r.value
  lines : r'.lines = r.lines
  state : R r.state r'.state

namespace Routine

/-- **Routines that agree**: they tell the same from related states, and keep them related. -/
def Agree (R : σ → σ → Prop) (m m' : Routine σ α) : Prop := ∀ s s', R s s' → (m s).Agrees R (m' s')

variable {R : σ → σ → Prop} {Q : τ → τ → Prop} {m m' : Routine σ α}

/-- What goes on alike from replies that tell the same, tells the same in the end. -/
theorem agrees_bind {s s' : σ} {f f' : α → Routine σ β} (h : (m s).Agrees R (m' s'))
    (hf : ∀ x, Agree R (f x) (f' x)) : ((m >>= f) s).Agrees R ((m' >>= f') s') := by
  have hsecond := hf (m s).value _ _ h.state
  rw [← h.value] at hsecond
  refine ⟨?_, ?_, ?_⟩
  · rw [bind_value, bind_value, hsecond.value, h.value]
  · rw [bind_lines, bind_lines, h.lines, hsecond.lines, h.value]
  · rw [bind_state, bind_state, ← h.value]
    exact hsecond.state

namespace Agree

protected theorem pure (x : α) : Agree R (pure x : Routine σ α) (pure x) :=
  fun _ _ hs => ⟨rfl, rfl, hs⟩

protected theorem bind {f f' : α → Routine σ β} (h : Agree R m m')
    (hf : ∀ x, Agree R (f x) (f' x)) : Agree R (m >>= f) (m' >>= f') :=
  fun s s' hs => agrees_bind (h s s' hs) hf

/-- **To look at the state** is to go on with the state that one is in. -/
theorem get_bind {f f' : σ → Routine σ α} (h : ∀ s s', R s s' → (f s s).Agrees R (f' s' s')) :
    Agree R ((get : Routine σ σ) >>= f) ((get : Routine σ σ) >>= f') := h

theorem modify {f f' : σ → σ} (h : ∀ s s', R s s' → R (f s) (f' s')) :
    Agree R (modify f : Routine σ Unit) (modify f') :=
  fun s s' hs => ⟨rfl, rfl, h s s' hs⟩

theorem say (line : String) : Agree R (Routine.say line) (Routine.say line) :=
  fun _ _ hs => ⟨rfl, rfl, hs⟩

theorem sayAll (lines : List String) : Agree R (Routine.sayAll lines) (Routine.sayAll lines) :=
  fun _ _ hs => ⟨rfl, rfl, hs⟩

/-- What is logged may differ. -/
theorem note (level : Level) (text text' : String) :
    Agree R (Routine.note level text) (Routine.note level text') :=
  fun _ _ hs => ⟨rfl, rfl, hs⟩

/-- **Routines that agree on a part** agree on the whole. -/
theorem on {m m' : Routine τ α} (h : Agree Q m m') {part : σ → τ} {replace : τ → σ → σ}
    (hpart : ∀ s s', R s s' → Q (part s) (part s'))
    (hreplace : ∀ t t' s s', Q t t' → R s s' → R (replace t s) (replace t' s')) :
    Agree R (m.on part replace) (m'.on part replace) := by
  intro s s' hs
  have hagrees := h _ _ (hpart s s' hs)
  exact ⟨hagrees.value, hagrees.lines, hreplace _ _ s s' hagrees.state hs⟩

/-- **One after the other**: routines agree in a row if they agree one by one. -/
theorem mapM {xs : List β} {f f' : β → Routine σ α} (h : ∀ x, Agree R (f x) (f' x)) :
    Agree R (xs.mapM f) (xs.mapM f') := by
  induction xs with
  | nil => exact .pure []
  | cons x xs ih =>
    rw [List.mapM_cons, List.mapM_cons]
    exact (h x).bind fun y => ih.bind fun ys => .pure (y :: ys)

end Agree

end Routine

end Rehearsal
