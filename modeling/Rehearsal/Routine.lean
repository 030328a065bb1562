/-!
# Routines

Whatever the shell does, it answers with a value, goes over to a state, narrates lines and
leaves messages in the log. A *routine* is a function that does all four: it takes a state
to a **reply**. Narration is what the user reads. The log is for whoever watches
the shell, and nothing the shell does depends on it.

Routines run one after the other as in any monad; the second begins in the state in
which the first ended, and its lines and messages follow those of the first.
`Routine.on` lets a routine on a part of a state act on the whole.
-/

namespace Rehearsal

/-- **How grave a message is.** -/
inductive Level where
  | debug
  | info
  | warn
deriving DecidableEq

/-- A message in the log. -/
structure Message where
  level : Level
  text : String
deriving DecidableEq

/-- **What a routine comes to**: its value, the state after it, the lines it narrated and
the messages it logged. -/
@[ext] structure Reply (σ α : Type) where
  value : α
  state : σ
  lines : List String
  log : List Message

/-- **The narration** as the user reads it: each line ended. -/
def Reply.narration {σ α : Type} (r : Reply σ α) : String :=
  String.join (r.lines.map (· ++ "\n"))

/-- **A routine** on a state. -/
def Routine (σ α : Type) : Type := σ → Reply σ α

namespace Routine

variable {σ τ α β : Type}

instance : Monad (Routine σ) where
  pure x s := ⟨x, s, [], []⟩
  bind m f s :=
    let first := m s
    let second := f first.value first.state
    ⟨second.value, second.state, first.lines ++ second.lines, first.log ++ second.log⟩

@[simp] theorem pure_apply (x : α) (s : σ) : (pure x : Routine σ α) s = ⟨x, s, [], []⟩ := rfl

@[simp] theorem bind_value (m : Routine σ α) (f : α → Routine σ β) (s : σ) :
    ((m >>= f) s).value = (f (m s).value (m s).state).value := rfl

@[simp] theorem bind_state (m : Routine σ α) (f : α → Routine σ β) (s : σ) :
    ((m >>= f) s).state = (f (m s).value (m s).state).state := rfl

/-- **Telling changes nothing**: a routine that ends by only narrating or logging what it came to is
in the state that it was in before. -/
theorem bind_state_of_still {f : α → Routine σ β} (hf : ∀ x s, (f x s).state = s)
    (m : Routine σ α) (s : σ) : ((m >>= f) s).state = (m s).state := hf _ _

@[simp] theorem bind_lines (m : Routine σ α) (f : α → Routine σ β) (s : σ) :
    ((m >>= f) s).lines = (m s).lines ++ (f (m s).value (m s).state).lines := rfl

@[simp] theorem bind_log (m : Routine σ α) (f : α → Routine σ β) (s : σ) :
    ((m >>= f) s).log = (m s).log ++ (f (m s).value (m s).state).log := rfl

/-- **Narration adds up**: what two routines narrate is what the first narrates and then
what the second does. -/
theorem bind_narration (m : Routine σ α) (f : α → Routine σ β) (s : σ) :
    ((m >>= f) s).narration = (m s).narration ++ (f (m s).value (m s).state).narration := by
  rw [Reply.narration, bind_lines, List.map_append, String.join_append]
  rfl

instance : LawfulMonad (Routine σ) := LawfulMonad.mk' (Routine σ)
  (fun m => funext fun s => Reply.ext rfl rfl (List.append_nil _) (List.append_nil _))
  (fun _ _ => rfl)
  (fun _ _ _ => funext fun _ =>
    Reply.ext rfl rfl (List.append_assoc _ _ _) (List.append_assoc _ _ _))

instance : MonadStateOf σ (Routine σ) where
  get s := ⟨s, s, [], []⟩
  set s _ := ⟨(), s, [], []⟩
  modifyGet f s := ⟨(f s).1, (f s).2, [], []⟩

@[simp] theorem get_apply (s : σ) : (get : Routine σ σ) s = ⟨s, s, [], []⟩ := rfl

/-- Looking at the state first is going on with the state. -/
theorem get_bind_apply (f : σ → Routine σ α) (s : σ) :
    ((get : Routine σ σ) >>= f) s = f s s := rfl

@[simp] theorem set_apply (s s' : σ) : (set s' : Routine σ Unit) s = ⟨(), s', [], []⟩ := rfl

@[simp] theorem modify_apply (f : σ → σ) (s : σ) :
    (modify f : Routine σ Unit) s = ⟨(), f s, [], []⟩ := rfl

/-- **Narrate a line.** -/
def say (line : String) : Routine σ Unit := fun s => ⟨(), s, [line], []⟩

@[simp] theorem say_apply (line : String) (s : σ) : say line s = ⟨(), s, [line], []⟩ := rfl

/-- Narrate lines. -/
def sayAll (lines : List String) : Routine σ Unit := fun s => ⟨(), s, lines, []⟩

@[simp] theorem sayAll_apply (lines : List String) (s : σ) :
    sayAll lines s = ⟨(), s, lines, []⟩ := rfl

/-- **Log a message.** -/
def note (level : Level) (text : String) : Routine σ Unit := fun s => ⟨(), s, [], [⟨level, text⟩]⟩

@[simp] theorem note_apply (level : Level) (text : String) (s : σ) :
    note level text s = ⟨(), s, [], [⟨level, text⟩]⟩ := rfl

/-- **A routine on a part of a state**, on the whole: `part` takes the part out and
`replace` puts it back. -/
def on (part : σ → τ) (replace : τ → σ → σ) (m : Routine τ α) : Routine σ α := fun s =>
  let r := m (part s)
  ⟨r.value, replace r.state s, r.lines, r.log⟩

@[simp] theorem on_apply (part : σ → τ) (replace : τ → σ → σ) (m : Routine τ α) (s : σ) :
    m.on part replace s
      = ⟨(m (part s)).value, replace (m (part s)).state s, (m (part s)).lines,
          (m (part s)).log⟩ := rfl

end Routine

end Rehearsal
