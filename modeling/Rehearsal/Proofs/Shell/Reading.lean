import Rehearsal.Proofs.Shell.Deeds
import Rehearsal.Proofs.Text.Trimming

/-!
# How lines are read

A line is a word and, after a blank, the rest. Whatever blanks there are around the rest, the
command gets it **trimmed** (`Shell.splitLine_word`): those before it are dropped where the line
is split, and those after it were dropped when the line was trimmed. A rest that is one word, and no
option and no request for help, is read in its place (`Grammar.FillsPlace.request_ofWord`).

What is no answer and is read as a command does what the command does and narrates what the command
narrates (`Shell.runLine_of_command`). The shell itself adds nothing but messages in the log.
-/

namespace Rehearsal

/-! ## Words and what follows them -/

namespace Text

variable {word : List Char}

/-- That no character is blank, from a test that runs. -/
theorem not_blank_of_all (h : word.all (fun c => !isBlank c) = true) :
    ∀ c ∈ word, isBlank c = false := by
  simpa using h

/-- A line that begins with a word loses blanks only at the end of the rest. -/
theorem trim_word_append (hne : word ≠ []) (hword : ∀ c ∈ word, isBlank c = false)
    (rest : List Char) : trim (word ++ ' ' :: rest) = word ++ trimEnd (' ' :: rest) := by
  obtain ⟨front, c, rfl⟩ := (List.eq_nil_or_concat word).resolve_left hne
  rw [List.concat_eq_append] at hword ⊢
  have hfront : trimStart front = front :=
    trimStart_eq_self fun d hd => hword d (List.mem_append_left _ hd)
  rw [List.append_assoc, List.singleton_append, trim_append_cons (hword c (by simp)), hfront,
    List.append_assoc, List.singleton_append]

/-- What is left of a blank and a rest begins with the blank, if anything is left. -/
theorem trimEnd_blank_cons (rest : List Char) :
    trimEnd (' ' :: rest) = [] ∨ ∃ rest', trimEnd (' ' :: rest) = ' ' :: rest' := by
  obtain ⟨bs, -, hrest⟩ := exists_eq_trimEnd_append (' ' :: rest)
  cases htrim : trimEnd (' ' :: rest) with
  | nil => exact Or.inl rfl
  | cons c rest' =>
    rw [htrim, List.cons_append] at hrest
    exact Or.inr ⟨rest', by rw [(List.cons_eq_cons.mp hrest).1]⟩

end Text

open Text (isBlank trim trimEnd trimStart trimmed wordsOf)

namespace Grammar

/-- **A word that fills a place**: one without blanks that is no option and asks for no help. -/
structure FillsPlace (word : String) : Prop where
  ne : word ≠ ""
  whole : ∀ c ∈ word.toList, isBlank c = false
  help : asksHelp word = false
  dash : isDashed word = false

namespace FillsPlace

variable {word : String}

theorem trimmed_eq (h : FillsPlace word) : trimmed word = word := by
  rw [trimmed, Text.trim_eq_self h.whole, String.ofList_toList]

theorem wordsOf_eq (h : FillsPlace word) : wordsOf word = [word] := by
  have hne : word.toList ≠ [] := fun hnil => h.ne (String.toList_eq_nil_iff.mp hnil)
  rw [wordsOf, Text.words, List.splitOnP_eq_singleton h.whole,
    List.filter_cons_of_pos (by simpa using hne), List.filter_nil, List.map_singleton,
    String.ofList_toList]

/-- **A command of one word** is read with it. -/
theorem request_ofWord (h : FillsPlace word) (make : String → Builtin)
    (summary place description : String) :
    (Builtin.Reader.ofWord make summary place description).request [word]
      = .command (make word) := by
  unfold Builtin.Reader.request Grammar.read Grammar.readFrom
  simp [h.help, h.dash, Builtin.Reader.ofWord, Progress.start, Grammar.place?, Grammar.readFrom,
    Progress.withWord, Grammar.missing]

end FillsPlace

end Grammar

namespace Shell

variable {word : String}

/-- **A word and a rest** are read as the word and the rest without the blanks at its ends. -/
theorem splitLine_word (hne : word ≠ "") (hword : ∀ c ∈ word.toList, isBlank c = false)
    (rest : String) : splitLine (trimmed (word ++ " " ++ rest)) = (word, trimmed rest) := by
  have htext : (trimmed (word ++ " " ++ rest)).toList
      = word.toList ++ trimEnd (' ' :: rest.toList) := by
    rw [Text.toList_trimmed, String.toList_append, String.toList_append, List.append_assoc]
    exact Text.trim_word_append (fun hnil => hne (String.toList_eq_nil_iff.mp hnil)) hword _
  have hword' : ∀ c ∈ word.toList, (!isBlank c) = true := fun c hc => by rw [hword c hc]; rfl
  have hrest : trimStart (trimEnd (' ' :: rest.toList)) = trim rest.toList := by
    rw [Text.trimStart_trimEnd]
    exact Text.trim_blanks_append (List.forall_mem_singleton.mpr (by decide)) rest.toList
  unfold splitLine
  rw [htext, List.takeWhile_append_of_pos hword', List.dropWhile_append_of_pos hword']
  -- the word ends at the blank after it, or with the line
  rcases Text.trimEnd_blank_cons rest.toList with hnil | ⟨rest', hcons⟩
  · rw [hnil] at hrest ⊢
    rw [trimmed, ← hrest]
    simp
  · rw [hcons] at hrest ⊢
    rw [trimmed, ← hrest, List.takeWhile_cons_of_neg (by decide),
      List.dropWhile_cons_of_neg (by decide), List.append_nil, String.ofList_toList]

/-- **The command of a word and a rest.** -/
theorem command?_word (word rest : String) (hne : word ≠ "")
    (hword : ∀ c ∈ word.toList, isBlank c = false) {b : Builtin}
    (hrequest : Builtin.request? word (trimmed rest) = some (.command b)) :
    command? (word ++ " " ++ rest) = some b := by
  have hsplit := splitLine_word hne hword rest
  have hline : trimmed (word ++ " " ++ rest) ≠ "" := by
    intro hempty
    rw [hempty] at hsplit
    exact hne (congrArg Prod.fst hsplit).symm
  rw [command?, if_neg hline, hsplit, hrequest]

/-! ## Commands that are run -/

section

variable {now : Instant} {line : String} {s : Session} {b : Builtin}

/-- A command that is run tells of its failure itself. -/
theorem run_value (now : Instant) (b : Builtin) (s : Session) : (b.run now s).value = .ok () := by
  unfold Builtin.run
  rw [Routine.bind_value]
  cases (b.attempt now s).value <;> rfl

/-- **A line that is read as a command** comes to what the command comes to. -/
theorem runLine_of_command (now : Instant) (h : s.awaitingClear = false)
    (hline : command? line = some b) :
    (runLine Builtin.table now line s).state = (b.run now s).state
      ∧ (runLine Builtin.table now line s).lines = (b.run now s).lines := by
  obtain ⟨hne, hrequest⟩ : trimmed line ≠ ""
      ∧ Builtin.request? (splitLine (trimmed line)).1 (splitLine (trimmed line)).2
        = some (.command b) := by
    unfold command? at hline
    split at hline
    · cases hline
    · next hne =>
      split at hline
      · next b' hrequest =>
        obtain rfl := Option.some.inj hline
        exact ⟨hne, hrequest⟩
      · cases hline
  have hdispatch : dispatch Builtin.table now (trimmed line) s
      = (Routine.note .debug ("interpreting command: " ++ trimmed line) >>= fun _ => b.run now) s := by
    unfold dispatch interpret
    rw [Routine.get_bind_apply, if_neg (by simp [h]), if_neg hne, find?_table, hrequest]
    rfl
  have hvalue : (dispatch Builtin.table now (trimmed line) s).value = .ok () := by
    rw [hdispatch]
    exact run_value now b s
  unfold runLine
  rw [Routine.bind_state, Routine.bind_lines, hvalue, hdispatch]
  exact ⟨rfl, List.append_nil _⟩

/-- A line changes the session of a shell. -/
theorem run_state (now : Instant) (line : String) (s : Session) :
    ((standard s).run now line).state = standard (runLine Builtin.table now line s).state := rfl

theorem run_lines (now : Instant) (line : String) (s : Session) :
    ((standard s).run now line).lines = (runLine Builtin.table now line s).lines := rfl

end

end Shell

end Rehearsal
