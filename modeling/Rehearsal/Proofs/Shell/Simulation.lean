import Rehearsal.Proofs.Action.Lines
import Rehearsal.Proofs.Shell.Confirmation
import Rehearsal.Proofs.Shell.Reading

/-!
# Snippets, whole, in pieces and in files

A snippet comes with the line that simulates it or stands in a file. The line loses the blanks at
its ends and the file does not, but that is of no account, since a snippet is shown trimmed and its
lines are trimmed one by one (`Snippet.simulate_trimmed`). So both ways to simulate a text are one
(`Shell.run_file_as_simulate`).

Nothing is handed on from one line of a snippet to the next but the session. So a snippet may be cut
at any line break, and **its pieces come to what the whole comes to**, whatever writes the store
refuses on the way (`Shell.simulate_in_pieces`). The outcome of an action is what it comes to after
those before it, and none of these, failed or not, keeps it from its turn
(`Snippet.run_value_getElem?`).
-/

namespace Rehearsal

open Text (isBlank trimmed)

namespace Snippet

variable (now : Instant) (s : Session)

/-- What is shown of a snippet before its actions. -/
def header (code : String) : String := "simulating code: " ++ trimmed code

theorem simulate_state (code : String) :
    (simulate now code s).state = (run now (Action.parse code) s).state := rfl

theorem simulate_value (code : String) :
    (simulate now code s).value = (run now (Action.parse code) s).value := rfl

theorem simulate_lines (code : String) :
    (simulate now code s).lines = header code :: (run now (Action.parse code) s).lines := rfl

/-- **A snippet is simulated as what trimming leaves of it.** -/
theorem simulate_trimmed (code : String) : simulate now (trimmed code) = simulate now code := by
  have htrimmed : trimmed (trimmed code) = trimmed code := by
    rw [trimmed, Text.toList_trimmed, Text.trim_trim]
    rfl
  unfold simulate
  rw [htrimmed, Action.parse_trimmed]

/-! ## One action after the other -/

theorem simulate_value_getElem? {code : String} {before later : List Action} {a : Action}
    (h : Action.parse code = before ++ a :: later) :
    (simulate now code s).value[before.length]?
      = some (step now a (run now before s).state).value := by
  rw [simulate_value, h, run_value_getElem?]

/-- **A text cut at a line break** comes to what its pieces come to, one after the other. -/
theorem simulate_append_break (first second : String) :
    let piece₁ := simulate now first s
    let piece₂ := simulate now second piece₁.state
    let whole := simulate now (first ++ "\n" ++ second) s
    whole.value = piece₁.value ++ piece₂.value ∧ whole.state = piece₂.state
      ∧ ∃ told₁ told₂, piece₁.lines = header first :: told₁ ∧ piece₂.lines = header second :: told₂
        ∧ whole.lines = header (first ++ "\n" ++ second) :: (told₁ ++ told₂) := by
  intro piece₁ piece₂ whole
  obtain ⟨hvalue, hstate, hlines⟩ := run_append_apply now s (Action.parse first) (Action.parse second)
  rw [← Action.parse_append_break] at hvalue hstate hlines
  refine ⟨?_, ?_, _, _, simulate_lines now s first, simulate_lines now piece₁.state second, ?_⟩
  · rw [simulate_value, hvalue, simulate_value, simulate_value, simulate_state]
  · rw [simulate_state, hstate, simulate_state, simulate_state]
  · rw [simulate_lines, hlines, simulate_state]

end Snippet

namespace Shell

variable {now : Instant} {s : Session} {code : String}

/-! ## Lines that simulate -/

theorem command?_simulate (code : String) :
    command? ("simulate " ++ code) = some (.simulate (trimmed code)) :=
  command?_word "simulate" code (by decide) (Text.not_blank_of_all (by decide)) (if_pos rfl)

/-- What a command comes to that simulates a text. -/
theorem run_of_simulateText {b : Builtin} (h : b.attempt now s = Builtin.simulateText now code s) :
    (b.run now s).state = (Snippet.simulate now code s).state
      ∧ (b.run now s).lines = (Snippet.simulate now code s).lines := by
  have hlines : (Builtin.simulateText now code s).lines = (Snippet.simulate now code s).lines :=
    List.append_nil _
  unfold Builtin.run
  rw [Routine.bind_state, Routine.bind_lines, h, hlines]
  exact ⟨rfl, List.append_nil _⟩

/-- **What a line that simulates comes to**: the snippet simulated. -/
theorem run_simulate (h : s.awaitingClear = false) (now : Instant) (code : String) :
    ((standard s).run now ("simulate " ++ code)).state
        = standard (Snippet.simulate now code s).state
      ∧ ((standard s).run now ("simulate " ++ code)).lines
        = (Snippet.simulate now code s).lines := by
  obtain ⟨hstate, hlines⟩ := runLine_of_command now h (command?_simulate code)
  obtain ⟨hstate', hlines'⟩ := run_of_simulateText (b := .simulate (trimmed code)) rfl
  rw [run_state, run_lines, hstate, hlines, ← Snippet.simulate_trimmed]
  exact ⟨congrArg standard hstate', hlines'⟩

/-! ## Files -/

theorem command?_runFile {path : Path} (h : Grammar.FillsPlace path) :
    command? ("run-file " ++ path) = some (.runFile path) := by
  have hreader : Builtin.readers.find? (fun r => r.grammar.name == "run-file")
      = some (.ofWord .runFile "Read a file and simulate its contents." "path"
          "path of the source file.") := rfl
  have hrequest : Builtin.request? "run-file" (trimmed path) = some (.command (.runFile path)) := by
    rw [Builtin.request?, if_neg (by decide), h.trimmed_eq, h.wordsOf_eq, hreader, Option.map_some,
      h.request_ofWord]
  exact command?_word "run-file" path (by decide) (Text.not_blank_of_all (by decide)) hrequest

theorem attempt_runFile (now : Instant) {path : Path} (hread : s.disk.readText path = .ok code) :
    (Builtin.runFile path).attempt now s = Builtin.simulateText now code s := by
  show Builtin.simulateFile now path s = _
  unfold Builtin.simulateFile
  rw [Routine.get_bind_apply, hread]

/-- **A file is simulated as its text is.** From any session in which no answer is awaited, a line
that simulates a file and a line that simulates the text of the file come to the same: the session
after them is the same in all its parts, the disk and the stored document included, and so is what
they narrate. It does not matter that the line loses the blanks at the ends of the text. -/
theorem run_file_as_simulate (now : Instant) (s : Session) (path : Path) (code : String)
    (hawaiting : s.awaitingClear = false) (hpath : Grammar.FillsPlace path)
    (hread : s.disk.readText path = .ok code) :
    let file := (standard s).run now ("run-file " ++ path)
    let text := (standard s).run now ("simulate " ++ code)
    file.narration = text.narration ∧ file.state = text.state := by
  intro file text
  obtain ⟨hstate, hlines⟩ := runLine_of_command now hawaiting (command?_runFile hpath)
  obtain ⟨hstate', hlines'⟩ := run_of_simulateText (attempt_runFile now hread)
  obtain ⟨htextState, htextLines⟩ := run_simulate hawaiting now code
  have hfile : file.lines = text.lines := by
    rw [htextLines, ← hlines', ← hlines, ← run_lines]
  refine ⟨by rw [Reply.narration, Reply.narration, hfile], ?_⟩
  rw [htextState, ← hstate', ← hstate, ← run_state]

/-- A file with blanks at its ends, a blank line and both kinds of line ends, simulated over a store
that refuses the first write. -/
theorem run_file_as_simulate_trimmed :
    let code := "\n\r\n  def f(x):\r\n \nx = f(1)\r\n\n"
    let disk : Disk := (Disk.fresh 0 []).put ["a.py"] (.file code.toUTF8)
    let s : Session := ⟨SortedMap.empty, SortedMap.empty,
      ⟨SortedMap.empty, .new (.file "store") disk ⟨fun _ => false, fun n => n == 0⟩⟩, "backups",
      false, false⟩
    ((standard s).run 5 ("run-file " ++ "a.py")).narration
        = ((standard s).run 5 ("simulate " ++ code)).narration
      ∧ ((standard s).run 5 ("run-file " ++ "a.py")).state
        = ((standard s).run 5 ("simulate " ++ code)).state := by
  intro code disk s
  exact run_file_as_simulate 5 s "a.py" code rfl
    ⟨by decide, Text.not_blank_of_all (by decide), by decide, by decide⟩ (by decide +kernel)

/-! ## Pieces -/

/-- **A snippet comes to what its pieces come to**, one after the other. From any session in which no
answer is awaited, whatever writes its store refuses, a text that is cut at a line break may be
simulated in two lines: the session is the same in the end, the stored document and the count of
writes included. What the whole has for outcomes is what the pieces have, and so is what is narrated
besides the text itself. And the outcomes of any text are as many as its lines that are not blank,
each of them what the action of its line comes to after those before it. -/
theorem simulate_in_pieces (now : Instant) (s : Session) (hawaiting : s.awaitingClear = false)
    (first second : String) :
    let code := first ++ "\n" ++ second
    let whole := (standard s).run now ("simulate " ++ code)
    let piece₁ := (standard s).run now ("simulate " ++ first)
    let piece₂ := piece₁.state.run now ("simulate " ++ second)
    let outcomes := fun code s => (Snippet.simulate now code s).value
    whole.state = piece₂.state
      ∧ (∃ told₁ told₂, piece₁.lines = Snippet.header first :: told₁
          ∧ piece₂.lines = Snippet.header second :: told₂
          ∧ whole.lines = Snippet.header code :: (told₁ ++ told₂))
      ∧ outcomes code s = outcomes first s ++ outcomes second piece₁.state.session
      ∧ (∀ code s, (outcomes code s).length
          = (code.toList.splitOn '\n').countP fun line => line.any fun c => !isBlank c)
      ∧ ∀ code s before a later, Action.parse code = before ++ a :: later →
          (outcomes code s)[before.length]?
            = some (Snippet.step now a (Snippet.run now before s).state).value := by
  intro code whole piece₁ piece₂ outcomes
  obtain ⟨hwhole, hwholeLines⟩ := run_simulate hawaiting now code
  obtain ⟨hfirst, hfirstLines⟩ := run_simulate hawaiting now first
  -- nothing in the first piece asks the question that the second would answer
  have hawaiting' : (Snippet.simulate now first s).state.awaitingClear = false := by
    rw [← hawaiting, Snippet.simulate_state, Snippet.run_state]
    exact awaitingClear_run_deeds (b := .simulate first) (by simp) s.disk
  obtain ⟨hsecond, hsecondLines⟩ := run_simulate hawaiting' now second
  rw [← hfirst] at hsecond hsecondLines
  obtain ⟨hvalue, hstate, told₁, told₂, htold₁, htold₂, htold⟩ :=
    Snippet.simulate_append_break now s first second
  have hsession : piece₁.state.session = (Snippet.simulate now first s).state :=
    congrArg Shell.session hfirst
  refine ⟨?_, ⟨told₁, told₂, hfirstLines.trans htold₁, hsecondLines.trans htold₂,
    hwholeLines.trans htold⟩, ?_, fun code s => ?_, fun code s before a later hparse => ?_⟩
  · rw [hwhole, hstate, ← hsecond]
  · show (Snippet.simulate now code s).value
      = (Snippet.simulate now first s).value
        ++ (Snippet.simulate now second piece₁.state.session).value
    rw [hsession, hvalue]
  · show (Snippet.simulate now code s).value.length = _
    rw [Snippet.simulate_value, Snippet.length_run_value, Action.parse, List.length_map,
      Action.length_lines]
  · exact Snippet.simulate_value_getElem? now s hparse

/-- The first write is refused, on account of the first piece, and the second piece calls the function
all the same. -/
theorem simulate_in_pieces_refused :
    let s : Session := ⟨SortedMap.empty, SortedMap.empty,
      ⟨SortedMap.empty, .new (.memory none) (.fresh 0 []) ⟨fun _ => false, fun n => n == 0⟩⟩,
      "backups", false, false⟩
    let first := "def f(x):"
    let second := " f(1)"
    let piece₁ := (standard s).run 5 ("simulate " ++ first)
    ((standard s).run 5 ("simulate " ++ (first ++ "\n" ++ second))).state
        = (piece₁.state.run 5 ("simulate " ++ second)).state
      ∧ (Snippet.simulate 5 (first ++ "\n" ++ second) s).value
        = (Snippet.simulate 5 first s).value
          ++ (Snippet.simulate 5 second piece₁.state.session).value := by
  intro s first second piece₁
  have hpieces := simulate_in_pieces 5 s rfl first second
  exact ⟨hpieces.1, hpieces.2.2.1⟩

end Shell

end Rehearsal
