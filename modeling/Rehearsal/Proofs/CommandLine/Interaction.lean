import Rehearsal.Proofs.CommandLine.Arguments
import Rehearsal.Proofs.Shell.Parts
import Rehearsal.Proofs.Text.Octets

/-!
# Lines that are read do what commands that are given do

The program has two ways to come by its commands: from its arguments, or line by line from its
input. Both go through `Shell.run`, so the second does to the session what the first does, and says
what the first says, **with a prompt before each command** (`interact_lines`).

Two things must be right for that. The input must be divided into the lines again, whatever octets
follow them (`inputLines_inputOf`). And the flag that ends the reading must be set by the line that
asks to leave, at once, and by no other: not by an answer that reads `exit`
(`Shell.shouldExit_after`). Then nothing after that line has any effect
(`interact_of_shouldExit`).

Each line is run at an instant of its own, and the clock may go as it likes. The two ways look at it
equally often, once for each line, so the lines are dated alike (`Clock.dated`).
-/

namespace Rehearsal

open Text (trimmed)

/-! ## The flag that ends the reading -/

/-- Only `exit` concerns the flag. -/
theorem Builtin.ChangesPart.shouldExit_eq {b : Builtin} {s s' : Session} (h : b.ChangesPart s s')
    (hb : b ≠ .exit) : s'.shouldExit = s.shouldExit := by
  cases b with
  | exit => exact absurd rfl hb
  | status | bridgeStats | bridgeList | bridgeListBackups | help | bridgeClear | load _ =>
    obtain rfl := h
    rfl
  | bridgeSave | bridgeRemove _ | bridgeBackup _ =>
    obtain ⟨storage, rfl, -⟩ := h
    rfl
  | bridgeRestore _ =>
    obtain ⟨registry, storage, rfl, -⟩ := h
    rfl
  | simulate _ | runFile _ =>
    obtain ⟨vars, registry, storage, rfl, -⟩ := h
    rfl

namespace Shell

variable {now : Instant} {line : String} {s : Session}

/-- **Blanks at the ends of a line** make no difference. -/
theorem run_eq_of_trimmed (sh : Shell) (now : Instant) {line line' : String}
    (h : trimmed line = trimmed line') : sh.run now line = sh.run now line' := by
  unfold run runLine
  rw [h]

/-- **The flag after a line**: set by `exit`, unless that was an answer, and never reset. -/
theorem shouldExit_after :
    (after now line s).shouldExit = true
      ↔ s.shouldExit = true ∨ s.awaitingClear = false ∧ command? line = some .exit := by
  cases h : s.awaitingClear with
  | true =>
    rw [after_of_awaiting h]
    split <;> simp
  | false =>
    rw [after_of_not_awaiting h]
    cases hline : command? line with
    | none =>
      show s.shouldExit = true ↔ _
      simp
    | some b =>
      by_cases hb : b = .exit
      · subst hb
        exact iff_of_true rfl (Or.inr ⟨rfl, rfl⟩)
      · show (Deed.run now (b.deeds s.disk) s).shouldExit = true ↔ _
        rw [(b.changesPart_run now s).shouldExit_eq hb]
        simp [hb]

end Shell

/-! ## Lines and their instants -/

namespace Clock

variable {α : Type}

/-- **The clock after some lines**, when it was looked at once for each. -/
def after (clock : Clock) (n : Nat) : Clock := ⟨fun k => clock.reading (k + n)⟩

theorem after_later (clock : Clock) (n : Nat) : clock.later.after n = clock.after (n + 1) := rfl

/-- **Each of a list at its own instant**, one after the other. -/
def dated (clock : Clock) : List α → List (Instant × α)
  | [] => []
  | x :: xs => (clock.now, x) :: clock.later.dated xs

theorem dated_append (clock : Clock) (first second : List α) :
    clock.dated (first ++ second) = clock.dated first ++ (clock.after first.length).dated second := by
  induction first generalizing clock with
  | nil => rfl
  | cons x first ih => exact congrArg ((clock.now, x) :: ·) (ih clock.later)

end Clock

namespace CommandLine

variable {clock : Clock} {sh : Shell} {s : Session} {commands lines : List String}

/-! ## Commands one after the other -/

/-- Each command makes a piece. -/
theorem length_pieces_batch (clock : Clock) (sh : Shell) (commands : List String) :
    (batch clock sh commands).pieces.length = commands.length := by
  induction commands generalizing clock sh with
  | nil => rfl
  | cons c cs ih => exact congrArg (· + 1) (ih clock.later _)

/-- **Commands that are given are a run of lines** on the session. -/
theorem shell_batch (clock : Clock) (s : Session) (commands : List String) :
    (batch clock (.standard s) commands).shell
      = .standard (Run.state Shell.after (clock.dated commands) s) := by
  induction commands generalizing clock s with
  | nil => rfl
  | cons c cs ih => exact ih clock.later _

/-- **The flag that is not set at the end was never set.** -/
theorem shouldExit_before {first : List String} (hfirst : first <+: commands)
    (h : (batch clock (.standard s) commands).shell.session.shouldExit = false) :
    (batch clock (.standard s) first).shell.session.shouldExit = false := by
  obtain ⟨second, rfl⟩ := hfirst
  rw [shell_batch, Clock.dated_append, Run.state_append] at h
  rw [shell_batch]
  refine eq_false_of_ne_true fun hset => ne_true_of_eq_false h ?_
  exact Run.state_of_forall (P := fun s : Session => s.shouldExit = true)
    (fun _ _ _ hs => Shell.shouldExit_after.mpr (Or.inl hs)) hset

/-! ## Lines of an input -/

/-- **Lines as an input**, each with its end. -/
def inputOf (lines : List String) : ByteArray := (String.join (lines.map (· ++ "\n"))).toUTF8

theorem inputLines_empty : inputLines ByteArray.empty = [] := by
  rw [inputLines, Text.toList_octets]
  rfl

/-- A line with its end, before any octets, is the first line. -/
theorem inputLines_line {line : String} (h : '\n' ∉ line.toList) (rest : ByteArray) :
    inputLines ((line ++ "\n").toUTF8 ++ rest) = line.toUTF8 :: inputLines rest := by
  have hpieces : ((line ++ "\n").toUTF8 ++ rest).toList.splitOn 0x0A
      = line.toUTF8.toList :: rest.toList.splitOn 0x0A := by
    rw [Text.toList_octets_append, Text.toUTF8_append, Text.toList_octets_append, List.append_assoc,
      Text.toList_toUTF8_newline]
    exact List.splitOn_append_cons_self_of_not_mem (Text.newline_not_mem_toUTF8 h) rest.toList
  obtain ⟨piece, pieces, hrest⟩ := List.exists_cons_of_ne_nil (List.splitOn_ne_nil 0x0A rest.toList)
  unfold inputLines
  dsimp only
  rw [hpieces, hrest, List.getLast?_cons_cons, List.dropLast_cons_cons]
  split <;> rw [List.map_cons, Text.mk_toArray_toList]

/-- **An input is divided into its lines again**, and what follows them. -/
theorem inputLines_inputOf (h : ∀ line ∈ lines, '\n' ∉ line.toList) (rest : ByteArray) :
    inputLines (inputOf lines ++ rest) = lines.map String.toUTF8 ++ inputLines rest := by
  induction lines with
  | nil =>
    show inputLines (ByteArray.empty ++ rest) = _
    rw [ByteArray.empty_append]
    rfl
  | cons line lines ih =>
    obtain ⟨hline, hlines⟩ := List.forall_mem_cons.mp h
    rw [inputOf, List.map_cons, String.join_cons, Text.toUTF8_append, ByteArray.append_assoc,
      inputLines_line hline, ← inputOf, ih hlines, List.map_cons, List.cons_append]

/-! ## Reading lines -/

/-- **The prompts before commands**, each as the commands before have left the session. -/
def prompts (clock : Clock) (sh : Shell) (commands : List String) : List String :=
  (List.range commands.length).map fun n =>
    prompt (batch clock sh (commands.take n)).shell.session

theorem prompts_cons (clock : Clock) (sh : Shell) (command : String) (commands : List String) :
    prompts clock sh (command :: commands)
      = prompt sh.session :: prompts clock.later (sh.run clock.now command).state commands := by
  rw [prompts, List.length_cons, List.range_succ_eq_map, List.map_cons, List.map_map]
  rfl

/-- **What is shown of commands** that are read: before what each narrates its prompt. -/
def shown (clock : Clock) (sh : Shell) (commands : List String) : String :=
  String.join (List.zipWith (· ++ ·) (prompts clock sh commands) (batch clock sh commands).pieces)

theorem shown_cons (clock : Clock) (sh : Shell) (command : String) (commands : List String) :
    shown clock sh (command :: commands)
      = prompt sh.session ++ (sh.run clock.now command).narration
        ++ shown clock.later (sh.run clock.now command).state commands := by
  rw [shown, prompts_cons]
  exact String.join_cons

/-- **Once the flag is set** nothing is read, and no prompt is shown. -/
theorem interact_of_shouldExit (h : sh.session.shouldExit = true) (lines : List ByteArray) :
    interact clock sh lines = ⟨[], sh⟩ := by
  unfold interact
  rw [if_pos h]

/-- At the end of the input there is one more prompt. -/
theorem interact_nil (h : sh.session.shouldExit = false) :
    interact clock sh [] = ⟨[prompt sh.session, endOfInput], sh⟩ := by
  unfold interact
  rw [if_neg (by simp [h])]
  rfl

/-- **A line that is read** is run as it is typed. -/
theorem interact_line (h : sh.session.shouldExit = false) (line : String) (rest : List ByteArray) :
    interact clock sh (line.toUTF8 :: rest)
      = ((interact clock.later (sh.run clock.now (Text.typed line)).state rest).after
          (sh.run clock.now (Text.typed line)).narration).after (prompt sh.session) := by
  have hturn : turn clock.now sh (some line.toUTF8) = .ofLine clock.now sh (Text.typed line) := by
    rw [turn, Text.fromUTF8?_toUTF8]
  rw [interact, if_neg (by simp [h]), hturn]
  rfl

/-- Lines without backspaces are read as they are. -/
theorem map_typed_of_not_mem (h : ∀ line ∈ lines, Text.backspace ∉ line.toList) :
    lines.map (fun line => trimmed (Text.typed line)) = lines.map trimmed :=
  List.map_congr_left fun line hline => by rw [Text.typed_of_not_mem (h line hline)]

/-- **Lines that are read do what commands do**, one after the other, and say the same with a prompt
before each, as long as none but the last of them asks to leave. Blanks at the ends make no
difference, so a line may also end with a carriage return. -/
theorem interact_lines (clock : Clock) (sh : Shell)
    (hread : lines.map (fun line => trimmed (Text.typed line)) = commands.map trimmed)
    (hopen : ∀ n < commands.length, (batch clock sh (commands.take n)).shell.session.shouldExit = false)
    (rest : List ByteArray) :
    let t := interact clock sh (lines.map String.toUTF8 ++ rest)
    let further := interact (clock.after commands.length) (batch clock sh commands).shell rest
    String.join t.pieces = shown clock sh commands ++ String.join further.pieces
      ∧ t.shell = further.shell := by
  intro t further
  induction lines generalizing clock sh commands with
  | nil =>
    obtain rfl := List.map_eq_nil_iff.mp hread.symm
    exact ⟨String.empty_append.symm, rfl⟩
  | cons line lines ih =>
    obtain ⟨command, commands, rfl, hcommand, hread⟩ := List.map_eq_cons_iff.mp hread.symm
    have hfirst : sh.session.shouldExit = false := hopen 0 (Nat.succ_pos _)
    obtain ⟨hpieces, hshell⟩ := ih clock.later (sh.run clock.now command).state hread.symm
      fun n hn => hopen (n + 1) (Nat.succ_lt_succ hn)
    rw [Clock.after_later] at hpieces hshell
    have ht : t = _ := interact_line hfirst line (lines.map String.toUTF8 ++ rest)
    rw [ht, sh.run_eq_of_trimmed clock.now hcommand.symm]
    refine ⟨?_, hshell⟩
    show String.join (_ :: _ :: _) = shown clock sh (_ :: _) ++ _
    rw [String.join_cons, String.join_cons, hpieces, shown_cons, String.append_assoc,
      String.append_assoc]
    rfl

/-! ## The program both ways -/

/-- **The shell as the program starts it**, with what it was given. -/
def started (now : Instant) (given : List Given) (disk : Disk) : Shell :=
  .standard (session now (settingsOf given) disk)

variable {given : List Given}

/-- With commands the program runs them. -/
theorem run_given (clock : Clock) (hgiven : given.Pairwise Given.Compatible)
    (hsome : valuesOf .command given ≠ []) (input : ByteArray) (disk : Disk) :
    run clock (argumentsOf given) input disk
      = (batch clock.later (started clock.now given disk) (valuesOf .command given)).result "" := by
  rw [run_argumentsOf clock hgiven, runSettings, if_neg]
  · rfl
  · simpa [settingsOf] using hsome

/-- Without them it reads lines, in the same session. -/
theorem run_configurationOf (clock : Clock) (hgiven : given.Pairwise Given.Compatible)
    (input : ByteArray) (disk : Disk) :
    run clock (argumentsOf (configurationOf given)) input disk
      = (interact clock.later (started clock.now given disk) (inputLines input)).result banner := by
  have hconfiguration : (configurationOf given).Pairwise Given.Compatible :=
    hgiven.sublist List.filter_sublist
  rw [run_argumentsOf clock hconfiguration, settingsOf_configurationOf]
  rfl

/-- **Commands that are given and lines that are read come to the same**, however the clock goes while
they are run. Take whatever is given to the program on any disk: folders, each chosen at most once,
and some commands, in any order. Take lines that are read as these commands but for blanks at their
ends: every line is that is a command, with or without a carriage return after it, unless a backspace
is in it (`map_typed_of_not_mem`). Suppose the commands before the last leave the flag that ends the
reading as it was.

With the commands the program writes what each narrates. Without them, and with the lines for an
input, it writes the banner and, before each narration, the prompt that the commands before it
leave: `"> "` exactly if they leave a question open. It leaves the same disk. If the last command sets
the flag, that is all, whatever octets follow the lines. If not, there is one more prompt at the end of
the input. -/
theorem lines_read_as_commands_given (clock : Clock) (given : List Given) (lines : List String)
    (disk : Disk) (hgiven : given.Pairwise Given.Compatible)
    (hsome : valuesOf .command given ≠ []) (hwhole : ∀ line ∈ lines, '\n' ∉ line.toList)
    (hread : lines.map (fun line => trimmed (Text.typed line))
      = (valuesOf .command given).map trimmed)
    (hopen : (batch clock.later (started clock.now given disk)
      (valuesOf .command given).dropLast).shell.session.shouldExit = false) :
    let sh := started clock.now given disk
    let commands := valuesOf .command given
    let t := batch clock.later sh commands
    let prompts := (List.range commands.length).map fun n =>
      if (batch clock.later sh (commands.take n)).shell.session.awaitingClear then "> " else "spu> "
    let written := banner ++ String.join (List.zipWith (· ++ ·) prompts t.pieces)
    let configuration := argumentsOf (configurationOf given)
    t.pieces.length = commands.length
      ∧ (∀ input, run clock (argumentsOf given) input disk
        = ⟨0, String.join t.pieces, "", t.shell.session.disk⟩)
      ∧ (t.shell.session.shouldExit = true → ∀ rest,
        run clock configuration (inputOf lines ++ rest) disk = ⟨0, written, "", t.shell.session.disk⟩)
      ∧ (t.shell.session.shouldExit = false →
        run clock configuration (inputOf lines) disk
          = ⟨0, written ++ prompt t.shell.session ++ "Eof\n", "", t.shell.session.disk⟩) := by
  intro sh commands t prompts written configuration
  have hbefore : ∀ n < commands.length, commands.take n <+: commands.dropLast := fun n hn => by
    rw [List.dropLast_eq_take]
    exact List.take_prefix_take_left (by omega)
  -- all that is written and the shell after it, by what follows the lines
  have hall : ∀ rest, run clock configuration (inputOf lines ++ rest) disk
      = (interact (clock.later.after commands.length) t.shell (inputLines rest)).result written := by
    intro rest
    obtain ⟨hpieces, hshell⟩ := interact_lines clock.later sh hread
      (fun n hn => shouldExit_before (hbefore n hn) hopen) (inputLines rest)
    rw [run_configurationOf clock hgiven, inputLines_inputOf hwhole, Transcript.result, hpieces, hshell,
      ← String.append_assoc]
    rfl
  refine ⟨length_pieces_batch clock.later sh commands, fun input => ?_, fun hexit rest => ?_,
    fun hstay => ?_⟩
  · rw [run_given clock hgiven hsome, Transcript.result, String.empty_append]
  · rw [hall, interact_of_shouldExit hexit, Transcript.result, String.join_nil, String.append_empty]
  · have hend := hall ByteArray.empty
    rw [ByteArray.append_empty] at hend
    rw [hend, inputLines_empty, interact_nil hstay, Transcript.result, String.join_cons,
      String.join_cons, String.join_nil, String.append_empty, ← String.append_assoc]
    rfl

/-- An `exit` that is an answer, in a line with a carriage return, and one that is a command, each a
second after the line before it. -/
theorem lines_read_as_commands_given_exit :
    let question := "are you sure you want to remove ALL functions from the bridge?\n"
      ++ "   type \"CONFIRM\" to proceed:\n"
    let clock : Clock := ⟨fun n => Int64.ofNat (1000 * n)⟩
    let disk := Disk.fresh 0 []
    (run clock ["-c", "bridge-clear", "--backup-dir", "b", "-c", "exit"] ByteArray.empty disk).stdout
        = question ++ "operation cancelled\n"
      ∧ (run clock ["--backup-dir", "b"] (inputOf ["bridge-clear", "exit\r"]) disk).stdout
        = banner ++ "spu> " ++ question ++ "> operation cancelled\nspu> Eof\n"
      ∧ ∀ rest, (run clock [] (inputOf ["exit"] ++ rest) disk).stdout = banner ++ "spu> " := by
  intro question clock disk
  obtain ⟨-, hgiven, -, hend⟩ := lines_read_as_commands_given clock
    [⟨.command, "bridge-clear"⟩, ⟨.backups, "b"⟩, ⟨.command, "exit"⟩] ["bridge-clear", "exit\r"] disk
    (by decide) (by decide) (by decide) ((map_typed_of_not_mem (by decide)).trans (by decide))
    (by decide +kernel)
  obtain ⟨-, -, hexit, -⟩ := lines_read_as_commands_given clock [⟨.command, "exit"⟩] ["exit"] disk
    (by decide) (by decide) (by decide) (map_typed_of_not_mem (by decide)) (by decide +kernel)
  refine ⟨?_, ?_, fun rest => ?_⟩
  · refine (congrArg Result.stdout (hgiven ByteArray.empty)).trans ?_
    decide +kernel
  · refine (congrArg Result.stdout (hend (by decide +kernel))).trans ?_
    decide +kernel
  · refine (congrArg Result.stdout (hexit (by decide +kernel) rest)).trans ?_
    decide +kernel

end CommandLine

end Rehearsal
