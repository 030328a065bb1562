import Rehearsal.CommandLine

/-!
# How the arguments are read

An option takes the word after it as its value, whatever that is, so any text can be given as a
command: also one that begins with a dash or asks for help (`Grammar.readFrom_option`). What is given
in whatever order is read in that order (`CommandLine.read_argumentsOf`), and it settles the settings:
how folders stand between commands makes no difference (`CommandLine.run_argumentsOf`).
-/

namespace Rehearsal

namespace Grammar

/-- **A word that names an option**: it begins with a dash, and it neither asks for help nor ends the
options. -/
structure Names (g : Grammar) (word : String) (o : OptionRule) : Prop where
  option : g.option? word = some o
  help : asksHelp word = false
  dash : isDashed word = true
  ne : (word == "--") = false

/-- **An option takes the word after it**, whatever that is. -/
theorem readFrom_option {g : Grammar} {p : Progress} {word : String} {o : OptionRule}
    (h : g.Names word o) (hhelp : p.helpWanted = false) (hended : p.optionsEnded = false)
    (hfree : o.repeats = true ∨ p.arguments.values o.name = []) (value : String)
    (words : List String) :
    g.readFrom p (word :: value :: words) = g.readFrom (p.withOption o.name value) words := by
  have hmay : (o.repeats || (p.arguments.values o.name).isEmpty) = true := by
    rcases hfree with h | h <;> simp [h]
  rw [readFrom, hended, h.help, h.dash, h.ne, hhelp, h.option]
  simp [hmay]

end Grammar

namespace CommandLine

open Grammar (Progress)

/-- **What can be chosen** with an option. -/
inductive Choice where
  | storage
  | backups
  | command
deriving DecidableEq

namespace Choice

/-- The word that chooses it. -/
def word : Choice → String
  | .storage => "--storage-dir"
  | .backups => "--backup-dir"
  | .command => "-c"

/-- The full name of its option. -/
def name : Choice → String
  | .storage => "--storage-dir"
  | .backups => "--backup-dir"
  | .command => "--command"

theorem name_inj {k k' : Choice} (h : k.name = k'.name) : k = k' := by
  cases k <;> cases k' <;> first | rfl | exact absurd h (by decide)

/-- **Its word names its option**, and commands may be given more than once. -/
theorem exists_rule (k : Choice) : ∃ o, grammar.Names k.word o ∧ o.name = k.name
    ∧ (k = .command → o.repeats = true) := by
  cases k <;> exact ⟨_, ⟨rfl, by decide, by decide, by decide⟩, rfl, by decide⟩

end Choice

/-- **One thing given to the program.** -/
structure Given where
  choice : Choice
  value : String
deriving DecidableEq

namespace Given

/-- The words by which it is given. -/
def words (g : Given) : List String := [g.choice.word, g.value]

/-- The option as it is read. -/
def option (g : Given) : String × String := (g.choice.name, g.value)

/-- **Two that may both be given**: a folder is chosen once. -/
def Compatible (g g' : Given) : Prop := g.choice = g'.choice → g'.choice = .command

instance : DecidableRel Compatible := fun _ _ => inferInstanceAs (Decidable (_ → _))

end Given

/-- The values that are given for a choice, in their order. -/
def valuesOf (k : Choice) (given : List Given) : List String :=
  (given.filter fun g => g.choice = k).map Given.value

/-- What is given without the commands. -/
def configurationOf (given : List Given) : List Given :=
  given.filter fun g => g.choice ≠ .command

/-- The arguments that give it. -/
def argumentsOf (given : List Given) : List String := given.flatMap Given.words

/-- **The settings** that are given. -/
def settingsOf (given : List Given) : Settings where
  storage := (valuesOf .storage given).headD defaultStorage
  backups := (valuesOf .backups given).headD defaultBackups
  commands := valuesOf .command given

/-! ## Reading -/

variable {given : List Given}

/-- **One more that is given is read**, if it may be after what was read. -/
theorem readFrom_words {p : Progress} (g : Given) (hhelp : p.helpWanted = false)
    (hended : p.optionsEnded = false)
    (hfree : ∀ o ∈ p.arguments.options, o.1 = g.option.1 → g.choice = .command)
    (words : List String) :
    grammar.readFrom p (g.words ++ words)
      = grammar.readFrom (p.withOption g.option.1 g.option.2) words := by
  obtain ⟨o, hnames, hname, hrepeats⟩ := g.choice.exists_rule
  rw [show g.option.1 = o.name from hname.symm]
  refine Grammar.readFrom_option hnames hhelp hended ?_ g.value words
  by_cases hcommand : g.choice = .command
  · exact Or.inl (hrepeats hcommand)
  · refine Or.inr ?_
    rw [Arguments.values, List.map_eq_nil_iff, List.filter_eq_nil_iff]
    intro o' ho' heq
    exact hcommand (hfree o' ho' ((beq_iff_eq.mp heq).trans hname))

/-- **What is given is read**, one after the other, if no folder is chosen again. -/
theorem readFrom_argumentsOf {p : Progress} (hhelp : p.helpWanted = false)
    (hended : p.optionsEnded = false) (hgiven : given.Pairwise Given.Compatible)
    (hfree : ∀ o ∈ p.arguments.options, ∀ g ∈ given, o.1 = g.option.1 → g.choice = .command) :
    grammar.readFrom p (argumentsOf given)
      = .ok { p with arguments :=
          { p.arguments with options := p.arguments.options ++ given.map Given.option } } := by
  induction given generalizing p with
  | nil => simp [argumentsOf, Grammar.readFrom]
  | cons g given ih =>
    obtain ⟨hg, hgiven⟩ := List.pairwise_cons.mp hgiven
    rw [argumentsOf, List.flatMap_cons,
      readFrom_words g hhelp hended (fun o ho => hfree o ho g List.mem_cons_self), ← argumentsOf,
      ih (p := p.withOption g.option.1 g.option.2) hhelp hended hgiven]
    · simp [Progress.withOption]
    · intro o ho g' hg' hname
      rcases List.mem_append.mp ho with ho | ho
      · exact hfree o ho g' (List.mem_cons_of_mem _ hg') hname
      · obtain rfl := List.mem_singleton.mp ho
        exact hg g' hg' (Choice.name_inj hname)

/-- **The arguments are read** as what they give. -/
theorem read_argumentsOf (hgiven : given.Pairwise Given.Compatible) :
    grammar.read (argumentsOf given) = .ok ⟨given.map Given.option, []⟩ := by
  rw [Grammar.read, readFrom_argumentsOf rfl rfl hgiven (fun _ h => by cases h)]
  rfl

/-! ## Settings -/

theorem values_option (k : Choice) (given : List Given) :
    (⟨given.map Given.option, []⟩ : Arguments).values k.name = valuesOf k given := by
  rw [Arguments.values, List.filter_map, List.map_map, valuesOf]
  refine congrArg (List.map Given.value) (List.filter_congr fun g _ => ?_)
  show (g.choice.name == k.name) = decide (g.choice = k)
  rw [Bool.eq_iff_iff, beq_iff_eq, decide_eq_true_iff]
  exact ⟨Choice.name_inj, congrArg Choice.name⟩

/-- **The program runs with what is given.** -/
theorem run_argumentsOf (clock : Clock) (hgiven : given.Pairwise Given.Compatible)
    (input : ByteArray) (disk : Disk) :
    run clock (argumentsOf given) input disk = runSettings clock (settingsOf given) input disk := by
  have hsettings : Settings.ofArguments ⟨given.map Given.option, []⟩ = settingsOf given := by
    unfold Settings.ofArguments settingsOf
    rw [← values_option .storage, ← values_option .backups, ← values_option .command]
    rfl
  unfold run
  rw [read_argumentsOf hgiven, ← hsettings]

/-- **Without the commands** the settings are the same but for them. -/
theorem settingsOf_configurationOf (given : List Given) :
    settingsOf (configurationOf given) = { settingsOf given with commands := [] } := by
  have hvalues : ∀ k, k ≠ .command → valuesOf k (configurationOf given) = valuesOf k given := by
    intro k hk
    rw [valuesOf, configurationOf, List.filter_filter, valuesOf]
    refine congrArg (List.map Given.value) (List.filter_congr fun g _ => ?_)
    by_cases hg : g.choice = k
    · simp [hg, hk]
    · simp [hg]
  have hcommands : valuesOf .command (configurationOf given) = [] := by
    simp [valuesOf, configurationOf]
  rw [settingsOf, hvalues .storage (by decide), hvalues .backups (by decide), hcommands, settingsOf]

end CommandLine

end Rehearsal
