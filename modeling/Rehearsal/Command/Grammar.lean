/-!
# How commands read their words

A command is followed by words. Some are **options**, which begin with a dash, and each
takes the word after it, whatever that is, as its value. The others fill the **places**
of the command in order. The word `--` ends the options, so that what begins with a dash
may fill a place. The words `help` and `--help` ask for help wherever they stand before
that.

Words are read from the left, and the first that cannot be read is what is wrong with
all of them. Only when all were read is help given, or a place found empty that must not be.
-/

namespace Rehearsal

/-- **How many words fill a place.** -/
inductive Arity where
  | one
  | optional
  /-- Any number, and the first of them ends the options. -/
  | rest
deriving DecidableEq

/-- **A place for words.** -/
structure Place where
  name : String
  arity : Arity
  description : String
deriving DecidableEq

/-- **An option with a value.** -/
structure OptionRule where
  /-- The name in full. -/
  name : String
  /-- A short form of the name. -/
  short : Option String
  /-- How usage shows the value. -/
  value : String
  /-- It may be given more than once. -/
  repeats : Bool
  description : String
deriving DecidableEq

/-- **What may follow a command.** -/
structure Grammar where
  name : String
  summary : String
  options : List OptionRule
  places : List Place
deriving DecidableEq

/-- **Why words were not read.** -/
inductive Refusal where
  /-- They ask for help. -/
  | help
  /-- An option stands after a word that asks for help. -/
  | afterHelp
  | unrecognized (word : String)
  | noValue (option : String)
  /-- An option that may be given only once was given again. -/
  | duplicate (option value : String)
  | missing (places : List String)
deriving DecidableEq

/-- **What words were read as**: the values of options and the words in places, in the order
they stood. -/
structure Arguments where
  options : List (String × String)
  words : List String
deriving DecidableEq

namespace Arguments

/-- The values given to an option. -/
def values (a : Arguments) (option : String) : List String :=
  (a.options.filter fun o => o.1 == option).map Prod.snd

end Arguments

namespace Grammar

/-- The words that ask for help. -/
def asksHelp (word : String) : Bool := word == "help" || word == "--help"

/-- The word begins with a dash. -/
def isDashed (word : String) : Bool := word.toList.head? == some '-'

/-- The option that a word names. -/
def option? (g : Grammar) (word : String) : Option OptionRule :=
  g.options.find? fun o => o.name == word || o.short == some word

/-- The place for a word with so many words in places before it. -/
def place? (g : Grammar) (n : Nat) : Option Place :=
  g.places[n]?.or (g.places.getLast?.filter fun p => p.arity == .rest)

/-- **How far the words have been read.** -/
structure Progress where
  arguments : Arguments
  helpWanted : Bool
  optionsEnded : Bool

/-- Nothing has been read. -/
def Progress.start : Progress := ⟨⟨[], []⟩, false, false⟩

/-- One more option. -/
def Progress.withOption (p : Progress) (name value : String) : Progress :=
  { p with arguments := { p.arguments with options := p.arguments.options ++ [(name, value)] } }

/-- One more word in a place. -/
def Progress.withWord (p : Progress) (place : Place) (word : String) : Progress :=
  { p with
    arguments := { p.arguments with words := p.arguments.words ++ [word] }
    optionsEnded := p.optionsEnded || place.arity == .rest }

/-- Read the words that are left. -/
def readFrom (g : Grammar) (p : Progress) : List String → Except Refusal Progress
  | [] => .ok p
  | w :: ws =>
    if !p.optionsEnded && asksHelp w then g.readFrom { p with helpWanted := true } ws
    else if !p.optionsEnded && isDashed w then
      if w == "--" then g.readFrom { p with optionsEnded := true } ws
      else if p.helpWanted then .error .afterHelp
      else
        match g.option? w with
        | none => .error (.unrecognized w)
        | some o =>
          match ws with
          | [] => .error (.noValue w)
          | v :: ws' =>
            if o.repeats || (p.arguments.values o.name).isEmpty then
              g.readFrom (p.withOption o.name v) ws'
            else .error (.duplicate w v)
    else
      match g.place? p.arguments.words.length with
      | none => .error (.unrecognized w)
      | some place => g.readFrom (p.withWord place w) ws

/-- The places that no word filled and that must be filled. -/
def missing (g : Grammar) (p : Progress) : List String :=
  ((g.places.drop p.arguments.words.length).filter fun q => q.arity == .one).map Place.name

/-- **Read the words after a command.** -/
def read (g : Grammar) (words : List String) : Except Refusal Arguments :=
  match g.readFrom .start words with
  | .error r => .error r
  | .ok p =>
    if p.helpWanted then .error .help
    else
      match g.missing p with
      | [] => .ok p.arguments
      | names => .error (.missing names)

end Grammar

end Rehearsal
