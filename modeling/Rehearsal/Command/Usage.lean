import Rehearsal.Command.Grammar

/-!
# What commands say of themselves

The help of a command is written from its grammar: how it is used, what it is for, and
a table each for its places and its options. In a table the descriptions stand in a
column of their own and are wrapped at the width of the page.
-/

namespace Rehearsal

/-! ## Tables -/

/-- Where the descriptions of a table begin. -/
def descriptionColumn : Nat := 20

/-- Where lines are wrapped. -/
def pageWidth : Nat := 80

/-- Words in lines of a width, as many words to a line as it holds. `line` is the line
begun. -/
def filled (width : Nat) (line : String) : List String → List String
  | [] => [line]
  | w :: ws =>
    if width < line.length + 1 + w.length then line :: filled width w ws
    else filled width (line ++ " " ++ w) ws

/-- A text padded with blanks up to a column. -/
def paddedTo (column : Nat) (s : String) : String :=
  s ++ String.ofList (List.replicate (column - s.length) ' ')

/-- The words of a description. -/
def descriptionWords (description : String) : List String :=
  (description.toList.splitOn ' ').map String.ofList

/-- The lines of an entry: the name before the first line of its description, and the
others below that. -/
def tableLines (name : String) : List String → List String
  | [] => [name]
  | first :: rest =>
    (paddedTo descriptionColumn ("  " ++ name) ++ first)
      :: rest.map fun line => paddedTo descriptionColumn "" ++ line

/-- **An entry of a table**: a name with its description. -/
def tableEntry (name description : String) : List String :=
  match descriptionWords description with
  | [] => tableLines name []
  | w :: ws => tableLines name (filled (pageWidth - descriptionColumn) w ws)

/-! ## Help -/

namespace Place

/-- How usage shows a place. -/
def usage (p : Place) : String :=
  match p.arity with
  | .one => "<" ++ p.name ++ ">"
  | .optional => "[<" ++ p.name ++ ">]"
  | .rest => "[" ++ p.name ++ "...]"

/-- A place that the table shows. -/
def isListed (p : Place) : Bool := p.arity != .rest

end Place

namespace OptionRule

/-- How usage shows an option. -/
def usage (o : OptionRule) : String := "[" ++ o.short.getD o.name ++ " " ++ o.value ++ "]"

/-- The names of an option, in the table. -/
def names (o : OptionRule) : String :=
  match o.short with
  | none => o.name
  | some short => short ++ ", " ++ o.name

end OptionRule

namespace Grammar

/-- The places that the table shows. -/
def listedPlaces (g : Grammar) : List Place := g.places.filter Place.isListed

/-- **How a command is used.** -/
def usage (g : Grammar) : String :=
  " ".intercalate (g.name :: g.options.map OptionRule.usage
    ++ (if g.listedPlaces.isEmpty then [] else ["[--]"]) ++ g.places.map Place.usage)

/-- The table of the places. -/
def placeTable (g : Grammar) : List String :=
  if g.listedPlaces.isEmpty then []
  else
    ["Positional Arguments:"]
      ++ g.listedPlaces.flatMap (fun p => tableEntry p.name p.description) ++ [""]

/-- The table of the options. -/
def optionTable (g : Grammar) : List String :=
  ["Options:"] ++ g.options.flatMap (fun o => tableEntry o.names o.description)
    ++ tableEntry "--help, help" "display usage information"

/-- **The help of a command**, in lines. -/
def help (g : Grammar) : List String :=
  ["Usage: " ++ g.usage, "", g.summary, ""] ++ g.placeTable ++ g.optionTable

/-- **Why words were not read**, in words. -/
def explain (g : Grammar) : Refusal → String
  | .help => "\n".intercalate g.help
  | .afterHelp => "Trailing arguments are not allowed after `help`."
  | .unrecognized word => "Unrecognized argument: " ++ word
  | .noValue option => "No value provided for option '" ++ option ++ "'."
  | .duplicate option value =>
    "Error parsing option '" ++ option ++ "' with value '" ++ value
      ++ "': duplicate values provided"
  | .missing places =>
    "Required positional arguments not provided:" ++ String.join (places.map ("\n    " ++ ·))

end Grammar

end Rehearsal
