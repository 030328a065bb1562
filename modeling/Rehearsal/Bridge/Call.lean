import Rehearsal.Decimal.Reading
import Rehearsal.Json.Basic
import Rehearsal.Registry
import Rehearsal.Text.Blank
import Rehearsal.Text.Word

/-!
# Simulated calls

Calling a registered function evaluates nothing. Its body is walked through once, action by
action, with **the value of the call as far as it is known**: an action may put another
value in its place, and leaves it alone otherwise. An assignment or a `return` gives a
value by *arithmetic*: if its text holds an operator between words, the operator is applied
to the first two arguments, whatever the words are. Each action adds a line to the trace of
the call.
-/

namespace Rehearsal

open Rehearsal.Text

/-! ## Arithmetic -/

/-- **The operators that are applied.** -/
inductive Operator where
  | plus
  | times
deriving DecidableEq

namespace Operator

/-- The operator that a character stands for. -/
def ofChar? : Char → Option Operator
  | '+' => some .plus
  | '*' => some .times
  | _ => none

/-- The operator applied. -/
def apply : Operator → Float → Float → Float
  | .plus, x, y => x + y
  | .times, x, y => x * y

/-- A text goes on with a word, after any blanks. -/
def wordFollows (cs : List Char) : Bool :=
  match cs.dropWhile isBlank with
  | [] => false
  | c :: _ => isWord c

/-- The first operator between words in the rest of a text, where `afterWord` says that
what stands before the rest ends in a word and any blanks. -/
def firstFrom (afterWord : Bool) : List Char → Option Operator
  | [] => none
  | c :: cs =>
    match ofChar? c with
    | some op => if afterWord && wordFollows cs then some op else firstFrom false cs
    | none => firstFrom (isWord c || (isBlank c && afterWord)) cs

/-- **The first operator between words** in a text: before it stands a word, after it
follows one, with any blanks between. -/
def first? (cs : List Char) : Option Operator := firstFrom false cs

end Operator

/-- A number as an argument spells it, with blanks around it. -/
def argument? (s : String) : Option Float := Decimal.read? (trim s.toList)

/-- **The arithmetic of a text**, applied to the first two arguments. A result that is
not finite is none. -/
def arithmetic? (text : String) (args : List String) : Option Json := do
  let operator ← Operator.first? text.toList
  match args with
  | left :: right :: _ =>
    let x ← argument? left
    let y ← argument? right
    let result := operator.apply x y
    if result.isFinite then pure (.real result) else none
  | _ => none

/-! ## Walking through a body -/

/-- A text stands somewhere in another. -/
def occursIn (part : List Char) : List Char → Bool
  | [] => part.isEmpty
  | c :: cs => part.isPrefixOf (c :: cs) || occursIn part cs

/-- **What a `return` gives back**: its arithmetic, or the arguments if it speaks of them. -/
def returned? (text : String) (args : List String) : Option Json :=
  (arithmetic? text args).or
    (if occursIn "args".toList text.toList then some (.string (Action.Kind.listed args)) else none)

/-- A call target that prints. -/
def Action.Kind.prints (target : String) : Bool :=
  occursIn "print".toList target.toList || occursIn "console.log".toList target.toList

/-- **How far a body has been walked through**: the value of the call so far, if there is one,
and a line for each action. -/
structure Walk where
  value : Option Json
  trace : Array String

namespace Walk

/-- The walk before the first action. -/
def start : Walk := ⟨none, #[]⟩

/-- One more line. -/
def tell (w : Walk) (line : String) : Walk := { w with trace := w.trace.push line }

/-- Another value, if there is one. -/
def put (w : Walk) (value : Option Json) : Walk := { w with value := value.or w.value }

/-- **One action further.** -/
def step (args : List String) (w : Walk) : Action.Kind → Walk
  | .assignment target value => (w.tell (target ++ " = " ++ value)).put (arithmetic? value args)
  | .call target callArgs =>
    (w.tell (target ++ "(" ++ Action.Kind.listed callArgs ++ ")")).put
      (if Action.Kind.prints target then some (.string ("Output: " ++ Action.Kind.listed args))
        else none)
  | .returning value =>
    match returned? value args with
    | some v => (w.tell ("return " ++ v.shown)).put (some v)
    | none => w.tell ("return " ++ value)
  | .definition name params => w.tell (Action.Kind.definition name params).source
  | .unknown code => w.tell (Action.Kind.unknown code).source

/-- **The walk through a body.** -/
def through (args : List String) (body : List Action) : Walk :=
  body.foldl (fun w a => w.step args a.kind) start

end Walk

/-! ## The result of a call -/

/-- How a result is shown in the dialect of its function. -/
structure Presentation where
  /-- The name of the kind of result. -/
  type : String
  text : String
deriving DecidableEq

/-- **The result of a simulated call.** -/
structure CallResult where
  value : Json
  language : Language
  timestamp : Instant
  args : List String
  presentation : Option Presentation
  /-- A line for each action of the body. -/
  trace : List String

namespace CallResult

/-- A value as a dialect shows it. -/
def present (args : List String) (value : Json) : Dialect → Presentation
  | .python => ⟨"python_result", "\x7b" ++ " + ".intercalate args ++ "\x7d → " ++ value.shown⟩
  | .javascript => ⟨"js_result", "function(" ++ Action.Kind.listed args ++ ") → " ++ value.shown⟩

/-- The members that a presentation adds. -/
def presentationMembers : Option Presentation → List (String × Json)
  | none => []
  | some p => [("type", .string p.type), ("representation", .string p.text)]

/-- **A result as a value.** -/
def toJson (r : CallResult) : Json :=
  .object ([("value", r.value), ("simulated", .bool true), ("language", .string r.language.tag),
      ("timestamp", .string (Instant.stamp r.timestamp)), ("argsReceived", .strings r.args)]
    ++ presentationMembers r.presentation)

end CallResult

namespace FunctionRecord

/-- What a call gives when its body gives no value. -/
def placeholder (now : Instant) (f : FunctionRecord) : Json :=
  .string ("result_" ++ f.lang.tag ++ "_" ++ toString now.toInt)

/-- **A call simulated.** -/
def simulate (now : Instant) (f : FunctionRecord) (args : List String) : CallResult :=
  let walk := Walk.through args f.body
  let value := walk.value.getD (f.placeholder now)
  { value := value
    language := f.lang
    timestamp := now
    args := args
    presentation := f.lang.dialect?.map (CallResult.present args value)
    trace := walk.trace.toList }

end FunctionRecord

end Rehearsal
