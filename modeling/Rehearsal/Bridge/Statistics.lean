import Rehearsal.Registry

/-!
# What the registry shows of itself

Two views of a registry. The **list** has a row for each function, by name. The
**statistics** count functions by language, and rank them twice: by number of calls and by
last activity. Both rankings are stable, so functions that tie stay in the order of
their names.
-/

namespace Rehearsal.Registry

/-! ## The list -/

/-- **A function in the list.** -/
structure Row where
  name : String
  lang : Language
  params : String
  calls : UInt64
  /-- The time of day of the last call, or `never`. -/
  lastCalled : String
deriving DecidableEq

/-- When a function was last called, as the list shows it. -/
def lastCalledText (f : FunctionRecord) : String :=
  (f.lastCalled.bind Instant.timeText?).getD "never"

/-- **The rows of the list**, by name. -/
def rows (r : Registry) : List Row :=
  r.entries.map fun (name, f) =>
    ⟨name, f.lang, Action.Kind.listed f.params, f.callCount, lastCalledText f⟩

/-! ## The statistics -/

/-- How many functions are of each language, by tag. -/
def byLanguage (r : Registry) : SortedMap String Nat :=
  r.entries.foldl
    (fun counts (_, f) => counts.insert f.lang.tag ((counts.get? f.lang.tag).getD 0 + 1))
    SortedMap.empty

/-- **The functions by number of calls**, most first. -/
def mostCalled (r : Registry) : List (String × FunctionRecord) :=
  r.entries.mergeSort fun a b => decide (b.2.callCount ≤ a.2.callCount)

/-- **The functions by last activity**, latest first. -/
def recent (r : Registry) : List (String × FunctionRecord) :=
  r.entries.mergeSort fun a b => decide (b.2.timestamp ≤ a.2.timestamp)

end Rehearsal.Registry
