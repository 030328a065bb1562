import Rehearsal.Proofs.Snippet.Agreement
import Rehearsal.Proofs.Snippet.Resolution

/-!
# Calls without a dot, and the libraries

A library is called by its name, a dot and the name of a method. A target without a dot names no
method, so it should make no difference to its call which libraries are loaded, and mostly it makes
none. But what stands before the first dot is the whole target if there is no dot. **A library takes
the calls of its bare name**, only to say that it has no method of the empty name, and neither a
function of that name nor printing is reached any more (`Snippet.not_every_undotted_call_alike`).

No other library matters. Two sessions that differ in their libraries alone give a call the same
outcome exactly if its target is loaded in both or in neither, and then all that the call narrates
and all that it does is the same as well (`Snippet.undotted_call_by_own_library`).
-/

namespace Rehearsal

open Routine (Agree)

variable {now : Instant} {target : String} {args : List String} {s : Session}
  {libraries : Libraries}

namespace Callee

/-- A target without a dot names no method. -/
theorem methodOf_of_undotted (h : '.' ∉ target.toList) : methodOf target = "" := by
  rw [methodOf, segments, List.splitOn_eq_singleton h]
  rfl

/-- **What a target leads to** depends on no other library than the one it names. -/
theorem resolve_withLibraries
    (h : libraries.isLoaded (libraryOf target) = s.libraries.isLoaded (libraryOf target)) :
    resolve { s with libraries := libraries } target = resolve s target := by
  unfold resolve
  dsimp only
  rw [h]

end Callee

/-- What is done on the bridge does not see the libraries. -/
theorem Session.agree_onBridge_withLibraries {α : Type} (m : Routine Bridge α) :
    Agree (fun s s' => s' = { s with libraries := libraries }) (onBridge m) (onBridge m) := by
  rintro s s' rfl
  exact ⟨rfl, rfl, rfl⟩

namespace Snippet

open Action.Kind (listed)

/-- **A library that is loaded takes the calls of its bare name**, and has no method for them. -/
theorem call_of_undotted (hdot : '.' ∉ target.toList)
    (hloaded : s.libraries.isLoaded target = true) :
    call now target args s = ⟨.missingMethod target "", s,
      ["    method '' not found in library '" ++ target ++ "'"], []⟩ := by
  have hlibrary := Callee.libraryOf_of_undotted hdot
  have hresolve : Callee.resolve s target = .method target "" := by
    have hleads := (Callee.Leads.method (hlibrary.symm ▸ hloaded)).resolve_eq
    rwa [hlibrary, Callee.methodOf_of_undotted hdot] at hleads
  unfold call
  rw [Routine.get_bind_apply, hresolve]
  rfl

/-- Where the library of a target is not loaded, no method is missing. -/
theorem call_value_ne_missingMethod (h : s.libraries.isLoaded (Callee.libraryOf target) = false)
    (library method : String) : (call now target args s).value ≠ .missingMethod library method := by
  rw [call_value]
  have hleads := Callee.leads_resolve s target
  generalize Callee.resolve s target = callee at *
  cases hleads with
  | method hloaded => exact absurd hloaded (by simp [h])
  | function _ hf => simp [callFunction_value now s args hf]
  | print => simp
  | nothing => simp

/-- **A call without a dot depends on one library, the one of its own name.** Take two sessions that
differ in the loaded libraries alone, and a call of a target without a dot. Its outcome is the same
in both if and only if the target is loaded in both or in neither. Then the narration is the same,
too, and so is the session after it, but for the libraries. Where the target is loaded, the call
changes nothing, and it comes to a method of the empty name that the library does not have. -/
theorem undotted_call_by_own_library (now : Instant) (lang : Language) (target : String)
    (args : List String) (s : Session) (libraries : Libraries) (hdot : '.' ∉ target.toList) :
    let r := execute now lang (.call target args) s
    let r' := execute now lang (.call target args) { s with libraries := libraries }
    (r'.value = r.value ↔ libraries.isLoaded target = s.libraries.isLoaded target)
      ∧ (libraries.isLoaded target = s.libraries.isLoaded target →
          r'.lines = r.lines ∧ r'.state = { r.state with libraries := libraries })
      ∧ (s.libraries.isLoaded target = true →
          r.value = .ok (.missingMethod target "")
            ∧ r.lines = ["  executing: " ++ target ++ "(" ++ listed args ++ ")",
                "    method '' not found in library '" ++ target ++ "'"]
            ∧ r.state = s) := by
  intro r r'
  have hlibrary := Callee.libraryOf_of_undotted hdot
  have hvalue (s : Session) : (execute now lang (.call target args) s).value
      = .ok (call now target args s).value := rfl
  have hlines (s : Session) : (execute now lang (.call target args) s).lines
      = ["  executing: " ++ target ++ "(" ++ listed args ++ ")"]
        ++ ((call now target args s).lines ++ []) := rfl
  have hstate (s : Session) : (execute now lang (.call target args) s).state
      = (call now target args s).state := rfl
  have hagrees (h : libraries.isLoaded target = s.libraries.isLoaded target) :
      (call now target args s).Agrees (fun s s' => s' = { s with libraries := libraries })
        (call now target args { s with libraries := libraries }) :=
    agrees_call rfl (Callee.resolve_withLibraries (by rw [hlibrary, h]))
      fun _ => Session.agree_onBridge_withLibraries _
  refine ⟨⟨fun heq => ?_, fun h => ?_⟩, fun h => ⟨?_, ?_⟩, fun h => ⟨?_, ?_, ?_⟩⟩
  · rw [hvalue, hvalue, Except.ok.injEq] at heq
    cases hloaded : s.libraries.isLoaded target with
    | true =>
      by_contra hother
      rw [call_of_undotted hdot hloaded] at heq
      exact call_value_ne_missingMethod (by rw [hlibrary]; simpa using hother) _ _ heq
    | false =>
      by_contra hother
      rw [call_of_undotted hdot (by simpa using hother)] at heq
      exact call_value_ne_missingMethod (by rw [hlibrary, hloaded]) _ _ heq.symm
  · rw [hvalue, hvalue, (hagrees h).value]
  · rw [hlines, hlines, (hagrees h).lines]
  · rw [hstate, hstate, (hagrees h).state]
  · rw [hvalue, call_of_undotted hdot h]
  · rw [hlines, call_of_undotted hdot h]
    rfl
  · rw [hstate, call_of_undotted hdot h]

/-- A function is called with another library loaded or with none, and is not with one of its own
name. -/
theorem undotted_call_by_own_library_function :
    let s : Session := ⟨SortedMap.empty, SortedMap.empty.insert "math" (),
      ⟨SortedMap.empty.insert "f" (.fresh 5 .python [] []), .new (.memory none) (.fresh 0 []) .none⟩,
      "backups", false, false⟩
    let r := execute 7 .javascript (.call "f" ["1"])
    (r { s with libraries := SortedMap.empty }).value = (r s).value
      ∧ (r { s with libraries := SortedMap.empty.insert "f" () }).value ≠ (r s).value := by
  intro s r
  have hnone := undotted_call_by_own_library 7 .javascript "f" ["1"] s SortedMap.empty (by decide)
  have hown := undotted_call_by_own_library 7 .javascript "f" ["1"] s
    (SortedMap.empty.insert "f" ()) (by decide)
  exact ⟨hnone.1.mpr (by decide), fun heq => absurd (hown.1.mp heq) (by decide)⟩

/-- **Not every call without a dot is the same whatever libraries are loaded.** A library that is
named as one of the ways to print takes what would be printed. -/
theorem not_every_undotted_call_alike :
    ¬∀ (now : Instant) (lang : Language) (target : String) (args : List String) (s : Session)
      (libraries : Libraries), '.' ∉ target.toList →
        let r := execute now lang (.call target args) s
        let r' := execute now lang (.call target args) { s with libraries := libraries }
        r'.value = r.value ∧ r'.lines = r.lines
          ∧ r'.state = { r.state with libraries := libraries } := by
  intro h
  let s : Session := ⟨SortedMap.empty, SortedMap.empty,
    ⟨SortedMap.empty, .new (.memory none) (.fresh 0 []) .none⟩, "backups", false, false⟩
  have hsame := (h 1 .javascript "print" ["x"] s (SortedMap.empty.insert "print" ()) (by decide)).1
  have hprinted : (execute 1 .javascript (.call "print" ["x"]) s).value = .ok (.printed "x") := rfl
  have htaken : (execute 1 .javascript (.call "print" ["x"])
      { s with libraries := SortedMap.empty.insert "print" () }).value
        = .ok (.missingMethod "print" "") := rfl
  rw [hprinted, htaken] at hsame
  cases hsame

end Snippet

end Rehearsal
