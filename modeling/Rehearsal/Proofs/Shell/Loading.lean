import Rehearsal.Proofs.Action.SourceForm
import Rehearsal.Proofs.Shell.Parts
import Rehearsal.Proofs.Shell.Simulation
import Rehearsal.Proofs.Snippet.Resolution

/-!
# Calling a loaded library

The line that loads a library takes any word for its name, and says that it is loaded. A call takes
its target from a line, where a target begins with a basic letter or an underscore, and the library
of a target ends at its first dot. So of the words that name loaded libraries, calls reach those
that are **identifiers** (`Libraries.Identifier`), and there are others: a library of the name `a.b`
is loaded, and what looks like a call of its method is one of the method `b` of a library `a`.

That no other word is reached holds whatever else is loaded. What the method of a library gives
names the library (`Libraries.eq_of_told_eq`), and the library that a call leads to is always an
identifier (`Callee.identifier_libraryOf`).
-/

namespace Rehearsal

open Text
open Action.Kind (listed)

/-! ## What a library says of itself -/

namespace Libraries

/-- **A name by which calls reach a library**: a word that begins with a basic letter or an
underscore, and has no dot. -/
def Identifier (library : String) : Prop :=
  Action.CanBeCalled library ∧ ∀ c ∈ library.toList, isWord c = true

/-- What the method of a library says when it is called. -/
def told (library : String) (args : List String) : String :=
  "Executed " ++ library ++ ".exampleMethod with arguments: " ++ listed args

theorem invoke?_eq_some_iff {library method : String} {args : List String} {value : Json} :
    invoke? library method args = some value
      ↔ method = exampleMethod ∧ value = .object [("result", .string (told library args))] := by
  unfold invoke?
  split
  · next hmethod =>
    rw [Option.some_inj, and_iff_right hmethod, eq_comm]
    rfl
  · next hmethod => simp [hmethod]

/-- **What is told names the library**: the name ends where the first blank after it stands. -/
theorem eq_of_told_eq {library library' : String} {args args' : List String}
    (h : told library args = told library' args') (hl : ∀ c ∈ library.toList, isBlank c = false)
    (hl' : ∀ c ∈ library'.toList, isBlank c = false) : library = library' := by
  have htext : ∀ (l : String) (as : List String), (told l as).toList
      = "Executed ".toList ++ ((l.toList ++ ".exampleMethod".toList)
        ++ ' ' :: ("with arguments: ".toList ++ (listed as).toList)) := by
    intro l as
    simp [told]
  have hrun : ∀ l : String, (∀ c ∈ l.toList, isBlank c = false) →
      ∀ c ∈ l.toList ++ ".exampleMethod".toList, (!isBlank c) = true := by
    intro l hl c hc
    rcases List.mem_append.mp hc with hc | hc
    · rw [hl c hc, Bool.not_false]
    · exact List.all_eq_true.mp (by decide : ".exampleMethod".toList.all fun c => !isBlank c) c hc
  have hlist := congrArg String.toList h
  rw [htext, htext, List.append_cancel_left_eq] at hlist
  obtain ⟨hname, -⟩ := run_unique (hrun library hl) (by decide) (hrun library' hl') (by decide) hlist
  exact String.toList_injective (List.append_cancel_right hname).symm

end Libraries

/-! ## Targets with a library -/

namespace Callee

/-- The library of a name and a method is the name, if it has no dot. -/
theorem libraryOf_dotted {library : String} (h : '.' ∉ library.toList) (method : String) :
    libraryOf (library ++ "." ++ method) = library := by
  have hname : ∀ c ∈ library.toList, decide (c ≠ '.') = true := fun c hc =>
    decide_eq_true fun heq => h (heq ▸ hc)
  rw [libraryOf_eq, String.toList_append, String.toList_append, List.append_assoc,
    List.takeWhile_append_of_pos hname]
  simp

/-- And its method is the method, if that has none. -/
theorem methodOf_dotted {library method : String} (h : '.' ∉ library.toList)
    (h' : '.' ∉ method.toList) : methodOf (library ++ "." ++ method) = method := by
  have hname : ∀ c ∈ library.toList, decide (c ≠ '.') = true := fun c hc =>
    decide_eq_true fun heq => h (heq ▸ hc)
  have hmethod : method.toList.takeWhile (· ≠ '.') = method.toList :=
    List.takeWhile_eq_self_iff.mpr fun c hc => decide_eq_true fun heq => h' (heq ▸ hc)
  rw [methodOf_eq, String.toList_append, String.toList_append, List.append_assoc,
    List.dropWhile_append_of_pos hname]
  show String.ofList (method.toList.takeWhile (· ≠ '.')) = method
  rw [hmethod, String.ofList_toList]

/-- **The library of a target that a line has is an identifier.** -/
theorem identifier_libraryOf {target : List Char} (h : Action.IsTarget target) :
    Libraries.Identifier (libraryOf (String.ofList target)) := by
  rw [libraryOf_eq, String.toList_ofList]
  constructor
  · obtain ⟨c, hc, hstart⟩ := h.start
    cases target with
    | nil => cases hc
    | cons d target =>
      obtain rfl := Option.some.inj hc
      have hdot : decide (d ≠ '.') = true := by
        refine decide_eq_true ?_
        rintro rfl
        exact absurd hstart (by decide)
      refine ⟨d, ?_, hstart⟩
      rw [String.toList_ofList, List.takeWhile_cons, if_pos hdot]
      rfl
  · intro c hc
    rw [String.toList_ofList] at hc
    have hdot : c ≠ '.' := by simpa using List.mem_takeWhile_imp hc
    have hname := h.chars c ((List.takeWhile_prefix _).mem hc)
    rwa [isNameChar, Bool.or_eq_true_iff, or_iff_left (by simpa using hdot)] at hname

end Callee

namespace Libraries.Identifier

variable {library : String}

theorem not_dot (h : Identifier library) : '.' ∉ library.toList := fun hmem =>
  absurd (h.2 _ hmem) (by decide)

/-- An identifier and the method are a target. -/
theorem isTarget (h : Identifier library) :
    Action.IsTarget (library ++ "." ++ exampleMethod).toList := by
  obtain ⟨⟨c, hc, hstart⟩, hword⟩ := h
  rw [String.toList_append, String.toList_append, List.append_assoc]
  refine ⟨⟨c, ?_, hstart⟩, fun d hd => ?_⟩
  · rw [List.head?_append, hc]
    rfl
  · rcases List.mem_append.mp hd with hd | hd
    · exact isNameChar_of_isWord (hword d hd)
    · exact List.all_eq_true.mp
        (by decide +kernel : (".".toList ++ exampleMethod.toList).all isNameChar = true) d hd

/-- An identifier fills the place of a library, unless it asks for help. -/
theorem fillsPlace (h : Identifier library) (hhelp : library ≠ "help") :
    Grammar.FillsPlace library := by
  obtain ⟨⟨c, hc, hstart⟩, hword⟩ := h
  have hdash : library.toList.head? ≠ some '-' := by
    intro hhead
    obtain rfl := Option.some.inj (hhead.symm.trans hc)
    exact absurd hstart (by decide)
  have hlong : library ≠ "--help" := by
    rintro rfl
    exact hdash rfl
  have hne : library ≠ "" := by
    rintro rfl
    cases hc
  exact ⟨hne, fun d hd => not_isBlank_of_isWord (hword d hd), by simp [Grammar.asksHelp, hhelp, hlong],
    by simpa [Grammar.isDashed]⟩

end Libraries.Identifier

/-! ## The line that calls -/

/-- **The line that calls the method of a library.** -/
def Libraries.callLine (library args : String) : String := library ++ ".exampleMethod(" ++ args ++ ")"

namespace Snippet

variable {library args : String} {s : Session}

theorem toList_callLine (library args : String) : (Libraries.callLine library args).toList
    = (library ++ "." ++ Libraries.exampleMethod).toList ++ '(' :: (args.toList ++ [')']) := by
  simp [Libraries.callLine, Libraries.exampleMethod]

/-- **The line is one line**, of which the name may be any word. -/
theorem parse_callLine (hne : library ≠ "") (hword : ∀ c ∈ library.toList, isBlank c = false)
    (hbreak : '\n' ∉ args.toList) :
    Action.parse (Libraries.callLine library args)
      = [Action.ofLine (Libraries.callLine library args).toList] := by
  obtain ⟨c, name, hname⟩ := List.exists_cons_of_ne_nil
    (fun hnil => hne (String.toList_eq_nil_iff.mp hnil))
  have htrim : trim (Libraries.callLine library args).toList
      = (Libraries.callLine library args).toList := by
    have hline : (Libraries.callLine library args).toList
        = c :: ((name ++ ".exampleMethod(".toList ++ args.toList) ++ [')']) := by
      simp [Libraries.callLine, hname]
    rw [hline]
    exact trim_cons_append_singleton (hword c (by simp [hname])) (by decide) _
  have hunbroken : '\n' ∉ (Libraries.callLine library args).toList := by
    have hlibrary : '\n' ∉ library.toList := fun hmem => absurd (hword _ hmem) (by decide)
    simp [Libraries.callLine, hlibrary, hbreak]
  rw [Action.parse_of_unbroken hunbroken (by rw [htrim, toList_callLine]; simp), htrim]

/-- **The line of an identifier** is the call that it looks like. -/
theorem classify_callLine (h : Libraries.Identifier library) (hassign : '=' ∉ args.toList)
    (hclose : ')' ∉ args.toList) (hbreak : '\n' ∉ args.toList) :
    Action.ofLine (Libraries.callLine library args).toList
      = ⟨.call (library ++ "." ++ Libraries.exampleMethod) (Action.commaPieces args.toList),
        .javascript⟩ := by
  rw [toList_callLine, Action.ofLine,
    (Action.fits_call h.isTarget hassign hclose hbreak).kindOf_eq, String.ofList_toList]
  rfl

/-- **Only a call gives the result of a method**, and the method is the one that its target names. -/
theorem exists_call_of_libraryResult {now : Instant} {a : Action} {value : Json}
    (h : (step now a s).value = .libraryResult value) :
    ∃ target args, a.kind = .call target args
      ∧ Libraries.invoke? (Callee.libraryOf target) (Callee.methodOf target) args = some value := by
  obtain ⟨kind, lang⟩ := a
  cases kind with
  | definition name params =>
    rw [step_definition_value] at h
    split at h <;> cases h
  | call target args =>
    refine ⟨target, args, rfl, ?_⟩
    replace h : (call now target args s).value = .libraryResult value := h
    rw [call_value] at h
    have hleads := Callee.leads_resolve s target
    generalize Callee.resolve s target = callee at *
    cases hleads with
    | method _ =>
      dsimp only at h
      split at h
      · next hinvoke => rw [hinvoke, Outcome.libraryResult.inj h]
      · cases h
    | function _ hf =>
      dsimp only at h
      rw [callFunction_value now s args hf] at h
      cases h
    | print | nothing => cases h
  | assignment | returning | unknown => cases h

/-- **What a call of a method comes to**, of a library that is loaded under an identifier. -/
theorem step_method (h : Libraries.Identifier library) (hloaded : s.libraries.isLoaded library = true)
    (now : Instant) (pieces : List String) (lang : Language) :
    let target := library ++ "." ++ Libraries.exampleMethod
    let value := Json.object [("result", .string (Libraries.told library pieces))]
    let r := step now ⟨.call target pieces, lang⟩ s
    r.value = .libraryResult value ∧ r.state = s
      ∧ r.lines = ["  executing: " ++ target ++ "(" ++ listed pieces ++ ")",
          "    result: " ++ preview value] := by
  intro target value r
  have hresolve : Callee.resolve s target = .method library Libraries.exampleMethod := by
    rw [Callee.resolve, Callee.libraryOf_dotted h.not_dot,
      Callee.methodOf_dotted h.not_dot (by decide), if_pos hloaded]
  have hcall : call now target pieces s
      = ⟨.libraryResult value, s, ["    result: " ++ preview value], []⟩ := by
    unfold call
    rw [Routine.get_bind_apply, hresolve]
    dsimp only
    unfold callMethod
    rw [Libraries.invoke?_eq_some_iff.mpr ⟨rfl, rfl⟩]
    rfl
  have hexecute : execute now lang (.call target pieces) s
      = ⟨.ok (.libraryResult value), s, ["  executing: " ++ target ++ "(" ++ listed pieces ++ ")",
          "    result: " ++ preview value], []⟩ := by
    show (⟨.ok (call now target pieces s).value, (call now target pieces s).state,
      _ :: ((call now target pieces s).lines ++ []), (call now target pieces s).log ++ []⟩
        : Reply Session (Except StorageError Outcome)) = _
    rw [hcall]
    rfl
  have hstep : r = ⟨.libraryResult value, s, ["  executing: " ++ target ++ "(" ++ listed pieces ++ ")",
      "    result: " ++ preview value], []⟩ := by
    show step now ⟨.call target pieces, lang⟩ s = _
    unfold step
    refine Reply.ext ?_ ?_ ?_ ?_ <;>
      simp only [Routine.bind_value, Routine.bind_state, Routine.bind_lines, Routine.bind_log,
        hexecute] <;> rfl
  rw [hstep]
  exact ⟨rfl, rfl, rfl⟩

/-- **Only identifiers are reached.** If the line of a library gives what its method says, the name
of the library is an identifier. -/
theorem identifier_of_simulate {now : Instant} (hne : library ≠ "")
    (hword : ∀ c ∈ library.toList, isBlank c = false) (hbreak : '\n' ∉ args.toList)
    {pieces : List String}
    (h : (simulate now (Libraries.callLine library args) s).value
      = [.libraryResult (.object [("result", .string (Libraries.told library pieces))])]) :
    Libraries.Identifier library := by
  rw [simulate_value, parse_callLine hne hword hbreak, run_cons_value] at h
  obtain ⟨target, args', hkind, hinvoke⟩ := exists_call_of_libraryResult (List.cons.inj h).1
  obtain ⟨name, parts, htarget, -, -, heq⟩ := Action.of_call? (Action.call?_of_kindOf hkind)
  obtain ⟨rfl, -⟩ := Action.Kind.call.inj heq
  have hidentifier := Callee.identifier_libraryOf htarget
  obtain ⟨-, hvalue⟩ := Libraries.invoke?_eq_some_iff.mp hinvoke
  have htold : Libraries.told library pieces
      = Libraries.told (Callee.libraryOf (String.ofList name)) args' := by
    simpa using hvalue
  rw [Libraries.eq_of_told_eq htold hword fun c hc => not_isBlank_of_isWord (hidentifier.2 c hc)]
  exact hidentifier

/-- **The line of an identifier** calls the method of the library, if that is loaded. -/
theorem simulate_callLine (h : Libraries.Identifier library)
    (hloaded : s.libraries.isLoaded library = true) (hassign : '=' ∉ args.toList)
    (hclose : ')' ∉ args.toList) (hbreak : '\n' ∉ args.toList) (now : Instant) :
    let line := Libraries.callLine library args
    let pieces := Action.commaPieces args.toList
    let value := Json.object [("result", .string (Libraries.told library pieces))]
    let r := simulate now line s
    r.value = [.libraryResult value] ∧ r.state = s
      ∧ r.lines = [header line, "  executing: " ++ (library ++ "." ++ Libraries.exampleMethod) ++ "("
          ++ listed pieces ++ ")", "    result: " ++ preview value] := by
  intro line pieces value r
  obtain ⟨c, hc, -⟩ := h.1
  have hne : library ≠ "" := by
    rintro rfl
    cases hc
  have hparse : Action.parse line
      = [⟨.call (library ++ "." ++ Libraries.exampleMethod) pieces, .javascript⟩] := by
    rw [parse_callLine hne (fun c hc => not_isBlank_of_isWord (h.2 c hc)) hbreak,
      classify_callLine h hassign hclose hbreak]
  obtain ⟨hvalue, hstate, hlines⟩ := step_method h hloaded now pieces .javascript
  refine ⟨?_, ?_, ?_⟩
  · rw [simulate_value, hparse, run_cons_value, hvalue]
    rfl
  · rw [simulate_state, hparse, run_cons_state, hstate]
    rfl
  · rw [simulate_lines, hparse]
    show header line :: ((step now _ s).lines ++ []) = _
    rw [hlines]
    rfl

end Snippet

/-! ## The line that loads -/

namespace Shell

variable {now : Instant} {s : Session} {library : String}

/-- **A line that is not read as its command wants** is answered with the reason. -/
theorem lines_of_refused {line : String} {g : Grammar} {r : Refusal} (h : s.awaitingClear = false)
    (hne : trimmed line ≠ "")
    (hrequest : Builtin.request? (splitLine (trimmed line)).1 (splitLine (trimmed line)).2
      = some (.refused g r)) :
    (runLine Builtin.table now line s).lines = [g.explain r] := by
  have hdispatch : dispatch Builtin.table now (trimmed line) s
      = (Routine.note .debug ("interpreting command: " ++ trimmed line)
          >>= fun _ => (Builtin.Request.refused g r).run now) s := by
    unfold dispatch interpret
    rw [Routine.get_bind_apply, if_neg (by simp [h]), if_neg hne, find?_table, hrequest]
    rfl
  unfold runLine
  rw [Routine.bind_lines, hdispatch]
  rfl

theorem command?_load (h : Grammar.FillsPlace library) :
    command? ("load " ++ library) = some (.load library) := by
  have hreader : Builtin.readers.find? (fun r => r.grammar.name == "load")
      = some (.ofWord .load "Load a simulated library so `library.method(...)` calls resolve to it."
          "library" "name of the library to load.") := rfl
  have hrequest : Builtin.request? "load" (trimmed library) = some (.command (.load library)) := by
    rw [Builtin.request?, if_neg (by decide), h.trimmed_eq, h.wordsOf_eq, hreader, Option.map_some,
      h.request_ofWord]
  exact command?_word "load" library (by decide) (not_blank_of_all (by decide)) hrequest

/-- **A library that is said to be loaded is loaded**, if its name is an identifier, and nothing else
has changed. Of the identifiers only `help` is not taken for a name. -/
theorem after_of_told (h : Libraries.Identifier library) (hawaiting : s.awaitingClear = false)
    (htold : ((standard s).run now ("load " ++ library)).narration
      = "library '" ++ library ++ "' loaded\n") :
    after now ("load " ++ library) s = { s with libraries := s.libraries.insert library () } := by
  have hhelp : library ≠ "help" := by
    rintro rfl
    have hlines : (runLine Builtin.table now "load help" s).lines = [_] :=
      lines_of_refused hawaiting (by decide +kernel) (by rfl)
    replace htold : String.join ((runLine Builtin.table now "load help" s).lines.map (· ++ "\n"))
      = "library 'help' loaded\n" := htold
    rw [hlines] at htold
    exact absurd htold (by decide +kernel)
  rw [after_of_not_awaiting hawaiting, command?_load (h.fillsPlace hhelp)]
  show { s with libraries := (Libraries.load library s.libraries).state } = _
  rw [Libraries.load_state]

/-- **A loaded library is called by its name** if the name is an identifier, and only then. Take any
session in which no answer is awaited, any word after which the line that loads it says that a
library of this name is loaded, and any text of arguments without `=`, a bracket that closes and a
line break. Simulate the name with the method and the text in brackets. What comes out is the one
result of the method, which tells the name and the trimmed pieces of the text, if and only if the
word begins with a basic letter or an underscore and goes on with word characters. And if so, the
session is the same as before in all its parts. -/
theorem loaded_library_called (now later : Instant) (s : Session) (library args : String)
    (hawaiting : s.awaitingClear = false) (hne : library ≠ "")
    (hword : ∀ c ∈ library.toList, isBlank c = false)
    (htold : ((standard s).run now ("load " ++ library)).narration
      = "library '" ++ library ++ "' loaded\n")
    (hassign : '=' ∉ args.toList) (hclose : ')' ∉ args.toList) (hbreak : '\n' ∉ args.toList) :
    let loaded := ((standard s).run now ("load " ++ library)).state
    let line := library ++ ".exampleMethod(" ++ args ++ ")"
    let called := loaded.run later ("simulate " ++ line)
    let pieces := (args.toList.splitOn ',').map fun piece => trimmed (String.ofList piece)
    let value := Json.object [("result",
      .string ("Executed " ++ library ++ ".exampleMethod with arguments: " ++ listed pieces))]
    ((Snippet.simulate later line loaded.session).value = [.libraryResult value]
        ↔ Libraries.Identifier library)
      ∧ (Libraries.Identifier library →
          called.state = loaded
            ∧ called.lines = ["simulating code: " ++ trimmed line,
              "  executing: " ++ (library ++ "." ++ Libraries.exampleMethod) ++ "(" ++ listed pieces
                ++ ")",
              "    result: " ++ Snippet.preview value]) := by
  intro loaded line called pieces value
  have hpieces : Action.commaPieces args.toList = pieces := Action.commaPieces_eq args.toList
  have hsession : Libraries.Identifier library →
      loaded.session = { s with libraries := s.libraries.insert library () } :=
    fun h => after_of_told h hawaiting htold
  have hloaded : Libraries.Identifier library → loaded.session.libraries.isLoaded library = true := by
    intro h
    rw [hsession h]
    exact congrArg Option.isSome (SortedMap.get?_insert_self s.libraries library ())
  refine ⟨⟨fun h => Snippet.identifier_of_simulate hne hword hbreak h, fun h => ?_⟩, fun h => ?_⟩
  · obtain ⟨hvalue, -⟩ := Snippet.simulate_callLine h (hloaded h) hassign hclose hbreak later
    rw [hpieces] at hvalue
    exact hvalue
  · obtain ⟨-, hstate, hlines⟩ := Snippet.simulate_callLine h (hloaded h) hassign hclose hbreak later
    rw [hpieces] at hlines
    have hawaiting' : loaded.session.awaitingClear = false := by
      rw [hsession h]
      exact hawaiting
    obtain ⟨hcalled, hcalledLines⟩ := run_simulate hawaiting' later line
    exact ⟨hcalled.trans (congrArg standard hstate), hcalledLines.trans hlines⟩

/-- A name with a letter that is not a basic one, and arguments with blanks around them. -/
theorem loaded_library_called_accented :
    let s : Session := ⟨SortedMap.empty, SortedMap.empty,
      ⟨SortedMap.empty, .new (.memory none) (.fresh 0 []) .none⟩, "backups", false, false⟩
    let loaded := ((standard s).run 1 "load _é1").state
    (Snippet.simulate 2 "_é1.exampleMethod( 1 ,2)" loaded.session).value
        = [.libraryResult (.object [("result",
          .string "Executed _é1.exampleMethod with arguments: 1, 2")])]
      ∧ (loaded.run 2 "simulate _é1.exampleMethod( 1 ,2)").state = loaded := by
  intro s loaded
  have hidentifier : Libraries.Identifier "_é1" :=
    ⟨⟨'_', rfl, by decide⟩, List.all_eq_true.mp (by decide +kernel)⟩
  obtain ⟨hvalue, hrest⟩ := loaded_library_called 1 2 s "_é1" " 1 ,2" rfl (by decide)
    (not_blank_of_all (by decide)) (by decide +kernel) (by decide) (by decide) (by decide)
  exact ⟨hvalue.mpr hidentifier, (hrest hidentifier).1⟩

/-- **Not every loaded library is called by its name.** What stands before the first dot is another
name. -/
theorem not_every_library_called :
    ¬∀ (now later : Instant) (s : Session) (library args : String), s.awaitingClear = false →
      library ≠ "" → (∀ c ∈ library.toList, isBlank c = false) →
      ((standard s).run now ("load " ++ library)).narration
        = "library '" ++ library ++ "' loaded\n" →
      '=' ∉ args.toList → ')' ∉ args.toList → '\n' ∉ args.toList →
      (Snippet.simulate later (library ++ ".exampleMethod(" ++ args ++ ")")
          ((standard s).run now ("load " ++ library)).state.session).value
        = [.libraryResult (.object [("result", .string ("Executed " ++ library
            ++ ".exampleMethod with arguments: "
            ++ listed ((args.toList.splitOn ',').map fun piece => trimmed (String.ofList piece))))])] := by
  intro h
  have hvalue := h 1 2 ⟨SortedMap.empty, SortedMap.empty,
    ⟨SortedMap.empty, .new (.memory none) (.fresh 0 []) .none⟩, "backups", false, false⟩ "a.b" "1" rfl
    (by decide) (not_blank_of_all (by decide)) (by decide +kernel) (by decide) (by decide) (by decide)
  have hidentifier := Snippet.identifier_of_simulate (by decide) (not_blank_of_all (by decide))
    (by decide) hvalue
  exact hidentifier.not_dot (by decide)

end Shell

end Rehearsal
