import Rehearsal.Proofs.Action.SourceForm
import Rehearsal.Proofs.Backup.Upheld
import Rehearsal.Proofs.Bridge.History
import Rehearsal.Proofs.Shell.Confirmation
import Rehearsal.Proofs.Shell.Reading
import Rehearsal.Proofs.Snippet.Naming

/-!
# Removing a function by its name

Functions come into the registry by definitions, and a definition gives a **word**
(`Registry.Defined`). That is so of every registry there is, also of those that a load or a restored
backup brings back, as long as nobody else edits the documents (`Session.Reached`). A word has no
blank and is no option, so a command takes it in the place of its name.

One word is taken for something else. After `bridge-remove` the word `help` asks for help, and a
function of that name is removed only after `--`, which ends the options
(`Shell.removal_by_name`, `Shell.not_every_name_removed`).
-/

namespace Rehearsal

open Text (isBlank isWord trim trimEnd trimmed wordsOf)

/-! ## Sessions that are reached -/

/-- **The sessions that can be reached** with nothing stored at first: by any lines at any instants,
whatever the store refuses, and whatever others do to the disk short of editing a document. -/
inductive Session.Reached (root : Path) : Session → Prop where
  | opened (now : Instant) (storage : Storage) (hbare : Backup.Bare root storage) :
    Reached root (Session.connect now storage root).state
  | line {s : Session} (h : Reached root s) (now : Instant) (line : String) :
    Reached root (Shell.after now line s)
  | others {s : Session} (h : Reached root s) (storage : Storage)
      (huntouched : Backup.Untouched root s.bridge.storage storage) :
    Reached root (s.withBridge { s.bridge with storage := storage })

/-- No deed moves the backups. -/
theorem Deed.backupRoot_after (d : Deed) (now : Instant) (s : Session) :
    (d.after now s).backupRoot = s.backupRoot := by
  cases d with
  | call target args =>
    rw [after_call]
    cases Callee.resolve s target <;> rfl
  | _ => rfl

/-- **A property of every registry there is**, in a session. -/
def Session.Upholds (P : Registry → Prop) (root : Path) (s : Session) : Prop :=
  s.backupRoot = root ∧ Backup.Upholds P root s.bridge

/-- **A deed upholds** what holds of the empty registry and of the one that the deed saves. -/
theorem Session.Upholds.after {P : Registry → Prop} {root : Path} {s : Session}
    (h : s.Upholds P root) (hempty : P SortedMap.empty) {d : Deed} {now : Instant}
    (hsaved : ∀ op r, d.step? s = some (.bridge op) →
      op.effect now s.bridge.registry = .save r → P r) : (d.after now s).Upholds P root := by
  obtain ⟨hroot, hbridge⟩ := h
  refine ⟨(d.backupRoot_after now s).trans hroot, ?_⟩
  rw [d.bridge_after, hroot]
  cases hstep : d.step? s with
  | none => exact hbridge
  | some step =>
    exact hbridge.after hempty step fun op r hop heffect => hsaved op r (hop ▸ hstep) heffect

/-! ## Names that definitions give -/

/-- **A registry of functions that were defined**: each name is a word. -/
def Registry.Defined (r : Registry) : Prop :=
  ∀ name, r.contains name = true → name ≠ "" ∧ ∀ c ∈ name.toList, isWord c = true

namespace Registry

theorem defined_empty : Registry.Defined SortedMap.empty := fun _ h => by cases h

/-- What an operation saves has no new name but the one that it registers. -/
theorem Defined.of_effect {r r' : Registry} (h : r.Defined) {op : Bridge.Operation} {now : Instant}
    (hop : ∀ name lang params body, op = .register name lang params body →
      name ≠ "" ∧ ∀ c ∈ name.toList, isWord c = true)
    (hsaved : op.effect now r = .save r') : r'.Defined := by
  intro name hname
  have hget := op.get?_effect now r name
  rw [hsaved] at hget
  have hrecord : (op.onRecord now name (r.get? name)).isSome = true :=
    (congrArg Option.isSome hget).symm.trans hname
  rcases Bridge.Operation.of_isSome_onRecord hrecord with hbefore | ⟨lang, params, body, heq⟩
  · exact h name hbefore
  · exact hop name lang params body heq

end Registry

/-- The names that a snippet defines are words. -/
theorem word_of_mem_snippetDeeds {code name : String} {lang : Language} {params : List String}
    (h : Deed.define name lang params ∈ snippetDeeds code) :
    name ≠ "" ∧ ∀ c ∈ name.toList, isWord c = true := by
  obtain ⟨a, ha, hd⟩ := List.mem_flatMap.mp h
  obtain ⟨line, -, -, rfl⟩ := Action.exists_line_of_mem_parse ha
  have hclassify : Action.ofLine line = Action.classify (String.ofList line) := by
    rw [Action.classify, String.toList_ofList]
  rw [hclassify] at hd
  unfold Action.deeds at hd
  split at hd
  · next name' params' hkind =>
    cases List.mem_singleton.mp hd
    exact Action.header_of_definition hkind
  · cases List.mem_singleton.mp hd
  · cases List.mem_singleton.mp hd
  · cases hd
  · cases hd

/-- A line defines what a snippet in it defines. -/
theorem Shell.word_of_mem_deeds {line : String} {s : Session} {name : String} {lang : Language}
    {params : List String} (h : Deed.define name lang params ∈ Shell.deeds line s) :
    name ≠ "" ∧ ∀ c ∈ name.toList, isWord c = true := by
  unfold Shell.deeds at h
  split at h
  · split at h <;> simp at h
  · cases hline : command? line with
    | none =>
      rw [hline] at h
      cases h
    | some b =>
      rw [hline] at h
      replace h : Deed.define name lang params ∈ b.deeds s.disk := h
      cases b with
      | simulate code => exact word_of_mem_snippetDeeds h
      | runFile path =>
        rw [Builtin.deeds] at h
        split at h
        · exact word_of_mem_snippetDeeds h
        · cases h
      | _ => simp [Builtin.deeds] at h

/-- A deed registers a name only if it defines it. -/
theorem Deed.eq_define_of_step? {d : Deed} {s : Session} {name : String} {lang : Language}
    {params : List String} {body : List Action}
    (h : d.step? s = some (.bridge (.register name lang params body))) :
    d = .define name lang params := by
  cases d with
  | define name' lang' params' =>
    cases h
    rfl
  | call target args =>
    rw [step?_call] at h
    split at h <;> cases h
  | _ => cases h

/-- **Whatever was reached**, all functions there are have words for names. -/
theorem Session.Reached.upholds {root : Path} {s : Session} (h : Session.Reached root s) :
    s.Upholds Registry.Defined root := by
  induction h with
  | opened now storage hbare => exact ⟨rfl, hbare.upholds Registry.defined_empty now⟩
  | @line s _ now line ih =>
    rw [Shell.after_eq]
    refine Run.state_of_forall (P := Session.Upholds Registry.Defined root) (fun e he s' hs' => ?_) ih
    obtain ⟨d, hd, rfl⟩ := List.mem_map.mp he
    refine hs'.after Registry.defined_empty fun op r hstep heffect => ?_
    refine hs'.2.registry.of_effect (fun name lang params body hop => ?_) heffect
    subst hop
    have hdefine : d = .define name lang params := Deed.eq_define_of_step? hstep
    exact Shell.word_of_mem_deeds (hdefine ▸ hd)
  | others _ storage huntouched ih => exact ⟨ih.1, ih.2.of_untouched huntouched⟩

/-! ## How a name is read -/

namespace Grammar

/-- A word of a definition fills a place, unless it asks for help. -/
theorem fillsPlace_of_word {name : String} (hne : name ≠ "")
    (hword : ∀ c ∈ name.toList, isWord c = true) (hhelp : name ≠ "help") : FillsPlace name := by
  have hdash : name.toList.head? ≠ some '-' := by
    intro hhead
    have := hword '-' (List.mem_of_mem_head? hhead)
    exact absurd this (by decide)
  refine ⟨hne, fun c hc => Text.not_isBlank_of_isWord (hword c hc), ?_, by simpa [isDashed]⟩
  have hlong : name ≠ "--help" := by
    rintro rfl
    exact hdash rfl
  simp [asksHelp, hhelp, hlong]

end Grammar

namespace Text

/-- Nothing is trimmed off a word at the end of a text. -/
theorem trimEnd_append_word {word : List Char} (hne : word ≠ [])
    (hword : ∀ c ∈ word, isBlank c = false) (cs : List Char) : trimEnd (cs ++ word) = cs ++ word := by
  obtain ⟨front, c, rfl⟩ := (List.eq_nil_or_concat word).resolve_left hne
  rw [List.concat_eq_append, ← List.append_assoc,
    trimEnd_append_cons (hword c (by simp)), trimEnd, List.reverse_nil, trimStart_nil,
    List.reverse_nil]

/-- **Two words with a blank between** are those words. -/
theorem wordsOf_trimmed_pair {first second : String} (hfirst : first ≠ "") (hsecond : second ≠ "")
    (h : ∀ c ∈ first.toList, isBlank c = false) (h' : ∀ c ∈ second.toList, isBlank c = false) :
    wordsOf (trimmed (first ++ " " ++ second)) = [first, second] := by
  have hne : first.toList ≠ [] := fun hnil => hfirst (String.toList_eq_nil_iff.mp hnil)
  have hne' : second.toList ≠ [] := fun hnil => hsecond (String.toList_eq_nil_iff.mp hnil)
  have htext : (first ++ " " ++ second).toList = first.toList ++ ' ' :: second.toList := by
    rw [String.toList_append, String.toList_append, List.append_assoc]
    rfl
  have htrim : trim (first.toList ++ ' ' :: second.toList) = first.toList ++ ' ' :: second.toList := by
    rw [trim_word_append hne h]
    exact congrArg (first.toList ++ ·) (trimEnd_append_word hne' h' [' '])
  rw [wordsOf, toList_trimmed, htext, htrim, words, List.splitOnP_append_cons _ _ (by decide),
    List.splitOnP_eq_singleton h, List.splitOnP_eq_singleton h']
  simp [hne, hne']

end Text

/-- **After `--` any word fills the place.** -/
theorem Grammar.request_ofWord_ended (word : String) (make : String → Builtin)
    (summary place description : String) :
    (Builtin.Reader.ofWord make summary place description).request ["--", word]
      = .command (make word) := by
  unfold Builtin.Reader.request Grammar.read
  simp [Grammar.readFrom, asksHelp, isDashed, Builtin.Reader.ofWord, Progress.start, Grammar.place?,
    Progress.withWord, Grammar.missing]

namespace Shell

variable {name line : String} {s : Session} {now : Instant}

/-- What follows the command for it is read as the name of what to remove. -/
theorem command?_bridgeRemove {rest : String}
    (h : (Builtin.Reader.ofWord .bridgeRemove "Remove one function from the bridge." "name"
      "name of the function to remove.").request (wordsOf (trimmed rest))
        = .command (.bridgeRemove name)) :
    command? ("bridge-remove " ++ rest) = some (.bridgeRemove name) := by
  have hreader : Builtin.readers.find? (fun r => r.grammar.name == "bridge-remove")
      = some (.ofWord .bridgeRemove "Remove one function from the bridge." "name"
          "name of the function to remove.") := rfl
  refine command?_word "bridge-remove" rest (by decide) (Text.not_blank_of_all (by decide)) ?_
  rw [Builtin.request?, if_neg (by decide), hreader, Option.map_some, h]

/-! ## Removing -/

/-- **A line that removes a function**: it says so, the function is gone, every other is as it was,
and what is stored is the document of those that are left. -/
structure Removes (now : Instant) (line name : String) (s : Session) : Prop where
  told : (runLine Builtin.table now line s).lines
    = ["function '" ++ name ++ "' removed from the bridge"]
  gone : (after now line s).bridge.registry.contains name = false
  others : ∀ other, other ≠ name →
    (after now line s).bridge.registry.get? other = s.bridge.registry.get? other
  document : (after now line s).bridge.storage.content
    = .ok (some (after now line s).bridge.registry.encode)

/-- **A line that is read as the command to remove a function** removes it, if the store takes the
document. -/
theorem removes_of_command (hline : command? line = some (.bridgeRemove name))
    (hawaiting : s.awaitingClear = false) (hname : s.bridge.registry.contains name = true)
    (hstore : (Storage.write now (Registry.encode (s.bridge.registry.erase name))
      s.bridge.storage).value = .ok ()) : Removes now line name s := by
  have hvalue : (Bridge.unregister now name s.bridge).value = .ok true := by
    rw [Bridge.unregister_value_of_contains now name s.bridge hname, hstore]
    rfl
  have hstate : (after now line s).bridge
      = (Bridge.Effect.save (s.bridge.registry.erase name)).on now s.bridge := by
    rw [after_of_not_awaiting hawaiting, hline]
    exact Bridge.unregister_state_of_contains now name s.bridge hname
  refine ⟨?_, ?_, fun other hother => ?_, ?_⟩
  · rw [(runLine_of_command now hawaiting hline).2]
    show (Builtin.run now (.bridgeRemove name) s).lines = _
    unfold Builtin.run
    rw [Builtin.attempt]
    unfold Builtin.onBridge
    simp only [Routine.bind_lines, Routine.bind_value, Session.onBridge_apply, hvalue,
      Bridge.unregister_lines]
    simp [String.append_assoc]
  · rw [hstate]
    exact congrArg Option.isSome (SortedMap.get?_erase_self s.bridge.registry name)
  · rw [hstate]
    exact SortedMap.get?_erase_of_ne s.bridge.registry hother
  · rw [hstate]
    exact Storage.content_of_write hstore

/-- To ask for help changes nothing. -/
theorem after_bridgeRemove_help (hawaiting : s.awaitingClear = false) :
    after now "bridge-remove help" s = s := by
  have hline : command? "bridge-remove help" = none := by decide +kernel
  rw [after_of_not_awaiting hawaiting, hline]
  rfl

/-- **Whatever is registered can be removed by its name.** Take any session that is reached with
nothing stored at first and no document edited by others, that does not wait for an answer, and
whose store takes the document of what is left. A function in it is removed by `bridge-remove` with
its name, unless the name is `help`; that asks for help, and changes nothing. After `--` every name
is taken as one. -/
theorem removal_by_name {root : Path} (h : Session.Reached root s)
    (hawaiting : s.awaitingClear = false) (hname : s.bridge.registry.contains name = true)
    (hstore : (Storage.write now (Registry.encode (s.bridge.registry.erase name))
      s.bridge.storage).value = .ok ()) :
    (name ≠ "help" → Removes now ("bridge-remove " ++ name) name s)
      ∧ Removes now ("bridge-remove -- " ++ name) name s
      ∧ after now "bridge-remove help" s = s := by
  obtain ⟨hne, hword⟩ := h.upholds.2.registry name hname
  have hblank : ∀ c ∈ name.toList, isBlank c = false :=
    fun c hc => Text.not_isBlank_of_isWord (hword c hc)
  refine ⟨fun hhelp => ?_, ?_, ?_⟩
  · have hfills := Grammar.fillsPlace_of_word hne hword hhelp
    refine removes_of_command (command?_bridgeRemove ?_) hawaiting hname hstore
    rw [hfills.trimmed_eq, hfills.wordsOf_eq, hfills.request_ofWord]
  · have hwords := Text.wordsOf_trimmed_pair (by decide) hne
      (Text.not_blank_of_all (by decide : "--".toList.all (fun c => !isBlank c) = true)) hblank
    have hline : command? ("bridge-remove " ++ ("--" ++ " " ++ name)) = some (.bridgeRemove name) :=
      command?_bridgeRemove (by rw [hwords, Grammar.request_ofWord_ended])
    rw [← String.append_assoc] at hline
    exact removes_of_command hline hawaiting hname hstore
  · exact after_bridgeRemove_help hawaiting

/-- A new session, over a store in memory that refuses nothing. -/
def fresh : Session :=
  (Session.connect 0 (.new (.memory none) (.fresh 0 []) .none) "backups").state

/-- A function that a new session defines is there to be removed. -/
theorem removable_of_define {lang : Language} {params : List String}
    (hline : deeds line fresh = [.define name lang params]) (now later : Instant) :
    let s := after now line fresh
    Session.Reached "backups" s ∧ s.awaitingClear = false
      ∧ s.bridge.registry.contains name = true
      ∧ (Storage.write later (Registry.encode (s.bridge.registry.erase name))
          s.bridge.storage).value = .ok () := by
  intro s
  have hs : s = Deed.run now [.define name lang params] fresh := by
    rw [← hline]
    exact after_eq now line fresh
  have hbridge : s.bridge = (Bridge.register now name lang params [] fresh.bridge).state := by
    rw [hs]
    rfl
  refine ⟨.line (.opened 0 _ (Backup.bare_fresh "backups" .none)) now line, by rw [hs]; rfl, ?_, ?_⟩
  · rw [hbridge, Bridge.register_state]
    exact congrArg Option.isSome (SortedMap.get?_insert_self _ name _)
  · have hunfailing : s.bridge.storage.Unfailing := by
      rw [hbridge]
      exact (Bridge.Operation.register name lang params []).unfailing_after now fresh.bridge
        ⟨⟨none, rfl⟩, rfl, rfl⟩
    rw [hunfailing.write_eq]

/-- A function with a name that is not of the basic alphabet. -/
theorem removal_by_name_accented :
    Removes 2 "bridge-remove été1" "été1" (after 1 "simulate def été1(x):" fresh) := by
  have hdefine : deeds "simulate def été1(x):" fresh = [.define "été1" ⟨"python"⟩ ["x"]] := by
    decide +kernel
  obtain ⟨hreached, hawaiting, hname, hstore⟩ := removable_of_define hdefine 1 2
  exact (removal_by_name hreached hawaiting hname hstore).1 (by decide)

/-- **Not every function is removed by its name alone**: one that is called `help` is not. -/
theorem not_every_name_removed :
    ¬∀ (root : Path) (s : Session) (name : String) (now : Instant), Session.Reached root s →
      s.awaitingClear = false → s.bridge.registry.contains name = true →
      (Storage.write now (Registry.encode (s.bridge.registry.erase name))
        s.bridge.storage).value = .ok () →
      Removes now ("bridge-remove " ++ name) name s := by
  intro h
  have hdefine : deeds "simulate def help():" fresh = [.define "help" ⟨"python"⟩ []] := by
    decide +kernel
  obtain ⟨hreached, hawaiting, hname, hstore⟩ := removable_of_define hdefine 1 2
  have hremoves := h _ _ _ 2 hreached hawaiting hname hstore
  -- the function is still there, since the line has only asked for help
  have hgone := hremoves.gone
  rw [show "bridge-remove " ++ "help" = "bridge-remove help" from rfl,
    after_bridgeRemove_help hawaiting] at hgone
  exact absurd (hname.symm.trans hgone) (by simp)

end Shell

end Rehearsal
