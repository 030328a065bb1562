import Rehearsal.Proofs.Bridge.Persistence
import Rehearsal.Proofs.Registry.Tolerance

/-!
# Loading a document that was changed by hand

A document whose tree differs from that of another one only in what is nothing to a reader
(`Registry.Alike`) is loaded as the same registry, whatever it looks like as a text: its blanks and
the ways in which its characters are escaped are no part of its tree. And such a document there is
for each of these trees, the spelling of it (`Json.Written.spelling`).
-/

namespace Rehearsal.Bridge

open Json (Written)

variable {now : Instant} {octets : ByteArray} {w : Written}

/-- A document is the registry of its tree. -/
theorem decode?_of_ofOctets? (h : Written.ofOctets? octets = some w) :
    Registry.decode? now octets = Registry.ofWritten? now w := by
  rw [Registry.decode?, h, Option.bind_some]

/-- **Loading does not depend on the order of members, on unknown members, and on whether what is
missing is spelled out.** Take a document that is a registry, and a tree that its tree is like: the
records in another order, if no name stands twice; and for any records the members in another order,
members of names that are not asked for added or left out, a missing member added with the value that
it stands for or one of this value left out, the members of any actions of the body or of their
parts in another order; each of these any number of times. There are documents of this tree, and all
of them are the same registry, so a bridge whose storage holds one loads it. -/
theorem load_of_alike (now : Instant) (octets : ByteArray) (w w' : Written) (r : Registry)
    (hread : Written.ofOctets? octets = some w) (hdecode : Registry.decode? now octets = some r)
    (halike : Registry.Alike now w w') :
    (∃ octets', Written.ofOctets? octets' = some w')
      ∧ ∀ octets', Written.ofOctets? octets' = some w' →
          Registry.decode? now octets' = some r
            ∧ ∀ b : Bridge, (Storage.read b.storage).value = .ok (some octets') →
                (load now b).state.registry = r ∧ (load now b).value = r.size := by
  refine ⟨⟨w'.spelling.toUTF8, ?_⟩, fun octets' hread' => ?_⟩
  · have hspelled : w'.isSpelled = true :=
      (Registry.isSpelled_iff_of_alike halike).mp (Written.isSpelled_of_ofOctets? hread)
    rw [Written.ofOctets?_toUTF8, Written.ofText?_spelling hspelled]
  · have hdecode' : Registry.decode? now octets' = some r := by
      rw [decode?_of_ofOctets? hread', ← Registry.ofWritten?_of_alike halike,
        ← decode?_of_ofOctets? hread, hdecode]
    refine ⟨hdecode', fun b hb => ⟨?_, ?_⟩⟩
    · rw [load_state, hb]
      exact registryOf_some hdecode'
    · rw [load_value, hb, registryOf_some hdecode']

/-- Two functions in another order. One has an action whose parts come before its type, a member that
nobody asks for, with half of a surrogate pair in it, and no calls, which are spelled out. -/
theorem load_of_alike_rearranged :
    let text := fun s : String => Written.string (some s)
    let type := (some "type", text "return")
    let details := (some "details", Written.object [(some "value", text "1")])
    let lang := (some "lang", text "js")
    let body := fun action : List (Option String × Written) =>
      (some "bodyActions", Written.array [.object action])
    let note := (some "note", Written.array [.null, .string none])
    let calls := (some "callCount", (Json.int 0).written)
    let g := (some "g", Written.array [text "py"])
    let w := Written.object [(some "f", .object [lang, body [type, details, lang]]), g]
    let w' := Written.object
      [g, (some "f", .object [lang, note, body [lang, details, type], calls])]
    let r : Registry := SortedMap.ofList
      [("f", ⟨⟨"js"⟩, [], [⟨.returning "1", ⟨"js"⟩⟩], 5, none, none, 0⟩),
        ("g", ⟨⟨"py"⟩, [], [], 5, none, none, 0⟩)]
    Registry.decode? 5 w.spelling.toUTF8 = some r ∧ Registry.decode? 5 w'.spelling.toUTF8 = some r
      ∧ (load 5 ⟨SortedMap.empty, .new (.memory (some w'.spelling.toUTF8)) (.fresh 0 [])
        .none⟩).state.registry = r := by
  intro text type details lang body note calls g w w' r
  have hread : Written.ofOctets? w.spelling.toUTF8 = some w := by
    rw [Written.ofOctets?_toUTF8, Written.ofText?_spelling (by rfl)]
  have hread' : Written.ofOctets? w'.spelling.toUTF8 = some w' := by
    rw [Written.ofOctets?_toUTF8, Written.ofText?_spelling (by rfl)]
  have hdecode : Registry.decode? 5 w.spelling.toUTF8 = some r := by
    rw [decode?_of_ofOctets? hread]
    decide +kernel
  have halike : Registry.Alike 5 w w' := by
    have hrecord : ∀ {f f' : Written}, FunctionRecord.Varies 5 f f' →
        Registry.Alike 5 (.object [(some "f", f), g]) (.object [(some "f", f'), g]) :=
      fun h => .rel _ _ (@Registry.Varies.record 5 [] [g] "f" _ _ h)
    have haction : FunctionRecord.Varies 5 (.object [lang, body [type, details, lang]])
        (.object [lang, body [lang, details, type]]) :=
      @FunctionRecord.Varies.action 5 [lang] [] [] [] _ _
        (.members (List.reverse_perm [type, details, lang]).symm)
    have hunknown : FunctionRecord.Varies 5 (.object [lang, body [lang, details, type]])
        (.object [lang, note, body [lang, details, type]]) :=
      @FunctionRecord.Varies.unknown 5 [lang] [body [lang, details, type]] _ _ (by decide) (by rfl)
    have hmissing : FunctionRecord.Varies 5 (.object [lang, note, body [lang, details, type]])
        (.object [lang, note, body [lang, details, type], calls]) :=
      @FunctionRecord.Varies.missing 5 [lang, note, body [lang, details, type]] [] _ _
        (by simp [FunctionRecord.defaults]) (by decide)
    exact ((hrecord haction).trans _ _ _ (hrecord hunknown)).trans _ _ _
      ((hrecord hmissing).trans _ _ _ (.rel _ _ (.order (.swap _ _ _) (by decide))))
  obtain ⟨hdecode', hload⟩ :=
    (load_of_alike 5 w.spelling.toUTF8 w w' r hread hdecode halike).2 w'.spelling.toUTF8 hread'
  exact ⟨hdecode, hdecode', (hload _ rfl).1⟩

end Rehearsal.Bridge
