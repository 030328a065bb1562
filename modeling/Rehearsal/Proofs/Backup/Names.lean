import Rehearsal.Backup
import Rehearsal.Proofs.Disk.Document
import Rehearsal.Proofs.Json.Leaves

/-!
# Names of backups and where they lead

A backup may have the name of one folder and no other, and the name that is made from the clock is
of that kind. So the document of a backup is exactly two names below the root
(`Backup.place_documentPath`): the name of the backup, and the name that all documents have.
Backups of different names are in different places (`Backup.place_documentPath_ne`), however
the root is written.
-/

namespace Rehearsal.Backup

/-- **A name that a backup may have** is a single name, and stays below the root. -/
theorem isName_of_validName {name : String} (h : validName name = true) :
    Path.IsName name ∧ name ≠ "." ∧ name ≠ ".." := by
  unfold validName at h
  simp only [Bool.and_eq_true, bne_iff_ne, Bool.not_eq_true', List.contains_eq_mem,
    decide_eq_false_iff_not] at h
  obtain ⟨⟨⟨⟨hempty, hdot⟩, hup⟩, hslash⟩, -⟩ := h
  exact ⟨⟨hempty, hslash⟩, hdot, hup⟩

/-- The characters of a number are digits and a sign. -/
theorem mem_toString_int {n : Int} {c : Char} (h : c ∈ (toString n).toList) :
    c = '-' ∨ c.isDigit = true := by
  rw [Json.toList_toString_int] at h
  rcases List.mem_append.mp h with hsign | hdigit
  · split at hsign
    · exact Or.inl (List.mem_singleton.mp hsign)
    · cases hsign
  · exact Or.inr (Json.Reader.isDigit_of_mem_toDigits hdigit)

/-- **The name made from the clock** is a name that a backup may have. -/
theorem validName_defaultName (now : Instant) : validName (defaultName now) = true := by
  have htext : (defaultName now).toList = "backup_".toList ++ (toString now.toInt).toList :=
    String.toList_append
  have hnot : ∀ c : Char, c ∉ "backup_".toList → c ≠ '-' → c.isDigit = false →
      c ∉ (defaultName now).toList := by
    intro c hprefix hsign hdigit hc
    rw [htext] at hc
    rcases List.mem_append.mp hc with hc | hc
    · exact hprefix hc
    · rcases mem_toString_int hc with hc | hc
      · exact hsign hc
      · rw [hdigit] at hc
        cases hc
  have hne : ∀ s : String, s.toList.head? ≠ some 'b' → defaultName now ≠ s := by
    rintro s hhead rfl
    rw [htext] at hhead
    exact hhead rfl
  unfold validName
  simp only [Bool.and_eq_true, bne_iff_ne, Bool.not_eq_true', List.contains_eq_mem,
    decide_eq_false_iff_not]
  refine ⟨⟨⟨⟨hne "" (by decide), hne "." (by decide)⟩, hne ".." (by decide)⟩, ?_⟩, ?_⟩
  · exact hnot '/' (by decide) (by decide) (by decide)
  · exact hnot '\\' (by decide) (by decide) (by decide)

/-- Every backup that is tried has a name that a backup may have. -/
theorem validName_of_nameFor {now : Instant} {name? : Option String} {name : String}
    (h : nameFor now name? = .ok name) : validName name = true := by
  cases name? with
  | none =>
    cases h
    exact validName_defaultName now
  | some given =>
    unfold nameFor at h
    dsimp only at h
    split at h
    · next hvalid =>
      cases h
      exact hvalid
    · cases h

/-- Where the document is in a folder of the root. -/
theorem place_documentPath_of_isName (d : Disk) (root : Path) {name : String}
    (h : Path.IsName name ∧ name ≠ "." ∧ name ≠ "..") :
    d.place (documentPath root name) = d.place root ++ [name, documentName] := by
  obtain ⟨hname, hdot, hup⟩ := h
  rw [documentPath, Disk.place_documentPath, folderPath, Disk.place_join d root hname hdot hup,
    List.append_assoc]
  rfl

/-- **Where the document of a backup is.** -/
theorem place_documentPath (d : Disk) (root : Path) {name : String} (h : validName name = true) :
    d.place (documentPath root name) = d.place root ++ [name, documentName] :=
  place_documentPath_of_isName d root (isName_of_validName h)

/-- **Different backups are in different places.** -/
theorem place_documentPath_ne (d : Disk) (root : Path) {name name' : String}
    (h : validName name = true) (h' : validName name' = true) (hne : name ≠ name') :
    d.place (documentPath root name) ≠ d.place (documentPath root name') := by
  rw [place_documentPath d root h, place_documentPath d root h']
  intro hplace
  exact hne (List.head_eq_of_cons_eq (List.append_cancel_left hplace))

end Rehearsal.Backup
