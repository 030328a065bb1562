import Rehearsal.Proofs.Backup.Agreement
import Rehearsal.Proofs.Backup.Names
import Rehearsal.Proofs.Storage.Mirror

/-!
# Bridges over mirrored stores

Two bridges with the same functions, of which one keeps its document in a file and the other in
memory, **cannot be told apart** (`Bridge.Mirrors`). Whatever is asked of both, they give the same,
fail for the same reason and go on to be of that kind. That is so for a bridge because it reaches
its storage by reads and writes of the document alone. It is so for backups because they are kept in
a folder that the footprint of the store spares (`Footprint.Spares`), with all that is below it.
-/

namespace Rehearsal

open Routine (Agree)

variable {d₀ : Disk} {folder : Path} {now : Instant}

namespace Storage

/-- **Reads and writes agree** on a store in a file and the store in memory that it mirrors. -/
theorem agreeing_mirrors : Agreeing (Mirrors d₀ folder) now := by
  refine agreeing_of_replace (fun _ _ h => h.content_eq)
    (fun _ _ h => ⟨h.refusals, h.reads, h.writes⟩) (fun _ _ h => h.counted)
    fun s s' h octets => ?_
  obtain ⟨hok, hok', hreplaced⟩ := h.replace now octets
  exact ⟨hok'.trans hok.symm, hreplaced⟩

end Storage

namespace Bridge

/-- **Bridges that mirror each other**: with the same functions, over stores that do. -/
structure Mirrors (d₀ : Disk) (folder : Path) (b b' : Bridge) : Prop where
  registry : b'.registry = b.registry
  storage : Storage.Mirrors d₀ folder b.storage b'.storage

theorem mirrors_eq : Mirrors d₀ folder = Over (Storage.Mirrors d₀ folder) := by
  funext b b'
  exact propext ⟨fun h => ⟨h.registry, h.storage⟩, fun h => ⟨h.registry, h.storage⟩⟩

/-- Saving agrees. -/
theorem agree_save : Agree (Mirrors d₀ folder) (save now) (save now) :=
  mirrors_eq ▸ Over.agree_save Storage.agreeing_mirrors

theorem agree_register (name : String) (lang : Language) (params : List String)
    (body : List Action) :
    Agree (Mirrors d₀ folder) (register now name lang params body)
      (register now name lang params body) :=
  mirrors_eq ▸ Over.agree_register Storage.agreeing_mirrors name lang params body

theorem agree_unregister (name : String) :
    Agree (Mirrors d₀ folder) (unregister now name) (unregister now name) :=
  mirrors_eq ▸ Over.agree_unregister Storage.agreeing_mirrors name

theorem agree_clear : Agree (Mirrors d₀ folder) (clear now) (clear now) :=
  mirrors_eq ▸ Over.agree_clear Storage.agreeing_mirrors

theorem agree_call (name : String) (args : List String) :
    Agree (Mirrors d₀ folder) (call now name args) (call now name args) :=
  mirrors_eq ▸ Over.agree_call Storage.agreeing_mirrors name args

/-- Loading agrees. -/
theorem agree_load : Agree (Mirrors d₀ folder) (load now) (load now) :=
  mirrors_eq ▸ Over.agree_load Storage.agreeing_mirrors

/-- Connecting anew agrees. -/
theorem agree_connect :
    Agree (Mirrors d₀ folder) (fun b => connect now b.storage) (fun b => connect now b.storage) :=
  mirrors_eq ▸ Over.agree_connect Storage.agreeing_mirrors

end Bridge

/-! ## Backups -/

namespace Backup

open Bridge (Mirrors)

variable {root : Path} {name : String}

section

variable (hroot : (d₀.footprint folder).Spares d₀ root)
include hroot

/-- The document of a backup is past the footprint. -/
theorem passes_documentPath (hname : Path.IsName name) (hdot : name ≠ ".") (hup : name ≠ "..") :
    (d₀.footprint folder).Passes d₀ (documentPath root name) :=
  (hroot.join hname hdot hup).passes_join Disk.isName_documentName (by decide) (by decide)

/-- **Making a backup** agrees. -/
theorem agree_create (name? : Option String) :
    Agree (Mirrors d₀ folder) (create now root name?) (create now root name?) := by
  have hname : ∀ {name : String}, nameFor now name? = .ok name →
      Path.IsName name ∧ name ≠ "." ∧ name ≠ ".." := fun hfor =>
    isName_of_validName (validName_of_nameFor hfor)
  rw [Bridge.mirrors_eq]
  refine agree_create_over Storage.agreeing_mirrors (fun name hfor s s' hs => ?_)
    (fun name hfor => agree_makeFolders fun s s' hs => ?_)
    (fun name hfor octets => agree_writeFile octets fun s s' hs => ?_)
  all_goals obtain ⟨hsingle, hdot, hup⟩ := hname hfor
  · exact hs.beside.find_eq ((passes_documentPath hroot hsingle hdot hup).of_home hs.home).clear
  · exact hs.makeFolders (hroot.passes_join hsingle hdot hup) now
  · exact hs.writeFile (passes_documentPath hroot hsingle hdot hup) octets

omit hroot in
/-- Something in the root is a backup by what its document is found to be. -/
theorem ofChild?_congr {d d' : Disk}
    (h : d'.find (documentPath root name) = d.find (documentPath root name)) (n : Node) :
    ofChild? d' root (name, n) = ofChild? d root (name, n) := by
  cases n with
  | file octets => rfl
  | folder created =>
    unfold ofChild?
    dsimp only
    rw [h]

/-- **Listing the backups** agrees. -/
theorem agree_list : Agree (Mirrors d₀ folder) (list root) (list root) := by
  unfold list
  refine .get_bind fun b b' hb => ?_
  rw [hb.storage.beside.list_eq (hroot.of_home hb.storage.home)]
  cases hlist : b.storage.disk.list root with
  | error e => exact ((Agree.note _ _ _).bind fun _ => .pure []) b b' hb
  | ok found =>
    obtain ⟨l, children⟩ := found
    have hchildren : children.filterMap (ofChild? b'.storage.disk root)
        = children.filterMap (ofChild? b.storage.disk root) := by
      refine List.filterMap_congr fun (name, n) hchild => ?_
      -- what is in a folder of a tree has a name of its own
      obtain ⟨hname, hdot, hup⟩ := hb.storage.beside.tree.named
        (Option.isSome_iff_exists.mpr ⟨n, Disk.node?_of_mem_list hlist hchild⟩)
      have hpasses := (passes_documentPath hroot hname hdot hup).of_home hb.storage.home
      exact ofChild?_congr (hb.storage.beside.find_eq hpasses.clear) n
    dsimp only
    rw [hchildren]
    exact Agree.pure _ b b' hb

/-- **Restoring a backup** agrees. -/
theorem agree_restore (name : String) :
    Agree (Mirrors d₀ folder) (restore now root name) (restore now root name) := by
  rw [Bridge.mirrors_eq]
  refine agree_restore_over Storage.agreeing_mirrors fun hvalid s s' hs => ?_
  obtain ⟨hname, hdot, hup⟩ := isName_of_validName hvalid
  exact hs.beside.read_eq ((passes_documentPath hroot hname hdot hup).of_home hs.home).clear

end

end Backup

end Rehearsal
