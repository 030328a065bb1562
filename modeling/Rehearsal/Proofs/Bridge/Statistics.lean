import Mathlib.Algebra.GroupWithZero.Nat
import Mathlib.Data.String.Basic
import Rehearsal.Proofs.Shell.Reading

/-!
# What the statistics say

The statistics of a registry leave nothing out and count nothing twice. A language has a count if
there are functions of it, and the count is the number of these
(`Registry.get?_byLanguage_eq_some_iff`); together the counts are the number of functions
(`Registry.sum_byLanguage`).

Both rankings are one construction, the entries of the registry sorted by a measure. Sorting is
stable, so those that tie stay in the order in which they were, which is the order of their names
(`List.pairwise_mergeSort_and_ties`). What is said of a ranking is `Registry.Ranks`: each function is
in it once, as it is in the registry, and of two of them the one with more comes first, or the one
with the lesser name if they tie.

The command that shows the statistics shows the first five of the ranking by calls, and changes
nothing.
-/

/-! ## Sorting what is in an order already -/

section

variable {α : Type} {le : α → α → Bool} {R : α → α → Prop} {l : List α}

/-- Those of a list that tie with one of it come in the same order after sorting. -/
theorem List.filter_tied_mergeSort (htrans : ∀ a b c, le a b = true → le b c = true → le a c = true)
    (htotal : ∀ a b, (le a b || le b a) = true) (a : α) :
    (l.mergeSort le).filter (fun x => le a x && le x a) = l.filter fun x => le a x && le x a := by
  have htied : (l.filter fun x => le a x && le x a).Pairwise fun x y => le x y = true := by
    refine List.pairwise_of_forall_mem_list fun x hx y hy => ?_
    obtain ⟨-, hxa⟩ := Bool.and_eq_true_iff.mp (List.mem_filter.mp hx).2
    obtain ⟨hay, -⟩ := Bool.and_eq_true_iff.mp (List.mem_filter.mp hy).2
    exact htrans x a y hxa hay
  have hsublist := (List.sublist_mergeSort htrans htotal htied List.filter_sublist).filter
    fun x => le a x && le x a
  rw [List.filter_filter, List.filter_congr fun x _ => Bool.and_self _] at hsublist
  exact (hsublist.eq_of_length (((List.mergeSort_perm l le).filter _).length_eq).symm).symm

/-- **Sorting is stable**: of two elements that tie the one that was first stays first, so they are
still in any relation that all earlier elements had to the later ones. -/
theorem List.pairwise_mergeSort_and_ties
    (htrans : ∀ a b c, le a b = true → le b c = true → le a c = true)
    (htotal : ∀ a b, (le a b || le b a) = true) (hl : l.Pairwise R) :
    (l.mergeSort le).Pairwise fun a b => le a b = true ∧ (le b a = true → R a b) := by
  have hsorted := List.pairwise_mergeSort htrans htotal l
  refine List.pairwise_iff_forall_sublist.mpr fun {a b} hab => ?_
  have hle : le a b = true := List.pairwise_iff_forall_sublist.mp hsorted hab
  refine ⟨hle, fun hba => ?_⟩
  have haa : le a a = true := by simpa using htotal a a
  have hfilter := hab.filter fun x => le a x && le x a
  rw [List.filter_tied_mergeSort htrans htotal, List.filter_cons_of_pos (by simp [haa]),
    List.filter_cons_of_pos (by simp [hle, hba]), List.filter_nil] at hfilter
  exact List.pairwise_iff_forall_sublist.mp hl (hfilter.trans List.filter_sublist)

end

namespace Rehearsal

namespace SortedMap

variable {κ : Type} [Ord κ]

/-- Before the first key of entries nothing is found. -/
theorem find_eq_none_of_forall_lt {α : Type} {k : κ} {es : List (κ × α)}
    (h : ∀ e ∈ es, compare k e.1 = .lt) : find k es = none := by
  induction es with
  | nil => rfl
  | cons head rest ih =>
    rw [find, if_neg (by simp [h head (by simp)]), ih fun e he => h e (by simp [he])]

/-- Each key stands once. -/
theorem nodup_keys {α : Type} [Std.LawfulEqOrd κ] (m : SortedMap κ α) : m.keys.Nodup := by
  refine List.pairwise_map.mpr (m.ascending.imp fun {a b} hlt heq => ?_)
  rw [heq] at hlt
  simp at hlt

theorem mem_keys_iff {α : Type} [Std.LawfulEqOrd κ] {m : SortedMap κ α} {k : κ} :
    k ∈ m.keys ↔ m.contains k = true := by
  rw [keys, List.mem_map, contains, Option.isSome_iff_exists]
  constructor
  · rintro ⟨⟨k', x⟩, hmem, rfl⟩
    exact ⟨x, mem_entries_iff.mp hmem⟩
  · rintro ⟨x, hget⟩
    exact ⟨(k, x), mem_entries_iff.mpr hget, rfl⟩

/-- **The size of a map** is how many keys have values. -/
theorem length_eq_size {α : Type} [Std.LawfulEqOrd κ] {m : SortedMap κ α} {ks : List κ}
    (hnodup : ks.Nodup) (hmem : ∀ k, k ∈ ks ↔ m.contains k = true) : ks.length = m.size := by
  have hperm : ks.Perm m.keys := (List.perm_ext_iff_of_nodup hnodup m.nodup_keys).mpr
    fun k => (hmem k).trans mem_keys_iff.symm
  rw [hperm.length_eq, keys, List.length_map]
  rfl

/-- **What an entry that is put in its place does to the sum of the values**: it adds its value, and
takes away the one that it replaces. -/
theorem sum_put [Std.TransOrd κ] (k : κ) (n : Nat) {es : List (κ × Nat)}
    (hes : es.Pairwise fun a b => compare a.1 b.1 = .lt) :
    ((put k n es).map Prod.snd).sum + (find k es).getD 0 = (es.map Prod.snd).sum + n := by
  induction es with
  | nil => simp [put, find]
  | cons head rest ih =>
    obtain ⟨k', n'⟩ := head
    obtain ⟨hhead, hrest⟩ := List.pairwise_cons.mp hes
    rw [put, find]
    cases hcompare : compare k k' with
    | lt =>
      have hnone : find k rest = none :=
        find_eq_none_of_forall_lt fun e he => Std.TransCmp.lt_trans hcompare (hhead e he)
      simp [hnone, Nat.add_comm]
    | eq =>
      simp only [if_true, List.map_cons, List.sum_cons, Option.getD_some]
      omega
    | gt =>
      have := ih hrest
      simp only [reduceCtorEq, if_false, List.map_cons, List.sum_cons]
      omega

end SortedMap

namespace Registry

variable {r : Registry}

/-! ## The count of each language -/

/-- A function is of the language with a tag. -/
def hasTag (tag : String) (e : String × FunctionRecord) : Bool := e.2.lang.tag == tag

/-- Counts with one more function counted. -/
def counted (counts : SortedMap String Nat) (e : String × FunctionRecord) : SortedMap String Nat :=
  counts.insert e.2.lang.tag ((counts.get? e.2.lang.tag).getD 0 + 1)

theorem byLanguage_eq (r : Registry) : r.byLanguage = r.entries.foldl counted SortedMap.empty := rfl

/-- **What one more function does to the counts.** -/
theorem get?_counted (counts : SortedMap String Nat) (e : String × FunctionRecord) (tag : String) :
    (counted counts e).get? tag
      = if hasTag tag e then some ((counts.get? tag).getD 0 + 1) else counts.get? tag := by
  unfold counted hasTag
  by_cases htag : e.2.lang.tag = tag
  · simp [htag]
  · rw [SortedMap.get?_insert_of_ne _ (Ne.symm htag), if_neg (by simpa using htag)]

theorem sum_counted (counts : SortedMap String Nat) (e : String × FunctionRecord) :
    ((counted counts e).entries.map Prod.snd).sum = (counts.entries.map Prod.snd).sum + 1 := by
  have hput := SortedMap.sum_put e.2.lang.tag ((counts.get? e.2.lang.tag).getD 0 + 1)
    counts.ascending
  have hfind : SortedMap.find e.2.lang.tag counts.entries = counts.get? e.2.lang.tag := rfl
  rw [hfind] at hput
  show ((SortedMap.put _ _ counts.entries).map Prod.snd).sum = _
  omega

/-- Each language that is counted has a function. -/
theorem pos_of_get?_foldl {es : List (String × FunctionRecord)} {counts : SortedMap String Nat}
    (hcounts : ∀ tag n, counts.get? tag = some n → 0 < n) {tag : String} {n : Nat}
    (h : (es.foldl counted counts).get? tag = some n) : 0 < n := by
  induction es generalizing counts with
  | nil => exact hcounts tag n h
  | cons e es ih =>
    refine ih (fun tag n hn => ?_) h
    rw [get?_counted] at hn
    split at hn
    · exact (Option.some.inj hn) ▸ Nat.succ_pos _
    · exact hcounts tag n hn

/-- **Counting adds the functions of each language** to what was counted before. -/
theorem getD_get?_foldl (es : List (String × FunctionRecord)) (counts : SortedMap String Nat)
    (tag : String) : ((es.foldl counted counts).get? tag).getD 0
      = (counts.get? tag).getD 0 + es.countP (hasTag tag) := by
  induction es generalizing counts with
  | nil => rfl
  | cons e es ih =>
    rw [List.foldl_cons, ih, get?_counted, List.countP_cons]
    split
    · rw [Option.getD_some]
      omega
    · rfl

theorem sum_foldl (es : List (String × FunctionRecord)) (counts : SortedMap String Nat) :
    ((es.foldl counted counts).entries.map Prod.snd).sum
      = (counts.entries.map Prod.snd).sum + es.length := by
  induction es generalizing counts with
  | nil => rfl
  | cons e es ih =>
    rw [List.foldl_cons, ih, sum_counted, List.length_cons]
    omega

/-- **The count of a language** is how many functions are of it, and there is one if there are
any. -/
theorem get?_byLanguage_eq_some_iff {tag : String} {n : Nat} :
    r.byLanguage.get? tag = some n ↔ 0 < n ∧ n = r.entries.countP (hasTag tag) := by
  have hcount := getD_get?_foldl r.entries SortedMap.empty tag
  rw [← byLanguage_eq, SortedMap.get?_empty, Option.getD_none, Nat.zero_add] at hcount
  constructor
  · intro h
    rw [h, Option.getD_some] at hcount
    exact ⟨pos_of_get?_foldl (fun tag n hn => by cases hn) h, hcount⟩
  · rintro ⟨hpos, rfl⟩
    cases hget : r.byLanguage.get? tag with
    | none =>
      rw [hget, Option.getD_none] at hcount
      omega
    | some n => rw [← hcount, hget, Option.getD_some]

/-- **Together the counts are the number of functions.** -/
theorem sum_byLanguage (r : Registry) : (r.byLanguage.entries.map Prod.snd).sum = r.size :=
  (sum_foldl r.entries SortedMap.empty).trans (Nat.zero_add _)

/-! ## The rankings -/

/-- **A ranking of the functions** of a registry by a measure. -/
structure Ranks (r : Registry) (measure : FunctionRecord → Int)
    (ranking : List (String × FunctionRecord)) : Prop where
  /-- No function is ranked twice. -/
  nodup : (ranking.map Prod.fst).Nodup
  /-- What is ranked are the functions of the registry, as they are there. -/
  mem_iff : ∀ name f, (name, f) ∈ ranking ↔ r.get? name = some f
  /-- The one with more comes first, and of two with as much the one with the lesser name. -/
  ordered : ranking.Pairwise fun a b => measure b.2 < measure a.2
    ∨ measure a.2 = measure b.2 ∧ a.1 < b.1

/-- **The entries sorted by a measure** are ranked by it. -/
theorem ranks_mergeSort (measure : FunctionRecord → Int)
    {le : String × FunctionRecord → String × FunctionRecord → Bool}
    (hle : ∀ a b, le a b = true ↔ measure b.2 ≤ measure a.2) :
    r.Ranks measure (r.entries.mergeSort le) where
  nodup := ((List.mergeSort_perm r.entries le).map Prod.fst).nodup_iff.mpr r.nodup_keys
  mem_iff name f := List.mem_mergeSort.trans SortedMap.mem_entries_iff
  ordered := by
    have htrans : ∀ a b c, le a b = true → le b c = true → le a c = true := fun a b c hab hbc =>
      (hle a c).mpr (((hle b c).mp hbc).trans ((hle a b).mp hab))
    have htotal : ∀ a b, (le a b || le b a) = true := fun a b => by
      rw [Bool.or_eq_true, hle, hle]
      exact Int.le_total _ _
    have hsorted := List.pairwise_mergeSort_and_ties htrans htotal r.ascending
    refine hsorted.imp fun {a b} ⟨hab, hties⟩ => ?_
    rcases Int.lt_or_eq_of_le ((hle a b).mp hab) with hlt | heq
    · exact Or.inl hlt
    · exact Or.inr ⟨heq.symm, compare_lt_iff_lt.mp (hties ((hle b a).mpr heq.ge))⟩

theorem ranks_mostCalled (r : Registry) : r.Ranks (fun f => f.callCount.toNat) r.mostCalled :=
  ranks_mergeSort _ fun a b => by
    rw [decide_eq_true_iff, UInt64.le_iff_toNat_le, Int.ofNat_le]

theorem ranks_recent (r : Registry) : r.Ranks (fun f => f.timestamp.toInt) r.recent :=
  ranks_mergeSort _ fun a b => by rw [decide_eq_true_iff, Int64.le_iff_toInt_le]

end Registry

/-! ## What is shown -/

namespace Builtin

/-- **The ranking that is shown.** -/
def rankLines (r : Registry) : List String :=
  ((r.mostCalled.take topCalled).zipIdx 1).map fun ((name, f), place) => rankLine place name f

theorem length_rankLines (r : Registry) : (rankLines r).length = min topCalled r.size := by
  rw [rankLines, List.length_map, List.length_zipIdx, List.length_take, Registry.mostCalled,
    List.length_mergeSort]
  rfl

theorem getElem?_rankLines {r : Registry} {i : Nat} (hi : i < topCalled) :
    (rankLines r)[i]? = (r.mostCalled[i]?).map fun e => rankLine (i + 1) e.1 e.2 := by
  rw [rankLines, List.getElem?_map, List.getElem?_zipIdx, List.getElem?_take_of_lt hi,
    Option.map_map, Nat.add_comm 1 i]
  rfl

end Builtin

namespace Shell

open Builtin (rankLines rankLine languageLine ruler)

/-- **The statistics are a faithful summary in a total order.** Take any registry. Its size is how
many names have a function; the count of a language is how many functions are of it, and there is
one if there are any; the counts add up to the size. Each function is once in the ranking by calls
and once in that by last activity, as it is in the registry, most and latest first, and those that
tie ascend by name. And a line that asks for the statistics, in a session that holds the registry
and does not wait for an answer, changes nothing and shows the size, the counts and the first five
of the ranking by calls, or all if there are fewer. -/
theorem statistics_faithful (r : Registry) :
    (∀ names : List String, names.Nodup → (∀ name, name ∈ names ↔ r.contains name = true) →
        names.length = r.size)
      ∧ (∀ tag n, r.byLanguage.get? tag = some n
          ↔ 0 < n ∧ n = r.entries.countP (Registry.hasTag tag))
      ∧ (r.byLanguage.entries.map Prod.snd).sum = r.size
      ∧ r.Ranks (fun f => f.callCount.toNat) r.mostCalled
      ∧ r.Ranks (fun f => f.timestamp.toInt) r.recent
      ∧ ∀ (now : Instant) (line : String) (s : Session), s.awaitingClear = false →
          s.bridge.registry = r → command? line = some .bridgeStats →
          ((standard s).run now line).state = standard s
            ∧ ∃ rows : List String,
              ((standard s).run now line).lines
                = ["cross-language bridge statistics", ruler,
                    "total functions: " ++ toString r.size, "", "by language:"]
                  ++ r.byLanguage.entries.map (fun e => languageLine e.1 e.2)
                  ++ ["", "most called:"] ++ rows
              ∧ rows.length = min 5 r.size
              ∧ ∀ i, i < 5 →
                  rows[i]? = (r.mostCalled[i]?).map fun e => rankLine (i + 1) e.1 e.2 := by
  refine ⟨fun names hnodup hmem => SortedMap.length_eq_size hnodup hmem,
    fun tag n => Registry.get?_byLanguage_eq_some_iff, r.sum_byLanguage, r.ranks_mostCalled,
    r.ranks_recent, fun now line s hawaiting hregistry hline => ?_⟩
  obtain ⟨hstate, hlines⟩ := runLine_of_command now hawaiting hline
  have hshown : (Builtin.bridgeStats.run now s).lines = Builtin.statisticsLines r := by
    rw [← hregistry]
    exact (List.append_nil _).trans (List.append_nil _)
  refine ⟨congrArg standard hstate, rankLines r, ?_, Builtin.length_rankLines r,
    fun i hi => Builtin.getElem?_rankLines hi⟩
  rw [run_lines, hlines, hshown]
  rfl

/-- Three functions of two languages, two of which tie. -/
theorem statistics_faithful_tied :
    let f := fun (tag : String) (calls : UInt64) =>
      (⟨⟨tag⟩, [], [], 7, none, none, calls⟩ : FunctionRecord)
    let r : Registry :=
      SortedMap.ofList [("mul", f "python" 3), ("log", f "javascript" 0), ("add", f "python" 0)]
    let s : Session := ⟨SortedMap.empty, SortedMap.empty,
      ⟨r, .new (.memory none) (.fresh 0 []) .none⟩, "backups", false, false⟩
    r.size = 3 ∧ r.byLanguage.get? "python" = some 2 ∧ r.byLanguage.get? "rust" = none
      ∧ ("add", f "python" 0) ∈ r.mostCalled
      ∧ ((standard s).run 8 " bridge-stats").state = standard s
      ∧ ∃ rows : List String, rows.length = 3
        ∧ ((standard s).run 8 " bridge-stats").lines
          = ["cross-language bridge statistics", ruler, "total functions: 3", "", "by language:",
              "   javascript: 1 functions", "   python: 2 functions", "", "most called:"] ++ rows := by
  intro f r s
  obtain ⟨hnames, hcount, -, hcalled, -, hrun⟩ := statistics_faithful r
  obtain ⟨hstate, rows, hlines, hlength, -⟩ := hrun 8 " bridge-stats" s rfl rfl (by decide +kernel)
  have hsize : r.size = 3 := by decide +kernel
  refine ⟨hsize, (hcount "python" 2).mpr ⟨by decide, by decide +kernel⟩, ?_,
    (hcalled.mem_iff _ _).mpr (by decide +kernel), hstate, rows, ?_, ?_⟩
  · cases hget : r.byLanguage.get? "rust" with
    | none => rfl
    | some n =>
      obtain ⟨hpos, hn⟩ := (hcount "rust" n).mp hget
      exact absurd hpos (by rw [hn]; decide +kernel)
  · rw [hlength, hsize]
    rfl
  · rw [hlines]
    exact congrArg (· ++ rows) (by decide +kernel)

end Shell

end Rehearsal
