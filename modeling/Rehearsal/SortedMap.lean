/-!
# Maps kept in the order of their keys

The shell shows every collection it keeps in the order of its names: variables,
loaded libraries, registered functions, the members of an object. So the
collection is **the list of its entries, ascending by key**, and the order is part
of the type. Two maps with the same look-ups are then the same map
(`SortedMap.ext_get?`), whatever was inserted and erased on the way.

`get?` is the view: `get?_insert` and `get?_erase` say what the two changes do to it.
-/

namespace Rehearsal

/-- **A map as its entries**, in strictly ascending order of their keys. -/
structure SortedMap (κ α : Type) [Ord κ] where
  /-- The keys with their values. -/
  entries : List (κ × α)
  /-- Each key comes before the keys after it. -/
  ascending : entries.Pairwise fun a b => compare a.1 b.1 = .lt
deriving DecidableEq

namespace SortedMap

variable {κ α : Type} [Ord κ]

/-- The value at a key, among entries. -/
def find (k : κ) : List (κ × α) → Option α
  | [] => none
  | (k', x) :: rest => if compare k k' = .eq then some x else find k rest

/-- Entries with one entry put in its place, replacing the one of the same key. -/
def put (k : κ) (x : α) : List (κ × α) → List (κ × α)
  | [] => [(k, x)]
  | (k', x') :: rest =>
    match compare k k' with
    | .lt => (k, x) :: (k', x') :: rest
    | .eq => (k, x) :: rest
    | .gt => (k', x') :: put k x rest

/-- Entries without those of one key. -/
def drop (k : κ) (es : List (κ × α)) : List (κ × α) :=
  es.filter fun e => compare k e.1 ≠ .eq

/-- What `put` puts in was there before or is the new entry. -/
theorem mem_put {k : κ} {x : α} {e : κ × α} {es : List (κ × α)} (h : e ∈ put k x es) :
    e = (k, x) ∨ e ∈ es := by
  induction es with
  | nil => simpa [put] using h
  | cons head rest ih =>
    obtain ⟨k', x'⟩ := head
    rw [put] at h
    split at h
    · simpa using h
    · rcases List.mem_cons.mp h with h | h
      · exact Or.inl h
      · exact Or.inr (List.mem_cons_of_mem _ h)
    · rcases List.mem_cons.mp h with h | h
      · exact Or.inr (by simp [h])
      · exact (ih h).imp id (List.mem_cons_of_mem _)

section

variable [Std.TransOrd κ]

/-- Putting an entry in its place keeps the order. -/
theorem ascending_put (k : κ) (x : α) {es : List (κ × α)}
    (h : es.Pairwise fun a b => compare a.1 b.1 = .lt) :
    (put k x es).Pairwise fun a b => compare a.1 b.1 = .lt := by
  induction es with
  | nil => simp [put]
  | cons head rest ih =>
    obtain ⟨k', x'⟩ := head
    obtain ⟨hhead, hrest⟩ := List.pairwise_cons.mp h
    rw [put]
    split
    · next hlt =>
      refine List.pairwise_cons.mpr ⟨fun e he => ?_, h⟩
      rcases List.mem_cons.mp he with rfl | he
      · exact hlt
      · exact Std.TransCmp.lt_trans hlt (hhead e he)
    · next heq =>
      refine List.pairwise_cons.mpr ⟨fun e he => ?_, hrest⟩
      exact Std.TransCmp.lt_of_eq_of_lt heq (hhead e he)
    · next hgt =>
      refine List.pairwise_cons.mpr ⟨fun e he => ?_, ih hrest⟩
      rcases mem_put he with rfl | he
      · exact Std.OrientedCmp.lt_of_gt hgt
      · exact hhead e he

end

/-- The map without entries. -/
def empty : SortedMap κ α := ⟨[], List.Pairwise.nil⟩

instance : Inhabited (SortedMap κ α) := ⟨empty⟩

/-- **The view of a map**: the value it has at a key. -/
def get? (m : SortedMap κ α) (k : κ) : Option α := find k m.entries

/-- The map has a value at the key. -/
def contains (m : SortedMap κ α) (k : κ) : Bool := (m.get? k).isSome

/-- How many keys have values. -/
def size (m : SortedMap κ α) : Nat := m.entries.length

/-- The keys, ascending. -/
def keys (m : SortedMap κ α) : List κ := m.entries.map Prod.fst

/-- The map without any value at the key. -/
def erase (m : SortedMap κ α) (k : κ) : SortedMap κ α :=
  ⟨drop k m.entries, m.ascending.filter _⟩

/-- The entries whose keys pass a test. -/
def filterKeys (p : κ → Bool) (m : SortedMap κ α) : SortedMap κ α :=
  ⟨m.entries.filter fun e => p e.1, m.ascending.filter _⟩

section

variable [Std.TransOrd κ]

/-- The map with the value at the key, whatever was there. -/
def insert (m : SortedMap κ α) (k : κ) (x : α) : SortedMap κ α :=
  ⟨put k x m.entries, ascending_put k x m.ascending⟩

/-- The map of a list of entries. Of two entries with one key the later counts. -/
def ofList (es : List (κ × α)) : SortedMap κ α :=
  es.foldl (fun m e => m.insert e.1 e.2) empty

end

/-! ## What the changes do to the view -/

@[simp] theorem get?_empty (k : κ) : (empty : SortedMap κ α).get? k = none := rfl

@[simp] theorem entries_empty : (empty : SortedMap κ α).entries = [] := rfl

theorem contains_of_get? {m : SortedMap κ α} {k : κ} {x : α} (h : m.get? k = some x) :
    m.contains k = true := Option.isSome_of_eq_some h

theorem contains_eq_false_iff {m : SortedMap κ α} {k : κ} :
    m.contains k = false ↔ m.get? k = none := by
  rw [contains, Option.isSome_eq_false_iff, Option.isNone_iff_eq_none]

section

variable [Std.LawfulEqOrd κ]

theorem find_put (k k' : κ) (x : α) (es : List (κ × α)) :
    find k' (put k x es) = if compare k' k = .eq then some x else find k' es := by
  induction es with
  | nil => simp [put, find]
  | cons head rest ih =>
    obtain ⟨k₀, x₀⟩ := head
    rw [put]
    split
    · rfl
    · next heq =>
      obtain rfl := Std.LawfulEqCmp.eq_of_compare heq
      simp only [find]
      split <;> rfl
    · next hgt =>
      simp only [find, ih]
      split
      · next h₀ =>
        obtain rfl := Std.LawfulEqCmp.eq_of_compare h₀
        split
        · next h =>
          obtain rfl := Std.LawfulEqCmp.eq_of_compare h
          simp at hgt
        · rfl
      · rfl

/-- **Inserting sets one look-up** and leaves the others alone. -/
theorem get?_insert [Std.TransOrd κ] (m : SortedMap κ α) (k k' : κ) (x : α) :
    (m.insert k x).get? k' = if compare k' k = .eq then some x else m.get? k' :=
  find_put k k' x m.entries

@[simp] theorem get?_insert_self [Std.TransOrd κ] (m : SortedMap κ α) (k : κ) (x : α) :
    (m.insert k x).get? k = some x := by
  simp [get?_insert]

theorem get?_insert_of_ne [Std.TransOrd κ] (m : SortedMap κ α) {k k' : κ} (h : k' ≠ k) (x : α) :
    (m.insert k x).get? k' = m.get? k' := by
  rw [get?_insert, if_neg fun hc => h (Std.LawfulEqCmp.eq_of_compare hc)]

theorem find_drop (k k' : κ) (es : List (κ × α)) :
    find k' (drop k es) = if compare k' k = .eq then none else find k' es := by
  induction es with
  | nil => simp [drop, find]
  | cons head rest ih =>
    obtain ⟨k₀, x₀⟩ := head
    unfold drop at ih ⊢
    rw [List.filter_cons]
    split
    · next hne =>
      simp only [find, ih]
      split
      · next h₀ =>
        obtain rfl := Std.LawfulEqCmp.eq_of_compare h₀
        rw [if_neg]
        intro h
        obtain rfl := Std.LawfulEqCmp.eq_of_compare h
        simp at hne
      · rfl
    · next heq =>
      have h₀ : compare k k₀ = .eq := by simpa using heq
      obtain rfl := Std.LawfulEqCmp.eq_of_compare h₀
      rw [ih]
      split
      · rfl
      · next h => rw [find, if_neg h]

/-- **Erasing clears one look-up** and leaves the others alone. -/
theorem get?_erase (m : SortedMap κ α) (k k' : κ) :
    (m.erase k).get? k' = if compare k' k = .eq then none else m.get? k' :=
  find_drop k k' m.entries

@[simp] theorem get?_erase_self (m : SortedMap κ α) (k : κ) : (m.erase k).get? k = none := by
  simp [get?_erase]

theorem get?_erase_of_ne (m : SortedMap κ α) {k k' : κ} (h : k' ≠ k) :
    (m.erase k).get? k' = m.get? k' := by
  rw [get?_erase, if_neg fun hc => h (Std.LawfulEqCmp.eq_of_compare hc)]

end

/-! ## A map is its look-ups -/

section

variable [Std.LawfulEqOrd κ]

/-- An entry is found under its key. -/
theorem find_eq_some_of_mem {es : List (κ × α)} {k : κ} {x : α}
    (hes : es.Pairwise fun a b => compare a.1 b.1 = .lt) (h : (k, x) ∈ es) :
    find k es = some x := by
  induction es with
  | nil => cases h
  | cons head rest ih =>
    obtain ⟨k', x'⟩ := head
    obtain ⟨hhead, hrest⟩ := List.pairwise_cons.mp hes
    rcases List.mem_cons.mp h with h | h
    · simp only [Prod.mk.injEq] at h
      obtain ⟨rfl, rfl⟩ := h
      simp [find]
    · have hlt : compare k' k = .lt := hhead _ h
      rw [find, if_neg, ih hrest h]
      intro heq
      obtain rfl := Std.LawfulEqCmp.eq_of_compare heq
      simp at hlt

/-- What is found is an entry. -/
theorem mem_of_find_eq_some {es : List (κ × α)} {k : κ} {x : α} (h : find k es = some x) :
    (k, x) ∈ es := by
  induction es with
  | nil => cases h
  | cons head rest ih =>
    obtain ⟨k', x'⟩ := head
    rw [find] at h
    split at h
    · next heq =>
      obtain rfl := Std.LawfulEqCmp.eq_of_compare heq
      simp only [Option.some.injEq] at h
      simp [h]
    · exact List.mem_cons_of_mem _ (ih h)

/-- The entries of a map are its look-ups that succeed. -/
theorem mem_entries_iff {m : SortedMap κ α} {k : κ} {x : α} :
    (k, x) ∈ m.entries ↔ m.get? k = some x :=
  ⟨find_eq_some_of_mem m.ascending, mem_of_find_eq_some⟩

/-- **Filtering clears the look-ups** of the keys that do not pass. -/
theorem get?_filterKeys (p : κ → Bool) (m : SortedMap κ α) (k : κ) :
    (m.filterKeys p).get? k = if p k then m.get? k else none := by
  refine Option.ext fun x => ?_
  have hmem : (k, x) ∈ (m.filterKeys p).entries ↔ (k, x) ∈ m.entries ∧ p k = true :=
    List.mem_filter
  rw [← mem_entries_iff, hmem, mem_entries_iff]
  by_cases hk : p k = true <;> simp [hk]

/-- Two lists that ascend by some key and have the same members are one list. -/
theorem eq_of_mem_iff [Std.TransOrd κ] {β : Type} {key : β → κ} {es fs : List β}
    (hes : es.Pairwise fun a b => compare (key a) (key b) = .lt)
    (hfs : fs.Pairwise fun a b => compare (key a) (key b) = .lt)
    (h : ∀ e, e ∈ es ↔ e ∈ fs) : es = fs := by
  induction es generalizing fs with
  | nil =>
    cases fs with
    | nil => rfl
    | cons f fs => exact absurd ((h f).mpr (by simp)) (by simp)
  | cons e es ih =>
    cases fs with
    | nil => exact absurd ((h e).mp (by simp)) (by simp)
    | cons f fs =>
      obtain ⟨he, hes'⟩ := List.pairwise_cons.mp hes
      obtain ⟨hf, hfs'⟩ := List.pairwise_cons.mp hfs
      have hef : e = f := by
        rcases List.mem_cons.mp ((h e).mp (by simp)) with hef | hef
        · exact hef
        · rcases List.mem_cons.mp ((h f).mpr (by simp)) with hfe | hfe
          · exact hfe.symm
          · exact absurd (Std.TransCmp.lt_trans (hf e hef) (he f hfe)) (by simp)
      subst hef
      refine congrArg (e :: ·) (ih hes' hfs' fun x => ?_)
      constructor
      · intro hx
        rcases List.mem_cons.mp ((h x).mp (List.mem_cons_of_mem _ hx)) with rfl | hx'
        · simpa using he x hx
        · exact hx'
      · intro hx
        rcases List.mem_cons.mp ((h x).mpr (List.mem_cons_of_mem _ hx)) with rfl | hx'
        · simpa using hf x hx
        · exact hx'

/-- **A map is its look-ups.** Two maps that answer every look-up alike are equal. -/
theorem ext_get? [Std.TransOrd κ] {m n : SortedMap κ α} (h : ∀ k, m.get? k = n.get? k) : m = n := by
  cases hm : m with
  | mk es hes =>
    cases hn : n with
    | mk fs hfs =>
      have : es = fs := by
        refine eq_of_mem_iff hes hfs fun ⟨k, x⟩ => ?_
        have hk := h k
        subst hm hn
        exact (mem_entries_iff (m := ⟨es, hes⟩)).trans
          (hk ▸ (mem_entries_iff (m := ⟨fs, hfs⟩)).symm)
      subst this
      rfl

end

/-! ## The entries in their order -/

section

variable [Std.TransOrd κ]

/-- An entry that comes after all others is put behind them. -/
theorem put_of_forall_lt {k : κ} {x : α} {es : List (κ × α)}
    (h : ∀ e ∈ es, compare e.1 k = .lt) : put k x es = es ++ [(k, x)] := by
  induction es with
  | nil => rfl
  | cons head rest ih =>
    obtain ⟨k', x'⟩ := head
    have hgt : compare k k' = .gt := Std.OrientedCmp.gt_of_lt (h (k', x') (by simp))
    rw [put, hgt]
    show (k', x') :: put k x rest = _
    rw [ih fun e he => h e (by simp [he]), List.cons_append]

/-- Entries that come after those of a map are inserted behind them. -/
theorem entries_foldl_insert {m : SortedMap κ α} {es : List (κ × α)}
    (h : (m.entries ++ es).Pairwise fun a b => compare a.1 b.1 = .lt) :
    (es.foldl (fun m e => m.insert e.1 e.2) m).entries = m.entries ++ es := by
  induction es generalizing m with
  | nil => simp
  | cons e es ih =>
    have hlast : (m.insert e.1 e.2).entries = m.entries ++ [e] :=
      put_of_forall_lt fun e' he' => (List.pairwise_append.mp h).2.2 e' he' e (by simp)
    rw [List.foldl_cons, ih (by rw [hlast, List.append_assoc]; exact h), hlast, List.append_assoc]
    rfl

/-- **The map of the entries of a map is the map.** -/
@[simp] theorem ofList_entries (m : SortedMap κ α) : ofList m.entries = m := by
  have hentries : (ofList m.entries).entries = m.entries :=
    entries_foldl_insert (m := empty) m.ascending
  obtain ⟨es, hes⟩ := m
  rcases h : ofList es with ⟨es', hes'⟩
  simp only [h] at hentries
  subst hentries
  rfl

end

end SortedMap

end Rehearsal
