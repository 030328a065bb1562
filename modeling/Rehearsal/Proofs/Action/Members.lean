import Mathlib.Data.List.Perm.Basic
import Rehearsal.Action.Document

/-!
# The order of members

A reader asks for members by their names, so the order in which they stand is nothing to it. What it
is told under a name are the values there (`Json.valuesOf`), and members in another order have the
same values under each name, in some order; which one matters to nobody, since a reader that finds
two values is content with neither.

So an action is the same if its members stand in another order, or those of its parts
(`Action.Reordered`, `Action.ofWritten?_of_reordered`). This is not quite a matter of names: a member
that is not asked for is kept while reading, so it must have a value. But whether it has one
does not depend on where it stands.
-/

/-! ## Lists that are read item by item -/

section

variable {α β γ : Type} {r : α → β → Prop} {o : Option α} {o' : Option β}

/-- **What is made of related values** is the same if the relation says so. -/
theorem Option.Rel.bind_eq {f : α → Option γ} {g : β → Option γ} (h : Option.Rel r o o')
    (hfg : ∀ a b, o = Option.some a → r a b → f a = g b) : o.bind f = o'.bind g := by
  cases h with
  | none => rfl
  | some hab => exact hfg _ _ rfl hab

/-- **A list in another order** is read item by item into the same in that order. -/
theorem List.Perm.rel_mapM {f : α → Option β} {l l' : List α} (h : l.Perm l') :
    Option.Rel List.Perm (l.mapM f) (l'.mapM f) := by
  induction h with
  | nil => exact .some .nil
  | @cons a l l' _ ih =>
    rw [List.mapM_cons, List.mapM_cons]
    cases f a with
    | none => exact .none
    | some b =>
      generalize l.mapM f = o at ih ⊢
      generalize l'.mapM f = o' at ih ⊢
      cases ih with
      | none => exact .none
      | some hperm => exact .some (hperm.cons b)
  | swap a a' l =>
    simp only [List.mapM_cons]
    cases f a <;> cases f a' <;> cases l.mapM f <;> first | exact .none | exact .some (.swap _ _ _)
  | trans _ _ ih ih' =>
    revert ih ih'
    generalize List.mapM f _ = o₁, List.mapM f _ = o₂, List.mapM f _ = o₃
    intro ih ih'
    cases ih with
    | none => exact ih'
    | some hperm =>
      cases ih' with
      | some hperm' => exact .some (hperm.trans hperm')

/-- **The order of at most one item is its only one.** -/
theorem List.Perm.eq_or_two_le {l l' : List α} (h : l.Perm l') :
    l = l' ∨ 2 ≤ l.length ∧ 2 ≤ l'.length := by
  have hlength := h.length_eq
  rcases l with _ | ⟨a, _ | ⟨a', l⟩⟩
  · exact Or.inl h.nil_eq
  · exact Or.inl h.singleton_eq
  · exact Or.inr ⟨by simp, by rw [← hlength]; simp⟩

end

namespace Rehearsal

namespace Json

variable {k name : String} {w w' : Written} {front back ms ms' : List (String × Written)}

/-! ## Members by their names -/

/-- A member whose name is a text. -/
def withName? (m : Option String × Written) : Option (String × Written) :=
  m.1.map fun k => (k, m.2)

/-- Members that all have texts for names. -/
def named? (members : List (Option String × Written)) : Option (List (String × Written)) :=
  members.mapM withName?

theorem members?_object (members : List (Option String × Written)) :
    (Written.object members).members? = named? members := rfl

theorem named?_cons (k : String) (w : Written) (members : List (Option String × Written)) :
    named? ((some k, w) :: members) = (named? members).map ((k, w) :: ·) := by
  unfold named?
  rw [List.mapM_cons]
  cases members.mapM withName? <;> rfl

theorem named?_append (front back : List (Option String × Written)) :
    named? (front ++ back) = (named? front).bind fun before =>
      (named? back).map fun after => before ++ after := by
  unfold named?
  rw [List.mapM_append]
  cases front.mapM withName? with
  | none => rfl
  | some before => cases back.mapM withName? <;> rfl

/-- **A member among others** is read among them. -/
theorem named?_middle (front back : List (Option String × Written)) (k : String) (w : Written) :
    named? (front ++ (some k, w) :: back) = (named? front).bind fun before =>
      (named? back).map fun after => before ++ (k, w) :: after := by
  rw [named?_append, named?_cons]
  simp only [Option.map_map, Function.comp_def]

/-! ## The values under a name -/

theorem valuesOf_append (name : String) (front back : List (String × Written)) :
    valuesOf name (front ++ back) = valuesOf name front ++ valuesOf name back := by
  rw [valuesOf, List.filter_append, List.map_append]
  rfl

theorem valuesOf_cons_self (k : String) (w : Written) (ms : List (String × Written)) :
    valuesOf k ((k, w) :: ms) = w :: valuesOf k ms := by
  simp [valuesOf]

theorem valuesOf_cons_of_ne (h : k ≠ name) (w : Written) (ms : List (String × Written)) :
    valuesOf name ((k, w) :: ms) = valuesOf name ms := by
  simp [valuesOf, h]

/-- **A member is nothing to other names.** -/
theorem valuesOf_middle_of_ne (h : k ≠ name) :
    valuesOf name (front ++ (k, w) :: back) = valuesOf name (front ++ back) := by
  rw [valuesOf_append, valuesOf_cons_of_ne h, valuesOf_append]

theorem valuesOf_middle_self :
    valuesOf k (front ++ (k, w) :: back) = valuesOf k front ++ w :: valuesOf k back := by
  rw [valuesOf_append, valuesOf_cons_self]

/-- **Members in another order** have the same values under each name. -/
theorem perm_valuesOf (h : ms.Perm ms') (name : String) :
    (valuesOf name ms).Perm (valuesOf name ms') :=
  (h.filter _).map _

/-! ## Whether members can be kept -/

namespace Written

/-- **Members can be kept** if their names are texts and each value can be kept. -/
theorem isSome_memberValues?_iff {levels : Nat} {members : List (Option String × Written)} :
    (memberValues? levels members).isSome = true
      ↔ ∀ m ∈ members, m.1.isSome = true ∧ (value? levels m.2).isSome = true := by
  induction members with
  | nil => simp [memberValues?]
  | cons m members ih =>
    obtain ⟨k, w⟩ := m
    rw [memberValues?, List.forall_mem_cons, ← ih]
    cases k with
    | none => simp
    | some k => cases value? levels w <;> cases memberValues? levels members <;> simp

theorem isSome_value?_object_iff {levels : Nat} {members : List (Option String × Written)} :
    (value? levels (.object members)).isSome = true ↔ levels ≠ 0
      ∧ ∀ m ∈ members, m.1.isSome = true ∧ (value? (levels - 1) m.2).isSome = true := by
  rw [value?, ← isSome_memberValues?_iff]
  by_cases hlevels : levels = 0
  · simp [hlevels]
  · rw [if_neg hlevels, Option.isSome_map]
    simp [hlevels]

/-- **Whether an object can be kept** does not depend on the order of its members. -/
theorem isSome_value?_of_perm {levels : Nat} {members members' : List (Option String × Written)}
    (h : members.Perm members') :
    (value? levels (.object members)).isSome = (value? levels (.object members')).isSome := by
  rw [Bool.eq_iff_iff, isSome_value?_object_iff, isSome_value?_object_iff]
  exact and_congr_right' (forall_congr' fun m => imp_congr_left h.mem_iff)

/-- Nor on what stands under a name, but on whether that can be kept. -/
theorem isSome_value?_middle {front back : List (Option String × Written)} {k : Option String}
    (h : ∀ levels, (value? levels w).isSome = (value? levels w').isSome) (levels : Nat) :
    (value? levels (.object (front ++ (k, w) :: back))).isSome
      = (value? levels (.object (front ++ (k, w') :: back))).isSome := by
  rw [Bool.eq_iff_iff, isSome_value?_object_iff, isSome_value?_object_iff]
  simp only [List.forall_mem_append, List.forall_mem_cons, h]

end Written

end Json

namespace Action

open Json (Written valuesOf named?)

variable {k name : String} {w w' : Written} {front back ms ms' : List (String × Written)}

/-! ## The one value under a name -/

theorem only?_of_two_le (h : 2 ≤ (valuesOf name ms).length) : only? name ms = none := by
  unfold only?
  split
  · next hvalues =>
    rw [hvalues] at h
    exact absurd h (by simp)
  · rfl

/-- **The one value under a name** is told by the values there, in whatever order. -/
theorem only?_congr (h : (valuesOf name ms).Perm (valuesOf name ms')) :
    only? name ms = only? name ms' := by
  rcases h.eq_or_two_le with heq | ⟨htwo, htwo'⟩
  · rw [only?, only?, heq]
  · rw [only?_of_two_le htwo, only?_of_two_le htwo']

/-- The one value under the name of a member is the value of the member, if there is one. -/
theorem rel_only?_middle : Option.Rel (fun v v' => v = w ∧ v' = w')
    (only? k (front ++ (k, w) :: back)) (only? k (front ++ (k, w') :: back)) := by
  unfold only?
  rw [Json.valuesOf_middle_self, Json.valuesOf_middle_self]
  rcases valuesOf k front with _ | ⟨v, _ | ⟨v', vs⟩⟩
  · rcases valuesOf k back with _ | ⟨v, vs⟩
    · exact .some ⟨rfl, rfl⟩
    · exact .none
  · exact .none
  · exact .none

/-! ## Actions in another order -/

/-- The action that members stand for. -/
def ofMembers? (members : List (String × Written)) : Option Action := do
  let typeName ← (only? "type" members).bind typeName?
  let details ← (only? "details" members).bind Written.members?
  let tag ← textPart? "lang" members
  let kind ← kind? typeName details
  pure ⟨kind, ⟨tag⟩⟩

/-- **An action is read off its members**, if it can be kept. -/
theorem ofWritten?_eq (levels : Nat) (w : Written) : ofWritten? levels w
    = w.members?.bind fun members => if (w.value? levels).isSome then ofMembers? members else none := by
  rw [ofWritten?]
  cases w.members? with
  | none => rfl
  | some members => cases w.value? levels <;> rfl

/-- The kind of a name, with its parts in another order. -/
theorem kind?_of_perm (typeName : String) (h : ms.Perm ms') : kind? typeName ms = kind? typeName ms' := by
  have honly : ∀ name, only? name ms = only? name ms' := fun name =>
    only?_congr (Json.perm_valuesOf h name)
  simp only [kind?, textPart?, textsPart?, honly]

theorem ofMembers?_of_perm (h : ms.Perm ms') : ofMembers? ms = ofMembers? ms' := by
  have honly : ∀ name, only? name ms = only? name ms' := fun name =>
    only?_congr (Json.perm_valuesOf h name)
  simp only [ofMembers?, textPart?, honly]

/-- Members with the parts in another order. -/
theorem ofMembers?_middle {details details' : List (Option String × Written)}
    (h : details.Perm details') : ofMembers? (front ++ ("details", .object details) :: back)
      = ofMembers? (front ++ ("details", .object details') :: back) := by
  have hothers : ∀ name, "details" ≠ name →
      only? name (front ++ ("details", .object details) :: back)
        = only? name (front ++ ("details", .object details') :: back) := fun name hne =>
    only?_congr (by rw [Json.valuesOf_middle_of_ne hne, Json.valuesOf_middle_of_ne hne])
  have hone : Option.Rel (fun v v' => v = .object details ∧ v' = .object details')
      (only? "details" (front ++ ("details", .object details) :: back))
      (only? "details" (front ++ ("details", .object details') :: back)) := rel_only?_middle
  have hdetails : Option.Rel List.Perm
      ((only? "details" (front ++ ("details", .object details) :: back)).bind Written.members?)
      ((only? "details" (front ++ ("details", .object details') :: back)).bind
        Written.members?) := by
    revert hone
    generalize only? "details" _ = o, only? "details" _ = o'
    rintro (⟨rfl, rfl⟩ | -)
    · exact h.rel_mapM
    · exact .none
  simp only [ofMembers?, textPart?, hothers "type" (by decide), hothers "lang" (by decide)]
  refine congrArg (Option.bind _) (funext fun typeName => hdetails.bind_eq fun ds ds' _ hperm => ?_)
  rw [kind?_of_perm typeName hperm]

/-- **An action in another order**: the members of it, or of its parts. -/
inductive Reordered : Written → Written → Prop
  | members {members members' : List (Option String × Written)} (h : members.Perm members') :
    Reordered (.object members) (.object members')
  | details {front back details details' : List (Option String × Written)}
    (h : details.Perm details') :
    Reordered (.object (front ++ (some "details", .object details) :: back))
      (.object (front ++ (some "details", .object details') :: back))

/-- **An action does not depend on the order of its members.** -/
theorem ofWritten?_of_reordered (h : Reordered w w') (levels : Nat) :
    ofWritten? levels w = ofWritten? levels w' := by
  rw [ofWritten?_eq, ofWritten?_eq]
  cases h with
  | members hperm =>
    rw [Written.isSome_value?_of_perm hperm, Json.members?_object, Json.members?_object]
    refine hperm.rel_mapM.bind_eq fun ms ms' _ hms => ?_
    rw [ofMembers?_of_perm hms]
  | details hperm =>
    rw [Written.isSome_value?_middle fun levels => Written.isSome_value?_of_perm hperm,
      Json.members?_object, Json.members?_object, Json.named?_middle, Json.named?_middle]
    simp only [Option.bind_assoc, Option.bind_map, Function.comp_def, ofMembers?_middle hperm]

end Action

end Rehearsal
