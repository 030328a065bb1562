import Mathlib.Data.List.DropRight
import Rehearsal.Proofs.Action.Parts
import Rehearsal.Proofs.Action.Shapes

/-!
# Groups that can be called

A call may stand anywhere in a line, and it is found by a search that holds a name and forgets it
again (`callAfter`). What is found can be said without the search. A **group** is a bracket that is
closed later, with a name right before it (`Group`), and a line without an earlier shape is the call
of its **first group** (`call_of_first_group`). Everything between may be anything: an argument may
hold a bracket that opens, and the first bracket that closes ends it all the same.

The name is what is left of the run of name characters before the bracket, from the first of them
that a name can begin with (`nameAtEnd`). So digits and letters of other alphabets before the name
are not in the way, and are no part of it either.
-/

namespace Rehearsal.Action

open Rehearsal.Text

variable {line before back args rest name cs : List Char} {k : Kind}

/-! ## The name before a bracket -/

/-- **The run of name characters** at the end of a text, as long as it goes. -/
def runAtEnd (cs : List Char) : List Char := cs.rtakeWhile isNameChar

/-- **The name at the end of a text**: what is left of the run there, from the first character that
can begin a name. -/
def nameAtEnd (cs : List Char) : List Char := (runAtEnd cs).dropWhile fun c => !isNameStart c

theorem nameAtEnd_ne_nil_iff : nameAtEnd cs ≠ [] ↔ ∃ c ∈ runAtEnd cs, isNameStart c = true := by
  rw [nameAtEnd, ne_eq, List.dropWhile_eq_nil_iff]
  simp

/-- No name is held after a text that ends in no name character. -/
theorem foldl_nameAfter_rdropWhile (cs : List Char) :
    (cs.rdropWhile isNameChar).foldl nameAfter [] = [] := by
  rcases List.eq_nil_or_concat (cs.rdropWhile isNameChar) with hnil | ⟨front, c, hconcat⟩
  · rw [hnil, List.foldl_nil]
  · have hlast := List.rdropWhile_last_not isNameChar cs (by simp [hconcat])
    have hc : ¬isNameChar c = true := by simpa [hconcat] using hlast
    rw [hconcat, List.concat_eq_append, List.foldl_append, List.foldl_cons, List.foldl_nil,
      nameAfter, if_neg fun h => hc h.1]

/-- **The search holds the name at the end** of what it has gone through. -/
theorem foldl_nameAfter_eq (cs : List Char) : cs.foldl nameAfter [] = (nameAtEnd cs).reverse := by
  have hrun : ∀ c ∈ runAtEnd cs, isNameChar c = true := fun c hc => List.mem_rtakeWhile_imp hc
  calc cs.foldl nameAfter []
      = (cs.rdropWhile isNameChar ++ runAtEnd cs).foldl nameAfter [] := by
        rw [runAtEnd, List.rdropWhile_append_rtakeWhile]
    _ = (runAtEnd cs).foldl nameAfter [] := by
        rw [List.foldl_append, foldl_nameAfter_rdropWhile]
    _ = (nameAtEnd cs).reverse := foldl_nameAfter hrun

/-! ## Groups -/

/-- **A group**: a bracket with a name right before it, closed later in the line. -/
structure Group (line before back : List Char) : Prop where
  split : line = before ++ '(' :: back
  named : ∃ c ∈ runAtEnd before, isNameStart c = true
  closed : ')' ∈ back

/-- **The first group of a line.** -/
structure FirstGroup (line before back : List Char) : Prop extends Group line before back where
  first : ∀ before' back', Group line before' back' → before.length ≤ before'.length

/-- A line with a group has a first one. -/
theorem Group.exists_first (h : Group line before back) :
    ∃ before back, FirstGroup line before back := by
  induction hn : before.length using Nat.strong_induction_on generalizing before back with
  | _ n ih =>
    by_cases hfirst : ∀ before' back', Group line before' back' → before.length ≤ before'.length
    · exact ⟨before, back, h, hfirst⟩
    · push Not at hfirst
      obtain ⟨before', back', hgroup, hless⟩ := hfirst
      exact ih before'.length (hn ▸ hless) hgroup rfl

/-- The arguments of a group end somewhere. -/
theorem Group.exists_args (h : Group line before back) :
    ∃ args rest, FirstAt [')'] back args rest :=
  exists_firstAt ((List.singleton_infix_iff _ _).mpr h.closed)

/-! ## What the search finds -/

/-- **What is found is a group**, after whatever name the search begins with. -/
theorem exists_bracket_of_callAfter (h : callAfter name cs = some k) :
    ∃ before back, cs = before ++ '(' :: back ∧ before.foldl nameAfter name ≠ [] ∧ ')' ∈ back := by
  induction cs generalizing name with
  | nil => cases h
  | cons c cs ih =>
    rw [callAfter] at h
    split at h
    · next hbracket =>
      obtain ⟨⟨args, rest⟩, hcut, -⟩ := Option.map_eq_some_iff.mp h
      refine ⟨[], cs, by rw [hbracket.1]; rfl, hbracket.2, ?_⟩
      rw [(firstAt_of_cut hcut).split]
      simp
    · obtain ⟨before, back, rfl, hname, hclosed⟩ := ih h
      exact ⟨c :: before, back, rfl, hname, hclosed⟩

/-- **The first group is what is found.** An earlier bracket with a name before it would be closed
as well, so it would be a group before the first. -/
theorem FirstGroup.callAfter_eq (h : FirstGroup line before back)
    (hargs : FirstAt [')'] back args rest) :
    callAfter [] line
      = some (.call (String.ofList (nameAtEnd before)) (commaPieces args)) := by
  have hunnamed : ∀ front between, before = front ++ '(' :: between →
      front.foldl nameAfter [] = [] := by
    rintro front between rfl
    by_contra hname
    rw [foldl_nameAfter_eq, List.reverse_eq_nil_iff] at hname
    have hgroup : Group line front (between ++ '(' :: back) :=
      ⟨by rw [h.split]; simp, nameAtEnd_ne_nil_iff.mp hname, by simp [h.closed]⟩
    have hlength := h.first _ _ hgroup
    rw [List.length_append, List.length_cons] at hlength
    omega
  have hname : (nameAtEnd before).reverse ≠ [] :=
    mt List.reverse_eq_nil_iff.mp (nameAtEnd_ne_nil_iff.mpr h.named)
  rw [h.split, callAfter_append_of_unnamed hunnamed, foldl_nameAfter_eq, callAfter,
    if_pos ⟨rfl, hname⟩, hargs.cut_eq, Option.map_some, List.reverse_reverse]

/-- **Nothing is found in a line without a group.** -/
theorem callAfter_eq_none (h : ∀ before back, ¬Group line before back) :
    callAfter [] line = none := by
  cases hcall : callAfter [] line with
  | none => rfl
  | some k =>
    obtain ⟨before, back, hline, hname, hclosed⟩ := exists_bracket_of_callAfter hcall
    rw [foldl_nameAfter_eq, ne_eq, List.reverse_eq_nil_iff] at hname
    exact absurd ⟨hline, nameAtEnd_ne_nil_iff.mp hname, hclosed⟩ (h before back)

/-! ## Lines without an earlier shape -/

/-- **A line that is nothing before a call** is what the search for a call finds, or is unknown. -/
theorem kindOf_of_unshaped (hbreak : '\n' ∉ line)
    (hdefinition : ∀ name params, kindOf line ≠ .definition name params)
    (hreturning : ∀ value, kindOf line ≠ .returning value) (hassign : '=' ∉ line) :
    kindOf line = (callAfter [] line).getD (.unknown (String.ofList line)) := by
  have hassignment := assignment?_eq_none_iff.mpr hassign
  rw [← call?_of_unbroken hbreak]
  have hfits := fits_kindOf line
  generalize kindOf line = k at *
  cases hfits with
  | definition hd =>
    obtain ⟨name, params, rfl⟩ := exists_eq_definition hd
    exact absurd rfl (hdefinition name params)
  | returning _ hr =>
    obtain ⟨value, rfl⟩ := exists_eq_returning hr
    exact absurd rfl (hreturning value)
  | assignment _ _ ha =>
    rw [hassignment] at ha
    cases ha
  | call _ _ _ hc => rw [hc, Option.getD_some]
  | unknown _ _ _ hc => rw [hc, Option.getD_none]

/-- **A call is the first group of its line.** Take any line that is neither a definition nor a
return, and has no `=`. It is a call if and only if it has a group: a bracket with a run of name
characters right before it, one of which can begin a name, and a bracket that closes after it. Then
the first such group is called. The target is what is left of the run from the first character that
can begin a name. The arguments are the pieces between the commas up to the first bracket that
closes, each trimmed, and there is always one at least. A line without a group is unknown, and kept
as it is. -/
theorem call_of_first_group (line : String) (hbreak : '\n' ∉ line.toList)
    (hdefinition : ∀ name params, (classify line).kind ≠ .definition name params)
    (hreturning : ∀ value, (classify line).kind ≠ .returning value) (hassign : '=' ∉ line.toList) :
    ((∃ target args, (classify line).kind = .call target args)
        ↔ ∃ before back, Group line.toList before back)
      ∧ ((∃ before back, Group line.toList before back) →
          ∃ before back args rest, FirstGroup line.toList before back
            ∧ FirstAt [')'] back args rest)
      ∧ (∀ before back args rest, FirstGroup line.toList before back →
          FirstAt [')'] back args rest → classify line
            = ⟨.call (String.ofList (nameAtEnd before))
                ((args.splitOn ',').map fun piece => trimmed (String.ofList piece)), .javascript⟩)
      ∧ (∀ target args, (classify line).kind = .call target args → args ≠ [])
      ∧ ((¬∃ before back, Group line.toList before back) →
          classify line = ⟨.unknown line, .javascript⟩) := by
  have hkind := kindOf_of_unshaped hbreak hdefinition hreturning hassign
  have hnone : (¬∃ before back, Group line.toList before back) →
      kindOf line.toList = .unknown line := by
    intro h
    rw [hkind, callAfter_eq_none fun before back hgroup => h ⟨before, back, hgroup⟩,
      Option.getD_none, String.ofList_toList]
  have hfirst : ∀ before back args rest, FirstGroup line.toList before back →
      FirstAt [')'] back args rest →
        kindOf line.toList = .call (String.ofList (nameAtEnd before)) (commaPieces args) := by
    intro before back args rest hgroup hargs
    rw [hkind, hgroup.callAfter_eq hargs, Option.getD_some]
  have hexists : (∃ before back, Group line.toList before back) →
      ∃ before back args rest, FirstGroup line.toList before back
        ∧ FirstAt [')'] back args rest := by
    rintro ⟨before, back, hgroup⟩
    obtain ⟨before, back, hgroup⟩ := hgroup.exists_first
    obtain ⟨args, rest, hargs⟩ := hgroup.exists_args
    exact ⟨before, back, args, rest, hgroup, hargs⟩
  refine ⟨⟨fun ⟨target, args, hcall⟩ => ?_, fun h => ?_⟩, hexists,
    fun before back args rest hgroup hargs => ?_, fun target args hcall => ?_, fun h => ?_⟩
  · by_contra hgroup
    rw [show (classify line).kind = _ from hnone hgroup] at hcall
    cases hcall
  · obtain ⟨before, back, args, rest, hgroup, hargs⟩ := hexists h
    exact ⟨_, _, hfirst before back args rest hgroup hargs⟩
  · rw [← commaPieces_eq, classify, ofLine, hfirst before back args rest hgroup hargs]
    rfl
  · obtain ⟨_, pieces, -, -, -, heq⟩ := of_call? (call?_of_kindOf hcall)
    obtain ⟨-, rfl⟩ := Kind.call.inj heq
    exact commaPieces_ne_nil pieces
  · rw [classify, ofLine, hnone h]
    rfl

/-- A bracket after a letter and a digit that begin no name is passed over, and so are the digit and
the letter before the name of the next one. The bracket that opens in its arguments is a part of
them. -/
theorem call_of_first_group_passed_over :
    classify "é9(x) 7é.a1.b( f(1 , 2) ) g(" = ⟨.call "a1.b" ["f(1", "2"], .javascript⟩ := by
  have hkind : (classify "é9(x) 7é.a1.b( f(1 , 2) ) g(").kind = .call "a1.b" ["f(1", "2"] := by
    decide +kernel
  have hfirst : FirstGroup "é9(x) 7é.a1.b( f(1 , 2) ) g(".toList "é9(x) 7é.a1.b".toList
      " f(1 , 2) ) g(".toList := by
    refine ⟨⟨by decide, List.any_eq_true.mp (by decide +kernel), by decide⟩,
      fun before back hgroup => ?_⟩
    have hbefore : before = "é9(x) 7é.a1.b( f(1 , 2) ) g(".toList.take before.length := by
      rw [hgroup.split, List.take_left']
      rfl
    have hbracket : "é9(x) 7é.a1.b( f(1 , 2) ) g(".toList[before.length]? = some '(' := by
      rw [hgroup.split, List.getElem?_append_right (Nat.le_refl _), Nat.sub_self]
      rfl
    have hunnamed : ∀ n < 13, "é9(x) 7é.a1.b( f(1 , 2) ) g(".toList[n]? = some '(' →
        (runAtEnd ("é9(x) 7é.a1.b( f(1 , 2) ) g(".toList.take n)).any isNameStart = false := by
      decide +kernel
    by_contra hless
    have hany := hunnamed before.length (Nat.not_le.mp hless) hbracket
    rw [← hbefore] at hany
    obtain ⟨c, hc, hstart⟩ := hgroup.named
    exact List.any_eq_false.mp hany c hc hstart
  have hargs : FirstAt [')'] " f(1 , 2) ) g(".toList " f(1 , 2".toList " ) g(".toList :=
    firstAt_of_cut (by decide)
  have hcall := (call_of_first_group "é9(x) 7é.a1.b( f(1 , 2) ) g(" (by decide) (by simp [hkind])
    (by simp [hkind]) (by decide)).2.2.1 _ _ _ _ hfirst hargs
  refine hcall.trans ?_
  decide +kernel

end Rehearsal.Action
