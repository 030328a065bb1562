import Rehearsal.Proofs.Action.Groups
import Rehearsal.Proofs.Action.Precedence

/-!
# The shapes as searches

Three of the shapes are patterns: some fixed characters, and between them pieces that are any
characters of a class. A line is searched for a match of a pattern, and if there are several, **the
one that begins first** is taken. Where a match begins, its pieces may still have several lengths. A
piece is *lazy* if the shortest is preferred, and *greedy* if the longest is.

The recognisers do not search like that. They go through a line once, and each in its own way. What
they find is the match all the same: the lazy one of the pattern of definitions
(`definition?_eq_some_iff_lazy`), the greedy one of the pattern of returns
(`returning?_eq_some_iff_greedy`), and of the pattern of calls the leftmost, with its arguments as
short as they can be (`call?_eq_some_iff_leftmost`). All this is so for any line, also one that has
breaks. Blanks may be breaks, and what is between brackets has none.

A line asks for what the first of the patterns with a match says (`kindOf_eq_iff_searched`).
-/

namespace Rehearsal.Action

open Rehearsal.Text

variable {line piece blanks name params value before args after : List Char} {k : Kind}

/-! ## Definitions -/

/-- **A match of `^def\s+(\w+)\((.*?)\):`**: the opening of a definition, and parameters without a
break before `):`. -/
structure DefinitionMatch (line blanks name params after : List Char) : Prop where
  opening : Opening line blanks name (params ++ [')', ':'] ++ after)
  unbroken : '\n' ∉ params

/-- **The lazy match**: no other has fewer parameters. -/
structure LazyDefinition (line blanks name params after : List Char) : Prop
    extends DefinitionMatch line blanks name params after where
  least : ∀ blanks' name' params' after', DefinitionMatch line blanks' name' params' after' →
    params.length ≤ params'.length

/-- **The lazy match ends at the first mark** after the opening. -/
theorem lazyDefinition_iff :
    LazyDefinition line blanks name params after
      ↔ ∃ rest, Opening line blanks name rest ∧ FirstAt [')', ':'] rest params after
        ∧ '\n' ∉ params := by
  constructor
  · intro h
    refine ⟨_, h.opening, ⟨rfl, fun params' after' hsplit => ?_⟩, h.unbroken⟩
    by_contra hless
    -- an earlier mark would end a shorter match, since what is before it has no break either
    have hbegins : params' <+: params := prefix_of_length_le hsplit.symm (Nat.le_of_not_le hless)
    have hmatch : DefinitionMatch line blanks name params' after' :=
      ⟨hsplit ▸ h.opening, fun hbreak => h.unbroken (hbegins.mem hbreak)⟩
    exact hless (h.least blanks name params' after' hmatch)
  · rintro ⟨rest, hopening, hfirst, hunbroken⟩
    refine ⟨⟨hfirst.split ▸ hopening, hunbroken⟩, fun blanks' name' params' after' h => ?_⟩
    obtain ⟨-, -, hrest⟩ := hopening.unique h.opening
    exact hfirst.first params' after' hrest.symm

/-- Where there is a match, there is a lazy one. -/
theorem DefinitionMatch.exists_lazy (h : DefinitionMatch line blanks name params after) :
    ∃ params after, LazyDefinition line blanks name params after := by
  obtain ⟨params', after', hfirst⟩ :=
    exists_firstAt (⟨params, after, rfl⟩ : [')', ':'] <:+: params ++ [')', ':'] ++ after)
  have hbegins : params' <+: params :=
    prefix_of_length_le hfirst.split.symm (hfirst.first params after rfl)
  exact ⟨params', after', lazyDefinition_iff.mpr
    ⟨_, h.opening, hfirst, fun hbreak => h.unbroken (hbegins.mem hbreak)⟩⟩

theorem beforeInLine_eq_some_iff {mark cs before : List Char} :
    beforeInLine mark cs = some before ↔ ∃ after, FirstAt mark cs before after ∧ '\n' ∉ before := by
  unfold beforeInLine
  constructor
  · intro h
    split at h
    · next before' after hcut =>
      split at h
      · cases h
      · next hbreak =>
        obtain rfl := Option.some.inj h
        exact ⟨after, firstAt_of_cut hcut, hbreak⟩
    · cases h
  · rintro ⟨after, hfirst, hbreak⟩
    rw [hfirst.cut_eq]
    exact if_neg hbreak

/-- **A definition is the lazy match of its pattern.** -/
theorem definition?_eq_some_iff_lazy :
    definition? line = some k
      ↔ ∃ blanks name params after, LazyDefinition line blanks name params after
        ∧ k = .definition (String.ofList name) ((commaPieces params).filter (· ≠ "")) := by
  rw [definition?_eq_some_iff]
  constructor
  · rintro ⟨name, rest, params, hheader, hbefore, rfl⟩
    obtain ⟨blanks, hopening⟩ := header_iff_exists_opening.mp hheader
    obtain ⟨after, hfirst, hbreak⟩ := beforeInLine_eq_some_iff.mp hbefore
    exact ⟨blanks, name, params, after,
      lazyDefinition_iff.mpr ⟨rest, hopening, hfirst, hbreak⟩, rfl⟩
  · rintro ⟨blanks, name, params, after, hlazy, rfl⟩
    obtain ⟨rest, hopening, hfirst, hbreak⟩ := lazyDefinition_iff.mp hlazy
    exact ⟨name, rest, params, header_iff_exists_opening.mpr ⟨blanks, hopening⟩,
      beforeInLine_eq_some_iff.mpr ⟨after, hfirst, hbreak⟩, rfl⟩

/-- A line without a match is no definition. -/
theorem definition?_eq_none_iff_no_match :
    definition? line = none
      ↔ ∀ blanks name params after, ¬DefinitionMatch line blanks name params after := by
  constructor
  · intro hnone blanks name params after hmatch
    obtain ⟨params', after', hlazy⟩ := hmatch.exists_lazy
    have hsome := definition?_eq_some_iff_lazy.mpr ⟨blanks, name, params', after', hlazy, rfl⟩
    rw [hnone] at hsome
    cases hsome
  · intro h
    refine Option.eq_none_iff_forall_ne_some.mpr fun k hk => ?_
    obtain ⟨blanks, name, params, after, hlazy, -⟩ := definition?_eq_some_iff_lazy.mp hk
    exact h blanks name params after hlazy.toDefinitionMatch

/-! ## Returns -/

/-- **A match of `^return(?:\s+(.*))?$`**: the keyword, and then blanks and a value without a break
up to the end, or nothing. -/
structure ReturnMatch (line blanks value : List Char) : Prop where
  split : line = "return".toList ++ blanks ++ value
  blank : ∀ c ∈ blanks, isBlank c = true
  alone : blanks = [] → value = []
  unbroken : '\n' ∉ value

/-- **The greedy match**: no other has more blanks. So what may follow the keyword is left out only
if there is no other match. -/
structure GreedyReturn (line blanks value : List Char) : Prop
    extends ReturnMatch line blanks value where
  most : ∀ blanks' value', ReturnMatch line blanks' value' → blanks'.length ≤ blanks.length

/-- Any match says what is returned, because the value is trimmed. -/
theorem ReturnMatch.returning? (h : ReturnMatch line blanks value) :
    returning? line = some (.returning (String.ofList (trim value))) := by
  rw [returning?_eq_some_iff]
  obtain ⟨rfl, hblank, halone, hbreak⟩ := h
  cases blanks with
  | nil =>
    obtain rfl := halone rfl
    exact Or.inl ⟨by simp, rfl⟩
  | cons c blanks =>
    have hblanks := fun d hd => hblank d (List.mem_cons_of_mem c hd)
    refine Or.inr ⟨c, blanks ++ value, hblank c List.mem_cons_self, by simp, ?_, ?_⟩
    · rw [trimStart_blanks_append hblanks]
      exact fun hmem => hbreak ((List.dropWhile_suffix _).mem hmem)
    · rw [trim_blanks_append hblanks]

/-- **A return is the greedy match of its pattern.** -/
theorem returning?_eq_some_iff_greedy :
    returning? line = some k
      ↔ ∃ blanks value, GreedyReturn line blanks value
        ∧ k = .returning (String.ofList (trim value)) := by
  constructor
  · intro h
    rcases returning?_eq_some_iff.mp h with ⟨rfl, rfl⟩ | ⟨c, rest, hc, rfl, hbreak, rfl⟩
    · refine ⟨[], [], ⟨⟨by simp, by simp, fun _ => rfl, by simp⟩, fun blanks value h => ?_⟩, rfl⟩
      have hlength := congrArg List.length h.split
      rw [List.length_append, List.length_append] at hlength
      rw [List.length_nil]
      omega
    · have hvalue : (c :: rest).dropWhile isBlank = trimStart rest :=
        trimStart_cons_of_blank hc rest
      refine ⟨(c :: rest).takeWhile isBlank, (c :: rest).dropWhile isBlank,
        ⟨⟨?_, fun d hd => List.mem_takeWhile_imp hd, fun hnil => ?_, ?_⟩,
          fun blanks value h => ?_⟩, ?_⟩
      · rw [List.append_assoc, List.takeWhile_append_dropWhile]
      · rw [List.takeWhile_cons_of_pos hc] at hnil
        cases hnil
      · rwa [hvalue]
      · have hrest : c :: rest = blanks ++ value := by
          have hsplit := h.split
          rw [List.append_assoc] at hsplit
          exact List.append_cancel_left hsplit
        rw [hrest, List.takeWhile_append_of_pos h.blank, List.length_append]
        exact Nat.le_add_right _ _
      · rw [hvalue, trim_trimStart]
  · rintro ⟨blanks, value, hgreedy, rfl⟩
    exact hgreedy.toReturnMatch.returning?

/-- A line without a match is no return. -/
theorem returning?_eq_none_iff_no_match :
    returning? line = none ↔ ∀ blanks value, ¬ReturnMatch line blanks value := by
  constructor
  · intro hnone blanks value hmatch
    rw [hmatch.returning?] at hnone
    cases hnone
  · intro h
    refine Option.eq_none_iff_forall_ne_some.mpr fun k hk => ?_
    obtain ⟨blanks, value, hgreedy, -⟩ := returning?_eq_some_iff_greedy.mp hk
    exact h blanks value hgreedy.toReturnMatch

/-! ## Calls -/

/-- **A match of `([A-Za-z_][\w.]*)\((.*?)\)`**, anywhere in a line: a name and, in brackets,
arguments without a break. -/
structure CallMatch (line before name args after : List Char) : Prop where
  split : line = before ++ name ++ '(' :: (args ++ ')' :: after)
  named : ∃ c cs, name = c :: cs ∧ isNameStart c = true ∧ ∀ d ∈ cs, isNameChar d = true
  unbroken : '\n' ∉ args

/-- **The leftmost match**: no other begins before it, and none that begins there has fewer
arguments. -/
structure LeftmostCall (line before name args after : List Char) : Prop
    extends CallMatch line before name args after where
  first : ∀ before' name' args' after', CallMatch line before' name' args' after' →
    before.length ≤ before'.length
  least : ∀ name' args' after', CallMatch line before name' args' after' →
    args.length ≤ args'.length

theorem isTarget_iff :
    IsTarget name
      ↔ ∃ c cs, name = c :: cs ∧ isNameStart c = true ∧ ∀ d ∈ cs, isNameChar d = true := by
  constructor
  · rintro ⟨⟨c, hc, hstart⟩, hchars⟩
    cases name with
    | nil => cases hc
    | cons d cs =>
      obtain rfl := Option.some.inj hc
      exact ⟨d, cs, rfl, hstart, fun e he => hchars e (List.mem_cons_of_mem d he)⟩
  · rintro ⟨c, cs, rfl, hstart, hchars⟩
    exact ⟨⟨c, rfl, hstart⟩,
      List.forall_mem_cons.mpr ⟨isNameChar_of_isNameStart hstart, hchars⟩⟩

theorem CallMatch.isTarget (h : CallMatch line before name args after) : IsTarget name :=
  isTarget_iff.mpr h.named

/-! ### Names at the end of a text -/

/-- A name at the end of a text is a part of the one that is the longest there. -/
theorem IsTarget.suffix_nameAtEnd (h : IsTarget name) (before : List Char) :
    name <:+ nameAtEnd (before ++ name) := by
  have hrun : runAtEnd (before ++ name) = runAtEnd before ++ name := by
    rw [runAtEnd, List.rtakeWhile, List.reverse_append,
      List.takeWhile_append_of_pos fun c hc => h.chars c (List.mem_reverse.mp hc),
      List.reverse_append, List.reverse_reverse]
    rfl
  obtain ⟨c, cs, rfl, hstart, -⟩ := isTarget_iff.mp h
  rw [nameAtEnd, hrun, List.dropWhile_append]
  split
  · rw [List.dropWhile_cons_of_neg (by simp [hstart])]
  · exact List.suffix_append _ _

/-- What is the longest name at the end of a text is a name, if it is anything. -/
theorem isTarget_nameAtEnd (h : nameAtEnd before ≠ []) : IsTarget (nameAtEnd before) where
  start := by
    have hhead : (!isNameStart ((nameAtEnd before).head h)) = false :=
      List.head_dropWhile_not (fun c => !isNameStart c) h
    exact ⟨_, List.head?_eq_some_head h, by simpa using hhead⟩
  chars c hc := List.mem_rtakeWhile_imp ((List.dropWhile_suffix _).mem hc)

theorem nameAtEnd_suffix (before : List Char) : nameAtEnd before <:+ before :=
  (List.dropWhile_suffix _).trans (List.rtakeWhile_suffix isNameChar before)

/-! ### Lines without a break -/

/-- A match is a group. -/
theorem CallMatch.group (h : CallMatch line before name args after) :
    Group line (before ++ name) (args ++ ')' :: after) where
  split := h.split
  named := by
    have hsuffix := h.isTarget.suffix_nameAtEnd before
    refine nameAtEnd_ne_nil_iff.mp fun hnil => h.isTarget.ne_nil ?_
    exact List.suffix_nil.mp (hnil ▸ hsuffix)
  closed := by simp

/-- Where a match begins, its name is told by the line. -/
theorem CallMatch.unique {name' args' after' : List Char}
    (h : CallMatch line before name args after) (h' : CallMatch line before name' args' after') :
    name' = name ∧ args' ++ ')' :: after' = args ++ ')' :: after := by
  have hsplit := h.split.symm.trans h'.split
  rw [List.append_assoc, List.append_assoc, List.append_cancel_left_eq] at hsplit
  obtain ⟨hname, hrest⟩ := run_unique h.isTarget.chars (by decide : isNameChar '(' = false)
    h'.isTarget.chars (by decide : isNameChar '(' = false) hsplit
  exact ⟨hname, (List.cons.inj hrest).2⟩

/-- **No match begins before the name of the first group.** It would be a group before it, or have
a longer name before the same bracket. -/
theorem FirstGroup.length_le {back : List Char} {before' name' args' after' : List Char}
    (h : FirstGroup line before back) (h' : CallMatch line before' name' args' after') :
    before.length ≤ before'.length + (nameAtEnd before).length := by
  have hlength := h.first _ _ h'.group
  rw [List.length_append] at hlength
  rcases Nat.lt_or_eq_of_le hlength with hlt | heq
  · -- the bracket of the group is not in the name of the match
    by_contra hless
    have hat :
        (before' ++ name' ++ '(' :: (args' ++ ')' :: after'))[before.length]? = some '(' := by
      rw [← h'.split, h.split]
      simp
    rw [List.getElem?_append_left (by simpa using hlt), List.getElem?_append_right (by omega)]
      at hat
    have hchar := h'.isTarget.chars _ (List.mem_of_getElem? hat)
    exact absurd hchar (by decide)
  · obtain ⟨hsame, -⟩ := List.append_inj (h.split.symm.trans h'.split) (by simpa using heq)
    have hname := (h'.isTarget.suffix_nameAtEnd before').length_le
    rw [← hsame] at hname
    omega

/-- **The first group is the leftmost match**, with the longest name before its bracket. -/
theorem FirstGroup.exists_leftmost {back : List Char} (h : FirstGroup line before back)
    (hargs : FirstAt [')'] back args after) (hbreak : '\n' ∉ line) :
    ∃ front, LeftmostCall line front (nameAtEnd before) args after := by
  obtain ⟨front, hfront⟩ := nameAtEnd_suffix before
  have htarget := isTarget_nameAtEnd (nameAtEnd_ne_nil_iff.mpr h.named)
  have hsplit : line = front ++ nameAtEnd before ++ '(' :: (args ++ ')' :: after) := by
    rw [hfront, h.split, hargs.split]
    simp
  have hmatch : CallMatch line front (nameAtEnd before) args after :=
    ⟨hsplit, isTarget_iff.mp htarget, fun hmem => hbreak (by rw [hsplit]; simp [hmem])⟩
  refine ⟨front, hmatch, fun before' name' args' after' h' => ?_, fun name' args' after' h' => ?_⟩
  · have hlength := h.length_le h'
    have hbefore : before.length = front.length + (nameAtEnd before).length := by
      rw [← List.length_append, hfront]
    omega
  · obtain ⟨-, hrest⟩ := hmatch.unique h'
    refine hargs.first args' after' ?_
    rw [hargs.split, List.append_assoc, List.append_assoc]
    exact hrest.symm

/-! ### Lines with breaks -/

/-- **No match goes across a break**: it is on one side of it. -/
theorem callMatch_break_iff {rest : List Char} :
    CallMatch (piece ++ '\n' :: rest) before name args after
      ↔ (∃ after', CallMatch piece before name args after' ∧ after = after' ++ '\n' :: rest)
        ∨ ∃ before', CallMatch rest before' name args after
          ∧ before = piece ++ '\n' :: before' := by
  constructor
  · rintro ⟨hsplit, hnamed, hbreak⟩
    have hname : '\n' ∉ name :=
      not_mem_of_isNameChar (isTarget_iff.mpr hnamed).chars (by decide)
    -- the text of the match, which holds no break
    have hunbroken : '\n' ∉ name ++ '(' :: (args ++ [')']) := by simp [hname, hbreak]
    have hsplit :
        piece ++ '\n' :: rest = before ++ ((name ++ '(' :: (args ++ [')'])) ++ after) := by
      rw [hsplit]
      simp
    rcases List.append_eq_append_iff.mp hsplit with ⟨more, hbefore, hrest⟩ | ⟨more, hpiece, hmore⟩
    · cases more with
      | nil =>
        obtain ⟨c, cs, rfl, -⟩ := hnamed
        obtain rfl := (List.cons.inj hrest).1
        exact absurd List.mem_cons_self hname
      | cons c more =>
        obtain ⟨rfl, hlater⟩ := List.cons.inj hrest
        refine Or.inr ⟨more, ⟨hlater.trans ?_, hnamed, hbreak⟩, hbefore⟩
        show more ++ _ = _
        simp
    · rcases List.append_eq_append_iff.mp hmore with
        ⟨rest', hmore', hafter⟩ | ⟨rest', htext, hafter⟩
      · exact Or.inl ⟨rest', ⟨by rw [hpiece, hmore']; simp, hnamed, hbreak⟩, hafter⟩
      · cases rest' with
        | nil =>
          rw [List.append_nil] at htext
          exact Or.inl ⟨[], ⟨by rw [hpiece, ← htext]; simp, hnamed, hbreak⟩, hafter.symm⟩
        | cons c rest' =>
          obtain ⟨rfl, -⟩ := List.cons.inj hafter
          exact absurd (by rw [htext]; simp) hunbroken
  · rintro (⟨after', ⟨rfl, hnamed, hbreak⟩, rfl⟩ | ⟨before', ⟨rfl, hnamed, hbreak⟩, rfl⟩)
    · exact ⟨by simp, hnamed, hbreak⟩
    · exact ⟨by simp, hnamed, hbreak⟩

/-! ### The search -/

/-- **What is known of the calls in a line**: which match is the leftmost, or that there is none. -/
def FindsCall (line : List Char) : Option Kind → Prop
  | some k => ∃ before name args after, LeftmostCall line before name args after
      ∧ k = .call (String.ofList name) (commaPieces args)
  | none => ∀ before name args after, ¬CallMatch line before name args after

/-- In a line without a break the leftmost match is found. -/
theorem findsCall_of_unbroken (hbreak : '\n' ∉ line) : FindsCall line (call? line) := by
  rw [call?_of_unbroken hbreak]
  by_cases hgroup : ∃ before back, Group line before back
  · obtain ⟨before, back, hgroup⟩ := hgroup
    obtain ⟨before, back, hfirst⟩ := hgroup.exists_first
    obtain ⟨args, after, hargs⟩ := hfirst.exists_args
    obtain ⟨front, hleftmost⟩ := hfirst.exists_leftmost hargs hbreak
    rw [hfirst.callAfter_eq hargs]
    exact ⟨front, _, args, after, hleftmost, rfl⟩
  · rw [callAfter_eq_none fun before back h => hgroup ⟨before, back, h⟩]
    exact fun before name args after h => hgroup ⟨_, _, h.group⟩

/-- The leftmost match before a break is the leftmost of the line. -/
theorem LeftmostCall.append_break (h : LeftmostCall piece before name args after)
    (rest : List Char) :
    LeftmostCall (piece ++ '\n' :: rest) before name args (after ++ '\n' :: rest) := by
  have hlength : before.length ≤ piece.length := by
    rw [h.split, List.append_assoc, List.length_append]
    exact Nat.le_add_right _ _
  refine ⟨callMatch_break_iff.mpr (Or.inl ⟨after, h.toCallMatch, rfl⟩),
    fun before' name' args' after' h' => ?_, fun name' args' after' h' => ?_⟩
  · rcases callMatch_break_iff.mp h' with ⟨_, hpiece, -⟩ | ⟨_, -, rfl⟩
    · exact h.first _ _ _ _ hpiece
    · rw [List.length_append]
      omega
  · rcases callMatch_break_iff.mp h' with ⟨_, hpiece, -⟩ | ⟨_, -, rfl⟩
    · exact h.least _ _ _ hpiece
    · rw [List.length_append, List.length_cons] at hlength
      omega

/-- Without a match before a break the leftmost match after it is the leftmost of the line. -/
theorem LeftmostCall.break_append {rest : List Char} (h : LeftmostCall rest before name args after)
    (hpiece : ∀ before name args after, ¬CallMatch piece before name args after) :
    LeftmostCall (piece ++ '\n' :: rest) (piece ++ '\n' :: before) name args after := by
  refine ⟨callMatch_break_iff.mpr (Or.inr ⟨before, h.toCallMatch, rfl⟩),
    fun before' name' args' after' h' => ?_, fun name' args' after' h' => ?_⟩
  · rcases callMatch_break_iff.mp h' with ⟨_, hmatch, -⟩ | ⟨before', hmatch, rfl⟩
    · exact absurd hmatch (hpiece _ _ _ _)
    · simpa using h.first _ _ _ _ hmatch
  · rcases callMatch_break_iff.mp h' with ⟨_, hmatch, -⟩ | ⟨before', hmatch, heq⟩
    · exact absurd hmatch (hpiece _ _ _ _)
    · obtain ⟨-, rfl⟩ := List.cons.inj (List.append_cancel_left heq)
      exact h.least _ _ _ hmatch

/-- **The leftmost match is found**, stretch by stretch between the breaks of a line. -/
theorem findsCall_call? (line : List Char) : FindsCall line (call? line) := by
  by_cases hbreak : '\n' ∈ line
  · obtain ⟨piece, rest, hline, hpiece⟩ := List.eq_append_cons_of_mem hbreak
    have hcall : call? line = (call? piece).or (call? rest) := by
      rw [call?_of_unbroken hpiece, hline, call?,
        List.splitOn_append_cons_self_of_not_mem hpiece, List.findSome?_cons, call?]
      cases callAfter [] piece <;> rfl
    have hfinds := findsCall_of_unbroken hpiece
    have hrest := findsCall_call? rest
    rw [hcall]
    subst hline
    cases hfound : call? piece with
    | some k =>
      rw [hfound] at hfinds
      obtain ⟨before, name, args, after, hleftmost, rfl⟩ := hfinds
      exact ⟨before, name, args, _, hleftmost.append_break rest, rfl⟩
    | none =>
      rw [hfound] at hfinds
      rw [Option.none_or]
      cases hfound' : call? rest with
      | some k =>
        rw [hfound'] at hrest
        obtain ⟨before, name, args, after, hleftmost, rfl⟩ := hrest
        exact ⟨_, name, args, after, hleftmost.break_append hfinds, rfl⟩
      | none =>
        rw [hfound'] at hrest
        intro before name args after h
        rcases callMatch_break_iff.mp h with ⟨_, hmatch, -⟩ | ⟨_, hmatch, -⟩
        · exact hfinds _ _ _ _ hmatch
        · exact hrest _ _ _ _ hmatch
  · exact findsCall_of_unbroken hbreak
termination_by line.length
decreasing_by rw [hline]; simp; omega

/-- There is one leftmost match. -/
theorem LeftmostCall.unique {before' name' args' after' : List Char}
    (h : LeftmostCall line before name args after)
    (h' : LeftmostCall line before' name' args' after') : name' = name ∧ args' = args := by
  have hlength : before.length = before'.length :=
    Nat.le_antisymm (h.first _ _ _ _ h'.toCallMatch) (h'.first _ _ _ _ h.toCallMatch)
  have hsplit := h.split.symm.trans h'.split
  rw [List.append_assoc, List.append_assoc] at hsplit
  obtain ⟨rfl, -⟩ := List.append_inj hsplit hlength
  obtain ⟨hname, hrest⟩ := h.toCallMatch.unique h'.toCallMatch
  have hargs : args.length = args'.length :=
    Nat.le_antisymm (h.least _ _ _ h'.toCallMatch) (h'.least _ _ _ h.toCallMatch)
  exact ⟨hname, (List.append_inj hrest hargs.symm).1⟩

/-- **A call is the leftmost match of its pattern.** -/
theorem call?_eq_some_iff_leftmost :
    call? line = some k
      ↔ ∃ before name args after, LeftmostCall line before name args after
        ∧ k = .call (String.ofList name) (commaPieces args) := by
  have hfinds := findsCall_call? line
  constructor
  · intro h
    rwa [h] at hfinds
  · rintro ⟨before, name, args, after, hleftmost, rfl⟩
    cases hfound : call? line with
    | none =>
      rw [hfound] at hfinds
      exact absurd hleftmost.toCallMatch (hfinds _ _ _ _)
    | some k =>
      rw [hfound] at hfinds
      obtain ⟨_, name', args', _, hleftmost', rfl⟩ := hfinds
      obtain ⟨rfl, rfl⟩ := hleftmost.unique hleftmost'
      rfl

/-- A line without a match is no call. -/
theorem call?_eq_none_iff_no_match :
    call? line = none
      ↔ ∀ before name args after, ¬CallMatch line before name args after := by
  have hfinds := findsCall_call? line
  constructor
  · intro h
    rwa [h] at hfinds
  · intro h
    refine Option.eq_none_iff_forall_ne_some.mpr fun k hk => ?_
    obtain ⟨before, name, args, after, hleftmost, -⟩ := call?_eq_some_iff_leftmost.mp hk
    exact h before name args after hleftmost.toCallMatch

/-! ## The patterns in order -/

/-- **What a line asks for by the patterns**: what the first says that has a match, and a `=` comes
before calls. -/
inductive Searched (line : List Char) : Kind → Prop where
  | definition {blanks name params after : List Char}
      (h : LazyDefinition line blanks name params after) :
      Searched line (.definition (String.ofList name) ((commaPieces params).filter (· ≠ "")))
  | returning {blanks value : List Char}
      (hdefinition : ∀ blanks name params after, ¬DefinitionMatch line blanks name params after)
      (h : GreedyReturn line blanks value) : Searched line (.returning (String.ofList (trim value)))
  | assignment {before after : List Char}
      (hdefinition : ∀ blanks name params after, ¬DefinitionMatch line blanks name params after)
      (hreturning : ∀ blanks value, ¬ReturnMatch line blanks value)
      (h : FirstAt ['='] line before after) :
      Searched line (.assignment (String.ofList (trim before)) (String.ofList (trim after)))
  | call {before name args after : List Char}
      (hdefinition : ∀ blanks name params after, ¬DefinitionMatch line blanks name params after)
      (hreturning : ∀ blanks value, ¬ReturnMatch line blanks value) (hassignment : '=' ∉ line)
      (h : LeftmostCall line before name args after) :
      Searched line (.call (String.ofList name) (commaPieces args))
  | unknown
      (hdefinition : ∀ blanks name params after, ¬DefinitionMatch line blanks name params after)
      (hreturning : ∀ blanks value, ¬ReturnMatch line blanks value) (hassignment : '=' ∉ line)
      (hcall : ∀ before name args after, ¬CallMatch line before name args after) :
      Searched line (.unknown (String.ofList line))

/-- The shape that decides a line is the first pattern with a match. -/
theorem Searched.fits (h : Searched line k) : Fits line k := by
  cases h with
  | definition h => exact .definition (definition?_eq_some_iff_lazy.mpr ⟨_, _, _, _, h, rfl⟩)
  | returning hdefinition h =>
    exact .returning (definition?_eq_none_iff_no_match.mpr hdefinition) h.toReturnMatch.returning?
  | assignment hdefinition hreturning h =>
    refine .assignment (definition?_eq_none_iff_no_match.mpr hdefinition)
      (returning?_eq_none_iff_no_match.mpr hreturning) ?_
    rw [assignment?, h.cut_eq, Option.map_some]
  | call hdefinition hreturning hassignment h =>
    exact .call (definition?_eq_none_iff_no_match.mpr hdefinition)
      (returning?_eq_none_iff_no_match.mpr hreturning) (assignment?_eq_none_iff.mpr hassignment)
      (call?_eq_some_iff_leftmost.mpr ⟨_, _, _, _, h, rfl⟩)
  | unknown hdefinition hreturning hassignment hcall =>
    exact .unknown (definition?_eq_none_iff_no_match.mpr hdefinition)
      (returning?_eq_none_iff_no_match.mpr hreturning) (assignment?_eq_none_iff.mpr hassignment)
      (call?_eq_none_iff_no_match.mpr hcall)

/-- Whatever shape decides a line is a pattern with a match. -/
theorem Fits.searched (h : Fits line k) : Searched line k := by
  cases h with
  | definition h =>
    obtain ⟨blanks, name, params, after, hlazy, rfl⟩ := definition?_eq_some_iff_lazy.mp h
    exact .definition hlazy
  | returning hdefinition h =>
    obtain ⟨blanks, value, hgreedy, rfl⟩ := returning?_eq_some_iff_greedy.mp h
    exact .returning (definition?_eq_none_iff_no_match.mp hdefinition) hgreedy
  | assignment hdefinition hreturning h =>
    obtain ⟨⟨before, after⟩, hcut, rfl⟩ := Option.map_eq_some_iff.mp h
    exact .assignment (definition?_eq_none_iff_no_match.mp hdefinition)
      (returning?_eq_none_iff_no_match.mp hreturning) (firstAt_of_cut hcut)
  | call hdefinition hreturning hassignment h =>
    obtain ⟨before, name, args, after, hleftmost, rfl⟩ := call?_eq_some_iff_leftmost.mp h
    exact .call (definition?_eq_none_iff_no_match.mp hdefinition)
      (returning?_eq_none_iff_no_match.mp hreturning) (assignment?_eq_none_iff.mp hassignment)
      hleftmost
  | unknown hdefinition hreturning hassignment hcall =>
    exact .unknown (definition?_eq_none_iff_no_match.mp hdefinition)
      (returning?_eq_none_iff_no_match.mp hreturning) (assignment?_eq_none_iff.mp hassignment)
      (call?_eq_none_iff_no_match.mp hcall)

/-- **A line asks for what the first pattern with a match says**, and for nothing else. -/
theorem kindOf_eq_iff_searched : kindOf line = k ↔ Searched line k := by
  constructor
  · rintro rfl
    exact (fits_kindOf line).searched
  · exact fun h => h.fits.kindOf_eq

end Rehearsal.Action
