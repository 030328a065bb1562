import Rehearsal.Action.Classify
import Rehearsal.Proofs.Text.Trimming

/-!
# Lines of a text

A text is parsed line by line, and no line knows of another. So a text that is put together from
two with a line break between them holds **the lines of the one and then those of the other**
(`lines_append_break`), and that is all that there is to know of many lines: a text without a break
is a single line, if it is not blank (`lines_of_unbroken`).

From these two it follows that blanks around a whole text are of no account, whether they hold line
breaks or not (`lines_trim`). They belong to blank lines, or else to the ends of the first or the
last line that holds something, and there they are trimmed anyway.
-/

namespace Rehearsal.Action

open Rehearsal.Text

variable {bs cs : List Char} {c : Char}

/-! ## Taking a text apart -/

/-- **The lines on both sides of a line break** are all the lines there are. -/
theorem lines_append_break (as bs : List Char) : lines (as ++ '\n' :: bs) = lines as ++ lines bs := by
  rw [lines, List.splitOn_append_cons_self, List.map_append, List.filter_append]
  rfl

/-- A text without a line break is one line, or none if it is blank. -/
theorem lines_of_unbroken (h : '\n' ∉ cs) : lines cs = [trim cs].filter (· ≠ []) := by
  rw [lines, List.splitOn_eq_singleton h, List.map_singleton]

@[simp] theorem lines_nil : lines [] = [] := rfl

/-- **The lines of a text** are its stretches between line breaks, as far as there is a character in
them that is not blank, without the blanks at their ends. -/
theorem lines_eq (cs : List Char) :
    lines cs = ((cs.splitOn '\n').filter fun line => line.any fun c => !isBlank c).map trim := by
  have hblank : ∀ line : List Char, decide (trim line ≠ []) = line.any fun c => !isBlank c := by
    intro line
    rw [Bool.eq_iff_iff, decide_eq_true_iff, ne_eq, trim_eq_nil_iff]
    simp
  rw [lines, List.filter_map]
  exact congrArg (List.map trim) (List.filter_congr fun line _ => hblank line)

/-- **As many lines are parsed as hold something.** -/
theorem length_lines (cs : List Char) :
    (lines cs).length = (cs.splitOn '\n').countP fun line => line.any fun c => !isBlank c := by
  rw [lines_eq, List.length_map, List.countP_eq_length_filter]

/-! ## Blanks around a text -/

theorem lines_cons_of_blank (h : isBlank c = true) (cs : List Char) :
    lines (c :: cs) = lines cs := by
  by_cases hc : c = '\n'
  · subst hc
    exact lines_append_break [] cs
  · -- the blank stands at the start of the first line
    have hfirst : ∀ first : List Char, '\n' ∉ first → lines (c :: first) = lines first := by
      intro first hbreak
      have hbreak' : '\n' ∉ c :: first := List.not_mem_cons_of_ne_of_not_mem (Ne.symm hc) hbreak
      rw [lines_of_unbroken hbreak', lines_of_unbroken hbreak,
        ← trim_blanks_append (List.forall_mem_singleton.mpr h) first]
      rfl
    by_cases hbreak : '\n' ∈ cs
    · obtain ⟨first, rest, rfl, hunbroken⟩ := List.eq_append_cons_of_mem hbreak
      rw [← List.cons_append, lines_append_break, hfirst first hunbroken, lines_append_break]
    · exact hfirst cs hbreak

/-- **Blanks before a text** hold no line and change none. -/
theorem lines_blanks_append (h : ∀ c ∈ bs, isBlank c = true) (cs : List Char) :
    lines (bs ++ cs) = lines cs := by
  induction bs with
  | nil => rfl
  | cons c bs ih =>
    rw [List.cons_append, lines_cons_of_blank (h c List.mem_cons_self),
      ih fun c hc => h c (List.mem_cons_of_mem _ hc)]

theorem lines_append_blank (h : isBlank c = true) (cs : List Char) :
    lines (cs ++ [c]) = lines cs := by
  by_cases hc : c = '\n'
  · subst hc
    rw [lines_append_break, lines_nil, List.append_nil]
  · -- the blank stands at the end of the last line
    have hlast : ∀ last : List Char, '\n' ∉ last → lines (last ++ [c]) = lines last := by
      intro last hbreak
      have hbreak' : '\n' ∉ last ++ [c] := by simp [hbreak, Ne.symm hc]
      rw [lines_of_unbroken hbreak', lines_of_unbroken hbreak,
        trim_append_blanks (List.forall_mem_singleton.mpr h)]
    by_cases hbreak : '\n' ∈ cs
    · obtain ⟨last, before, hcs, hunbroken⟩ := List.eq_append_cons_of_mem (List.mem_reverse.mpr hbreak)
      obtain rfl : cs = before.reverse ++ '\n' :: last.reverse := by
        rw [← List.reverse_reverse cs, hcs]
        simp
      rw [List.append_assoc, List.cons_append, lines_append_break,
        hlast last.reverse (by simpa using hunbroken), lines_append_break]
    · exact hlast cs hbreak

/-- **Blanks after a text** hold no line and change none. -/
theorem lines_append_blanks (h : ∀ c ∈ bs, isBlank c = true) (cs : List Char) :
    lines (cs ++ bs) = lines cs := by
  induction bs generalizing cs with
  | nil => rw [List.append_nil]
  | cons c bs ih =>
    rw [List.append_cons, ih (fun c hc => h c (List.mem_cons_of_mem _ hc)),
      lines_append_blank (h c List.mem_cons_self)]

/-- **A text has the lines of what trimming leaves of it.** -/
@[simp] theorem lines_trim (cs : List Char) : lines (trim cs) = lines cs := by
  obtain ⟨as, bs, has, hbs, hcs⟩ := exists_eq_append_trim cs
  refine Eq.symm ?_
  calc lines cs = lines (as ++ trim cs ++ bs) := congrArg lines hcs
    _ = lines (trim cs) := by rw [lines_append_blanks hbs, lines_blanks_append has]

/-! ## Actions -/

/-- **The actions of two texts** with a line break between them are those of each. -/
theorem parse_append_break (first second : String) :
    parse (first ++ "\n" ++ second) = parse first ++ parse second := by
  have htext : (first ++ "\n" ++ second).toList = first.toList ++ '\n' :: second.toList := by
    rw [String.toList_append, String.toList_append, List.append_assoc]
    rfl
  rw [parse, htext, lines_append_break, List.map_append]
  rfl

/-- A text asks for the same with its blanks at the ends and without. -/
@[simp] theorem parse_trimmed (source : String) : parse (trimmed source) = parse source := by
  rw [parse, toList_trimmed, lines_trim]
  rfl

end Rehearsal.Action
