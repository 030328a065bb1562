import Mathlib.Logic.Relation
import Rehearsal.Proofs.Action.Lines

/-!
# The layout of a text

A line that holds something is an action, whatever stands above it and below it, and what is blank
at its two ends is no part of it. So there is more to a text than what it asks for: how its lines
are broken, how far they are indented, what blank lines stand between them. All this is its
**layout**, and a text may be laid out anew as often as one likes (`Relaid`).

There is one fact behind it. Blanks that are put at a place where a line starts or ends, with line
breaks among them or without, change no action (`parse_insert_of_lineStarts`,
`parse_insert_of_lineEnds`). A carriage return is a blank like any other here. It comes before the
line break, at the end of a line.
-/

namespace Rehearsal.Action

open Text

variable {s above blanks below : String}

/-! ## Places for blanks -/

/-- **Nothing but blanks**, or nothing at all. -/
def Blank (s : String) : Prop := ∀ c ∈ s.toList, isBlank c = true

instance (s : String) : Decidable (Blank s) :=
  decidable_of_iff (s.toList.all isBlank = true) List.all_eq_true

/-- **A line starts** after a text: it is empty, or ends with a line break. -/
def LineStarts (above : String) : Prop := above = "" ∨ ∃ s, above = s ++ "\n"

/-- **A line ends** before a text: it is empty, or begins with a line break. -/
def LineEnds (below : String) : Prop := below = "" ∨ ∃ s, below = "\n" ++ s

theorem Blank.append {s' : String} (h : Blank s) (h' : Blank s') : Blank (s ++ s') := by
  intro c hc
  rw [String.toList_append] at hc
  exact (List.mem_append.mp hc).elim (h c) (h' c)

theorem blank_lineBreak : Blank "\n" := by decide

theorem blank_carriageReturn : Blank "\r" := by decide

/-- Blanks before a text ask for nothing. -/
theorem parse_blanks_append (h : Blank blanks) (s : String) : parse (blanks ++ s) = parse s := by
  rw [parse, String.toList_append, lines_blanks_append h, parse]

/-- Blanks after a text ask for nothing. -/
theorem parse_append_blanks (s : String) (h : Blank blanks) : parse (s ++ blanks) = parse s := by
  rw [parse, String.toList_append, lines_append_blanks h, parse]

/-- **Blanks where a line starts** change no action. -/
theorem parse_insert_of_lineStarts (hplace : LineStarts above) (h : Blank blanks) (below : String) :
    parse (above ++ blanks ++ below) = parse (above ++ below) := by
  rcases hplace with rfl | ⟨s, rfl⟩
  · rw [String.empty_append, String.empty_append, parse_blanks_append h]
  · rw [String.append_assoc, parse_append_break, parse_append_break, parse_blanks_append h]

/-- **Blanks where a line ends** change no action. -/
theorem parse_insert_of_lineEnds (above : String) (hplace : LineEnds below) (h : Blank blanks) :
    parse (above ++ blanks ++ below) = parse (above ++ below) := by
  rcases hplace with rfl | ⟨s, rfl⟩
  · rw [String.append_empty, String.append_empty, parse_append_blanks above h]
  · rw [← String.append_assoc, ← String.append_assoc, parse_append_break, parse_append_break,
      parse_append_blanks above h]

/-! ## Texts laid out anew -/

/-- **A text laid out anew**, in one place or by trimming. -/
inductive Relaid : String → String → Prop where
  /-- A carriage return before a line break. -/
  | lineBreak (above below : String) : Relaid (above ++ "\n" ++ below) (above ++ "\r\n" ++ below)
  /-- A blank line above a line. -/
  | blankLine {above blank : String} (below : String) (hplace : LineStarts above)
      (hblank : Blank blank) : Relaid (above ++ below) (above ++ blank ++ "\n" ++ below)
  /-- A blank line below the last line. -/
  | lastLine (above : String) {blank : String} (hblank : Blank blank) :
    Relaid above (above ++ "\n" ++ blank)
  /-- Blanks at the start of a line. -/
  | lineStart {above blanks : String} (below : String) (hplace : LineStarts above)
      (hblanks : Blank blanks) : Relaid (above ++ below) (above ++ blanks ++ below)
  /-- Blanks at the end of a line. -/
  | lineEnd (above : String) {blanks below : String} (hplace : LineEnds below)
      (hblanks : Blank blanks) : Relaid (above ++ below) (above ++ blanks ++ below)
  /-- No blanks around the whole text. -/
  | trimmed (s : String) : Relaid s (trimmed s)

/-- **A text laid out anew asks for the same.** -/
theorem Relaid.parse_eq {s' : String} (h : Relaid s s') : parse s' = parse s := by
  cases h with
  | lineBreak above below =>
    have hinsert := parse_insert_of_lineEnds above (Or.inr ⟨below, rfl⟩) blank_carriageReturn
    rw [← String.append_assoc, ← String.append_assoc] at hinsert
    rw [show "\r\n" = "\r" ++ "\n" from rfl, ← String.append_assoc, hinsert]
  | blankLine below hplace hblank =>
    have hinsert := parse_insert_of_lineStarts hplace (hblank.append blank_lineBreak) below
    rwa [← String.append_assoc] at hinsert
  | lastLine _ hblank =>
    rw [String.append_assoc]
    exact parse_append_blanks s (blank_lineBreak.append hblank)
  | lineStart below hplace hblanks => exact parse_insert_of_lineStarts hplace hblanks below
  | lineEnd above hplace hblanks => exact parse_insert_of_lineEnds above hplace hblanks
  | trimmed => exact parse_trimmed s

/-- However often a text is laid out anew, it asks for the same. -/
theorem parse_eq_of_relaid {s' : String} (h : Relation.EqvGen Relaid s s') : parse s' = parse s := by
  induction h with
  | rel s s' h => exact h.parse_eq
  | refl s => rfl
  | symm s s' _ ih => exact ih.symm
  | trans s s' s'' _ _ ih ih' => exact ih'.trans ih

/-! ## Line by line -/

/-- **A text is parsed line by line.** The actions of two texts with a line break between them are
those of the one and then those of the other. There is one action for each line with a character
that is not blank, in the order of the lines, and it is the action of that line without the blanks
at its ends. And a text laid out anew has the same actions: with carriage returns before line breaks
or without, with blank lines put in or taken away, with other blanks at the ends of its lines, or
trimmed as a whole, in one place or in many. -/
theorem parse_line_by_line :
    (∀ first second, parse (first ++ "\n" ++ second) = parse first ++ parse second)
      ∧ (∀ s : String, parse s
          = ((s.toList.splitOn '\n').filter fun line => line.any fun c => !isBlank c).map
              fun line => classify (trimmed (String.ofList line)))
      ∧ ∀ s s', Relation.EqvGen Relaid s s' → parse s' = parse s := by
  refine ⟨parse_append_break, fun s => ?_, fun s s' h => parse_eq_of_relaid h⟩
  rw [parse, lines_eq, List.map_map]
  refine List.map_congr_left fun line _ => ?_
  rw [Function.comp_apply, classify, toList_trimmed, String.toList_ofList]

/-- A text is trimmed, and then it is given a carriage return, a blank line with a separator in it
that breaks no line, and an indentation. -/
theorem parse_line_by_line_relaid :
    parse "a = 1\r\n \u2028\n\tf(2)" = parse "\n  a = 1\nf(2) "
      ∧ parse "a = 1\nf(2)" = parse "a = 1" ++ parse "f(2)" := by
  have htrimmed : Relaid "\n  a = 1\nf(2) " "a = 1\nf(2)" := .trimmed "\n  a = 1\nf(2) "
  have hbreak : Relaid "a = 1\nf(2)" "a = 1\r\nf(2)" := .lineBreak "a = 1" "f(2)"
  have hblank : Relaid "a = 1\r\nf(2)" "a = 1\r\n \u2028\nf(2)" :=
    @Relaid.blankLine "a = 1\r\n" " \u2028" "f(2)" (Or.inr ⟨"a = 1\r", rfl⟩) (by decide)
  have hstart : Relaid "a = 1\r\n \u2028\nf(2)" "a = 1\r\n \u2028\n\tf(2)" :=
    @Relaid.lineStart "a = 1\r\n \u2028\n" "\t" "f(2)" (Or.inr ⟨"a = 1\r\n \u2028", rfl⟩)
      (by decide)
  obtain ⟨happend, -, hrelaid⟩ := parse_line_by_line
  refine ⟨hrelaid _ _ ?_, happend "a = 1" "f(2)"⟩
  exact .trans _ _ _ (.rel _ _ htrimmed)
    (.trans _ _ _ (.rel _ _ hbreak) (.trans _ _ _ (.rel _ _ hblank) (.rel _ _ hstart)))

end Rehearsal.Action
