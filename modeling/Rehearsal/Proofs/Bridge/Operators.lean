import Mathlib.Data.List.TakeWhile
import Mathlib.Order.Minimal
import Rehearsal.Bridge.Call
import Rehearsal.Proofs.Text.Classes

/-!
# The operator of a text

An operator counts if it stands between words. What that means can be said in two ways. One looks at
the neighbours of the operator: going to the left of it over blanks one comes to a word character,
and going to the right over blanks one does, too (`Operator.Between`). The other looks for a stretch
of the text that is a word, an operator and a word, with any blanks between, and takes the stretch
that begins first (`Operator.Leftmost`).

**Both name the same operator**, and it is the one that is found in one pass. The pass holds a
single truth value, whether a word is the nearest thing on the left, and this value can be read off
what has been passed (`Operator.wordFollows_cons`). A stretch that begins first cannot have a later
operator than the first between words: the earlier one would have to be in the word or in the blanks
of the stretch, and it is neither (`Operator.Leftmost.firstBetween`).

Of the text nothing but this operator is used. The operands are the first two arguments, whatever
the words are (`arithmetic_by_first_operator`).
-/

namespace Rehearsal

open Text

namespace Operator

variable {text start before after passed cs : List Char} {op : Operator} {c : Char}

/-! ## Words ahead -/

/-- **A word is the nearest thing ahead**: a text begins with blanks, if any, and then a word
character. -/
def WordAhead (cs : List Char) : Prop :=
  ∃ blanks c rest, (∀ b ∈ blanks, isBlank b = true) ∧ isWord c = true ∧ cs = blanks ++ c :: rest

/-- What the first character says of a word ahead. -/
theorem wordFollows_cons (c : Char) (cs : List Char) :
    wordFollows (c :: cs) = (isWord c || (isBlank c && wordFollows cs)) := by
  unfold wordFollows
  cases hblank : isBlank c with
  | true =>
    have hword : isWord c = false := by
      by_contra hword
      exact absurd (not_isBlank_of_isWord (by simpa using hword)) (by simp [hblank])
    rw [List.dropWhile_cons_of_pos hblank, hword, Bool.false_or, Bool.true_and]
  | false => rw [List.dropWhile_cons_of_neg (by simp [hblank]), Bool.false_and, Bool.or_false]

theorem wordFollows_iff : wordFollows cs = true ↔ WordAhead cs := by
  constructor
  · intro h
    have hcs := List.takeWhile_append_dropWhile (p := isBlank) (l := cs)
    unfold wordFollows at h
    cases hdrop : cs.dropWhile isBlank with
    | nil =>
      rw [hdrop] at h
      cases h
    | cons c rest =>
      rw [hdrop] at h hcs
      exact ⟨_, c, rest, fun b hb => List.mem_takeWhile_imp hb, h, hcs.symm⟩
  · rintro ⟨blanks, c, rest, hblanks, hc, rfl⟩
    unfold wordFollows
    rw [List.dropWhile_append_of_pos hblanks,
      List.dropWhile_cons_of_neg (by simp [not_isBlank_of_isWord hc])]
    exact hc

/-! ## Operators between words -/

/-- **An operator is no part of a word and no blank.** -/
theorem apart_of_ofChar? (h : ofChar? c = some op) : isWord c = false ∧ isBlank c = false := by
  unfold ofChar? at h
  split at h
  · decide +kernel
  · decide +kernel
  · cases h

/-- **An operator between words**: with any blanks passed over, a word is nearest to it on the left
and on the right. -/
structure Between (text before : List Char) (op : Operator) (after : List Char) : Prop where
  split : ∃ c, ofChar? c = some op ∧ text = before ++ c :: after
  left : WordAhead before.reverse
  right : WordAhead after

/-- **The first operator between words.** -/
structure FirstBetween (text before : List Char) (op : Operator) (after : List Char) : Prop
    extends Between text before op after where
  first : ∀ before' op' after', Between text before' op' after' → before.length ≤ before'.length

/-- An operator between words, with as much before it as there is before a character, is that
character. -/
theorem Between.eq_of_split {rest : List Char} (h : Between text before op after)
    (hsplit : text = passed ++ c :: rest) (hlength : before.length = passed.length) :
    before = passed ∧ ofChar? c = some op ∧ after = rest := by
  obtain ⟨c', hc', htext⟩ := h.split
  obtain ⟨hbefore, hrest⟩ := List.append_inj (htext.symm.trans hsplit) hlength
  obtain ⟨rfl, hafter⟩ := List.cons.inj hrest
  exact ⟨hbefore, hc', hafter⟩

/-- At one place of a text there is one operator. -/
theorem Between.operator_eq {before' after' : List Char} {op' : Operator}
    (h : Between text before op after) (h' : Between text before' op' after')
    (hlength : before.length = before'.length) : op = op' := by
  obtain ⟨c, hc, hsplit⟩ := h'.split
  exact Option.some.inj ((h.eq_of_split hsplit hlength).2.1.symm.trans hc)

/-! ## The pass -/

/-- **What is known from a place on**: which operator between words is the first there, or that
there is none. -/
def FindsFrom (text : List Char) (n : Nat) : Option Operator → Prop
  | some op => ∃ before after, Between text before op after ∧ ∀ before' op' after',
      Between text before' op' after' → n ≤ before'.length → before.length ≤ before'.length
  | none => ∀ before op after, Between text before op after → before.length < n

variable {rest : List Char}

/-- An operator between words is found where the pass comes to it. -/
theorem firstFrom_of_between (h : Between (passed ++ c :: rest) passed op rest) :
    firstFrom (wordFollows passed.reverse) (c :: rest) = some op := by
  rw [firstFrom, (h.eq_of_split rfl rfl).2.1]
  dsimp only
  rw [wordFollows_iff.mpr h.left, wordFollows_iff.mpr h.right, Bool.and_self, if_pos rfl]

/-- Anything else is passed. -/
theorem firstFrom_of_not_between (h : ∀ op, ¬Between (passed ++ c :: rest) passed op rest) :
    firstFrom (wordFollows passed.reverse) (c :: rest)
      = firstFrom (wordFollows (passed ++ [c]).reverse) rest := by
  rw [List.reverse_concat, wordFollows_cons, firstFrom]
  cases hc : ofChar? c with
  | none => rfl
  | some op =>
    have hwords : ¬(wordFollows passed.reverse && wordFollows rest) = true := by
      intro hwords
      obtain ⟨hleft, hright⟩ := Bool.and_eq_true_iff.mp hwords
      exact h op ⟨⟨c, hc, rfl⟩, wordFollows_iff.mp hleft, wordFollows_iff.mp hright⟩
    obtain ⟨hword, hblank⟩ := apart_of_ofChar? hc
    dsimp only
    rw [if_neg hwords, hword, hblank, Bool.false_or, Bool.false_and]

/-- **The pass finds the first operator between words** from wherever it has come to. -/
theorem findsFrom_firstFrom (passed rest : List Char) :
    FindsFrom (passed ++ rest) passed.length (firstFrom (wordFollows passed.reverse) rest) := by
  induction rest generalizing passed with
  | nil =>
    intro before op after hbetween
    obtain ⟨c, -, hsplit⟩ := hbetween.split
    have hlength := congrArg List.length hsplit
    rw [List.append_nil, List.length_append, List.length_cons] at hlength
    omega
  | cons c rest ih =>
    by_cases hhere : ∃ op, Between (passed ++ c :: rest) passed op rest
    · obtain ⟨op, hbetween⟩ := hhere
      rw [firstFrom_of_between hbetween]
      exact ⟨passed, rest, hbetween, fun _ _ _ _ hle => hle⟩
    · rw [firstFrom_of_not_between (not_exists.mp hhere)]
      have hlater : ∀ before op after, Between (passed ++ c :: rest) before op after →
          before.length ≠ passed.length := by
        intro before op after hbetween hlength
        obtain ⟨rfl, -, rfl⟩ := hbetween.eq_of_split rfl hlength
        exact hhere ⟨op, hbetween⟩
      have hfinds := ih (passed ++ [c])
      rw [List.append_assoc, List.singleton_append, List.length_append, List.length_singleton]
        at hfinds
      cases hfound : firstFrom (wordFollows (passed ++ [c]).reverse) rest with
      | none =>
        rw [hfound] at hfinds
        intro before op after hbetween
        exact Nat.lt_of_le_of_ne (Nat.le_of_lt_succ (hfinds before op after hbetween))
          (hlater before op after hbetween)
      | some op =>
        rw [hfound] at hfinds
        obtain ⟨before, after, hbetween, hfirst⟩ := hfinds
        refine ⟨before, after, hbetween, fun before' op' after' hbetween' hle => ?_⟩
        exact hfirst before' op' after' hbetween'
          (Nat.lt_of_le_of_ne hle (hlater before' op' after' hbetween').symm)

/-- **What is found is the first operator between words.** -/
theorem first?_eq_some_iff :
    first? text = some op ↔ ∃ before after, FirstBetween text before op after := by
  have hfinds : FindsFrom text 0 (first? text) := findsFrom_firstFrom [] text
  constructor
  · intro h
    rw [h] at hfinds
    obtain ⟨before, after, hbetween, hfirst⟩ := hfinds
    exact ⟨before, after, hbetween, fun before' op' after' hbetween' =>
      hfirst before' op' after' hbetween' (Nat.zero_le _)⟩
  · rintro ⟨before, after, h⟩
    cases hfound : first? text with
    | none =>
      rw [hfound] at hfinds
      exact absurd (hfinds before op after h.toBetween) (Nat.not_lt_zero _)
    | some op' =>
      rw [hfound] at hfinds
      obtain ⟨before', after', hbetween', hfirst'⟩ := hfinds
      have hlength : before.length = before'.length :=
        Nat.le_antisymm (h.first before' op' after' hbetween')
          (hfirst' before op after h.toBetween (Nat.zero_le _))
      rw [h.toBetween.operator_eq hbetween' hlength]

/-- **Nothing is found if there is no operator between words.** -/
theorem first?_eq_none_iff :
    first? text = none ↔ ∀ before op after, ¬Between text before op after := by
  constructor
  · intro h before op after hbetween
    have hfinds : FindsFrom text 0 (first? text) := findsFrom_firstFrom [] text
    rw [h] at hfinds
    exact absurd (hfinds before op after hbetween) (Nat.not_lt_zero _)
  · intro h
    cases hfound : first? text with
    | none => rfl
    | some op =>
      obtain ⟨before, after, hfirst⟩ := first?_eq_some_iff.mp hfound
      exact absurd hfirst.toBetween (h before op after)

/-! ## Stretches that begin first -/

/-- **A stretch of a text**, from where it starts on: a word, an operator and a word, with any
blanks between. -/
structure Stretch (text start before : List Char) (op : Operator) (after : List Char) : Prop where
  operator : ∃ c, ofChar? c = some op ∧ text = before ++ c :: after
  left : ∃ word blanks, word ≠ [] ∧ (∀ c ∈ word, isWord c = true)
    ∧ (∀ c ∈ blanks, isBlank c = true) ∧ before = start ++ word ++ blanks
  right : ∃ blanks word rest, word ≠ [] ∧ (∀ c ∈ word, isWord c = true)
    ∧ (∀ c ∈ blanks, isBlank c = true) ∧ after = blanks ++ word ++ rest

/-- **The stretch that begins first.** -/
structure Leftmost (text start before : List Char) (op : Operator) (after : List Char) : Prop
    extends Stretch text start before op after where
  first : ∀ start' before' op' after', Stretch text start' before' op' after' →
    start.length ≤ start'.length

/-- The operator of a stretch is between words. -/
theorem Stretch.between (h : Stretch text start before op after) :
    Between text before op after where
  split := h.operator
  left := by
    obtain ⟨word, blanks, hword, hwords, hblanks, rfl⟩ := h.left
    obtain ⟨word, c, rfl⟩ := (List.eq_nil_or_concat word).resolve_left hword
    exact ⟨blanks.reverse, c, word.reverse ++ start.reverse,
      fun b hb => hblanks b (List.mem_reverse.mp hb), hwords c (by simp), by simp⟩
  right := by
    obtain ⟨blanks, word, rest, hword, hwords, hblanks, rfl⟩ := h.right
    obtain ⟨c, word, rfl⟩ := List.exists_cons_of_ne_nil hword
    exact ⟨blanks, c, word ++ rest, hblanks, hwords c List.mem_cons_self, by simp⟩

/-- An operator between words has a stretch around it, which starts before it. -/
theorem Between.exists_stretch (h : Between text before op after) :
    ∃ start, Stretch text start before op after ∧ start.length < before.length := by
  obtain ⟨blanks, c, rest, hblanks, hc, hbefore⟩ := h.left
  obtain ⟨blanks', c', rest', hblanks', hc', rfl⟩ := h.right
  have hbefore : before = rest.reverse ++ [c] ++ blanks.reverse := by
    rw [← List.reverse_reverse before, hbefore]
    simp
  refine ⟨rest.reverse, ⟨h.split, ⟨[c], blanks.reverse, by simp, by simpa using hc, ?_, hbefore⟩,
    ⟨blanks', [c'], rest', by simp, by simpa using hc', hblanks', by simp⟩⟩, ?_⟩
  · exact fun b hb => hblanks b (List.mem_reverse.mp hb)
  · rw [hbefore, List.length_append, List.length_append, List.length_singleton]
    omega

/-- **The stretch that begins first has the first operator.** An earlier operator between words
would stand in the word or the blanks of the stretch. -/
theorem Leftmost.firstBetween (h : Leftmost text start before op after) :
    FirstBetween text before op after := by
  refine ⟨h.toStretch.between, fun before' op' after' hbetween' => ?_⟩
  by_contra hless
  obtain ⟨start', hstretch', hstart'⟩ := hbetween'.exists_stretch
  have hstart := h.first start' before' op' after' hstretch'
  obtain ⟨c, -, hsplit⟩ := h.operator
  obtain ⟨c', hc', hsplit'⟩ := hbetween'.split
  obtain ⟨word, blanks, -, hwords, hblanks, hbefore⟩ := h.left
  have hat : before[before'.length]? = some c' := by
    have htext : text[before'.length]? = some c' := by rw [hsplit']; simp
    rwa [hsplit, List.getElem?_append_left (by omega)] at htext
  rw [hbefore, List.append_assoc, List.getElem?_append_right (by omega)] at hat
  obtain ⟨hword, hblank⟩ := apart_of_ofChar? hc'
  rcases List.mem_append.mp (List.mem_of_getElem? hat) with hmem | hmem
  · exact absurd (hwords c' hmem) (by simp [hword])
  · exact absurd (hblanks c' hmem) (by simp [hblank])

/-- Where there is an operator between words, a stretch begins first. -/
theorem Between.exists_leftmost (h : Between text before op after) :
    ∃ start before op after, Leftmost text start before op after := by
  obtain ⟨start, hstretch, -⟩ := h.exists_stretch
  obtain ⟨start, ⟨before, op, after, hstretch⟩, hleast⟩ :=
    exists_minimalFor_of_wellFoundedLT
      (fun start => ∃ before op after, Stretch text start before op after) List.length
      ⟨start, before, op, after, hstretch⟩
  refine ⟨start, before, op, after, hstretch, fun start' before' op' after' hstretch' => ?_⟩
  exact (Nat.le_total _ _).elim id (hleast ⟨before', op', after', hstretch'⟩)

/-- **The operator of the stretch that begins first is found.** -/
theorem first?_eq_some_iff_leftmost :
    first? text = some op ↔ ∃ start before after, Leftmost text start before op after := by
  constructor
  · intro h
    obtain ⟨before, after, hfirst⟩ := first?_eq_some_iff.mp h
    obtain ⟨start, before', op', after', hleftmost⟩ := hfirst.toBetween.exists_leftmost
    have hfound := first?_eq_some_iff.mpr ⟨before', after', hleftmost.firstBetween⟩
    obtain rfl := Option.some.inj (hfound.symm.trans h)
    exact ⟨start, before', after', hleftmost⟩
  · rintro ⟨start, before, after, hleftmost⟩
    exact first?_eq_some_iff.mpr ⟨before, after, hleftmost.firstBetween⟩

/-! ## Arithmetic -/

/-- **What an operator gives for two arguments**: the result for the numbers that they spell, if
both spell one and the result is finite. -/
def onArguments? (op : Operator) (left right : String) : Option Json :=
  (argument? left).bind fun x => (argument? right).bind fun y =>
    if (op.apply x y).isFinite then some (.real (op.apply x y)) else none

end Operator

open Operator

/-- **Arithmetic uses the operator that is found** and the first two arguments, and nothing else of
the text or the arguments. -/
theorem arithmetic?_of_first? {text : String} {op : Operator} (h : first? text.toList = some op)
    (left right : String) (rest : List String) :
    arithmetic? text (left :: right :: rest) = op.onArguments? left right := by
  unfold arithmetic?
  rw [h]
  rfl

/-- Without an operator there is no arithmetic. -/
theorem arithmetic?_of_first?_eq_none {text : String} (h : first? text.toList = none)
    (args : List String) : arithmetic? text args = none := by
  unfold arithmetic?
  rw [h]
  rfl

/-- With fewer than two arguments there is no arithmetic. -/
theorem arithmetic?_of_length_lt {args : List String} (h : args.length < 2) (text : String) :
    arithmetic? text args = none := by
  unfold arithmetic?
  cases first? text.toList with
  | none => rfl
  | some op =>
    match args, h with
    | [], _ => rfl
    | [_], _ => rfl

/-- **The arithmetic of a text is that of its first operator between words.** An operator is found
in a text if and only if some `+` or `*` of it has, over any blanks, a word character as its nearest
neighbour on the left and on the right, and the first such one is found. It is the operator of the
stretch that begins first among those that are a word, an operator and a word with any blanks
between, and whatever stretch is taken of those that begin there, its operator stands at the same
place. If no operator is between words, or if there are fewer than two arguments, there is no
arithmetic. And otherwise it is what the operator gives for the first two arguments, so it is the
same for any two texts with the same operator. -/
theorem arithmetic_by_first_operator (text : String) :
    ((first? text.toList).isSome = true
        ↔ ∃ before op after, Between text.toList before op after)
      ∧ (∀ op, first? text.toList = some op
          ↔ ∃ before after, FirstBetween text.toList before op after)
      ∧ (∀ op, first? text.toList = some op
          ↔ ∃ start before after, Leftmost text.toList start before op after)
      ∧ (∀ start before op after, Leftmost text.toList start before op after →
          FirstBetween text.toList before op after)
      ∧ ((∀ before op after, ¬Between text.toList before op after) →
          ∀ args, arithmetic? text args = none)
      ∧ (∀ args, args.length < 2 → arithmetic? text args = none)
      ∧ (∀ before op after, FirstBetween text.toList before op after → ∀ left right rest,
          arithmetic? text (left :: right :: rest) = op.onArguments? left right)
      ∧ ∀ op text' before before' after after', FirstBetween text.toList before op after →
          FirstBetween text'.toList before' op after' →
          ∀ args, arithmetic? text' args = arithmetic? text args := by
  refine ⟨?_, fun op => first?_eq_some_iff, fun op => first?_eq_some_iff_leftmost,
    fun _ _ _ _ h => h.firstBetween, fun h => ?_, fun args h => arithmetic?_of_length_lt h text,
    fun before op after h => ?_, fun op text' before before' after after' h h' args => ?_⟩
  · rw [Option.isSome_iff_ne_none, ne_eq, first?_eq_none_iff]
    push Not
    rfl
  · exact arithmetic?_of_first?_eq_none (first?_eq_none_iff.mpr h)
  · exact arithmetic?_of_first? (first?_eq_some_iff.mpr ⟨before, after, h⟩)
  · have hfound := first?_eq_some_iff.mpr ⟨before, after, h⟩
    have hfound' := first?_eq_some_iff.mpr ⟨before', after', h'⟩
    match args with
    | [] => rw [arithmetic?_of_length_lt (by simp), arithmetic?_of_length_lt (by simp)]
    | [_] => rw [arithmetic?_of_length_lt (by simp), arithmetic?_of_length_lt (by simp)]
    | left :: right :: rest => rw [arithmetic?_of_first? hfound', arithmetic?_of_first? hfound]

/-- A sum with a doubled sign is no sum, so the product after it counts, and it counts just as in a
plain product. A difference is nothing. -/
theorem arithmetic_by_first_operator_doubled :
    let text := "a ++ b\u00a0* 3c"
    first? text.toList = some .times
      ∧ (∃ start before after, Leftmost text.toList start before .times after)
      ∧ arithmetic? text ["2"] = none
      ∧ arithmetic? text ["2", "3", "4"] = Operator.times.onArguments? "2" "3"
      ∧ (∀ args, arithmetic? "x*y" args = arithmetic? text args)
      ∧ ∀ args, arithmetic? "a - b" args = none := by
  intro text
  obtain ⟨-, hfirst, hleftmost, -, -, hfew, hvalue, hsame⟩ := arithmetic_by_first_operator text
  have hfound : first? text.toList = some .times := by decide +kernel
  have hplain : first? "x*y".toList = some .times := by decide +kernel
  obtain ⟨before, after, hbetween⟩ := (hfirst .times).mp hfound
  obtain ⟨before', after', hbetween'⟩ := ((arithmetic_by_first_operator "x*y").2.1 .times).mp hplain
  obtain ⟨hsome, -, -, -, hnone, -⟩ := arithmetic_by_first_operator "a - b"
  refine ⟨hfound, (hleftmost .times).mp hfound, hfew ["2"] (by decide),
    hvalue before .times after hbetween "2" "3" ["4"],
    hsame .times "x*y" before before' after after' hbetween hbetween', hnone fun b op a h => ?_⟩
  exact absurd (hsome.mpr ⟨b, op, a, h⟩) (by decide +kernel)

end Rehearsal
