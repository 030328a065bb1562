import Rehearsal.Proofs.Json.RoundTrip

/-!
# Every tree is that of a text

A tree says more than a value does: its members stand in an order and may have one name, its
numerals are spelled in some way, and its strings need not be texts. **A spelling** of it
(`Written.chars`) keeps all this, so it is read back as the tree (`Written.ofText?_spelling`),
whatever the value of the tree, and also if it has none. A string that is no text is spelled as half
of a surrogate pair.

The one condition is that the numerals are those of the notation (`Written.isSpelled`): digits before
a point or an exponent, without a zero in front, and digits after each of these.

The proof goes as that for values over many lines, with the spelling in place of the layout. The
condition is no more than must be: a tree that is read satisfies it
(`Written.isSpelled_of_ofOctets?`).
-/

namespace Rehearsal.Json

/-! ## Numerals -/

/-- Digits of which there is at least one. -/
def areDigits (cs : List Char) : Bool := !cs.isEmpty && cs.all Char.isDigit

/-- **A numeral of the notation.** -/
def Literal.isSpelled (l : Literal) : Bool :=
  areDigits l.whole && (l.whole.length == 1 || l.whole.head? != some '0')
    && l.fraction.all Char.isDigit && l.exponent.all fun e => areDigits e.2

/-- The digits after the point, with the point if there are any. -/
def fractionChars (ds : List Char) : List Char := if ds = [] then [] else '.' :: ds

/-- An exponent. -/
def exponentChars : Option (Bool × List Char) → List Char
  | none => []
  | some (negative, ds) => 'e' :: (if negative then '-' else '+') :: ds

/-- The numeral without its sign. -/
def Literal.unsignedChars (l : Literal) : List Char :=
  l.whole ++ (fractionChars l.fraction ++ exponentChars l.exponent)

/-- **A numeral spelled.** -/
def Literal.chars (l : Literal) : List Char :=
  if l.negative then '-' :: l.unsignedChars else l.unsignedChars

namespace Reader

variable {ds : List Char} {rest : List Symbol}

/-- Digits are read as such. -/
theorem digits?_append (hds : areDigits ds = true) (hrest : EndsNumeral rest) :
    digits? (ds.map some ++ rest) = some (ds, rest) := by
  obtain ⟨hne, hall⟩ := Bool.and_eq_true_iff.mp hds
  rw [digits?, takeDigits_append (List.all_eq_true.mp hall) hrest]
  cases ds with
  | nil => simp at hne
  | cons d ds => rfl

/-- **The digits before the point** are read to the end. -/
theorem whole?_append (hds : areDigits ds = true)
    (hzero : (ds.length == 1 || ds.head? != some '0') = true)
    (hrest : ∀ c, rest.head? = some (some c) → c.isDigit = false) :
    whole? (ds.map some ++ rest) = some (ds, rest) := by
  obtain ⟨hne, hall⟩ := Bool.and_eq_true_iff.mp hds
  rw [whole?, takeDigits_append_of_not_digit (List.all_eq_true.mp hall) hrest]
  split
  · next h =>
    obtain ⟨rfl, -⟩ := Prod.mk.inj h
    simp at hne
  · next h =>
    obtain ⟨rfl, -⟩ := Prod.mk.inj h
    simp at hzero
  · rfl

/-- An exponent, or what comes after a numeral, goes on with none of the digits before it. -/
theorem exponentChars_stops (e : Option (Bool × List Char)) (hrest : EndsNumeral rest) {c : Char}
    (hc : ((exponentChars e).map some ++ rest).head? = some (some c)) :
    c.isDigit = false ∧ c ≠ '.' := by
  cases e with
  | none =>
    have hin := hrest (some c) hc
    simp only [inNumeral, Bool.or_eq_false_iff, beq_eq_false_iff_ne] at hin
    exact ⟨hin.1.1.1, hin.1.1.2⟩
  | some e =>
    obtain rfl : 'e' = c := by simpa [exponentChars] using hc
    exact ⟨by decide, by decide⟩

/-- Nor does the point. -/
theorem fractionChars_stops (ds : List Char) (e : Option (Bool × List Char))
    (hrest : EndsNumeral rest) {c : Char}
    (hc : ((fractionChars ds).map some ++ ((exponentChars e).map some ++ rest)).head?
      = some (some c)) : c.isDigit = false := by
  cases ds with
  | nil => exact (exponentChars_stops e hrest hc).1
  | cons d ds =>
    obtain rfl : '.' = c := by simpa [fractionChars] using hc
    decide

theorem fraction?_append (hds : ds.all Char.isDigit = true) (e : Option (Bool × List Char))
    (hrest : EndsNumeral rest) :
    fraction? ((fractionChars ds).map some ++ ((exponentChars e).map some ++ rest))
      = some (ds, (exponentChars e).map some ++ rest) := by
  have hstops : ∀ c, ((exponentChars e).map some ++ rest).head? = some (some c) →
      c.isDigit = false ∧ c ≠ '.' := fun c hc => exponentChars_stops e hrest hc
  cases ds with
  | nil =>
    show fraction? ((exponentChars e).map some ++ rest) = _
    unfold fraction?
    split
    · next heq =>
      rw [heq] at hstops
      exact absurd rfl (hstops '.' rfl).2
    · rfl
  | cons d ds =>
    show digits? ((d :: ds).map some ++ ((exponentChars e).map some ++ rest)) = _
    rw [digits?, takeDigits_append_of_not_digit (List.all_eq_true.mp hds)
      fun c hc => (hstops c hc).1]

theorem exponent?_append {e : Option (Bool × List Char)}
    (he : (e.all fun e => areDigits e.2) = true) (hrest : EndsNumeral rest) :
    exponent? ((exponentChars e).map some ++ rest) = some (e, rest) := by
  cases e with
  | none => exact exponent?_of_endsNumeral hrest
  | some e =>
    obtain ⟨negative, ds⟩ := e
    have hdigits : digits? (ds.map some ++ rest) = some (ds, rest) := digits?_append he hrest
    cases negative
    · show (digits? (ds.map some ++ rest)).map _ = _
      rw [hdigits]
      rfl
    · show (digits? (ds.map some ++ rest)).map _ = _
      rw [hdigits]
      rfl

theorem unsigned?_unsignedChars {l : Literal} (hl : l.isSpelled = true) (hrest : EndsNumeral rest) :
    unsigned? l.negative (l.unsignedChars.map some ++ rest) = some (l, rest) := by
  obtain ⟨negative, whole, fraction, exponent⟩ := l
  simp only [Literal.isSpelled, Bool.and_eq_true] at hl
  obtain ⟨⟨⟨hwhole, hzero⟩, hfraction⟩, hexponent⟩ := hl
  rw [Literal.unsignedChars, List.map_append, List.map_append, List.append_assoc, List.append_assoc,
    unsigned?,
    whole?_append hwhole hzero fun c hc => fractionChars_stops fraction exponent hrest hc]
  show ((fraction? _).bind fun f => (exponent? f.2).bind fun e =>
    some ((⟨negative, whole, f.1, e.1⟩ : Literal), e.2)) = _
  rw [fraction?_append hfraction exponent hrest, Option.bind_some,
    exponent?_append hexponent hrest, Option.bind_some]

/-- The first character of a numeral. -/
theorem head?_unsignedChars {l : Literal} (hl : l.isSpelled = true) :
    ∃ d cs, l.unsignedChars = d :: cs ∧ d.isDigit = true := by
  obtain ⟨negative, whole, fraction, exponent⟩ := l
  simp only [Literal.isSpelled, areDigits, Bool.and_eq_true] at hl
  cases whole with
  | nil => simp at hl
  | cons d ds => exact ⟨d, _, rfl, List.all_eq_true.mp hl.1.1.1.2 d (by simp)⟩

/-- **A numeral is read back**, as it is spelled. -/
theorem value?_literal (fuel : Nat) {l : Literal} (hl : l.isSpelled = true)
    (hrest : EndsNumeral rest) :
    value? (fuel + 1) (l.chars.map some ++ rest) = some (.number l, rest) := by
  have hread := unsigned?_unsignedChars hl hrest
  obtain ⟨d, cs, hchars, hd⟩ := head?_unsignedChars hl
  cases hnegative : l.negative with
  | true =>
    rw [hnegative] at hread
    rw [Literal.chars, if_pos hnegative, List.map_cons, List.cons_append]
    exact value?_of_numeral (Or.inl rfl) hread
  | false =>
    rw [hnegative, hchars] at hread
    rw [Literal.chars, if_neg (by simp [hnegative]), hchars]
    refine value?_of_numeral (Or.inr hd) ?_
    rw [numeral?_of_head_ne_minus]
    · exact hread
    · intro h
      obtain rfl : d = '-' := by simpa using h
      exact absurd hd (by decide)

end Reader

/-! ## Strings -/

/-- **A string spelled**, after its opening quote. What is no text is half of a pair. -/
def stringChars : Option String → List Char
  | some s => s.toList.flatMap escaped ++ ['"']
  | none => ['\\', 'u', 'd', '8', '0', '0', '"']

theorem Reader.string?_stringChars (s : Option String) (rest : List Reader.Symbol) :
    Reader.string? ((stringChars s).map some ++ rest) = some (s, rest) := by
  cases s with
  | some s =>
    rw [stringChars, List.map_append, List.append_assoc]
    exact Reader.string?_escaped s rest
  | none => rfl

/-! ## Trees -/

namespace Written

mutual

/-- **The numerals of a tree** are those of the notation. -/
def isSpelled : Written → Bool
  | .number l => l.isSpelled
  | .array items => areSpelled items
  | .object members => membersSpelled members
  | .null => true
  | .bool _ => true
  | .string _ => true

def areSpelled : List Written → Bool
  | [] => true
  | w :: rest => isSpelled w && areSpelled rest

def membersSpelled : List (Option String × Written) → Bool
  | [] => true
  | (_, w) :: rest => isSpelled w && membersSpelled rest

end

mutual

/-- **A tree spelled**, without blanks. -/
def chars : Written → List Char
  | .null => "null".toList
  | .bool b => (boolText b).toList
  | .number l => l.chars
  | .string s => '"' :: stringChars s
  | .array items => '[' :: itemChars items
  | .object members => '{' :: memberChars members

/-- Items and the bracket that closes them. -/
def itemChars : List Written → List Char
  | [] => [']']
  | [w] => chars w ++ [']']
  | w :: w' :: rest => chars w ++ ',' :: itemChars (w' :: rest)

/-- Members and the brace that closes them. -/
def memberChars : List (Option String × Written) → List Char
  | [] => ['}']
  | [(k, w)] => '"' :: (stringChars k ++ ':' :: (chars w ++ ['}']))
  | (k, w) :: m :: rest =>
    '"' :: (stringChars k ++ ':' :: (chars w ++ ',' :: memberChars (m :: rest)))

end

/-- **A text of the tree.** -/
def spelling (w : Written) : String := String.ofList w.chars

end Written

namespace Reader

open Written (isSpelled areSpelled membersSpelled chars itemChars memberChars)

mutual

/-- **A spelling is read back**, whatever comes after it. -/
theorem value?_chars : ∀ (w : Written) (fuel : Nat) (rest : List Symbol),
    w.isSpelled = true → EndsNumeral rest → 2 * w.chars.length ≤ fuel + 1 →
    value? (fuel + 1) (w.chars.map some ++ rest) = some (w, rest)
  | .null, fuel, rest, _, _, _ => value?_null fuel rest
  | .bool b, fuel, rest, _, _, _ => value?_boolText fuel b rest
  | .number l, fuel, rest, hw, hrest, _ => value?_literal fuel hw hrest
  | .string s, fuel, rest, _, _, _ => by
    rw [chars, List.map_cons, List.cons_append, value?, skipBlanks_cons_of_not_blank rfl]
    show (string? ((stringChars s).map some ++ rest)).map _ = _
    rw [string?_stringChars]
    rfl
  | .array [], fuel, rest, _, _, _ => by
    show value? (fuel + 1) (some '[' :: some ']' :: rest) = _
    rw [value?_open_bracket, skipBlanks_cons_of_not_blank rfl]
    rfl
  | .array (w :: ws), fuel, rest, hw, _, hfuel => by
    rw [chars, List.length_cons] at hfuel
    rw [chars, List.map_cons, List.cons_append]
    exact value?_of_items (items?_itemChars (w :: ws) fuel rest (by simp) hw (by omega))
  | .object [], fuel, rest, _, _, _ => by
    show value? (fuel + 1) (some '{' :: some '}' :: rest) = _
    rw [value?_open_brace, skipBlanks_cons_of_not_blank rfl]
    rfl
  | .object (m :: ms), fuel, rest, hw, _, hfuel => by
    rw [chars, List.length_cons] at hfuel
    rw [chars, List.map_cons, List.cons_append]
    exact value?_of_members (members?_memberChars (m :: ms) fuel rest (by simp) hw (by omega))

theorem items?_itemChars : ∀ (ws : List Written) (fuel : Nat) (rest : List Symbol),
    ws ≠ [] → areSpelled ws = true → 2 * (itemChars ws).length ≤ fuel →
    items? fuel ((itemChars ws).map some ++ rest) = some (ws, rest)
  | [], _, _, hne, _, _ => absurd rfl hne
  | [w], fuel, rest, _, hw, hfuel => by
    have hw' : w.isSpelled = true := by simpa [areSpelled] using hw
    rw [itemChars, List.length_append, List.length_singleton] at hfuel
    obtain ⟨fuel, rfl⟩ : ∃ n, fuel = n + 2 := Nat.exists_eq_add_of_le' (by omega)
    rw [itemChars, List.map_append, List.append_assoc]
    exact items?_last (value?_chars w fuel _ hw' (by simp [inNumeral]) (by omega))
      (skipBlanks_cons_of_not_blank rfl rest)
  | w :: w' :: ws, fuel, rest, _, hw, hfuel => by
    have hw' : w.isSpelled = true ∧ areSpelled (w' :: ws) = true := by
      simpa [areSpelled] using hw
    rw [itemChars, List.length_append, List.length_cons] at hfuel
    obtain ⟨fuel, rfl⟩ : ∃ n, fuel = n + 2 := Nat.exists_eq_add_of_le' (by omega)
    rw [itemChars, List.map_append, List.append_assoc, List.map_cons, List.cons_append]
    exact items?_cons (value?_chars w fuel _ hw'.1 (by simp [inNumeral]) (by omega))
      (skipBlanks_cons_of_not_blank rfl _)
      (items?_itemChars (w' :: ws) (fuel + 1) rest (by simp) hw'.2 (by omega))

theorem members?_memberChars : ∀ (ms : List (Option String × Written)) (fuel : Nat)
    (rest : List Symbol), ms ≠ [] → membersSpelled ms = true →
    2 * (memberChars ms).length ≤ fuel →
    members? fuel ((memberChars ms).map some ++ rest) = some (ms, rest)
  | [], _, _, hne, _, _ => absurd rfl hne
  | [(k, w)], fuel, rest, _, hw, hfuel => by
    have hw' : w.isSpelled = true := by simpa [membersSpelled] using hw
    simp only [memberChars, List.length_append, List.length_cons] at hfuel
    obtain ⟨fuel, rfl⟩ : ∃ n, fuel = n + 2 := Nat.exists_eq_add_of_le' (by omega)
    simp only [memberChars, List.map_cons, List.map_append, List.cons_append, List.append_assoc]
    exact members?_of_last (skipBlanks_cons_of_not_blank rfl _) (string?_stringChars k _)
      (value?_chars w fuel _ hw' (by simp [inNumeral]) (by omega))
      (skipBlanks_cons_of_not_blank rfl rest)
  | (k, w) :: m :: ms, fuel, rest, _, hw, hfuel => by
    have hw' : w.isSpelled = true ∧ membersSpelled (m :: ms) = true := by
      simpa [membersSpelled] using hw
    simp only [memberChars, List.length_append, List.length_cons] at hfuel
    obtain ⟨fuel, rfl⟩ : ∃ n, fuel = n + 2 := Nat.exists_eq_add_of_le' (by omega)
    simp only [memberChars, List.map_cons, List.map_append, List.cons_append, List.append_assoc]
    exact members?_of_cons (skipBlanks_cons_of_not_blank rfl _) (string?_stringChars k _)
      (value?_chars w fuel _ hw'.1 (by simp [inNumeral]) (by omega))
      (skipBlanks_cons_of_not_blank rfl _)
      (members?_memberChars (m :: ms) (fuel + 1) rest (by simp) hw'.2 (by omega))

end

end Reader

/-- **A tree is read back** from its spelling. -/
theorem Written.ofText?_spelling {w : Written} (hw : w.isSpelled = true) :
    ofText? w.spelling = some w := by
  have h : Reader.value? _ (w.chars.map some ++ []) = some (w, []) :=
    Reader.value?_chars w (2 * (w.chars.map some).length + 1) [] hw Reader.endsNumeral_nil
      (by rw [List.length_map]; omega)
  rw [List.append_nil] at h
  rw [ofText?, spelling, String.toList_ofList, Reader.read?, h]
  rfl

/-! ## What is read is spelled -/

namespace Reader

variable {cs rest : List Symbol} {ds : List Char}

/-- What is read and then made into something else. -/
theorem exists_of_map_eq_some {α β : Type} {o : Option (α × List Symbol)} {f : α → β} {b : β}
    (h : (o.map fun (a, rest) => (f a, rest)) = some (b, rest)) : ∃ a, o = some (a, rest) ∧ f a = b := by
  obtain ⟨⟨a, rest'⟩, ho, heq⟩ := Option.map_eq_some_iff.mp h
  obtain ⟨rfl, rfl⟩ := Prod.mk.inj heq
  exact ⟨a, ho, rfl⟩

/-- The word of a value is read as that value. -/
theorem eq_of_word {word : String} {w w' : Written}
    (h : ((word? word cs).map fun rest => (w, rest)) = some (w', rest)) : w = w' := by
  obtain ⟨rest', -, heq⟩ := Option.map_eq_some_iff.mp h
  exact (Prod.mk.inj heq).1

theorem all_isDigit_takeDigits (cs : List Symbol) :
    (takeDigits cs).1.all Char.isDigit = true := by
  fun_induction takeDigits cs with
  | case1 c cs hc ds rest htake ih =>
    rw [htake] at ih
    simp [hc, ih]
  | case2 c cs hc => rfl
  | case3 cs hcs => rfl

theorem areDigits_of_digits? (h : digits? cs = some (ds, rest)) : areDigits ds = true := by
  have hall := all_isDigit_takeDigits cs
  unfold digits? at h
  split at h
  · cases h
  · next hne =>
    rw [Option.some.inj h] at hall hne
    cases ds with
    | nil => exact absurd rfl (hne rest)
    | cons d ds => exact hall

theorem isSpelled_of_whole? (h : whole? cs = some (ds, rest)) :
    areDigits ds = true ∧ (ds.length == 1 || ds.head? != some '0') = true := by
  have hall := all_isDigit_takeDigits cs
  unfold whole? at h
  split at h
  · cases h
  · cases h
  · next hne hzero =>
    rw [Option.some.inj h] at hall hne hzero
    rcases ds with _ | ⟨d, _ | ⟨d', ds⟩⟩
    · exact absurd rfl (hne rest)
    · exact ⟨hall, rfl⟩
    · refine ⟨hall, ?_⟩
      have hd : d ≠ '0' := by
        rintro rfl
        exact hzero d' ds rest rfl
      simp [hd]

theorem all_isDigit_of_fraction? (h : fraction? cs = some (ds, rest)) :
    ds.all Char.isDigit = true := by
  unfold fraction? at h
  split at h
  · exact (Bool.and_eq_true_iff.mp (areDigits_of_digits? h)).2
  · obtain ⟨rfl, -⟩ := Prod.mk.inj (Option.some.inj h)
    rfl

theorem areDigits_of_power? {e : Option (Bool × List Char)} (h : power? cs = some (e, rest)) :
    (e.all fun e => areDigits e.2) = true := by
  unfold power? at h
  split at h
  all_goals
    obtain ⟨⟨ds, rest'⟩, hdigits, heq⟩ := Option.map_eq_some_iff.mp h
    obtain ⟨rfl, -⟩ := Prod.mk.inj heq
    exact areDigits_of_digits? hdigits

theorem areDigits_of_exponent? {e : Option (Bool × List Char)} (h : exponent? cs = some (e, rest)) :
    (e.all fun e => areDigits e.2) = true := by
  unfold exponent? at h
  split at h
  · exact areDigits_of_power? h
  · exact areDigits_of_power? h
  · obtain ⟨rfl, -⟩ := Prod.mk.inj (Option.some.inj h)
    rfl

/-- **A numeral that is read** is one of the notation. -/
theorem isSpelled_of_numeral? {l : Literal} (h : numeral? cs = some (l, rest)) :
    l.isSpelled = true := by
  have hunsigned : ∃ negative cs', unsigned? negative cs' = some (l, rest) := by
    unfold numeral? at h
    split at h
    · exact ⟨_, _, h⟩
    · exact ⟨_, _, h⟩
  obtain ⟨negative, cs', h⟩ := hunsigned
  simp only [unsigned?, Option.bind_eq_bind, Option.bind_eq_some_iff, Option.pure_def,
    Option.some.injEq, Prod.mk.injEq] at h
  obtain ⟨⟨whole, cs₁⟩, hwhole, ⟨fraction, cs₂⟩, hfraction, ⟨exponent, cs₃⟩, hexponent, rfl, -⟩ := h
  obtain ⟨hdigits, hzero⟩ := isSpelled_of_whole? hwhole
  simp only [Literal.isSpelled, Bool.and_eq_true]
  exact ⟨⟨⟨hdigits, hzero⟩, all_isDigit_of_fraction? hfraction⟩, areDigits_of_exponent? hexponent⟩

/-- **A tree that is read** is spelled in numerals of the notation. -/
theorem isSpelled_of_read (fuel : Nat) :
    (∀ cs w rest, value? fuel cs = some (w, rest) → w.isSpelled = true)
      ∧ (∀ cs ws rest, items? fuel cs = some (ws, rest) → Written.areSpelled ws = true)
      ∧ ∀ cs ms rest, members? fuel cs = some (ms, rest) → Written.membersSpelled ms = true := by
  induction fuel with
  | zero =>
    refine ⟨fun cs w rest h => ?_, fun cs ws rest h => ?_, fun cs ms rest h => ?_⟩
    · cases h
    · cases h
    · cases h
  | succ fuel ih =>
    obtain ⟨hvalue, hitems, hmembers⟩ := ih
    refine ⟨fun cs w rest h => ?_, fun cs ws rest h => ?_, fun cs ms rest h => ?_⟩
    · rw [value?] at h
      split at h
      · obtain ⟨s, -, rfl⟩ := exists_of_map_eq_some h
        rfl
      · split at h
        · obtain ⟨rfl, -⟩ := Prod.mk.inj (Option.some.inj h)
          rfl
        · obtain ⟨ws, hread, rfl⟩ := exists_of_map_eq_some h
          exact hitems _ ws rest hread
      · split at h
        · obtain ⟨rfl, -⟩ := Prod.mk.inj (Option.some.inj h)
          rfl
        · obtain ⟨ms, hread, rfl⟩ := exists_of_map_eq_some h
          exact hmembers _ ms rest hread
      · obtain rfl := eq_of_word h
        rfl
      · obtain rfl := eq_of_word h
        rfl
      · obtain rfl := eq_of_word h
        rfl
      · obtain ⟨l, hread, rfl⟩ := exists_of_map_eq_some h
        exact isSpelled_of_numeral? hread
    · rw [items?] at h
      obtain ⟨⟨w, rest'⟩, hread, h⟩ := Option.bind_eq_some_iff.mp h
      have hw : w.isSpelled = true := hvalue _ w rest' hread
      dsimp only at h
      split at h
      · obtain ⟨ws', hread', rfl⟩ := exists_of_map_eq_some h
        exact Bool.and_eq_true_iff.mpr ⟨hw, hitems _ ws' rest hread'⟩
      · obtain ⟨rfl, -⟩ := Prod.mk.inj (Option.some.inj h)
        exact Bool.and_eq_true_iff.mpr ⟨hw, rfl⟩
      · cases h
    · rw [members?] at h
      split at h
      · obtain ⟨⟨k, rest₀⟩, -, h⟩ := Option.bind_eq_some_iff.mp h
        dsimp only at h
        split at h
        · obtain ⟨⟨w, rest'⟩, hread, h⟩ := Option.bind_eq_some_iff.mp h
          have hw : w.isSpelled = true := hvalue _ w rest' hread
          dsimp only at h
          split at h
          · obtain ⟨ms', hread', rfl⟩ := exists_of_map_eq_some h
            exact Bool.and_eq_true_iff.mpr ⟨hw, hmembers _ ms' rest hread'⟩
          · obtain ⟨rfl, -⟩ := Prod.mk.inj (Option.some.inj h)
            exact Bool.and_eq_true_iff.mpr ⟨hw, rfl⟩
          · cases h
        · cases h
      · cases h

end Reader

theorem Written.isSpelled_of_ofOctets? {octets : ByteArray} {w : Written}
    (h : ofOctets? octets = some w) : w.isSpelled = true := by
  unfold ofOctets? Reader.read? at h
  split at h
  · next w' rest hread =>
    split at h
    · obtain rfl := Option.some.inj h
      exact (Reader.isSpelled_of_read _).1 _ w' rest hread
    · cases h
  · cases h

namespace Written

/-! ## Trees with the same numerals -/

theorem isSpelled_array_iff {items : List Written} :
    (array items).isSpelled = true ↔ ∀ w ∈ items, w.isSpelled = true := by
  rw [isSpelled]
  induction items with
  | nil => simp [areSpelled]
  | cons w items ih => simp [areSpelled, ih]

theorem isSpelled_object_iff {members : List (Option String × Written)} :
    (object members).isSpelled = true ↔ ∀ m ∈ members, m.2.isSpelled = true := by
  rw [isSpelled]
  induction members with
  | nil => simp [membersSpelled]
  | cons m members ih => simp [membersSpelled, ih]

theorem isSpelled_object_iff_of_perm {members members' : List (Option String × Written)}
    (h : members.Perm members') :
    (object members).isSpelled = true ↔ (object members').isSpelled = true := by
  rw [isSpelled_object_iff, isSpelled_object_iff]
  exact forall_congr' fun m => imp_congr_left h.mem_iff

theorem isSpelled_int (n : Int) : (int n).written.isSpelled = true := by
  rw [int, written, Number.literal_int]
  have hread := Reader.numeral?_toString n Reader.endsNumeral_nil
  exact Reader.isSpelled_of_numeral? hread

end Written

end Rehearsal.Json
