import Rehearsal.Json.Reader

/-!
# Numerals and quoted texts are read back

What a document is made of in the end is integers and texts, and each is
written in one way only. This module reads the two back, each **before whatever comes after
it**: a closing quote ends a text by itself, and a numeral ends where a symbol stands that is
in no numeral (`EndsNumeral`).

An integer is read as its digits (`numeral?_toString`), and the digits denote the integer
if 64 bits hold it (`Literal.int?_ofInt`). A text is read as its characters, whatever they are
(`string?_escaped`): a character between quotes is one code point, escaped or not, and no
character is half of a surrogate pair.
-/

namespace Rehearsal.Json.Reader

/-! ## Where a numeral ends -/

/-- The symbol goes on with a numeral that has begun. -/
def inNumeral : Symbol → Bool
  | some c => c.isDigit || c == '.' || c == 'e' || c == 'E'
  | none => false

/-- No numeral before these symbols goes on into them. -/
def EndsNumeral (rest : List Symbol) : Prop := ∀ c ∈ rest.head?, inNumeral c = false

@[simp] theorem endsNumeral_nil : EndsNumeral [] := by
  simp [EndsNumeral]

@[simp] theorem endsNumeral_cons {c : Symbol} {rest : List Symbol} :
    EndsNumeral (c :: rest) ↔ inNumeral c = false := by
  simp [EndsNumeral]

/-! ## Digits -/

/-- **Digits are read to the end** if what comes after them is no digit. -/
theorem takeDigits_append_of_not_digit {ds : List Char} {rest : List Symbol}
    (hds : ∀ c ∈ ds, c.isDigit = true)
    (hrest : ∀ c, rest.head? = some (some c) → c.isDigit = false) :
    takeDigits (ds.map some ++ rest) = (ds, rest) := by
  induction ds with
  | nil =>
    rcases rest with _ | ⟨_ | c, rest⟩
    · rfl
    · rfl
    · simp [takeDigits, hrest c rfl]
  | cons d ds ih =>
    have hd : d.isDigit = true := hds d (by simp)
    have hds' : ∀ c ∈ ds, c.isDigit = true := fun c hc => hds c (by simp [hc])
    rw [List.map_cons, List.cons_append, takeDigits, if_pos hd, ih hds']

theorem EndsNumeral.not_digit {rest : List Symbol} (h : EndsNumeral rest) {c : Char}
    (hc : rest.head? = some (some c)) : c.isDigit = false := by
  have hin := h (some c) hc
  simp only [inNumeral, Bool.or_eq_false_iff] at hin
  exact hin.1.1.1

theorem takeDigits_append {ds : List Char} {rest : List Symbol} (hds : ∀ c ∈ ds, c.isDigit = true)
    (hrest : EndsNumeral rest) : takeDigits (ds.map some ++ rest) = (ds, rest) :=
  takeDigits_append_of_not_digit hds fun _ hc => hrest.not_digit hc

/-- A number other than zero has no zero in front. -/
theorem head?_toDigits_ne_zero {n : Nat} (hn : 0 < n) : (Nat.toDigits 10 n).head? ≠ some '0' := by
  induction n using Nat.strongRecOn with
  | ind n ih =>
    by_cases hlt : n < 10
    · rw [Nat.toDigits_of_lt_base hlt]
      simpa using Nat.ne_of_gt hn
    · have hleading := ih (n / 10) (by omega) (by omega)
      rw [Nat.toDigits_of_base_le (by decide) (Nat.le_of_not_lt hlt)]
      cases hq : Nat.toDigits 10 (n / 10) with
      | nil => exact absurd hq Nat.toDigits_ne_nil
      | cons d ds => rwa [hq] at hleading

theorem isDigit_of_mem_toDigits {n : Nat} {c : Char} (hc : c ∈ Nat.toDigits 10 n) :
    c.isDigit = true :=
  Nat.isDigit_of_mem_toDigits (by decide) (by decide) hc

/-- The digits of a number are read as the digits before the point. -/
theorem whole?_toDigits (n : Nat) {rest : List Symbol} (hrest : EndsNumeral rest) :
    whole? ((Nat.toDigits 10 n).map some ++ rest) = some (Nat.toDigits 10 n, rest) := by
  rw [whole?, takeDigits_append (fun c hc => isDigit_of_mem_toDigits hc) hrest]
  split
  · next h => exact absurd (congrArg Prod.fst h) Nat.toDigits_ne_nil
  · next h =>
    have hhead := congrArg (fun p => p.1.head?) h
    rcases Nat.eq_zero_or_pos n with rfl | hn
    · simp at h
    · exact absurd hhead (head?_toDigits_ne_zero hn)
  · rfl

theorem fraction?_of_endsNumeral {rest : List Symbol} (hrest : EndsNumeral rest) :
    fraction? rest = some ([], rest) := by
  unfold fraction?
  split
  · exact absurd (endsNumeral_cons.mp hrest) (by decide)
  · rfl

theorem exponent?_of_endsNumeral {rest : List Symbol} (hrest : EndsNumeral rest) :
    exponent? rest = some (none, rest) := by
  unfold exponent?
  split
  · exact absurd (endsNumeral_cons.mp hrest) (by decide)
  · exact absurd (endsNumeral_cons.mp hrest) (by decide)
  · rfl

theorem unsigned?_toDigits (negative : Bool) (n : Nat) {rest : List Symbol}
    (hrest : EndsNumeral rest) :
    unsigned? negative ((Nat.toDigits 10 n).map some ++ rest)
      = some (⟨negative, Nat.toDigits 10 n, [], none⟩, rest) := by
  unfold unsigned?
  rw [whole?_toDigits n hrest]
  show ((fraction? rest).bind fun f => (exponent? f.2).bind fun e =>
    some ((⟨negative, Nat.toDigits 10 n, f.1, e.1⟩ : Literal), e.2)) = _
  rw [fraction?_of_endsNumeral hrest, Option.bind_some, exponent?_of_endsNumeral hrest,
    Option.bind_some]

end Rehearsal.Json.Reader

/-! ## Integers -/

namespace Rehearsal.Json

/-- **The numeral of an integer**: its sign and its digits. -/
def Literal.ofInt (n : Int) : Literal := ⟨n < 0, Nat.toDigits 10 n.natAbs, [], none⟩

theorem toList_toString_int (n : Int) :
    (toString n).toList = (if n < 0 then ['-'] else []) ++ Nat.toDigits 10 n.natAbs := by
  cases n with
  | ofNat n =>
    show (Nat.repr n).toList = _
    rw [Nat.toList_repr, if_neg (by simp)]
    rfl
  | negSucc n =>
    show ("-" ++ Nat.repr (n + 1)).toList = _
    rw [String.toList_append, Nat.toList_repr, if_pos (Int.negSucc_lt_zero n)]
    rfl

namespace Reader

theorem numeral?_of_head_ne_minus {cs : List Symbol} (h : cs.head? ≠ some (some '-')) :
    numeral? cs = unsigned? false cs := by
  unfold numeral?
  split
  · exact absurd rfl h
  · rfl

/-- **An integer is read back** as its numeral. -/
theorem numeral?_toString (n : Int) {rest : List Symbol} (hrest : EndsNumeral rest) :
    numeral? ((toString n).toList.map some ++ rest) = some (Literal.ofInt n, rest) := by
  rw [toList_toString_int, Literal.ofInt]
  by_cases hn : n < 0
  · rw [if_pos hn, decide_eq_true hn]
    exact unsigned?_toDigits true _ hrest
  · rw [if_neg hn, decide_eq_false hn, List.nil_append]
    have hhead : ((Nat.toDigits 10 n.natAbs).map some ++ rest).head? ≠ some (some '-') := by
      cases hds : Nat.toDigits 10 n.natAbs with
      | nil => exact absurd hds Nat.toDigits_ne_nil
      | cons d ds =>
        have hd : d.isDigit = true := isDigit_of_mem_toDigits (by rw [hds]; simp)
        intro h
        have hminus : d = '-' := by simpa using h
        rw [hminus] at hd
        exact absurd hd (by decide)
    rw [numeral?_of_head_ne_minus hhead]
    exact unsigned?_toDigits false _ hrest

end Reader

/-- **The integer of a numeral** is what its digits and sign denote, in 64 bits. -/
theorem Literal.int?_ofInt {n : Int} (hlow : -(Decimal.twoTo 63 : Int) ≤ n)
    (hhigh : n ≤ (wordMax : Int)) : (Literal.ofInt n).int? = some n := by
  have hdigits : Nat.ofDigitChars 10 (Nat.toDigits 10 n.natAbs) 0 = n.natAbs :=
    Nat.ofDigitChars_ten_toDigits
  rw [int?, number?]
  simp only [ofInt, hdigits, Literal.isInteger, List.isEmpty_nil, Option.isNone_none]
  by_cases hn : n < 0
  · rw [if_neg (by simp [hn]), if_pos ⟨rfl, by simpa using hn, by omega, by omega⟩]
    simp only [Option.some.injEq]
    omega
  · rw [if_pos ⟨rfl, by simpa using hn, by omega⟩]
    simp only [Option.some.injEq]
    omega

end Rehearsal.Json

namespace Rehearsal.Json.Reader

/-! ## Texts between quotes -/

/-- A hexadecimal digit is read back. -/
theorem hexValue?_hexDigit : ∀ n < 16, hexValue? (hexDigit n) = some n := by decide

theorem hex4?_of_lt {n : Nat} (hn : n < 0x20) :
    hex4? ['0', '0', hexDigit (n / 16), hexDigit (n % 16)] = some n := by
  have hzero : hexValue? '0' = some 0 := by decide
  have hhigh := hexValue?_hexDigit (n / 16) (by omega)
  have hlow := hexValue?_hexDigit (n % 16) (by omega)
  simp [hex4?, hzero, hhigh, hlow]
  omega

/-- **A character between quotes is one code point.** -/
theorem codePoints?_escaped (c : Char) (cs : List Symbol) :
    codePoints? ((escaped c).map some ++ cs)
      = (codePoints? cs).map fun (ps, rest) => (some c.toNat :: ps, rest) := by
  by_cases hplain : isPlain c = true
  · rw [escaped_of_isPlain hplain]
    simp only [isPlain, Bool.and_eq_true, decide_eq_true_eq, bne_iff_ne] at hplain
    obtain ⟨⟨hc, hq⟩, hb⟩ := hplain
    rw [List.map_singleton, List.singleton_append, codePoints?, if_neg hq,
      if_neg (not_or.mpr ⟨hb, Nat.not_lt.mpr hc⟩)]
    · exact fun _ _ _ _ _ _ hc => hb hc
    · exact fun _ _ _ hc => hb hc
  · unfold escaped
    -- the seven characters with a letter of their own, then the other control characters
    iterate 7
      split
      · next h => subst h; rfl
    split
    · next h =>
      show (hex4? ['0', '0', hexDigit (c.toNat / 16), hexDigit (c.toNat % 16)]).bind _ = _
      rw [hex4?_of_lt h]
      rfl
    · next hq hb _ _ _ _ _ hc =>
      exact absurd (by simp [isPlain, hq, hb]; omega) hplain

/-- The code points of a text between quotes are its characters. -/
theorem codePoints?_flatMap_escaped (cs : List Char) (rest : List Symbol) :
    codePoints? ((cs.flatMap escaped).map some ++ some '"' :: rest)
      = some (cs.map fun c => some c.toNat, rest) := by
  induction cs with
  | nil => rfl
  | cons c cs ih =>
    rw [List.flatMap_cons, List.map_append, List.append_assoc, codePoints?_escaped, ih]
    rfl

/-- A character is no half of a surrogate pair. -/
theorem isHigh_toNat (c : Char) : isHigh c.toNat = false := by
  have h : c.toNat < 0xD800 ∨ 0xDFFF < c.toNat ∧ c.toNat < 0x110000 := c.valid
  simp only [isHigh, Bool.and_eq_false_iff, decide_eq_false_iff_not]
  omega

theorem isLow_toNat (c : Char) : isLow c.toNat = false := by
  have h : c.toNat < 0xD800 ∨ 0xDFFF < c.toNat ∧ c.toNat < 0x110000 := c.valid
  simp only [isLow, Bool.and_eq_false_iff, decide_eq_false_iff_not]
  omega

theorem characters?_map_toNat (cs : List Char) :
    characters? (cs.map fun c => some c.toNat) = some cs := by
  induction cs with
  | nil => rfl
  | cons c cs ih =>
    cases cs with
    | nil => simp [characters?, isHigh_toNat, isLow_toNat]
    | cons d ds =>
      rw [List.map_cons] at ih
      rw [List.map_cons, List.map_cons, characters?, ih]
      simp [isHigh_toNat, isLow_toNat]

/-- **A text between quotes is read back.** -/
theorem string?_escaped (s : String) (rest : List Symbol) :
    string? ((s.toList.flatMap escaped).map some ++ some '"' :: rest) = some (some s, rest) := by
  rw [string?, codePoints?_flatMap_escaped]
  simp [characters?_map_toNat]

end Rehearsal.Json.Reader
