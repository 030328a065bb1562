import Rehearsal.Json.Written
import Rehearsal.Text.Utf8

/-!
# Reading JSON

The reader is strict: one value, blanks only of the four kinds of the notation, no
leading zeros, no comma before a closing bracket, nothing after the value. It works
on symbols (`Text.symbols`), that is on characters with `none` where the octets
encode none. Outside a string such a symbol is a fault like any other character out
of place. Inside, it makes the string one that denotes no text, and whether that
matters is not for the reader to say.

Every step gives the value read and the symbols left. **The fuel** is computed from the
length of the text: each call of `value` is paid for by a bracket, a comma or the first
call, so twice as many calls as symbols, and two, are always enough.
-/

namespace Rehearsal.Json.Reader

open Rehearsal.Text (symbols)

/-- A character, or `none` for octets that encode none. -/
abbrev Symbol := Option Char

/-- The blanks of the notation. -/
def isBlank : Symbol → Bool
  | some c => c = ' ' || c = '\n' || c = '\r' || c = '\t'
  | none => false

/-- The symbols from the first that is not blank. -/
def skipBlanks (cs : List Symbol) : List Symbol := cs.dropWhile isBlank

/-! ## Numerals -/

/-- The digits at the start, and the symbols after them. -/
def takeDigits : List Symbol → List Char × List Symbol
  | some c :: cs =>
    if c.isDigit then
      let (ds, rest) := takeDigits cs
      (c :: ds, rest)
    else ([], some c :: cs)
  | cs => ([], cs)

/-- Digits of which there is at least one. -/
def digits? (cs : List Symbol) : Option (List Char × List Symbol) :=
  match takeDigits cs with
  | ([], _) => none
  | found => some found

/-- The digits before the point: a zero alone or digits that start with another one. -/
def whole? (cs : List Symbol) : Option (List Char × List Symbol) :=
  match takeDigits cs with
  | ([], _) => none
  | ('0' :: _ :: _, _) => none
  | found => some found

/-- A point with digits, or nothing. -/
def fraction? : List Symbol → Option (List Char × List Symbol)
  | some '.' :: cs => digits? cs
  | cs => some ([], cs)

/-- The digits of an exponent with their sign. -/
def power? : List Symbol → Option (Option (Bool × List Char) × List Symbol)
  | some '-' :: cs => (digits? cs).map fun (ds, rest) => (some (true, ds), rest)
  | some '+' :: cs => (digits? cs).map fun (ds, rest) => (some (false, ds), rest)
  | cs => (digits? cs).map fun (ds, rest) => (some (false, ds), rest)

/-- An exponent, or nothing. -/
def exponent? : List Symbol → Option (Option (Bool × List Char) × List Symbol)
  | some 'e' :: cs => power? cs
  | some 'E' :: cs => power? cs
  | cs => some (none, cs)

/-- A numeral whose sign has been read. -/
def unsigned? (negative : Bool) (cs : List Symbol) : Option (Literal × List Symbol) := do
  let (whole, cs) ← whole? cs
  let (fraction, cs) ← fraction? cs
  let (exponent, cs) ← exponent? cs
  pure (⟨negative, whole, fraction, exponent⟩, cs)

/-- **A numeral.** -/
def numeral? : List Symbol → Option (Literal × List Symbol)
  | some '-' :: cs => unsigned? true cs
  | cs => unsigned? false cs

/-! ## Strings -/

/-- The value of a hexadecimal digit. -/
def hexValue? (c : Char) : Option Nat :=
  if c.isDigit then some (c.toNat - '0'.toNat)
  else if 'a' ≤ c ∧ c ≤ 'f' then some (c.toNat - 'a'.toNat + 10)
  else if 'A' ≤ c ∧ c ≤ 'F' then some (c.toNat - 'A'.toNat + 10)
  else none

/-- The number that four hexadecimal digits spell. -/
def hex4? : List Char → Option Nat
  | [a, b, c, d] => do
    let a ← hexValue? a
    let b ← hexValue? b
    let c ← hexValue? c
    let d ← hexValue? d
    pure (((a * 16 + b) * 16 + c) * 16 + d)
  | _ => none

/-- The code point that a letter after a backslash stands for. -/
def letterEscape? (c : Char) : Option Nat :=
  if c = '"' ∨ c = '\\' ∨ c = '/' then some c.toNat
  else if c = 'b' then some 0x08
  else if c = 'f' then some 0x0C
  else if c = 'n' then some 0x0A
  else if c = 'r' then some 0x0D
  else if c = 't' then some 0x09
  else none

/-- **The code points of a string** up to its closing quote, and the symbols after it.
Halves of surrogate pairs are code points here; `none` stands for octets that encode
no character. -/
def codePoints? : List Symbol → Option (List (Option Nat) × List Symbol)
  | [] => none
  | none :: cs => (codePoints? cs).map fun (ps, rest) => (none :: ps, rest)
  | some '\\' :: some 'u' :: some a :: some b :: some c :: some d :: cs =>
    (hex4? [a, b, c, d]).bind fun p =>
      (codePoints? cs).map fun (ps, rest) => (some p :: ps, rest)
  | some '\\' :: some c :: cs =>
    (letterEscape? c).bind fun p =>
      (codePoints? cs).map fun (ps, rest) => (some p :: ps, rest)
  | some c :: cs =>
    if c = '"' then some ([], cs)
    else if c = '\\' ∨ c.toNat < 0x20 then none
    else (codePoints? cs).map fun (ps, rest) => (some c.toNat :: ps, rest)

/-- The first half of a surrogate pair. -/
def isHigh (p : Nat) : Bool := 0xD800 ≤ p && p < 0xDC00

/-- The second half of a surrogate pair. -/
def isLow (p : Nat) : Bool := 0xDC00 ≤ p && p < 0xE000

/-- **The characters of code points**, a surrogate pair being one character. There are
none if half of a pair stands alone. -/
def characters? : List (Option Nat) → Option (List Char)
  | [] => some []
  | none :: _ => none
  | some h :: some l :: ps =>
    if isHigh h then
      if isLow l then
        (characters? ps).map (Char.ofNat (0x10000 + (h - 0xD800) * 0x400 + (l - 0xDC00)) :: ·)
      else none
    else if isLow h then none
    else (characters? (some l :: ps)).map (Char.ofNat h :: ·)
  | some h :: ps =>
    if isHigh h ∨ isLow h then none else (characters? ps).map (Char.ofNat h :: ·)

/-- **A string** whose opening quote has been read: the text it denotes, if it denotes one. -/
def string? (cs : List Symbol) : Option (Option String × List Symbol) :=
  (codePoints? cs).map fun (ps, rest) => ((characters? ps).map String.ofList, rest)

/-! ## Values -/

/-- A word of the notation, and the symbols after it. -/
def word? (word : String) (cs : List Symbol) : Option (List Symbol) :=
  if (word.toList.map some).isPrefixOf cs then some (cs.drop word.length) else none

mutual

/-- **A value**, after blanks. -/
def value? : Nat → List Symbol → Option (Written × List Symbol)
  | 0, _ => none
  | fuel + 1, cs =>
    match skipBlanks cs with
    | some '"' :: rest => (string? rest).map fun (s, rest) => (.string s, rest)
    | some '[' :: rest =>
      match skipBlanks rest with
      | some ']' :: rest => some (.array [], rest)
      | rest => (items? fuel rest).map fun (items, rest) => (.array items, rest)
    | some '{' :: rest =>
      match skipBlanks rest with
      | some '}' :: rest => some (.object [], rest)
      | rest => (members? fuel rest).map fun (members, rest) => (.object members, rest)
    | some 'n' :: rest => (word? "ull" rest).map fun rest => (.null, rest)
    | some 't' :: rest => (word? "rue" rest).map fun rest => (.bool true, rest)
    | some 'f' :: rest => (word? "alse" rest).map fun rest => (.bool false, rest)
    | rest => (numeral? rest).map fun (l, rest) => (.number l, rest)

/-- Items up to the closing bracket, at least one. -/
def items? : Nat → List Symbol → Option (List Written × List Symbol)
  | 0, _ => none
  | fuel + 1, cs => do
    let (w, rest) ← value? fuel cs
    match skipBlanks rest with
    | some ',' :: rest => (items? fuel rest).map fun (ws, rest) => (w :: ws, rest)
    | some ']' :: rest => some ([w], rest)
    | _ => none

/-- Members up to the closing brace, at least one. -/
def members? : Nat → List Symbol → Option (List (Option String × Written) × List Symbol)
  | 0, _ => none
  | fuel + 1, cs =>
    match skipBlanks cs with
    | some '"' :: rest => do
      let (k, rest) ← string? rest
      match skipBlanks rest with
      | some ':' :: rest =>
        let (w, rest) ← value? fuel rest
        match skipBlanks rest with
        | some ',' :: rest => (members? fuel rest).map fun (ms, rest) => ((k, w) :: ms, rest)
        | some '}' :: rest => some ([(k, w)], rest)
        | _ => none
      | _ => none
    | _ => none

end

/-- The tree of symbols that are one value and blanks. -/
def read? (cs : List Symbol) : Option Written :=
  match value? (2 * cs.length + 2) cs with
  | some (w, rest) => if skipBlanks rest = [] then some w else none
  | none => none

end Rehearsal.Json.Reader

namespace Rehearsal.Json.Written

/-- **The tree of octets** that are a JSON text. -/
def ofOctets? (octets : ByteArray) : Option Written := Reader.read? (Text.symbols octets)

/-- **The tree of a JSON text.** -/
def ofText? (s : String) : Option Written := Reader.read? (s.toList.map some)

/-- Reading the octets of a text is reading the text. -/
theorem ofOctets?_toUTF8 (s : String) : ofOctets? s.toUTF8 = ofText? s := by
  rw [ofOctets?, ofText?, Text.symbols_toUTF8]

end Rehearsal.Json.Written
