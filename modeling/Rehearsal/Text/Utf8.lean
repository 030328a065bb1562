/-!
# Octets as text

A file holds octets, and the shell reads texts. The octets of a text are its
UTF-8 encoding, and most files are one. Where a file is not, it still has
characters in it: `symbols` gives the characters that the octets encode, with
`none` at each sequence of octets that encodes no character. Such a sequence is as
long as it could still have been the start of a character, so a character cut
short counts once and not once per octet.

`symbols_toUTF8` says the octets of a text are the characters of that text, which
is all the document format needs to know of the encoding.
-/

namespace Rehearsal.Text

/-- **A character begun**: the bits read so far, the range of the next octet, and
how many octets are still owed. -/
structure Begun where
  bits : Nat
  least : UInt8
  greatest : UInt8
  owed : Nat

/-- The character that a first octet above ASCII begins, if it begins one. The
second octet has a narrower range where the full one would encode a shorter
character again, a surrogate, or nothing below the last code point. -/
def Begun.ofLead? (b : UInt8) : Option Begun :=
  if 0xC2 ≤ b && b ≤ 0xDF then some ⟨b.toNat % 32, 0x80, 0xBF, 1⟩
  else if b == 0xE0 then some ⟨0, 0xA0, 0xBF, 2⟩
  else if b == 0xED then some ⟨0xD, 0x80, 0x9F, 2⟩
  else if 0xE1 ≤ b && b ≤ 0xEF then some ⟨b.toNat % 16, 0x80, 0xBF, 2⟩
  else if b == 0xF0 then some ⟨0, 0x90, 0xBF, 3⟩
  else if 0xF1 ≤ b && b ≤ 0xF3 then some ⟨b.toNat % 8, 0x80, 0xBF, 3⟩
  else if b == 0xF4 then some ⟨4, 0x80, 0x8F, 3⟩
  else none

/-- What an octet between characters gives: symbols, and the character it begins. -/
def firstOctet (b : UInt8) : List (Option Char) × Option Begun :=
  if b < 0x80 then ([some (Char.ofNat b.toNat)], none)
  else match Begun.ofLead? b with
    | some begun => ([], some begun)
    | none => ([none], none)

/-- What one octet gives: symbols, and the character left begun after it. -/
def octet : Option Begun → UInt8 → List (Option Char) × Option Begun
  | none, b => firstOctet b
  | some begun, b =>
    if begun.least ≤ b && b ≤ begun.greatest then
      let bits := begun.bits * 64 + b.toNat % 64
      if begun.owed ≤ 1 then ([some (Char.ofNat bits)], none)
      else ([], some ⟨bits, 0x80, 0xBF, begun.owed - 1⟩)
    else
      let (after, next) := firstOctet b
      (none :: after, next)

/-- The symbols of octets that need not encode a text. -/
def scan : Option Begun → List UInt8 → List (Option Char)
  | begun, [] => if begun.isSome then [none] else []
  | begun, b :: bs => (octet begun b).1 ++ scan (octet begun b).2 bs

/-- **The characters that octets encode**, with `none` where they encode none. -/
def symbols (octets : ByteArray) : List (Option Char) :=
  match String.fromUTF8? octets with
  | some s => s.toList.map some
  | none => scan none octets.toList

/-- The octets shown as text: the replacement character stands where they encode none. -/
def shown (octets : ByteArray) : String :=
  String.ofList ((symbols octets).map (·.getD '\uFFFD'))

/-- A text's octets read back as the text. -/
@[simp] theorem fromUTF8?_toUTF8 (s : String) : String.fromUTF8? s.toUTF8 = some s := by
  rw [String.fromUTF8?, dif_pos (show s.toUTF8.IsValidUTF8 from s.isValidUTF8)]
  rfl

/-- **The octets of a text are its characters.** -/
@[simp] theorem symbols_toUTF8 (s : String) : symbols s.toUTF8 = s.toList.map some := by
  rw [symbols, fromUTF8?_toUTF8]

end Rehearsal.Text
