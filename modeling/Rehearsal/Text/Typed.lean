import Rehearsal.Text.Cluster

/-!
# Text as it is typed

A line that is typed in may hold backspaces. **A backspace takes back** the cluster before
it, so an accented letter goes at once and not accent by accent, and at the start of
the line it takes back nothing.

How far a backspace goes is noted when its cluster is typed: the number of octets of the
cluster, in one octet. A cluster of 256 octets or more, which no script needs, is therefore
not taken back as a whole.

A line without backspaces is what it is (`typed_of_not_mem`).
-/

namespace Rehearsal.Text

/-- The character that takes back the cluster before it. -/
def backspace : Char := '\x08'

/-- **A line while it is typed.** -/
structure Typing where
  /-- The characters that stand, last first. -/
  kept : List Char
  /-- The sizes of the clusters that stand, last first. -/
  sizes : List UInt8

namespace Typing

/-- Nothing is typed yet. -/
def empty : Typing := ⟨[], []⟩

/-- How many octets characters have. -/
def octets (cs : List Char) : Nat := (String.ofList cs).utf8ByteSize

/-- Characters, last first, without the last so many octets. A character that would be cut
is left. -/
def takeBack : Nat → List Char → List Char
  | _, [] => []
  | n, c :: cs => if n < c.utf8Size then c :: cs else takeBack (n - c.utf8Size) cs

/-- **One cluster more is typed.** -/
def press (t : Typing) (cluster : List Char) : Typing :=
  if cluster = [backspace] then
    match t.sizes with
    | [] => t
    | n :: sizes => ⟨takeBack n.toNat t.kept, sizes⟩
  else ⟨cluster.reverse ++ t.kept, UInt8.ofNat (octets cluster) :: t.sizes⟩

/-- What stands of the line. -/
def line (t : Typing) : List Char := t.kept.reverse

theorem line_press_of_ne {cluster : List Char} (h : cluster ≠ [backspace]) (t : Typing) :
    (t.press cluster).line = t.line ++ cluster := by
  simp [press, h, line]

theorem line_foldl_press {gs : List (List Char)} (h : ∀ g ∈ gs, g ≠ [backspace])
    (t : Typing) : (gs.foldl press t).line = t.line ++ gs.flatten := by
  induction gs generalizing t with
  | nil => simp
  | cons g gs ih =>
    rw [List.foldl_cons, ih (fun g' hg' => h g' (List.mem_cons_of_mem _ hg')),
      line_press_of_ne (h g List.mem_cons_self), List.flatten_cons, List.append_assoc]

end Typing

/-- **The line that is meant** by what is typed. -/
def typed (s : String) : String :=
  String.ofList ((clusters s.toList).foldl Typing.press .empty).line

/-- A line without backspaces is meant as it is. -/
theorem typed_of_not_mem {s : String} (h : backspace ∉ s.toList) : typed s = s := by
  rw [typed, Typing.line_foldl_press, flatten_clusters]
  · exact String.ofList_toList
  · rintro _ hg rfl
    have hmem : backspace ∈ (clusters s.toList).flatten :=
      List.mem_flatten.mpr ⟨_, hg, List.mem_singleton_self _⟩
    exact h (flatten_clusters s.toList ▸ hmem)

end Rehearsal.Text
