import Rehearsal.Text.Cluster.Table

/-!
# Clusters of characters

What a reader takes for one character may be several: a letter with its accents, a flag of
two regional indicators, a family of pictographs held together by joiners, a Korean
syllable, a conjunct of consonants. Such a run of characters is **a cluster**. Where one
cluster ends and the next begins is decided character by character: a character **joins**
the cluster before it or begins a new one.

Most of it hangs on the two characters at the place. Three rules look further
back, and `Preceding` keeps what they need: the regional indicators pair up from the first
of their run, a pictograph joins over a joiner only if a pictograph stands
before that, and a consonant joins over a linker only if a consonant does.

`flatten_clusters` says that the clusters of a text make up the text.
-/

namespace Rehearsal.Text

/-- **What a character is to a cluster.** -/
inductive ClusterRole where
  | carriageReturn
  | lineFeed
  | control
  | extender
  | joiner
  | spacing
  | prepended
  | regional
  | lead
  | vowel
  | tail
  /-- A composed Korean syllable that ends in its vowel. -/
  | openSyllable
  /-- A composed Korean syllable that ends in a consonant. -/
  | closedSyllable
  | pictograph
  | other
deriving DecidableEq

namespace ClusterRole

/-- The role of a composed Korean syllable. There is one without a final consonant and 27
with one for each pair of a first consonant and a vowel. -/
def ofSyllable (c : Char) : ClusterRole :=
  if (c.toNat - 0xAC00) % 28 = 0 then .openSyllable else .closedSyllable

/-- **The role of a character.** -/
def ofChar (c : Char) : ClusterRole :=
  if c = '\r' then .carriageReturn
  else if c = '\n' then .lineFeed
  else if controlRanges.contains c then .control
  else if extenderRanges.contains c then .extender
  else if c = '\u200d' then .joiner
  else if spacingRanges.contains c then .spacing
  else if prependedRanges.contains c then .prepended
  else if 0x1F1E6 ≤ c.toNat ∧ c.toNat ≤ 0x1F1FF then .regional
  else if leadRanges.contains c then .lead
  else if vowelRanges.contains c then .vowel
  else if tailRanges.contains c then .tail
  else if 0xAC00 ≤ c.toNat ∧ c.toNat ≤ 0xD7A3 then ofSyllable c
  else if pictographRanges.contains c then .pictograph
  else .other

/-- A character that is a cluster by itself, a line end of two characters apart. -/
def standsAlone (r : ClusterRole) : Bool :=
  r == .carriageReturn || r == .lineFeed || r == .control

/-- A character that joins whatever is before it, unless that stands alone. -/
def trails (r : ClusterRole) : Bool := r == .extender || r == .joiner || r == .spacing

/-- **A Korean syllable goes on**: what follows each of its parts. -/
def syllableGoesOn : ClusterRole → ClusterRole → Bool
  | .lead, r => r == .lead || r == .vowel || r == .openSyllable || r == .closedSyllable
  | .vowel, r => r == .vowel || r == .tail
  | .openSyllable, r => r == .vowel || r == .tail
  | .closedSyllable, r => r == .tail
  | .tail, r => r == .tail
  | _, _ => false

end ClusterRole

/-- A consonant of the scripts that have conjuncts. -/
def isConjunctConsonant (c : Char) : Bool := linkedRanges.contains c

/-- A character that may stand between the consonants of a conjunct: an extender or
joiner, but not the one that keeps characters apart. -/
def fillsConjunct (c : Char) : Bool :=
  (ClusterRole.ofChar c == .extender || ClusterRole.ofChar c == .joiner) && c != '\u200c'

/-- **What stands before a place** in a text, as far as it matters to the clusters. -/
structure Preceding where
  /-- The role of the last character. -/
  role : ClusterRole
  /-- An odd number of regional indicators ends here. -/
  oddRegional : Bool
  /-- A pictograph ends here, with any extenders. -/
  pictograph : Bool
  /-- A pictograph ends here, with any extenders and a joiner. -/
  joinedPictograph : Bool
  /-- A consonant ends here, with anything that may fill a conjunct. -/
  consonant : Bool
  /-- There is a linker among what ends here after the consonant. -/
  linked : Bool

namespace Preceding

/-- What stands before the first character, with which nothing joins. -/
def start : Preceding := ⟨.control, false, false, false, false, false⟩

/-- What stands after a character. -/
def after (p : Preceding) (c : Char) : Preceding where
  role := .ofChar c
  oddRegional := ClusterRole.ofChar c == .regional && !p.oddRegional
  pictograph :=
    ClusterRole.ofChar c == .pictograph || (ClusterRole.ofChar c == .extender && p.pictograph)
  joinedPictograph := ClusterRole.ofChar c == .joiner && p.pictograph
  consonant := isConjunctConsonant c || (fillsConjunct c && p.consonant)
  linked := fillsConjunct c && p.consonant && (p.linked || linkerRanges.contains c)

/-- **A character joins the cluster before it.** -/
def joins (p : Preceding) (c : Char) : Bool :=
  let r := ClusterRole.ofChar c
  if p.role.standsAlone || r.standsAlone then p.role == .carriageReturn && r == .lineFeed
  else
    r.trails || p.role == .prepended || p.role.syllableGoesOn r
      || (r == .regional && p.oddRegional)
      || (r == .pictograph && p.joinedPictograph)
      || (isConjunctConsonant c && p.linked)

@[simp] theorem joins_start (c : Char) : start.joins c = false := rfl

end Preceding

/-- What goes on with the cluster before a text, and the clusters after that. -/
def clustersAfter (p : Preceding) : List Char → List Char × List (List Char)
  | [] => ([], [])
  | c :: cs =>
    let rest := clustersAfter (p.after c) cs
    if p.joins c then (c :: rest.1, rest.2) else ([], (c :: rest.1) :: rest.2)

/-- **The clusters of a text**, in order. -/
def clusters (cs : List Char) : List (List Char) := (clustersAfter .start cs).2

theorem append_flatten_clustersAfter (p : Preceding) (cs : List Char) :
    (clustersAfter p cs).1 ++ (clustersAfter p cs).2.flatten = cs := by
  induction cs generalizing p with
  | nil => rfl
  | cons c cs ih =>
    have hrest := ih (p.after c)
    cases hjoins : p.joins c <;> simp [clustersAfter, hjoins, hrest]

theorem clustersAfter_start (cs : List Char) : (clustersAfter .start cs).1 = [] := by
  cases cs <;> simp [clustersAfter]

/-- **The clusters of a text make up the text.** -/
theorem flatten_clusters (cs : List Char) : (clusters cs).flatten = cs := by
  simpa [clusters, clustersAfter_start] using append_flatten_clustersAfter .start cs

end Rehearsal.Text
