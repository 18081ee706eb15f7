import Orbit.Text.Grapheme.Class

/-!
# Grapheme clusters

A text falls into clusters, each of which a reader takes for one character. Whether a code point belongs to
the cluster before it depends on its class, on the class of the code point before it, and on how far one of three
longer patterns has come: pictographs with joiners between them, consonants with linkers between them, and the two
halves of a flag.

* `Grapheme.Trail` : what an open cluster decides about the next code point.
* `Grapheme.Trail.joins` : whether the next code point belongs to it.
* `Grapheme.clusters` : the clusters of some characters.
-/

namespace Orbit.Text.Grapheme

/-- The classes that stand alone; only the two halves of the end of a line stay together. -/
def Class.isControl : Class → Bool
  | carriageReturn | lineFeed | control => true
  | _ => false

/-- The classes that belong to what is before them. -/
def Class.attaches : Class → Bool
  | extend | linker | joiner | nonJoiner | spacing => true
  | _ => false

/-- The classes that can follow in a syllable of Hangul. -/
def Class.followers : Class → List Class
  | leading => [leading, vowel, openSyllable, closedSyllable]
  | openSyllable | vowel => [vowel, trailing]
  | closedSyllable | trailing => [trailing]
  | _ => []

/-- How far the end of a cluster has come in one of the longer patterns. -/
inductive Progress where
  | nothing
  /-- A pictograph and marks. -/
  | pictograph
  /-- A pictograph, marks and a joiner. -/
  | joined
  /-- A consonant and marks. -/
  | consonant
  /-- A consonant and marks with a linker among them. -/
  | linked
  /-- The first half of a flag. -/
  | half
deriving DecidableEq, Repr

structure Trail where
  last : Class
  progress : Progress
deriving DecidableEq, Repr

def Progress.next : Progress → Class → Progress
  | _, .pictograph => .pictograph
  | _, .consonant => .consonant
  | half, .regional => nothing
  | _, .regional => half
  | pictograph, .extend | pictograph, .linker | pictograph, .nonJoiner => pictograph
  | pictograph, .joiner => joined
  | consonant, .extend | consonant, .joiner => consonant
  | consonant, .linker => linked
  | linked, .extend | linked, .joiner | linked, .linker => linked
  | _, _ => nothing

/-- The class that completes a pattern. -/
def Progress.awaits : Progress → Option Class
  | joined => some .pictograph
  | linked => some .consonant
  | half => some .regional
  | _ => none

namespace Trail

/-- The end of a cluster to which nothing belongs. -/
def start : Trail := ⟨.control, .nothing⟩

def next (t : Trail) (c : Class) : Trail := ⟨c, t.progress.next c⟩

/-- Whether a code point belongs to the cluster before it. -/
def joins (t : Trail) (c : Class) : Bool :=
  if t.last.isControl || c.isControl then t.last == .carriageReturn && c == .lineFeed
  else c.attaches || t.last == .prepended || t.last.followers.contains c || t.progress.awaits == some c

end Trail

/-- The rest of an open cluster and the clusters after it. -/
def clustersFrom (t : Trail) : List Char → List Char × List (List Char)
  | [] => ([], [])
  | c :: cs =>
    let (rest, later) := clustersFrom (t.next (.of c)) cs
    if t.joins (.of c) then (c :: rest, later) else ([], (c :: rest) :: later)

def clusters (cs : List Char) : List (List Char) := (clustersFrom .start cs).2

end Orbit.Text.Grapheme
