import Orbit.Text.Bytes
import Orbit.Text.Grapheme.Cluster

/-!
# Typed lines

A line that is read as it was typed still has its backspaces in it. Each of them takes back the grapheme cluster
before it, if there is one.

* `Text.Typing` : a line while it is typed.
* `Text.typed` : the line that is meant.
-/

namespace Orbit.Text

/-- A line while it is typed, from its end to its start. The size of a cluster is kept in a byte: of a cluster of
256 bytes or more only the remainder is taken back. -/
structure Typing where
  bytes : List UInt8
  sizes : List UInt8
deriving DecidableEq, Repr

def Typing.add (t : Typing) (cluster : List Char) : Typing :=
  if cluster == [Char.ofNat 0x08] then
    match t.sizes with
    | [] => t
    | size :: sizes => ⟨t.bytes.drop size.toNat, sizes⟩
  else
    let new := utf8 (String.ofList cluster)
    ⟨new.reverse ++ t.bytes, UInt8.ofNat new.length :: t.sizes⟩

/-- The line that was meant when these characters were typed. -/
def typed (s : String) : String :=
  ofBytesLossy ((Grapheme.clusters s.toList).foldl Typing.add ⟨[], []⟩).bytes.reverse

end Orbit.Text
