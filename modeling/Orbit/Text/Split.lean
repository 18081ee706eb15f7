/-!
# Cutting texts at separators

* `Text.cut?` : the two parts around the first separator, if there is one.
* `Text.pieces` : all parts between separators; a text without a separator is one piece.
-/

namespace Orbit.Text

/-- The characters before and after the first one that satisfies `p`. -/
def cutChars? (p : Char → Bool) : List Char → Option (List Char × List Char)
  | [] => none
  | c :: cs => if p c then some ([], cs) else (cutChars? p cs).map fun (left, right) => (c :: left, right)

def cut? (p : Char → Bool) (s : String) : Option (String × String) :=
  (cutChars? p s.toList).map fun (left, right) => (String.ofList left, String.ofList right)

/-- The runs of characters between those that satisfy `p`. -/
def charPieces (p : Char → Bool) : List Char → List (List Char)
  | [] => [[]]
  | c :: cs =>
    if p c then [] :: charPieces p cs
    else
      match charPieces p cs with
      | [] => [[c]]
      | piece :: rest => (c :: piece) :: rest

def pieces (p : Char → Bool) (s : String) : List String := (charPieces p s.toList).map String.ofList

theorem cutChars?_eq_none_iff (p : Char → Bool) (cs : List Char) : cutChars? p cs = none ↔ ∀ c ∈ cs, p c = false := by
  induction cs with
  | nil => simp [cutChars?]
  | cons c cs ih => by_cases h : p c <;> simp [cutChars?, h, ih]

theorem cutChars?_eq_some {p : Char → Bool} {cs left right : List Char}
    (h : cutChars? p cs = some (left, right)) :
    (∀ c ∈ left, p c = false) ∧ ∃ c, p c = true ∧ cs = left ++ c :: right := by
  induction cs generalizing left with
  | nil => simp [cutChars?] at h
  | cons c cs ih =>
    by_cases hc : p c
    · simp only [cutChars?, hc, if_true, Option.some.injEq, Prod.mk.injEq] at h
      obtain ⟨rfl, rfl⟩ := h
      exact ⟨by simp, c, hc, rfl⟩
    · simp only [cutChars?, hc, Bool.false_eq_true, if_false, Option.map_eq_some_iff, Prod.mk.injEq, Prod.exists] at h
      obtain ⟨l, r, hlr, rfl, rfl⟩ := h
      obtain ⟨hl, d, hd, rfl⟩ := ih hlr
      exact ⟨by simpa [hc] using hl, d, hd, rfl⟩

theorem cutChars?_append {p : Char → Bool} {left : List Char} {c : Char} (right : List Char)
    (hl : ∀ d ∈ left, p d = false) (hc : p c = true) : cutChars? p (left ++ c :: right) = some (left, right) := by
  induction left with
  | nil => simp [cutChars?, hc]
  | cons d left ih =>
    have hd : p d = false := hl d (by simp)
    simp [cutChars?, hd, ih (fun x hx => hl x (by simp [hx]))]

theorem charPieces_ne_nil (p : Char → Bool) (cs : List Char) : charPieces p cs ≠ [] := by
  cases cs with
  | nil => simp [charPieces]
  | cons c cs =>
    by_cases h : p c
    · simp [charPieces, h]
    · simp only [charPieces, h, Bool.false_eq_true, if_false]
      split <;> simp

end Orbit.Text
