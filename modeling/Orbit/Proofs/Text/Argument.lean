import Mathlib.Data.List.TakeWhile
import Orbit.Decimal.Reading
import Orbit.Text.Blank

/-!
# Arguments

What the readers of argument lists ask of one argument, said without the readers, and lists that are made of groups.

* `IsPositional arg` : the argument stands for itself and is no option;
* `ArgumentGroup γ`, `spelled`, `programs` : a kind of groups, the arguments of groups, and the program texts among
  them;
* `Text.isEmpty_trim_iff` : a text of which nothing is left is white space all through;
* `Numeral.word?_toString` : an unsigned number is read as it is written.
-/

namespace Orbit

/-- An argument that stands for itself: it does not begin with a dash, or it is a dash and nothing else. -/
def IsPositional (arg : String) : Prop := arg.toList.head? ≠ some '-' ∨ arg = "-"

instance (arg : String) : Decidable (IsPositional arg) :=
  inferInstanceAs (Decidable (arg.toList.head? ≠ some '-' ∨ arg = "-"))

theorem not_isPositional_iff {arg : String} : ¬ IsPositional arg ↔ ∃ c cs, arg.toList = '-' :: c :: cs := by
  unfold IsPositional
  constructor
  · intro h
    rw [not_or, not_not] at h
    obtain ⟨hhead, hne⟩ := h
    obtain ⟨cs, hcs⟩ := List.head?_eq_some_iff.1 hhead
    cases cs with
    | nil => exact absurd (String.toList_injective hcs) hne
    | cons c cs => exact ⟨c, cs, hcs⟩
  · rintro ⟨c, cs, hcs⟩ (hhead | rfl)
    · exact hhead (by rw [hcs]; rfl)
    · cases hcs

/-! ## Groups -/

/-- A kind of groups in argument lists: each has arguments, and some are program texts. -/
class ArgumentGroup (γ : Type) where
  arguments : γ → List String
  program? : γ → Option String

export ArgumentGroup (arguments program?)

section Groups

variable {γ : Type} [ArgumentGroup γ]

/-- The arguments of groups, one group after the other. -/
def spelled (groups : List γ) : List String := groups.flatMap arguments

def programs (groups : List γ) : List String := groups.filterMap program?

theorem spelled_cons (g : γ) (groups : List γ) : spelled (g :: groups) = arguments g ++ spelled groups := rfl

theorem programs_append (groups groups' : List γ) :
    programs (groups ++ groups') = programs groups ++ programs groups' :=
  List.filterMap_append

theorem programs_cons_of_none {g : γ} (h : program? g = none) (groups : List γ) :
    programs (g :: groups) = programs groups :=
  List.filterMap_cons_none h

theorem programs_singleton {g : γ} {text : String} (h : program? g = some text) : programs [g] = [text] :=
  List.filterMap_cons_some h

theorem length_programs_of_append {groups groups' : List γ} {n : Nat} (h : (programs (groups ++ groups')).length ≤ n) :
    (programs groups).length ≤ n := by
  rw [programs_append, List.length_append] at h
  omega

end Groups

/-! ## Blank arguments and numbers -/

namespace Text

theorem trimChars_eq_nil_iff {cs : List Char} : trimChars cs = [] ↔ ∀ c ∈ cs, isBlank c = true := by
  unfold trimChars
  rw [List.reverse_eq_nil_iff, List.dropWhile_eq_nil_iff]
  constructor
  · intro h c hc
    by_contra hblank
    -- the part from the first character that is not blank would end in one and begin with one
    have hne : cs.dropWhile isBlank ≠ [] := fun hnil => hblank (List.dropWhile_eq_nil_iff.1 hnil c hc)
    have hhead := List.head_dropWhile_not isBlank hne
    rw [h _ (List.mem_reverse.2 (List.head_mem hne))] at hhead
    cases hhead
  · intro h c hc
    exact h c ((List.dropWhile_sublist _).subset (List.mem_reverse.1 hc))

theorem isEmpty_trim_iff {s : String} : (trim s).isEmpty = true ↔ s.toList.all isBlank = true := by
  rw [String.isEmpty_iff, trim, String.ofList_eq_empty_iff, trimChars_eq_nil_iff, List.all_eq_true]

end Text

namespace Numeral

theorem value_eq_ofDigitChars (cs : List Char) (n : Nat) :
    cs.foldl (fun n c => n * 10 + (c.toNat - 48)) n = Nat.ofDigitChars 10 cs n := by
  induction cs generalizing n with
  | nil => rfl
  | cons c cs ih =>
    rw [List.foldl_cons, ih, Nat.ofDigitChars_cons, Nat.mul_comm]
    rfl

theorem natural?_toDigits (n : Nat) : natural? (Nat.toDigits 10 n) = some n := by
  have hdigits : (Nat.toDigits 10 n).all Char.isDigit = true :=
    List.all_eq_true.2 fun c hc => Nat.isDigit_of_mem_toDigits (by decide) (by decide) hc
  have hempty : (Nat.toDigits 10 n).isEmpty = false := List.isEmpty_eq_false_iff.2 Nat.toDigits_ne_nil
  rw [natural?, hdigits, hempty, value, value_eq_ofDigitChars, Nat.ofDigitChars_ten_toDigits]
  rfl

theorem word?_toString (n : UInt32) : word? (toString n.toNat) = some n := by
  have hchars : (toString n.toNat).toList = Nat.toDigits 10 n.toNat := by
    rw [Nat.toString_eq_ofList_toDigits, String.toList_ofList]
  -- a number is not written with a sign
  have hsign : ∀ cs, Nat.toDigits 10 n.toNat ≠ '+' :: cs := by
    intro cs hcs
    have hplus : '+' ∈ Nat.toDigits 10 n.toNat := by rw [hcs]; exact List.mem_cons_self
    exact absurd (Nat.isDigit_of_mem_toDigits (by decide) (by decide) hplus) (by decide)
  unfold word?
  rw [hchars]
  split
  · next cs hcs => exact absurd hcs (hsign cs)
  · rw [natural?_toDigits]
    simp only [Option.bind_eq_bind, Option.bind_some, n.toNat_lt_size, if_true, UInt32.ofNat_toNat]

end Numeral

end Orbit
