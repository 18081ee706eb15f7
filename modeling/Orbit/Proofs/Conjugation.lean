import Orbit.Proofs.Engine
import Orbit.Proofs.EscapeTime
import Orbit.Proofs.Sign

/-!
# Escape times are symmetric to the real axis

Two orbits that start at conjugate points stay conjugate, register by register, and the square of the absolute value
does not tell conjugate numbers apart. Where signs of zero differ, numbers are compared by a relation with `SignLaws`.

* `Complex.Conjugate same z w`, `Registers.Conjugate same r s` : conjugate numbers and registers, up to `same`;
* `Registers.Conjugate.run`, `Registers.Conjugate.native` : the interpreter and compiled code keep registers conjugate;
* `Registers.Conjugate.step` : so does every kernel that an engine prepares.
-/

namespace Orbit

variable {α : Type} [Scalar α] [Neg α] {same : α → α → Prop}

/-! ## Conjugate numbers -/

/-- `w` has the real part of `z` and the negative of its imaginary part. -/
def Complex.Conjugate (same : α → α → Prop) (z w : Complex α) : Prop := same w.re z.re ∧ same w.im (-z.im)

namespace Complex.Conjugate

variable {z w z' w' : Complex α}

theorem zero (laws : SignLaws same) : Conjugate same (Complex.zero : Complex α) Complex.zero :=
  ⟨laws.equivalence.refl _, laws.zero_neg⟩

theorem add (laws : SignLaws same) (h : Conjugate same z w) (h' : Conjugate same z' w') :
    Conjugate same (z.add z') (w.add w') :=
  ⟨laws.add h.1 h'.1, laws.equivalence.trans (laws.add h.2 h'.2) (laws.neg_add _ _)⟩

/-- The signs of two imaginary parts cancel. -/
theorem im_mul_im (laws : SignLaws same) (h : Conjugate same z w) (h' : Conjugate same z' w') :
    same (w.im * w'.im) (z.im * z'.im) := by
  have hleft : same (-z.im * -z'.im) (-(z.im * -z'.im)) := laws.neg_mul _ _
  have hright : same (-(z.im * -z'.im)) (- -(z.im * z'.im)) := laws.neg (laws.mul_neg _ _)
  apply laws.equivalence.trans (laws.mul h.2 h'.2)
  apply laws.equivalence.trans hleft
  exact laws.equivalence.trans hright (laws.neg_neg _)

theorem mul (laws : SignLaws same) (h : Conjugate same z w) (h' : Conjugate same z' w') :
    Conjugate same (z.mul z') (w.mul w') := by
  constructor
  · exact laws.sub (laws.mul h.1 h'.1) (im_mul_im laws h h')
  · have hfirst : same (w.re * w'.im) (-(z.re * z'.im)) :=
      laws.equivalence.trans (laws.mul h.1 h'.2) (laws.mul_neg _ _)
    have hsecond : same (w.im * w'.re) (-(z.im * z'.re)) :=
      laws.equivalence.trans (laws.mul h.2 h'.1) (laws.neg_mul _ _)
    exact laws.equivalence.trans (laws.add hfirst hsecond) (laws.neg_add _ _)

theorem normSq (laws : SignLaws same) (h : Conjugate same z w) : same w.normSq z.normSq :=
  laws.add (laws.mul h.1 h.1) (im_mul_im laws h h)

end Complex.Conjugate

/-! ## Conjugate registers -/

def Registers.Conjugate (same : α → α → Prop) (r s : Registers α) : Prop :=
  ∀ name, Complex.Conjugate same (r.get name) (s.get name)

namespace Registers.Conjugate

variable {r s : Registers α}

theorem atPoint (laws : SignLaws same) (x y : α) :
    Conjugate same (Registers.atPoint ⟨x, y⟩) (Registers.atPoint ⟨x, -y⟩) := by
  intro name
  cases name with
  | a => exact ⟨laws.equivalence.refl _, laws.equivalence.refl _⟩
  | b | c | d => exact Complex.Conjugate.zero laws

omit [Scalar α] in
theorem set (h : Conjugate same r s) (name : Register) {z w : Complex α} (hvalue : Complex.Conjugate same z w) :
    Conjugate same (r.set name z) (s.set name w) := by
  intro other
  by_cases heq : other = name
  · rw [heq, get_set_self, get_set_self]
    exact hvalue
  · rw [get_set_ne _ _ heq, get_set_ne _ _ heq]
    exact h other

theorem bounded_eq (laws : SignLaws same) (h : Conjugate same r s) : r.bounded = s.bounded :=
  (laws.less_four ((h .b).normSq laws)).symm

theorem instruction_run (laws : SignLaws same) (h : Conjugate same r s) (i : Instruction) :
    Conjugate same (i.run r) (i.run s) := by
  obtain ⟨op, source, target⟩ := i
  cases op with
  | assign => exact h.set target (h source)
  | add => exact h.set target ((h target).add laws (h source))
  | multiply => exact h.set target ((h target).mul laws (h source))

-- the real part of a product comes from the factors in one order, the imaginary part from the other
theorem instruction_native (laws : SignLaws same) (h : Conjugate same r s) (i : Instruction) :
    Conjugate same (i.native r) (i.native s) := by
  obtain ⟨op, source, target⟩ := i
  cases op with
  | assign => exact h.set target (h source)
  | add => exact h.set target ((h source).add laws (h target))
  | multiply => exact h.set target ⟨((h source).mul laws (h target)).1, ((h target).mul laws (h source)).2⟩

theorem run (laws : SignLaws same) (p : Program) (h : Conjugate same r s) : Conjugate same (p.run r) (p.run s) := by
  induction p generalizing r s with
  | nil => exact h
  | cons i rest ih => exact ih (h.instruction_run laws i)

theorem native (laws : SignLaws same) (p : Program) (h : Conjugate same r s) :
    Conjugate same (p.native r) (p.native s) := by
  induction p generalizing r s with
  | nil => exact h
  | cons i rest ih => exact ih (h.instruction_native laws i)

theorem quadratic (laws : SignLaws same) (h : Conjugate same r s) : Conjugate same r.quadratic s.quadratic :=
  h.set .b (((h .b).mul laws (h .b)).add laws (h .a))

/-- **A kernel keeps registers conjugate**, whichever engine prepared it. -/
theorem step (laws : SignLaws same) {host : Host} {p : Program} {engine : Engine} {k : Kernel}
    (hkernel : engine.kernel host p = .ok k) (h : Conjugate same r s) : Conjugate same (k.step r) (k.step s) := by
  cases engine with
  | jit =>
    rcases Engine.kernel_jit_cases host p with ⟨fault, -, herror⟩ | ⟨-, u, hok, hholds⟩
    · rw [herror] at hkernel
      cases hkernel
    · rw [hok] at hkernel
      cases hkernel
      show Conjugate same (u.call r) (u.call s)
      rw [hholds.call_eq, hholds.call_eq]
      exact h.native laws p
  | interpret =>
    cases hkernel
    exact h.run laws p
  | hardcoded =>
    cases hkernel
    exact h.quadratic laws

end Registers.Conjugate

/-! ## The result -/

/-- **Escape times are symmetric to the real axis.** For scalars in which signs move out of products and sums, up to an
equivalence that the escape radius does not tell apart, conjugate points have the same escape time under every program
and cap, with each engine. -/
theorem escapeTime_conjugate (laws : SignLaws same) (host : Host) (p : Program) (engine : Engine) (k : Kernel)
    (hkernel : engine.kernel host p = .ok k) (x y : α) (cap : UInt32) :
    escapeTime k.step ⟨x, -y⟩ cap = escapeTime k.step ⟨x, y⟩ cap := by
  symm
  apply escapeTime_eq_of_related (R := Registers.Conjugate same)
  · intro r s h
    exact h.step laws hkernel
  · intro r s h
    exact h.bounded_eq laws
  · exact Registers.Conjugate.atPoint laws x y

/-- The step `b := b³ + a` with each engine, over rationals and over binary64 numbers up to the sign of zero. -/
theorem escapeTime_conjugate_cubic :
    let p : Program := [⟨.assign, .b, .c⟩, ⟨.multiply, .b, .b⟩, ⟨.multiply, .c, .b⟩, ⟨.add, .a, .b⟩]
    SignLaws (α := Rat) Eq ∧ SignLaws SameNumber ∧ ∀ engine : Engine, ∃ k, engine.kernel .standard p = .ok k ∧
      (∀ (x y : Rat) (cap : UInt32), escapeTime k.step ⟨x, -y⟩ cap = escapeTime k.step ⟨x, y⟩ cap) ∧
      ∀ (x y : Float) (cap : UInt32), escapeTime k.step ⟨x, -y⟩ cap = escapeTime k.step ⟨x, y⟩ cap := by
  intro p
  refine ⟨signLaws_rat, signLaws_binary64, ?_⟩
  intro engine
  have hgrant : Host.standard.fault? (p.sizeBound .native) = none := by decide
  obtain ⟨k, hk⟩ := Engine.exists_kernel hgrant engine
  refine ⟨k, hk, ?_, ?_⟩
  · exact escapeTime_conjugate signLaws_rat .standard p engine k hk
  · exact escapeTime_conjugate signLaws_binary64 .standard p engine k hk

end Orbit
