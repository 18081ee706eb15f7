import Mathlib.Logic.Function.Iterate
import Mathlib.Order.Bounds.Basic
import Orbit.EscapeTime
import Orbit.Program.Run

/-!
# Escape times are first exits

An orbit ends after the first number of steps that is the cap or that takes `b` out of the escape radius, and nothing
of the register file it was computed in is left in the result.

* `IsExit step cap r k` : after `k` steps from `r` an orbit with this cap has to end;
* `orbitFrom_eq` : the orbit ends at its first exit, with the registers that the steps up to there give;
* `isLeast_escapeTime`, `escapeTimeIn_snd`, `escapeTimeIn_fst` : so do the escape time and the registers it leaves;
* `escapeTime_eq_min` : a lower cap cuts the escape time off and changes nothing else;
* `escapeTime_eq_of_related` : orbits that stay related have the same length.
-/

namespace Orbit

variable {α : Type} [Scalar α] (step : Registers α → Registers α)

/-- Whether an orbit from `r` has to end after `k` steps: they are as many as the cap, or `b` is outside the escape
radius then. -/
def IsExit (cap : Nat) (r : Registers α) (k : Nat) : Prop := k = cap ∨ (step^[k] r).bounded = false

variable {step}

theorem isExit_succ {cap : Nat} {r : Registers α} {k : Nat} :
    IsExit step (cap + 1) r (k + 1) ↔ IsExit step cap (step r) k := by
  rw [IsExit, IsExit, Nat.succ_inj, Function.iterate_succ_apply]

variable (step)

/-- **An orbit ends at its first exit**, with the registers of that many steps. -/
theorem orbitFrom_eq (cap taken : Nat) (r : Registers α) :
    ∃ k, IsLeast {k | IsExit step cap r k} k ∧ orbitFrom step cap taken r = (taken + k, step^[k] r) := by
  induction cap generalizing taken r with
  | zero => exact ⟨0, ⟨Or.inl rfl, fun _ _ => Nat.zero_le _⟩, rfl⟩
  | succ cap ih =>
    by_cases hr : r.bounded = true
    · obtain ⟨k, ⟨hexit, hleast⟩, horbit⟩ := ih (taken + 1) (step r)
      refine ⟨k + 1, ⟨isExit_succ.2 hexit, fun j hj => ?_⟩, ?_⟩
      · -- the start is no exit, and a later exit is one of the orbit that starts a step later
        cases j with
        | zero =>
          rcases hj with hcap | hout
          · cases hcap
          · exact absurd (hout.symm.trans hr) (by decide)
        | succ j => exact Nat.succ_le_succ (hleast (isExit_succ.1 hj))
      · rw [orbitFrom, if_pos hr, horbit, Function.iterate_succ_apply, Nat.add_assoc, Nat.add_comm 1 k]
    · refine ⟨0, ⟨Or.inr (Bool.eq_false_iff.2 hr), fun _ _ => Nat.zero_le _⟩, ?_⟩
      rw [orbitFrom, if_neg hr]
      rfl

/-- The escape time and the registers at its end come from the first exit of the point's orbit. -/
theorem escapeTimeIn_eq (scratch : Registers α) (point : Complex α) (cap : UInt32) :
    ∃ k, IsLeast {k | IsExit step cap.toNat (Registers.atPoint point) k} k ∧
      (escapeTimeIn step scratch point cap).1.toNat = k ∧
      (escapeTimeIn step scratch point cap).2 = step^[k] (Registers.atPoint point) := by
  obtain ⟨k, hleast, horbit⟩ := orbitFrom_eq step cap.toNat 0 (Registers.atPoint point)
  have hk : k < UInt32.size := Nat.lt_of_le_of_lt (hleast.2 (Or.inl rfl)) cap.toNat_lt_size
  have hin : escapeTimeIn step scratch point cap = (UInt32.ofNat k, step^[k] (Registers.atPoint point)) := by
    rw [escapeTimeIn, Registers.restart, horbit, Nat.zero_add]
  rw [hin]
  exact ⟨k, hleast, UInt32.toNat_ofNat_of_lt hk, rfl⟩

/-- What the register file held before does not matter. -/
theorem escapeTimeIn_fst (scratch : Registers α) (point : Complex α) (cap : UInt32) :
    (escapeTimeIn step scratch point cap).1 = escapeTime step point cap := rfl

theorem isLeast_escapeTime (point : Complex α) (cap : UInt32) :
    IsLeast {k | IsExit step cap.toNat (Registers.atPoint point) k} (escapeTime step point cap).toNat := by
  obtain ⟨k, hleast, hcount, -⟩ := escapeTimeIn_eq step Registers.cleared point cap
  rw [escapeTimeIn_fst] at hcount
  rw [hcount]
  exact hleast

theorem escapeTime_le (point : Complex α) (cap : UInt32) : escapeTime step point cap ≤ cap :=
  (isLeast_escapeTime step point cap).2 (Or.inl rfl)

theorem escapeTimeIn_snd (scratch : Registers α) (point : Complex α) (cap : UInt32) :
    (escapeTimeIn step scratch point cap).2 =
      step^[(escapeTime step point cap).toNat] (Registers.atPoint point) := by
  obtain ⟨k, -, hcount, hregisters⟩ := escapeTimeIn_eq step scratch point cap
  rw [hregisters, ← hcount, escapeTimeIn_fst]

/-- An orbit that starts inside the escape radius takes a step, unless the cap forbids it. -/
theorem escapeTime_pos (hinside : Scalar.less (Complex.zero : Complex α).normSq Scalar.four = true)
    (point : Complex α) {cap : UInt32} (hcap : 1 ≤ cap) : 1 ≤ escapeTime step point cap := by
  have hexit := (isLeast_escapeTime step point cap).1
  have hcap : 1 ≤ cap.toNat := hcap
  show 1 ≤ (escapeTime step point cap).toNat
  by_contra hlt
  rw [Set.mem_ofPred_eq, show (escapeTime step point cap).toNat = 0 by omega] at hexit
  rcases hexit with hzero | hout
  · omega
  · exact absurd (hout.symm.trans hinside) (by decide)

/-! ## Caps -/

theorem isLeast_min_of_le {m n k : Nat} {r : Registers α} (h : m ≤ n) (hk : IsLeast {k | IsExit step n r k} k) :
    IsLeast {k | IsExit step m r k} (min m k) := by
  constructor
  · rcases Nat.le_total m k with hmk | hkm
    · exact Or.inl (Nat.min_eq_left hmk)
    · rw [Nat.min_eq_right hkm]
      rcases hk.1 with rfl | hout
      · -- the higher cap is reached, and it is the lower one
        exact Or.inl (Nat.le_antisymm hkm h)
      · exact Or.inr hout
  · rintro j (rfl | hout)
    · exact Nat.min_le_left _ _
    · exact Nat.le_trans (Nat.min_le_right _ _) (hk.2 (Or.inr hout))

theorem escapeTime_eq_min (point : Complex α) {m n : UInt32} (h : m ≤ n) :
    (escapeTime step point m).toNat = min m.toNat (escapeTime step point n).toNat :=
  (isLeast_escapeTime step point m).unique (isLeast_min_of_le step h (isLeast_escapeTime step point n))

/-! ## Two orbits side by side -/

section Related

variable {step} {step' : Registers α → Registers α} {R : Registers α → Registers α → Prop}

omit [Scalar α] in
theorem iterate_related (hstep : ∀ {r s}, R r s → R (step r) (step' s)) {r s : Registers α} (h : R r s) (n : Nat) :
    R (step^[n] r) (step'^[n] s) := by
  induction n generalizing r s with
  | zero => exact h
  | succ n ih => exact ih (hstep h)

/-- Orbits that stay related, by a relation that does not change whether an orbit goes on, have the same length. -/
theorem escapeTime_eq_of_related (hstep : ∀ {r s}, R r s → R (step r) (step' s))
    (hbounded : ∀ {r s}, R r s → r.bounded = s.bounded) {point point' : Complex α}
    (hstart : R (Registers.atPoint point) (Registers.atPoint point')) (cap : UInt32) :
    escapeTime step point cap = escapeTime step' point' cap := by
  have hexits : {k | IsExit step cap.toNat (Registers.atPoint point) k} =
      {k | IsExit step' cap.toNat (Registers.atPoint point') k} := by
    ext k
    show (_ ∨ _) ↔ (_ ∨ _)
    rw [hbounded (iterate_related hstep hstart k)]
  have hleast := isLeast_escapeTime step point cap
  rw [hexits] at hleast
  exact UInt32.toNat_inj.1 (hleast.unique (isLeast_escapeTime step' point' cap))

end Related

/-! ## Binary64 numbers -/

/-- What is no number is not below anything. -/
theorem less_eq_false_of_isNaN {x : Float} (h : x.isNaN = true) (y : Float) : Scalar.less x y = false := by
  refine decide_eq_false fun hxy => ?_
  have hnan : x.toModel.unpack.isNaN = true := h
  have hlt : x.toModel.unpack.lt y.toModel.unpack = true := of_decide_eq_true hxy
  cases hunpack : x.toModel.unpack with
  | notANumber =>
    rw [hunpack] at hlt
    cases y.toModel.unpack <;> cases hlt
  | _ =>
    rw [hunpack] at hnan
    cases hnan

/-! ## The result -/

/-- **The escape time is the first exit.** Whatever the register file held, the escape time is the least number of steps
up to the cap that is the cap or after which the square of the absolute value of `b` is not below four, as a value that
is no number never is. The register file is left as these steps make it. So a lower cap only cuts the escape time
off. -/
theorem escapeTime_isLeast_exit (scratch : Registers α) (point : Complex α) (cap : UInt32) :
    IsLeast {k | k ≤ cap.toNat ∧
        (k = cap.toNat ∨ Scalar.less (step^[k] (Registers.atPoint point)).b.normSq Scalar.four = false)}
      (escapeTimeIn step scratch point cap).1.toNat ∧
    (escapeTimeIn step scratch point cap).2 =
      step^[(escapeTimeIn step scratch point cap).1.toNat] (Registers.atPoint point) ∧
    (escapeTimeIn step scratch point cap).1 = escapeTime step point cap ∧
    (∀ m n : UInt32, m ≤ n → (escapeTime step point m).toNat = min m.toNat (escapeTime step point n).toNat) ∧
    ∀ x : Float, x.isNaN = true → Scalar.less x Scalar.four = false := by
  have hleast := isLeast_escapeTime step point cap
  refine ⟨⟨⟨escapeTime_le step point cap, hleast.1⟩, fun k hk => hleast.2 hk.2⟩, ?_, rfl, ?_, ?_⟩
  · exact escapeTimeIn_snd step scratch point cap
  · exact fun m n h => escapeTime_eq_min step point h
  · exact fun x hx => less_eq_false_of_isNaN hx _

/-- The orbit of `2` under `b := b² + a`, in registers that hold ones: `b` is `2` after one step, so that four is
reached exactly, and a cap of one ends it there too. -/
theorem escapeTime_isLeast_exit_two :
    let one : Complex Float := ⟨1, 1⟩
    let ones : Registers Float := ⟨one, one, one, one⟩
    (1 : UInt32) ≤ 256 ∧ (0 / 0 : Float).isNaN = true ∧
      (escapeTimeIn Registers.quadratic ones ⟨2, 0⟩ 256).1 = 1 ∧
      (escapeTimeIn Registers.quadratic ones ⟨2, 0⟩ 256).2 = ⟨⟨2, 0⟩, ⟨2, 0⟩, ⟨0, 0⟩, ⟨0, 0⟩⟩ ∧
      (escapeTime Registers.quadratic (⟨2, 0⟩ : Complex Float) 1).toNat = 1 ∧
      Scalar.less (0 / 0 : Float) Scalar.four = false := by
  intro one ones
  obtain ⟨-, hregisters, hcount, hcaps, hnan⟩ := escapeTime_isLeast_exit Registers.quadratic ones ⟨2, 0⟩ 256
  have hone : escapeTime Registers.quadratic (⟨2, 0⟩ : Complex Float) 256 = 1 := by decide +kernel
  rw [hone] at hcount
  refine ⟨by decide, by decide +kernel, hcount, ?_, ?_, hnan _ (by decide +kernel)⟩
  · rw [hregisters, hcount]
    decide +kernel
  · rw [hcaps 1 256 (by decide), hone]
    rfl

end Orbit
