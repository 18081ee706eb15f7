import Orbit.Proofs.Binary64.Value
import Orbit.Proofs.Renderer.Options

/-!
# What is rendered

What the settings of every accepted argument list have in common: a rendering can only be refused because bounds do not
increase.

* `IsReady o`, `isReady_of_parseOptions` : pixels, steps and finite bounds, whatever the arguments are;
* `accepted_configurations` : all of this, and what the check of the viewport says.
-/

namespace Orbit.Renderer

/-! ## Settings -/

/-- Settings with pixels, steps and finite bounds. -/
structure IsReady (o : Options) : Prop where
  width : o.viewport.width ≠ 0
  height : o.viewport.height ≠ 0
  cap : o.cap ≠ 0
  finite : ∀ x ∈ [o.viewport.reMin, o.viewport.reMax, o.viewport.imMin, o.viewport.imMax], x.isFinite = true

theorem Describes.field_cases {groups : List Group} {o : Options} (h : Describes groups o) (flag : Flag) :
    flag.field o = flag.standard ∨ ∃ value, flag.Reads value (flag.field o) := by
  have hfield := h.fields flag
  unfold Flag.Holds at hfield
  split at hfield
  · exact Or.inl hfield
  · next value _ => exact Or.inr ⟨value, hfield⟩

/-- **Accepted arguments give something to render.** -/
theorem isReady_of_parseOptions {args : List String} {o : Options} (h : parseOptions args = .ok (.render o)) :
    IsReady o := by
  obtain ⟨groups, -, -, hdescribes⟩ := parseOptions_eq_render_iff.1 h
  have hsize : o.viewport.width ≠ 0 ∧ o.viewport.height ≠ 0 := by
    rcases hdescribes.field_cases .size with hstandard | ⟨value, hvalue⟩
    · obtain ⟨hwidth, hheight⟩ := Prod.mk.inj hstandard
      rw [hwidth, hheight]
      decide
    · exact ⟨hvalue.width_ne_zero, hvalue.height_ne_zero⟩
  have hbounds : ∀ x ∈ [o.viewport.reMin, o.viewport.reMax, o.viewport.imMin, o.viewport.imMax], x.isFinite = true := by
    rcases hdescribes.field_cases .bounds with hstandard | ⟨value, hvalue⟩
    · obtain ⟨hreMin, hreMax, himMin, himMax⟩ := Bounds.mk.inj hstandard
      rw [hreMin, hreMax, himMin, himMax]
      decide +kernel
    · exact hvalue.finite
  have hcap : o.cap ≠ 0 := by
    rcases hdescribes.field_cases .cap with hstandard | ⟨value, hvalue⟩
    · rw [show o.cap = 256 from hstandard]
      decide
    · exact hvalue.ne_zero
  exact ⟨hsize.1, hsize.2, hcap, hbounds⟩

theorem IsReady.check_eq {o : Options} (h : IsReady o) : o.viewport.check =
    if o.viewport.reMax ≤ o.viewport.reMin ∨ o.viewport.imMax ≤ o.viewport.imMin then some (.notIncreasing o.viewport)
    else none := by
  have hfinite := h.finite
  simp only [List.forall_mem_cons] at hfinite
  obtain ⟨hreMin, hreMax, himMin, himMax, -⟩ := hfinite
  have hless {x y : Float} (hx : x.isFinite = true) (hy : y.isFinite = true) : (!Scalar.less x y) = true ↔ y ≤ x := by
    rw [Binary64.float_le_iff_value hy hx, ← not_lt, ← Binary64.float_lt_iff_value hx hy, Bool.not_eq_true',
      show Scalar.less x y = decide (x < y) from rfl, decide_eq_false_iff_not]
  have hfinite : ¬([o.viewport.reMin, o.viewport.reMax, o.viewport.imMin, o.viewport.imMax].any fun bound =>
      !Scalar.isFinite bound) = true := by
    simp only [List.any_eq_true, not_exists, not_and]
    intro x hx hnot
    rw [show Scalar.isFinite x = x.isFinite from rfl, h.finite x hx] at hnot
    cases hnot
  unfold Viewport.check
  rw [if_neg (not_or.2 ⟨h.width, h.height⟩), if_neg hfinite]
  refine if_congr ?_ rfl rfl
  rw [Bool.or_eq_true, hless hreMin hreMax, hless himMin himMax]

/-- **Accepted configurations.** The texts of sizes and of bounds, sizes as they are written, and what every accepted
argument list gives: something to render, which is refused exactly when bounds do not increase. -/
theorem accepted_configurations :
    (∀ text width height, parseSize? text = some (width, height) ↔ IsSize text width height) ∧
    (∀ width height : UInt32, width ≠ 0 → height ≠ 0 →
      parseSize? (toString width.toNat ++ "x" ++ toString height.toNat) = some (width, height)) ∧
    (∀ text b, parseBounds? text = some b ↔ IsBounds text b) ∧
    ∀ args o, parseOptions args = .ok (.render o) → IsReady o ∧ o.viewport.check =
      if o.viewport.reMax ≤ o.viewport.reMin ∨ o.viewport.imMax ≤ o.viewport.imMin then some (.notIncreasing o.viewport)
      else none := by
  refine ⟨fun _ _ _ => parseSize?_eq_some_iff, fun _ _ => parseSize?_toString, fun _ _ => parseBounds?_eq_some_iff, ?_⟩
  intro args o h
  have hready := isReady_of_parseOptions h
  exact ⟨hready, hready.check_eq⟩

/-- A size with blanks and a plus sign, the largest size, and arguments with bounds that do not increase. -/
theorem accepted_configurations_decreasing :
    let b : Bounds := ⟨1, 0.5, -2, .ofBits 0x7e37e43c8800759c⟩
    let o : Options :=
      { Options.standard with viewport := ⟨4, 5, b.reMin, b.reMax, b.imMin, b.imMax⟩, cap := 7, program := some "" }
    IsSize " +4 X005" 4 5 ∧
      parseSize? (toString (4294967295 : UInt32).toNat ++ "x" ++ toString (1 : UInt32).toNat) = some (4294967295, 1) ∧
      IsBounds "1, .5,-2 ,1e300" b ∧
      parseOptions ["--bounds", "1, .5,-2 ,1e300", "", "--max-iterations", "7", "--size", " +4 X005"] =
        .ok (.render o) ∧
      o.viewport.check = some (.notIncreasing o.viewport) := by
  intro b o
  obtain ⟨hsize, hwritten, hbounds, hchecked⟩ := accepted_configurations
  have hparsed : parseOptions ["--bounds", "1, .5,-2 ,1e300", "", "--max-iterations", "7", "--size", " +4 X005"] =
      .ok (.render o) := by
    decide +kernel
  refine ⟨(hsize _ _ _).1 (by decide +kernel), hwritten 4294967295 1 (by decide) (by decide),
    (hbounds _ _).1 (by decide +kernel),
    hparsed, ?_⟩
  rw [(hchecked _ o hparsed).2]
  exact if_pos (Or.inl (by decide +kernel))

end Orbit.Renderer
