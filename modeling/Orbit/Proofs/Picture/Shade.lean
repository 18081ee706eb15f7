import Mathlib.Data.List.Chain
import Orbit.Proofs.Picture.Netpbm

/-!
# Grey levels, and which pixels are black

* `toNat_shade` : below the cap, the grey level is the share of the cap in 256 levels, rounded down. The product fits
  in 64 bits and the share is below 256, so the bound of 255 in `shade` is never reached;
* `share_lt_of_lt`, `exists_share_eq` : up to a cap of 256 different escape times have different shares, and from a
  cap of 256 on every level is the share of some escape time;
* `Colour.between_ne_black` : between stops that are joined by a channel in which both are lit, no colour is black. So
  only level 0 is (`colour_eq_black_iff`);
* `Netpbm.File.pixel` : the bytes of a pixel in a body with equally many for each.
-/

namespace Orbit

/-! ## Shares of the cap -/

theorem share_le {count cap : Nat} (h : count < cap) : 256 * count / cap ≤ 255 := by
  apply Nat.le_of_lt_succ
  rw [Nat.div_lt_iff_lt_mul (by omega)]
  omega

theorem share_lt_of_lt {cap i j : Nat} (hpos : 0 < cap) (hcap : cap ≤ 256) (h : i < j) :
    256 * i / cap < 256 * j / cap := by
  -- one more step is worth at least a level
  have hstep : 256 * i + cap ≤ 256 * j := by omega
  calc 256 * i / cap < 256 * i / cap + 1 := Nat.lt_succ_self _
    _ = (256 * i + cap) / cap := (Nat.add_div_right _ hpos).symm
    _ ≤ 256 * j / cap := Nat.div_le_div_right hstep

theorem exists_share_eq {cap level : Nat} (hcap : 256 ≤ cap) (hlevel : level < 256) :
    ∃ i < cap, 256 * i / cap = level := by
  have hnext : (level + 1) * cap ≤ 256 * cap := Nat.mul_le_mul_right cap hlevel
  have hsucc : (level + 1) * cap = level * cap + cap := Nat.succ_mul level cap
  -- the least escape time whose share is not below the level
  refine ⟨(level * cap + 255) / 256, by omega, ?_⟩
  apply Nat.div_eq_of_lt_le
  · omega
  · omega

theorem toNat_mul_levels (count : UInt32) : (count.toUInt64 * 256).toNat = 256 * count.toNat := by
  have hcount : count.toNat < 4294967296 := count.toNat_lt_size
  rw [UInt64.toNat_mul, UInt32.toNat_toUInt64, Nat.mul_comm]
  exact Nat.mod_eq_of_lt (by show 256 * count.toNat < 18446744073709551616; omega)

theorem toNat_scaled (count cap : UInt32) :
    (count.toUInt64 * 256 / cap.toUInt64).toNat = 256 * count.toNat / cap.toNat := by
  rw [UInt64.toNat_div, toNat_mul_levels, UInt32.toNat_toUInt64]

theorem scaled_le {count cap : UInt32} (h : count < cap) : count.toUInt64 * 256 / cap.toUInt64 ≤ 255 := by
  rw [UInt64.le_iff_toNat_le, toNat_scaled]
  exact share_le h

theorem toUInt64_ne_zero_of_lt {count cap : UInt32} (h : count < cap) : cap.toUInt64 ≠ 0 := by
  intro hzero
  have hcap : cap.toUInt64.toNat = 0 := congrArg UInt64.toNat hzero
  have hlt : count.toNat < cap.toNat := h
  rw [UInt32.toNat_toUInt64] at hcap
  omega

/-! ## Grey levels -/

theorem toNat_shade_of_lt {count cap : UInt32} (h : count < cap) :
    (shade count cap).toNat = 256 * count.toNat / cap.toNat := by
  have hlt : count.toNat < cap.toNat := h
  have hmin : min (count.toUInt64 * 256 / cap.toUInt64) 255 = count.toUInt64 * 256 / cap.toUInt64 :=
    if_pos (scaled_le h)
  have hshare := share_le hlt
  unfold shade
  rw [if_neg (by rw [UInt32.le_iff_toNat_le]; omega), hmin, UInt64.toNat_toUInt8, toNat_scaled]
  exact Nat.mod_eq_of_lt (by omega)

theorem toNat_shade (count cap : UInt32) :
    (shade count cap).toNat = if cap ≤ count then 0 else 256 * count.toNat / cap.toNat := by
  by_cases h : cap ≤ count
  · unfold shade
    rw [if_pos h, if_pos h]
    rfl
  · rw [if_neg h]
    exact toNat_shade_of_lt (UInt32.not_le.1 h)

theorem shade_le_shade {i j cap : UInt32} (hij : i ≤ j) (hj : j < cap) : shade i cap ≤ shade j cap := by
  have hle : i.toNat ≤ j.toNat := hij
  have hi : i < cap := UInt32.lt_of_le_of_lt hij hj
  rw [UInt8.le_iff_toNat_le, toNat_shade_of_lt hi, toNat_shade_of_lt hj]
  exact Nat.div_le_div_right (Nat.mul_le_mul_left 256 hle)

theorem shade_inj {i j cap : UInt32} (hcap : cap ≤ 256) (hi : i < cap) (hj : j < cap)
    (h : shade i cap = shade j cap) : i = j := by
  have hpos : 0 < cap.toNat := Nat.lt_of_le_of_lt (Nat.zero_le _) hi
  have hshare := congrArg UInt8.toNat h
  rw [toNat_shade_of_lt hi, toNat_shade_of_lt hj] at hshare
  apply UInt32.toNat_inj.1
  rcases Nat.lt_trichotomy i.toNat j.toNat with hlt | heq | hgt
  · exact absurd hshare (Nat.ne_of_lt (share_lt_of_lt hpos hcap hlt))
  · exact heq
  · exact absurd hshare.symm (Nat.ne_of_lt (share_lt_of_lt hpos hcap hgt))

theorem exists_shade_eq {cap : UInt32} (hcap : 256 ≤ cap) (level : UInt8) : ∃ i < cap, shade i cap = level := by
  obtain ⟨i, hi, hshare⟩ := exists_share_eq (UInt32.le_iff_toNat_le.1 hcap) level.toNat_lt_size
  have hsize : i < UInt32.size := Nat.lt_trans hi cap.toNat_lt_size
  have hnat : (UInt32.ofNat i).toNat = i := UInt32.toNat_ofNat_of_lt hsize
  have hlt : UInt32.ofNat i < cap := by
    rw [UInt32.lt_iff_toNat_lt, hnat]
    exact hi
  refine ⟨UInt32.ofNat i, hlt, UInt8.toNat_inj.1 ?_⟩
  rw [toNat_shade_of_lt hlt, hnat, hshare]

theorem shade_eq_zero_iff {count cap : UInt32} (h : count ≤ cap) :
    shade count cap = 0 ↔ count = cap ∨ 256 * count.toNat < cap.toNat := by
  have hle : count.toNat ≤ cap.toNat := h
  rw [← UInt8.toNat_inj, ← UInt32.toNat_inj]
  rcases Nat.lt_or_eq_of_le hle with hlt | heq
  · rw [toNat_shade_of_lt hlt]
    show _ = 0 ↔ _
    rw [Nat.div_eq_zero_iff_lt (by omega)]
    omega
  · rw [toNat_shade, if_pos (UInt32.le_iff_toNat_le.2 (Nat.le_of_eq heq.symm))]
    exact iff_of_true rfl (Or.inl heq)

/-- **The grey level is an exact scaling.** Below the cap it is the share of the cap in 256 levels, rounded down, and at
the cap and above it is black. The product fits in 64 bits, the divisor is not zero and the quotient is never above the
bound. Below the cap the levels do not decrease. Up to a cap of 256 no two escape times share a level, and from a cap of
256 on every level is taken. -/
theorem shade_scales_exactly :
    (∀ count cap : UInt32, (shade count cap).toNat = if cap ≤ count then 0 else 256 * count.toNat / cap.toNat) ∧
    (∀ count cap : UInt32, count < cap → (count.toUInt64 * 256).toNat = 256 * count.toNat ∧ cap.toUInt64 ≠ 0 ∧
      count.toUInt64 * 256 / cap.toUInt64 ≤ 255) ∧
    (∀ i j cap : UInt32, i ≤ j → j < cap → shade i cap ≤ shade j cap) ∧
    (∀ cap : UInt32, 1 ≤ cap → cap ≤ 256 → ∀ i j, i < cap → j < cap → shade i cap = shade j cap → i = j) ∧
    ∀ cap : UInt32, 256 ≤ cap → ∀ level : UInt8, ∃ i < cap, shade i cap = level := by
  refine ⟨toNat_shade, ?_, ?_, ?_, ?_⟩
  · intro count cap h
    exact ⟨toNat_mul_levels count, toUInt64_ne_zero_of_lt h, scaled_le h⟩
  · intro i j cap hij hj
    exact shade_le_shade hij hj
  · intro cap _ hcap i j hi hj h
    exact shade_inj hcap hi hj h
  · intro cap hcap level
    exact exists_shade_eq hcap level

/-- The last escape time below the highest cap, two escape times below a cap of 200, and the highest level under a cap
of 1000. -/
theorem shade_scales_exactly_boundaries :
    ((4294967294 : UInt32) < 4294967295 ∧ (4294967294 : UInt32).toUInt64 * 256 / (4294967295 : UInt32).toUInt64 ≤ 255) ∧
      ((198 : UInt32) ≤ 199 ∧ (199 : UInt32) < 200 ∧ shade 198 200 ≤ shade 199 200 ∧ shade 198 200 ≠ shade 199 200) ∧
      ((256 : UInt32) ≤ 1000 ∧ ∃ i < 1000, shade i 1000 = 255) := by
  obtain ⟨-, hexact, hmono, hinj, hsurj⟩ := shade_scales_exactly
  refine ⟨⟨by decide, (hexact _ _ (by decide)).2.2⟩, ⟨by decide, by decide, hmono _ _ _ (by decide) (by decide), ?_⟩,
    ⟨by decide, hsurj 1000 (by decide) 255⟩⟩
  intro h
  exact absurd (hinj 200 (by decide) (by decide) 198 199 (by decide) (by decide) h) (by decide)

/-! ## Colours -/

namespace Colour

theorem blend_ne_zero {first last : UInt8} {offset span : Nat} (hfirst : first ≠ 0) (hlast : last ≠ 0)
    (hspan : 0 < span) (hoffset : offset ≤ span) : blend first last offset span ≠ 0 := by
  have hf : 0 < first.toNat := Nat.pos_of_ne_zero fun h => hfirst (UInt8.toNat_inj.1 h)
  have hl : 0 < last.toNat := Nat.pos_of_ne_zero fun h => hlast (UInt8.toNat_inj.1 h)
  have hf' : first.toNat ≤ 255 := Nat.le_of_lt_succ first.toNat_lt_size
  have hl' : last.toNat ≤ 255 := Nat.le_of_lt_succ last.toNat_lt_size
  -- a mean of two values lies between the least and the greatest of a byte that is not zero
  have hlow : span ≤ first.toNat * (span - offset) + last.toNat * offset := by
    have h1 := Nat.mul_le_mul_right (span - offset) hf
    have h2 := Nat.mul_le_mul_right offset hl
    omega
  have hhigh : first.toNat * (span - offset) + last.toNat * offset < 256 * span := by
    have h1 := Nat.mul_le_mul_right (span - offset) hf'
    have h2 := Nat.mul_le_mul_right offset hl'
    omega
  intro hzero
  have hnat := congrArg UInt8.toNat hzero
  rw [blend, UInt8.toNat_ofNat_of_lt' ((Nat.div_lt_iff_lt_mul hspan).2 hhigh)] at hnat
  exact absurd hnat (Nat.ne_of_gt (Nat.div_pos hlow hspan))

/-- Stops whose levels increase and that have a channel in which both are lit. -/
def Joined (s t : Nat × Colour) : Prop :=
  s.1 < t.1 ∧ ∃ channel ∈ [red, green, blue], channel s.2 ≠ 0 ∧ channel t.2 ≠ 0

instance : DecidableRel Joined := fun _ _ => inferInstanceAs (Decidable (_ ∧ _))

theorem ne_black_of_channel {c : Colour} {channel : Colour → UInt8} (hmem : channel ∈ [red, green, blue])
    (h : channel c ≠ 0) : c ≠ black := by
  rintro rfl
  simp only [List.mem_cons, List.not_mem_nil, or_false] at hmem
  rcases hmem with rfl | rfl | rfl <;> exact h rfl

theorem between_ne_black {low : Nat} {first : Colour} {rest : List (Nat × Colour)} {level : Nat}
    (hchain : ((low, first) :: rest).IsChain Joined) (hfirst : first ≠ black) (hlow : low ≤ level) :
    between ((low, first) :: rest) level ≠ black := by
  induction rest generalizing low first with
  | nil => exact hfirst
  | cons stop rest ih =>
    obtain ⟨high, last⟩ := stop
    obtain ⟨⟨hlt, channel, hmem, hs, ht⟩, hrest⟩ := List.isChain_cons_cons.1 hchain
    unfold between
    split
    · -- the channel that is lit at both stops is lit between them
      have hspan : 0 < high - low := Nat.sub_pos_of_lt hlt
      have hoffset : level - low ≤ high - low := Nat.sub_le_sub_right (by assumption) low
      apply ne_black_of_channel hmem
      simp only [List.mem_cons, List.not_mem_nil, or_false] at hmem
      rcases hmem with rfl | rfl | rfl <;> exact blend_ne_zero hs ht hspan hoffset
    · exact ih hrest (ne_black_of_channel hmem ht) (by omega)

end Colour

theorem colour_eq_black_iff (level : UInt8) : colour level = .black ↔ level = 0 := by
  unfold colour
  by_cases hzero : level = 0
  · rw [if_pos hzero]
    exact iff_of_true rfl hzero
  · rw [if_neg hzero]
    exact iff_of_false (Colour.between_ne_black (by decide) (by decide) (Nat.zero_le _)) hzero

/-! ## Pixels of files -/

/-- Pieces of equal length, one for each value: the piece of a value stands at its place. -/
theorem take_drop_flatMap {β γ : Type} {f : β → List γ} {length : Nat} (hf : ∀ b, (f b).length = length)
    {l : List β} {i : Nat} {b : β} (h : l[i]? = some b) : ((l.flatMap f).drop (length * i)).take length = f b := by
  induction l generalizing i with
  | nil => simp at h
  | cons c l ih =>
    cases i with
    | zero =>
      simp only [List.getElem?_cons_zero, Option.some.injEq] at h
      rw [List.flatMap_cons, Nat.mul_zero, List.drop_zero, h, List.take_left' (hf b)]
    | succ i =>
      have hdrop : (f c ++ l.flatMap f).drop (length * (i + 1)) = (l.flatMap f).drop (length * i) := by
        rw [Nat.mul_succ, Nat.add_comm, ← List.drop_drop, List.drop_left' (hf c)]
      rw [List.flatMap_cons, hdrop]
      exact ih h

/-- The bytes of a pixel in a file whose body has `depth` bytes for each, the rows one after the other. -/
def Netpbm.File.pixel (f : Netpbm.File) (depth : Nat) (x y : UInt32) : List UInt8 :=
  (f.body.drop (depth * (y.toNat * f.width + x.toNat))).take depth

namespace Picture

variable {p : Picture} {x y n : UInt32}

theorem getElem?_shades (h : p.get? x y = some n) :
    p.shades[y.toNat * p.width.toNat + x.toNat]? = some (shade n p.cap) := by
  unfold get? at h
  split at h
  · cases h
  · rw [← p.toNat_place, shades, List.getElem?_map, Array.getElem?_toList, h]
    rfl

theorem pixel_pgm (h : p.get? x y = some n) :
    Netpbm.File.pixel ⟨Text.utf8 "P5", p.width.toNat, p.height.toNat, 255, p.shades⟩ 1 x y = [shade n p.cap] := by
  have htake := take_drop_flatMap (f := fun level : UInt8 => [level]) (fun _ => rfl) (getElem?_shades h)
  rw [List.flatMap_singleton'] at htake
  exact htake

theorem pixel_ppm (h : p.get? x y = some n) :
    Netpbm.File.pixel ⟨Text.utf8 "P6", p.width.toNat, p.height.toNat, 255,
      p.shades.flatMap fun level => (colour level).bytes⟩ 3 x y = (colour (shade n p.cap)).bytes :=
  take_drop_flatMap (f := fun level => (colour level).bytes) (fun _ => rfl) (getElem?_shades h)

end Picture

/-! ## Black pixels -/

section Black

variable {α : Type} [Scalar α] (step : Registers α → Registers α) (view : Viewport α) (cap : UInt32)

theorem eq_cap_of_small {n : UInt32} (hsmall : cap ≤ 256) (hn : 1 ≤ cap → 1 ≤ n) :
    (n = cap ∨ 256 * n.toNat < cap.toNat) ↔ n = cap := by
  simp only [UInt32.le_iff_toNat_le, UInt32.reduceToNat] at hsmall hn
  rw [← UInt32.toNat_inj]
  omega

/-- **Black means never escaped.** Rendering a viewport with nothing wrong and with room gives an escape time `n` for
each pixel, and the files of the picture have its grey level and its colour at the place of the pixel. The level is
zero, and the colour black, if `n` is the cap or below one level of it, and not otherwise. The start of an orbit is
taken to be inside the escape radius; so `n` is not zero unless the cap is, and up to a cap of 256 the black pixels
are those that reach it. -/
theorem black_iff_never_escaped (hinside : Scalar.less (Complex.zero : Complex α).normSq Scalar.four = true)
    (hview : view.check = none) (hroom : view.HasRoom) :
    ∃ (p : Picture) (grey coloured : Netpbm.File), render step view cap = .ok p ∧
      Netpbm.read? (p.file .pgm) = some grey ∧ Netpbm.read? (p.file .ppm) = some coloured ∧
      ∀ x y, x < view.width → y < view.height → ∃ n, p.get? x y = some n ∧
        grey.pixel 1 x y = [shade n cap] ∧ coloured.pixel 3 x y = (colour (shade n cap)).bytes ∧
        (shade n cap = 0 ↔ n = cap ∨ 256 * n.toNat < cap.toNat) ∧
        (colour (shade n cap) = ⟨0, 0, 0⟩ ↔ n = cap ∨ 256 * n.toNat < cap.toNat) ∧
        (1 ≤ cap → 1 ≤ n) ∧
        (cap ≤ 256 → (shade n cap = 0 ↔ n = cap) ∧ (colour (shade n cap) = ⟨0, 0, 0⟩ ↔ n = cap)) := by
  obtain ⟨p, hok, -, hw, hh, rfl, hcounts⟩ := exists_render step view cap hview hroom
  refine ⟨p, _, _, hok, p.read?_pgm, p.read?_ppm, ?_⟩
  intro x y hx hy
  have hget := get?_of_counts step view p.cap hw hh hcounts x y
  rw [if_pos ⟨hx, hy⟩] at hget
  have hblack := shade_eq_zero_iff (escapeTime_le step (view.sample x y) p.cap)
  have hcolour := (colour_eq_black_iff (shade (escapeTime step (view.sample x y) p.cap) p.cap)).trans hblack
  have hpos (hcap : 1 ≤ p.cap) := escapeTime_pos step hinside (view.sample x y) hcap
  refine ⟨_, hget, Picture.pixel_pgm hget, Picture.pixel_ppm hget, hblack, hcolour, hpos, ?_⟩
  intro hsmall
  have hcap := eq_cap_of_small p.cap hsmall hpos
  exact ⟨hblack.trans hcap, hcolour.trans hcap⟩

end Black

/-- The point `1` under `b := b² + a` escapes after two steps. With a cap of 1000 that is less than one level, and its
pixel is black all the same; with a cap of 256 it is not. -/
theorem black_iff_never_escaped_one :
    let view : Viewport Float := ⟨1, 1, 1, 2, 0, 1⟩
    Scalar.less (Complex.zero : Complex Float).normSq Scalar.four = true ∧ view.check = none ∧ view.HasRoom ∧
      (∃ (p : Picture) (coloured : Netpbm.File), render Registers.quadratic view 1000 = .ok p ∧
        Netpbm.read? (p.file .ppm) = some coloured ∧ p.get? 0 0 = some 2 ∧ coloured.pixel 3 0 0 = [0, 0, 0]) ∧
      ∃ p : Picture, render Registers.quadratic view 256 = .ok p ∧ p.get? 0 0 = some 2 ∧
        colour (shade 2 256) ≠ ⟨0, 0, 0⟩ := by
  intro view
  have hinside : Scalar.less (Complex.zero : Complex Float).normSq Scalar.four = true := by decide +kernel
  have hview : view.check = none := by decide +kernel
  have hroom : view.HasRoom := by decide
  have hhigh : render Registers.quadratic view 1000 = .ok ⟨1, 1, 1000, #[2]⟩ := by decide +kernel
  have hlow : render Registers.quadratic view 256 = .ok ⟨1, 1, 256, #[2]⟩ := by decide +kernel
  obtain ⟨p, _, coloured, hp, -, hread, hpixels⟩ :=
    black_iff_never_escaped Registers.quadratic view 1000 hinside hview hroom
  obtain ⟨q, _, _, hq, -, -, hpixels'⟩ := black_iff_never_escaped Registers.quadratic view 256 hinside hview hroom
  rw [hhigh] at hp
  rw [hlow] at hq
  cases hp
  cases hq
  obtain ⟨n, hn, -, hbytes, -, hblack, -⟩ := hpixels 0 0 (by decide) (by decide)
  obtain ⟨m, hm, -, -, -, -, -, hsmall⟩ := hpixels' 0 0 (by decide) (by decide)
  cases hn
  cases hm
  refine ⟨hinside, hview, hroom, ⟨_, coloured, hhigh, hread, rfl, ?_⟩, _, hlow, rfl, ?_⟩
  · rw [hbytes, hblack.2 (Or.inr (by decide))]
    rfl
  · intro hcolour
    exact absurd ((hsmall (by decide)).2.1 hcolour) (by decide)

end Orbit
