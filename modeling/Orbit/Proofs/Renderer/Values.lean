import Orbit.Proofs.Decimal.Reading
import Orbit.Renderer.Options

/-!
# The values of options

Which texts are values, and of what, said without the readers.

* `IsOneOf names text` : a name, with any of its letters as capitals; `engineNames` and `formatNames` are the lists of
  names, `engine_ofText_eq_ok_iff` and `format_ofText_eq_ok_iff` say that they are read;
* `IsCap text n`, `parseCap?_eq_some_iff` : a positive number;
* `IsSize text w h`, `parseSize?_eq_some_iff` : two numbers with a cross between them;
* `IsBounds text b`, `parseBounds?_eq_some_iff` : four numbers with commas between them.
-/

namespace Orbit.Renderer

/-! ## Names -/

/-- One of the names, when the capital letters of ASCII in the text are made small. -/
def IsOneOf (names : List String) (text : String) : Prop :=
  ∃ name ∈ names, text.toList.map Char.toLower = name.toList

def engineNames : Engine → List String
  | .jit => ["jit"]
  | .interpret => ["interpret", "interpreter"]
  | .hardcoded => ["hardcoded"]

def formatNames : Format → List String
  | .pgm => ["pgm"]
  | .pgmAscii => ["pgm-ascii"]
  | .ppm => ["ppm"]

section Names

variable {text : String}

theorem isOneOf_iff {names : List String} : IsOneOf names text ↔ Text.lowercase text ∈ names := by
  have hname (name : String) : text.toList.map Char.toLower = name.toList ↔ Text.lowercase text = name := by
    rw [Text.lowercase, ← String.toList_inj, String.toList_ofList]
  simp only [IsOneOf, hname, exists_eq_right']

theorem engine_ofText_eq_ok_iff {e : Engine} : Engine.ofText text = .ok e ↔ IsOneOf (engineNames e) text := by
  rw [isOneOf_iff]
  simp only [Engine.ofText, beq_iff_eq, Bool.or_eq_true]
  split_ifs <;> cases e <;> grind [engineNames]

theorem format_ofText_eq_ok_iff {f : Format} : Format.ofText text = .ok f ↔ IsOneOf (formatNames f) text := by
  rw [isOneOf_iff]
  simp only [Format.ofText, beq_iff_eq]
  split_ifs <;> cases f <;> grind [formatNames]

/-- A text that names nothing is refused with its letters made small. -/
theorem engine_ofText_eq_error {fault : UnknownEngine} (h : Engine.ofText text = .error fault) :
    fault = ⟨String.ofList (text.toList.map Char.toLower)⟩ := by
  simp only [Engine.ofText] at h
  split_ifs at h
  exact (Except.error.inj h).symm

theorem format_ofText_eq_error {fault : UnknownFormat} (h : Format.ofText text = .error fault) :
    fault = ⟨String.ofList (text.toList.map Char.toLower)⟩ := by
  simp only [Format.ofText] at h
  split_ifs at h
  exact (Except.error.inj h).symm

end Names

/-! ## Numbers of steps -/

/-- A text of a number that is not zero, without blanks. -/
structure IsCap (text : String) (n : UInt32) : Prop where
  denotes : Numeral.Denotes text n.toNat
  ne_zero : n ≠ 0

theorem parseCap?_eq_some_iff {text : String} {n : UInt32} : parseCap? text = some n ↔ IsCap text n := by
  unfold parseCap?
  simp only [Option.bind_eq_bind, Option.bind_eq_some_iff, Numeral.word?_eq_some_iff]
  constructor
  · rintro ⟨k, hk, hpositive⟩
    split_ifs at hpositive with hzero
    cases hpositive
    exact ⟨hk, hzero⟩
  · rintro ⟨hn, hne⟩
    exact ⟨n, hn, if_neg hne⟩

/-! ## Sizes -/

def isCross (c : Char) : Bool := c == 'x' || c == 'X'

/-- A single cross, with a positive number and blanks on both sides of it. -/
structure IsSize (text : String) (width height : UInt32) : Prop where
  single : text.toList.countP isCross = 1
  sides : ∃ left right u v : String, ∃ c : Char, isCross c = true ∧ text = left ++ String.singleton c ++ right ∧
    Text.Padded u left ∧ Numeral.Denotes u width.toNat ∧ Text.Padded v right ∧ Numeral.Denotes v height.toNat
  width_ne_zero : width ≠ 0
  height_ne_zero : height ≠ 0

theorem isCross_of_isBlank {c : Char} (h : Text.isBlank c = true) : isCross c = false := by
  by_contra hcross
  simp only [isCross, Bool.not_eq_false, Bool.or_eq_true, beq_iff_eq] at hcross
  rcases hcross with rfl | rfl <;> cases h

theorem isCross_of_isDigit {c : Char} (h : c.isDigit = true) : isCross c = false := by
  by_contra hcross
  simp only [isCross, Bool.not_eq_false, Bool.or_eq_true, beq_iff_eq] at hcross
  rcases hcross with rfl | rfl <;> cases h

theorem isCross_of_reads {s : String} {n : UInt32} (h : Numeral.Reads Numeral.word? s n) :
    ∀ c ∈ s.toList, isCross c = false := by
  obtain ⟨u, hpadded, hu⟩ := h
  obtain ⟨digits, -, hdigits, hchars, -⟩ := Numeral.word?_eq_some_iff.1 hu
  intro c hc
  rcases Text.mem_toList_of_padded hpadded hc with hblank | hc
  · exact isCross_of_isBlank hblank
  · rcases hchars with hchars | hchars
    · exact isCross_of_isDigit (hdigits c (hchars ▸ hc))
    · rw [hchars] at hc
      rcases List.mem_cons.1 hc with rfl | hc
      · decide
      · exact isCross_of_isDigit (hdigits c hc)

theorem countP_isCross {left right : String} {c : Char} (hleft : ∀ c ∈ left.toList, isCross c = false)
    (hright : ∀ c ∈ right.toList, isCross c = false) (hc : isCross c = true) :
    (left ++ String.singleton c ++ right).toList.countP isCross = 1 := by
  have hleft' : left.toList.countP isCross = 0 := List.countP_eq_zero.2 fun d hd => by simp [hleft d hd]
  have hright' : right.toList.countP isCross = 0 := List.countP_eq_zero.2 fun d hd => by simp [hright d hd]
  simp [hleft', hright', hc]

theorem parseSize?_eq_some_iff {text : String} {width height : UInt32} :
    parseSize? text = some (width, height) ↔ IsSize text width height := by
  have hword {s : String} {n : UInt32} : Numeral.word? (Text.trim s) = some n ↔ Numeral.Reads Numeral.word? s n :=
    Numeral.read?_trim_iff Numeral.isNumeralChar_of_word?
  unfold parseSize?
  simp only [Option.bind_eq_bind, Option.bind_eq_some_iff, Prod.exists, hword]
  constructor
  · rintro ⟨left, right, hcut, w, hw, h, hh, hpositive⟩
    split_ifs at hpositive with hzero
    cases hpositive
    obtain ⟨hleft, c, hc, rfl⟩ := Text.cut?_eq_some_iff.1 hcut
    obtain ⟨u, hu, hw⟩ := hw
    obtain ⟨v, hv, hh'⟩ := id hh
    rw [not_or] at hzero
    exact ⟨countP_isCross hleft (isCross_of_reads hh) hc, ⟨left, right, u, v, c, hc, rfl, hu,
      Numeral.word?_eq_some_iff.1 hw, hv, Numeral.word?_eq_some_iff.1 hh'⟩, hzero.1, hzero.2⟩
  · rintro ⟨-, ⟨left, right, u, v, c, hc, rfl, hu, hw, hv, hh⟩, hwidth, hheight⟩
    have hleft : Numeral.Reads Numeral.word? left width := ⟨u, hu, Numeral.word?_eq_some_iff.2 hw⟩
    have hright : Numeral.Reads Numeral.word? right height := ⟨v, hv, Numeral.word?_eq_some_iff.2 hh⟩
    refine ⟨left, right, Text.cut?_eq_some_iff.2 ⟨isCross_of_reads hleft, c, hc, rfl⟩, width, hleft, height, hright, ?_⟩
    rw [if_neg (not_or.2 ⟨hwidth, hheight⟩)]

theorem parseSize?_toString {width height : UInt32} (hwidth : width ≠ 0) (hheight : height ≠ 0) :
    parseSize? (toString width.toNat ++ "x" ++ toString height.toNat) = some (width, height) := by
  have hwords (n : UInt32) : Numeral.Reads Numeral.word? (toString n.toNat) n :=
    ⟨_, Text.padded_self _, Numeral.word?_toString n⟩
  refine parseSize?_eq_some_iff.2 ⟨?_, ⟨_, _, _, _, 'x', rfl, rfl, Text.padded_self _, ?_, Text.padded_self _, ?_⟩,
    hwidth, hheight⟩
  · exact countP_isCross (c := 'x') (isCross_of_reads (hwords width)) (isCross_of_reads (hwords height)) rfl
  · exact Numeral.word?_eq_some_iff.1 (Numeral.word?_toString width)
  · exact Numeral.word?_eq_some_iff.1 (Numeral.word?_toString height)

/-! ## Bounds -/

/-- Four texts of finite numbers, each with blanks around it, and the three commas between them. -/
structure IsBounds (text : String) (b : Bounds) : Prop where
  commas : text.toList.count ',' = 3
  fields : ∃ reMin reMax imMin imMax : String, text = reMin ++ "," ++ reMax ++ "," ++ imMin ++ "," ++ imMax ∧
    Numeral.Reads Numeral.real? reMin b.reMin ∧ Numeral.Reads Numeral.real? reMax b.reMax ∧
    Numeral.Reads Numeral.real? imMin b.imMin ∧ Numeral.Reads Numeral.real? imMax b.imMax
  finite : ∀ x ∈ [b.reMin, b.reMax, b.imMin, b.imMax], x.isFinite = true

theorem count_comma {f g h k : String} (hcommas : ∀ s ∈ [f, g, h, k], ∀ c ∈ s.toList, c ≠ ',') :
    (f ++ "," ++ g ++ "," ++ h ++ "," ++ k).toList.count ',' = 3 := by
  have hcount : ∀ s ∈ [f, g, h, k], s.toList.count ',' = 0 := fun s hs =>
    List.count_eq_zero.2 fun hmem => hcommas s hs ',' hmem rfl
  simp only [List.forall_mem_cons] at hcount
  obtain ⟨hf, hg, hh, hk, -⟩ := hcount
  simp [hf, hg, hh, hk]

theorem pieces_comma_iff {text f g h k : String} : Text.pieces (· == ',') text = [f, g, h, k] ↔
    text = f ++ "," ++ g ++ "," ++ h ++ "," ++ k ∧ ∀ s ∈ [f, g, h, k], ∀ c ∈ s.toList, c ≠ ',' := by
  have hcomma : String.singleton ',' = "," := rfl
  simp only [Text.pieces_eq_cons_cons_iff, Text.pieces_eq_cons_nil_iff, Text.cut?_beq_eq_some_iff,
    beq_eq_false_iff_ne, hcomma]
  constructor
  · rintro ⟨_, ⟨hf, rfl⟩, _, ⟨hg, rfl⟩, _, ⟨hh, rfl⟩, rfl, hk⟩
    refine ⟨by simp only [String.append_assoc], ?_⟩
    simp only [List.forall_mem_cons]
    exact ⟨hf, hg, hh, hk, by simp⟩
  · rintro ⟨rfl, hall⟩
    simp only [List.forall_mem_cons] at hall
    obtain ⟨hf, hg, hh, hk, -⟩ := hall
    refine ⟨g ++ "," ++ (h ++ "," ++ k), ⟨hf, ?_⟩, h ++ "," ++ k, ⟨hg, rfl⟩, k, ⟨hh, rfl⟩, rfl, hk⟩
    simp only [String.append_assoc]

theorem parseBounds?_eq_some_iff {text : String} {b : Bounds} : parseBounds? text = some b ↔ IsBounds text b := by
  have hreal {s : String} {x : Float} : Numeral.real? (Text.trim s) = some x ↔ Numeral.Reads Numeral.real? s x :=
    Numeral.read?_trim_iff Numeral.isNumeralChar_of_real?
  unfold parseBounds?
  simp only [Option.bind_eq_bind, Option.bind_eq_some_iff, Text.mapM_eq_some_iff, hreal]
  constructor
  · rintro ⟨numbers, hnumbers, hb⟩
    split at hb
    · next reMin reMax imMin imMax =>
      split_ifs at hb with hfinite
      cases hb
      simp only [List.forall₂_cons_right_iff, List.forall₂_nil_right_iff] at hnumbers
      obtain ⟨f, _, hf, ⟨g, _, hg, ⟨h, _, hh, ⟨k, _, hk, rfl, rfl⟩, rfl⟩, rfl⟩, hpieces⟩ := hnumbers
      obtain ⟨rfl, hcommas⟩ := pieces_comma_iff.1 hpieces
      exact ⟨count_comma hcommas, ⟨f, g, h, k, rfl, hf, hg, hh, hk⟩, List.all_eq_true.1 hfinite⟩
    · cases hb
  · rintro ⟨-, ⟨f, g, h, k, rfl, hf, hg, hh, hk⟩, hfinite⟩
    refine ⟨[b.reMin, b.reMax, b.imMin, b.imMax], ?_, ?_⟩
    · have hcommas : ∀ s ∈ [f, g, h, k], ∀ c ∈ s.toList, c ≠ ',' := by
        simp only [List.forall_mem_cons]
        exact ⟨Numeral.ne_comma_of_reads hf, Numeral.ne_comma_of_reads hg, Numeral.ne_comma_of_reads hh,
          Numeral.ne_comma_of_reads hk, by simp⟩
      rw [pieces_comma_iff.2 ⟨rfl, hcommas⟩]
      exact .cons hf (.cons hg (.cons hh (.cons hk .nil)))
    · dsimp only
      rw [if_pos (List.all_eq_true.2 hfinite)]

end Orbit.Renderer
