import Orbit.Proofs.Text.Fields

/-!
# Which texts are numbers

* `Numeral.Denotes u n` : an optional plus sign and digits for `n`; `word?_eq_some_iff` says that these are the texts of
  unsigned numbers;
* `Numeral.isNumeralChar_of_real?` : a text of a binary64 number has digits, letters, signs and points only, so that
  blanks, commas and equals signs can stand around it;
* `Numeral.Reads read? s x` : `s` is a text that is read as `x`, with blanks around it.
-/

namespace Orbit.Numeral

/-! ## Unsigned numbers -/

/-- An optional plus sign and decimal digits, at least one, of value `n`. -/
def Denotes (u : String) (n : Nat) : Prop :=
  ∃ digits : List Char, digits ≠ [] ∧ (∀ c ∈ digits, c.isDigit = true) ∧
    (u.toList = digits ∨ u.toList = '+' :: digits) ∧ Nat.ofDigitChars 10 digits 0 = n

theorem natural?_eq_some_iff {cs : List Char} {n : Nat} :
    natural? cs = some n ↔ cs ≠ [] ∧ (∀ c ∈ cs, c.isDigit = true) ∧ Nat.ofDigitChars 10 cs 0 = n := by
  have hvalue : value cs = Nat.ofDigitChars 10 cs 0 := value_eq_ofDigitChars cs 0
  unfold natural?
  rw [hvalue]
  by_cases hempty : cs = []
  · simp [hempty]
  · by_cases hdigits : cs.all Char.isDigit = true
    · rw [if_neg (by simp [hempty, hdigits]), Option.some.injEq]
      exact ⟨fun h => ⟨hempty, List.all_eq_true.1 hdigits, h⟩, fun h => h.2.2⟩
    · rw [if_pos (by simp [hdigits])]
      constructor
      · intro h
        cases h
      · intro h
        exact absurd (List.all_eq_true.2 h.2.1) hdigits

theorem word?_eq_some_iff {u : String} {n : UInt32} : word? u = some n ↔ Denotes u n.toNat := by
  have hfits (k : Nat) : (if k < UInt32.size then some (UInt32.ofNat k) else none) = some n ↔ k = n.toNat := by
    constructor
    · intro h
      split_ifs at h with hk
      rw [← Option.some.inj h, UInt32.toNat_ofNat_of_lt' hk]
    · rintro rfl
      rw [if_pos n.toNat_lt_size, UInt32.ofNat_toNat]
  unfold word? Denotes
  split
  · next cs hcs =>
    simp only [Option.bind_eq_bind, Option.bind_eq_some_iff, natural?_eq_some_iff, hfits, hcs, List.cons.injEq,
      true_and]
    constructor
    · rintro ⟨k, ⟨hne, hdigits, hk⟩, hkn⟩
      exact ⟨cs, hne, hdigits, Or.inr rfl, hk.trans hkn⟩
    · rintro ⟨digits, hne, hdigits, rfl | rfl, hn⟩
      · exact absurd (hdigits '+' List.mem_cons_self) (by decide)
      · exact ⟨_, ⟨hne, hdigits, hn⟩, rfl⟩
  · next hcs =>
    simp only [Option.bind_eq_bind, Option.bind_eq_some_iff, natural?_eq_some_iff, hfits]
    constructor
    · rintro ⟨k, ⟨hne, hdigits, hk⟩, hkn⟩
      exact ⟨u.toList, hne, hdigits, Or.inl rfl, hk.trans hkn⟩
    · rintro ⟨digits, hne, hdigits, hu | hu, hn⟩
      · exact ⟨_, ⟨hu ▸ hne, hu ▸ hdigits, hu ▸ hn⟩, rfl⟩
      · exact absurd hu (hcs digits)

/-! ## Characters of numbers -/

theorem isAlpha_iff {c : Char} : c.isAlpha = true ↔ c.isUpper = true ∨ c.isLower = true := Bool.or_eq_true_iff

theorem isUpper_iff_toNat {c : Char} : c.isUpper = true ↔ 'A'.toNat ≤ c.toNat ∧ c.toNat ≤ 'Z'.toNat :=
  decide_eq_true_iff

theorem isLower_iff_toNat {c : Char} : c.isLower = true ↔ 'a'.toNat ≤ c.toNat ∧ c.toNat ≤ 'z'.toNat :=
  Bool.and_eq_true_iff.trans (and_congr decide_eq_true_iff decide_eq_true_iff)

def isNumeralChar (c : Char) : Bool := c.isDigit || c.isAlpha || c == '+' || c == '-' || c == '.'

theorem isNumeralChar_of_isDigit {c : Char} (h : c.isDigit = true) : isNumeralChar c = true := by
  simp [isNumeralChar, h]

theorem isBlank_of_isNumeralChar {c : Char} (h : isNumeralChar c = true) : Text.isBlank c = false := by
  simp only [isNumeralChar, Bool.or_eq_true, beq_iff_eq, Char.isDigit_iff_toNat, isAlpha_iff, isUpper_iff_toNat,
    isLower_iff_toNat] at h
  rcases h with (((hcode | hcode | hcode) | rfl) | rfl) | rfl
  case inr => decide
  case inl.inr => decide
  case inl.inl.inr => decide
  all_goals
    obtain ⟨hlow, hhigh⟩ := hcode
    simp only [Char.reduceToNat] at hlow hhigh
    simp only [Text.isBlank, Bool.or_eq_false_iff, Bool.and_eq_false_iff, decide_eq_false_iff_not, beq_eq_false_iff_ne]
    omega

theorem mem_sign {cs : List Char} {c : Char} (hc : c ∈ cs) : c = '-' ∨ c = '+' ∨ c ∈ (sign cs).2 := by
  unfold sign
  split <;> grind

theorem exponent?_cons {c : Char} {cs : List Char} {e : Int} (h : exponent? (c :: cs) = some e) :
    (c = 'e' ∨ c = 'E') ∧ ∃ n, natural? (sign cs).2 = some n ∧ e = if (sign cs).1 then -(n : Int) else n := by
  unfold exponent? at h
  dsimp only at h
  by_cases hmark : (c == 'e' || c == 'E') = true
  · rw [if_pos hmark] at h
    obtain ⟨m, hm, rfl⟩ := Option.map_eq_some_iff.1 h
    obtain ⟨n, hn, hnm⟩ := Option.bind_eq_some_iff.1 hm
    cases hnm
    exact ⟨by simpa using hmark, n, hn, rfl⟩
  · rw [if_neg hmark] at h
    cases h

theorem isNumeralChar_of_exponent? {cs : List Char} {e : Int} (h : exponent? cs = some e) :
    ∀ c ∈ cs, isNumeralChar c = true := by
  cases cs with
  | nil => simp
  | cons d cs =>
    obtain ⟨hmark, n, hn, -⟩ := exponent?_cons h
    obtain ⟨-, hdigits, -⟩ := natural?_eq_some_iff.1 hn
    intro c hc
    rcases List.mem_cons.1 hc with rfl | hc
    · rcases hmark with rfl | rfl <;> decide
    · rcases mem_sign hc with rfl | rfl | hc
      · decide
      · decide
      · exact isNumeralChar_of_isDigit (hdigits c hc)

/-- A run of digits is found as a whole if no digit follows it. -/
theorem takeWhile_isDigit_append {digits rest : List Char} (hdigits : ∀ c ∈ digits, c.isDigit = true)
    (hrest : ∀ c ∈ rest.head?, c.isDigit = false) :
    (digits ++ rest).takeWhile Char.isDigit = digits ∧ (digits ++ rest).dropWhile Char.isDigit = rest := by
  rw [List.takeWhile_append_of_pos hdigits, List.dropWhile_append_of_pos hdigits]
  cases rest with
  | nil => simp
  | cons c rest => simp [hrest c rfl]

/-- The digits after a point, if there is one, and what follows them. -/
def fractionAt : List Char → List Char × List Char
  | '.' :: rest => (rest.takeWhile Char.isDigit, rest.dropWhile Char.isDigit)
  | rest => ([], rest)

theorem scientific?_eq (cs : List Char) : scientific? cs =
    let whole := cs.takeWhile Char.isDigit
    let fraction := (fractionAt (cs.dropWhile Char.isDigit)).1
    if whole ++ fraction = [] then none
    else (exponent? (fractionAt (cs.dropWhile Char.isDigit)).2).map fun power =>
      (value (whole ++ fraction), power - (fraction.length : Int)) := by
  have hempty : ((cs.takeWhile Char.isDigit).isEmpty && (fractionAt (cs.dropWhile Char.isDigit)).1.isEmpty) = true ↔
      cs.takeWhile Char.isDigit ++ (fractionAt (cs.dropWhile Char.isDigit)).1 = [] := by
    simp
  dsimp only
  rw [← if_congr hempty rfl rfl, Option.map_eq_bind]
  rfl

theorem fractionAt_spec (rest : List Char) : (∀ c ∈ (fractionAt rest).1, c.isDigit = true) ∧
    (rest = (fractionAt rest).2 ∧ (fractionAt rest).1 = [] ∨
      rest = '.' :: (fractionAt rest).1 ++ (fractionAt rest).2) := by
  unfold fractionAt
  split
  · exact ⟨fun c hc => List.mem_takeWhile_imp hc, Or.inr (by simp)⟩
  · exact ⟨by simp, Or.inl ⟨rfl, rfl⟩⟩

theorem fractionAt_eq {rest fraction tail : List Char} {power : Int} (hfraction : ∀ c ∈ fraction, c.isDigit = true)
    (htail : exponent? tail = some power) (hrest : rest = tail ∧ fraction = [] ∨ rest = '.' :: (fraction ++ tail)) :
    (∀ c ∈ rest.head?, c.isDigit = false) ∧ fractionAt rest = (fraction, tail) := by
  have hmark : ∀ c ∈ tail.head?, c = 'e' ∨ c = 'E' := by
    intro c hc
    obtain ⟨rest, rfl⟩ := List.head?_eq_some_iff.1 hc
    exact (exponent?_cons htail).1
  have hhead : ∀ c ∈ tail.head?, c.isDigit = false := by
    intro c hc
    rcases hmark c hc with rfl | rfl <;> decide
  rcases hrest with ⟨rfl, rfl⟩ | rfl
  · refine ⟨hhead, ?_⟩
    unfold fractionAt
    split
    · next rest => exact absurd (hmark '.' rfl) (by decide)
    · rfl
  · obtain ⟨htake, hdrop⟩ := takeWhile_isDigit_append hfraction hhead
    refine ⟨by simp, ?_⟩
    rw [fractionAt, htake, hdrop]

/-- Digits, an optional point with digits after it, and an exponent. -/
structure Spells (cs whole fraction : List Char) (power : Int) : Prop where
  digits : ∀ c ∈ whole ++ fraction, c.isDigit = true
  ne_nil : whole ++ fraction ≠ []
  parts : ∃ tail, exponent? tail = some power ∧
    (cs = whole ++ tail ∧ fraction = [] ∨ cs = whole ++ '.' :: (fraction ++ tail))

theorem scientific?_eq_some_iff {cs : List Char} {r : Nat × Int} : scientific? cs = some r ↔
    ∃ whole fraction power, Spells cs whole fraction power ∧
      r = (value (whole ++ fraction), power - fraction.length) := by
  rw [scientific?_eq]
  constructor
  · intro h
    dsimp only at h
    split_ifs at h with hempty
    obtain ⟨power, hpower, rfl⟩ := Option.map_eq_some_iff.1 h
    obtain ⟨hfraction, hparts⟩ := fractionAt_spec (cs.dropWhile Char.isDigit)
    refine ⟨_, _, power, ⟨?_, hempty, _, hpower, ?_⟩, rfl⟩
    · intro c hc
      rcases List.mem_append.1 hc with hc | hc
      · exact List.mem_takeWhile_imp hc
      · exact hfraction c hc
    · have hcs := List.takeWhile_append_dropWhile (p := Char.isDigit) (l := cs)
      rcases hparts with ⟨hrest, hnil⟩ | hrest
      · exact Or.inl ⟨by rw [← hrest, hcs], hnil⟩
      · exact Or.inr (by rw [← List.cons_append, ← hrest, hcs])
  · rintro ⟨whole, fraction, power, ⟨hdigits, hne, tail, htail, hcs⟩, rfl⟩
    obtain ⟨hwhole, hfraction⟩ := List.forall_mem_append.1 hdigits
    obtain ⟨rest, rfl, hrest⟩ :
        ∃ rest, cs = whole ++ rest ∧ (rest = tail ∧ fraction = [] ∨ rest = '.' :: (fraction ++ tail)) := by
      rcases hcs with ⟨hcs, hnil⟩ | hcs
      · exact ⟨tail, hcs, Or.inl ⟨rfl, hnil⟩⟩
      · exact ⟨_, hcs, Or.inr rfl⟩
    obtain ⟨hhead, hpoint⟩ := fractionAt_eq hfraction htail hrest
    obtain ⟨htake, hdrop⟩ := takeWhile_isDigit_append hwhole hhead
    rw [htake, hdrop, hpoint]
    simp only
    rw [if_neg hne, htail]
    rfl

theorem isNumeralChar_of_scientific? {cs : List Char} {r : Nat × Int} (h : scientific? cs = some r) :
    ∀ c ∈ cs, isNumeralChar c = true := by
  obtain ⟨whole, fraction, power, ⟨hdigits, -, tail, htail, hcs⟩, -⟩ := scientific?_eq_some_iff.1 h
  have hdigits' : ∀ c ∈ whole ++ fraction, isNumeralChar c = true := fun c hc => isNumeralChar_of_isDigit (hdigits c hc)
  have htail' := isNumeralChar_of_exponent? htail
  rw [List.forall_mem_append] at hdigits'
  rcases hcs with ⟨rfl, -⟩ | rfl
  · exact List.forall_mem_append.2 ⟨hdigits'.1, htail'⟩
  · refine List.forall_mem_append.2 ⟨hdigits'.1, List.forall_mem_cons.2 ⟨by decide, ?_⟩⟩
    exact List.forall_mem_append.2 ⟨hdigits'.2, htail'⟩

theorem isAlpha_of_lowercase {cs : List Char} {name : String} (h : Text.lowercase (String.ofList cs) = name)
    (hname : ∀ c ∈ name.toList, c.isAlpha = true) : ∀ c ∈ cs, c.isAlpha = true := by
  intro c hc
  have hlower : c.toLower ∈ name.toList := by
    rw [← h, Text.lowercase, String.toList_ofList, String.toList_ofList]
    exact List.mem_map_of_mem hc
  have halpha := hname _ hlower
  by_cases hupper : c.isUpper = true
  · exact isAlpha_iff.2 (Or.inl hupper)
  · have hkeep : c.toLower = c := dif_neg fun h => hupper (decide_eq_true h)
    rwa [hkeep] at halpha

theorem isNumeralChar_of_isAlpha {c : Char} (h : c.isAlpha = true) : isNumeralChar c = true := by
  simp [isNumeralChar, h]

/-- **The characters of a number.** -/
theorem isNumeralChar_of_real? {u : String} {x : Float} (h : real? u = some x) :
    ∀ c ∈ u.toList, isNumeralChar c = true := by
  have hmagnitude : ∀ c ∈ (sign u.toList).2, isNumeralChar c = true := by
    obtain ⟨y, hy, -⟩ := Option.map_eq_some_iff.1 h
    unfold magnitude? at hy
    dsimp only at hy
    split_ifs at hy with hinf hnan
    · simp only [Bool.or_eq_true, beq_iff_eq] at hinf
      rcases hinf with hinf | hinf
      · exact fun c hc => isNumeralChar_of_isAlpha (isAlpha_of_lowercase hinf (List.all_eq_true.1 (by decide)) c hc)
      · exact fun c hc => isNumeralChar_of_isAlpha (isAlpha_of_lowercase hinf (List.all_eq_true.1 (by decide)) c hc)
    · exact fun c hc => isNumeralChar_of_isAlpha
        (isAlpha_of_lowercase (beq_iff_eq.1 hnan) (List.all_eq_true.1 (by decide)) c hc)
    · obtain ⟨r, hr, -⟩ := Option.map_eq_some_iff.1 hy
      exact isNumeralChar_of_scientific? hr
  intro c hc
  rcases mem_sign hc with rfl | rfl | hc
  · decide
  · decide
  · exact hmagnitude c hc

theorem isNumeralChar_of_word? {u : String} {n : UInt32} (h : word? u = some n) :
    ∀ c ∈ u.toList, isNumeralChar c = true := by
  obtain ⟨digits, -, hdigits, hu, -⟩ := word?_eq_some_iff.1 h
  have hdigits' : ∀ c ∈ digits, isNumeralChar c = true := fun c hc => isNumeralChar_of_isDigit (hdigits c hc)
  rcases hu with hu | hu
  · rwa [hu]
  · rw [hu]
    exact List.forall_mem_cons.2 ⟨by decide, hdigits'⟩

theorem isBlank_of_real? {u : String} {x : Float} (h : real? u = some x) : ∀ c ∈ u.toList, Text.isBlank c = false :=
  fun c hc => isBlank_of_isNumeralChar (isNumeralChar_of_real? h c hc)

/-! ## Numbers with blanks around them -/

/-- A text of `x` with blanks around it. -/
def Reads {α : Type} (read? : String → Option α) (s : String) (x : α) : Prop := ∃ u, Text.Padded u s ∧ read? u = some x

theorem read?_trim_iff {α : Type} {read? : String → Option α}
    (hread : ∀ {u x}, read? u = some x → ∀ c ∈ u.toList, isNumeralChar c = true) {s : String} {x : α} :
    read? (Text.trim s) = some x ↔ Reads read? s x := by
  constructor
  · exact fun h => ⟨_, Text.padded_trim s, h⟩
  · rintro ⟨u, hpadded, hu⟩
    have hblank : ∀ c ∈ u.toList, Text.isBlank c = false := fun c hc => isBlank_of_isNumeralChar (hread hu c hc)
    rwa [(Text.trim_eq_iff hblank).2 hpadded]

theorem ne_comma_of_reads {s : String} {x : Float} (h : Reads real? s x) : ∀ c ∈ s.toList, c ≠ ',' := by
  obtain ⟨u, hpadded, hu⟩ := h
  rintro c hc rfl
  rcases Text.mem_toList_of_padded hpadded hc with hblank | hmem
  · cases hblank
  · cases isNumeralChar_of_real? hu _ hmem

end Orbit.Numeral
