import Orbit.Proofs.Decimal.RoundTrip
import Orbit.Proofs.Program.Text
import Orbit.Runner.Assignment
import Orbit.Scalar

/-!
# Assignments have one reading

An assignment is a register, an equals sign and two numbers with a comma between them, with blanks around each of the
three. The texts of numbers have none of these separators in them, so the first equals sign and the first comma after
it are the only ones.

* `Assigns text r u v` : `text` is put together from the letter of `r` and the texts `u` and `v`;
* `parseAssignment_eq_ok_iff` : what is accepted, and the value it is read as;
* `Assigns.unique` : a text is put together in one way;
* `parseAssignment_reads_once` : all of this, and that written assignments are read back.
-/

namespace Orbit

def Register.name (r : Register) : String := String.singleton r.letter

/-- The name of a register and two texts, with blanks around each, an equals sign and a comma. -/
def Assigns (text : String) (r : Register) (u v : String) : Prop :=
  ∃ name re im, text = name ++ "=" ++ (re ++ "," ++ im) ∧ Text.Padded r.name name ∧ Text.Padded u re ∧ Text.Padded v im

theorem Register.utf8_name (r : Register) : Text.utf8 r.name = [r.byte] := by cases r <;> decide

theorem Register.trim_eq_name_iff {name : String} {r : Register} : Text.trim name = r.name ↔ Text.Padded r.name name :=
  Text.trim_eq_iff (Text.eq_false_of_any (by cases r <;> decide))

theorem Register.ofName?_eq_some_iff {name : String} {r : Register} :
    Register.ofName? name = some r ↔ Text.Padded r.name name := by
  rw [← trim_eq_name_iff, ← Text.utf8_inj, utf8_name, ofName?]
  split
  · next byte hbyte =>
    rw [hbyte, List.cons.injEq, and_iff_left rfl]
    exact ⟨eq_byte_of_ofByte?, fun h => h ▸ ofByte?_byte r⟩
  · next hbytes => exact iff_of_false (fun h => nomatch h) (hbytes r.byte)

theorem Register.name_injective {r r' : Register} (h : r.name = r'.name) : r = r' := by
  revert h
  cases r <;> cases r' <;> decide

theorem ne_of_padded_name {r : Register} {name : String} (h : Text.Padded r.name name) :
    ∀ c ∈ name.toList, c ≠ '=' := by
  rintro c hc rfl
  rcases Text.mem_toList_of_padded h hc with hblank | hname
  · cases hblank
  · revert hname
    cases r <;> decide

theorem parseAssignment_cases {text : String} {r : Register} {z : Complex Float} : parseAssignment text = .ok (r, z) ↔
    ∃ name value re im, Text.cut? (· == '=') text = some (name, value) ∧ Register.ofName? name = some r ∧
      Text.cut? (· == ',') value = some (re, im) ∧ Numeral.real? (Text.trim re) = some z.re ∧
      Numeral.real? (Text.trim im) = some z.im := by
  constructor
  · intro h
    unfold parseAssignment at h
    split at h
    · cases h
    · next name value hcut =>
      split at h
      · cases h
      · next r' hname =>
        split at h
        · cases h
        · next re im hcomma =>
          split at h
          · cases h
          · next x hre =>
            split at h
            · cases h
            · next y him =>
              cases h
              exact ⟨name, value, re, im, hcut, hname, hcomma, hre, him⟩
  · rintro ⟨name, value, re, im, hcut, hname, hcomma, hre, him⟩
    have hre : Written.read? (Text.trim re) = some z.re := hre
    have him : Written.read? (Text.trim im) = some z.im := him
    simp only [parseAssignment, hcut, hname, hcomma, hre, him]

theorem parseAssignment_eq_ok_iff {text : String} {r : Register} {z : Complex Float} :
    parseAssignment text = .ok (r, z) ↔
    ∃ u v, Assigns text r u v ∧ Numeral.real? u = some z.re ∧ Numeral.real? v = some z.im := by
  have hequals : String.singleton '=' = "=" := rfl
  have hcomma : String.singleton ',' = "," := rfl
  simp only [parseAssignment_cases, Text.cut?_beq_eq_some_iff, Register.ofName?_eq_some_iff, hequals, hcomma,
    Numeral.read?_trim_iff Numeral.isNumeralChar_of_real?]
  constructor
  · rintro ⟨name, _, re, im, ⟨-, rfl⟩, hname, ⟨-, rfl⟩, ⟨u, hre, hu⟩, v, him, hv⟩
    exact ⟨u, v, ⟨name, re, im, rfl, hname, hre, him⟩, hu, hv⟩
  · rintro ⟨u, v, ⟨name, re, im, rfl, hname, hre, him⟩, hu, hv⟩
    exact ⟨name, _, re, im, ⟨ne_of_padded_name hname, rfl⟩, hname, ⟨Numeral.ne_comma_of_reads ⟨u, hre, hu⟩, rfl⟩,
      ⟨u, hre, hu⟩, v, him, hv⟩

theorem Assigns.cuts {text : String} {r : Register} {u v : String} {x y : Float} (h : Assigns text r u v)
    (hu : Numeral.real? u = some x) (hv : Numeral.real? v = some y) : ∃ name value re im,
    Text.cut? (· == '=') text = some (name, value) ∧ Text.cut? (· == ',') value = some (re, im) ∧
      Text.trim name = r.name ∧ Text.trim re = u ∧ Text.trim im = v := by
  obtain ⟨name, re, im, rfl, hname, hre, him⟩ := h
  exact ⟨name, _, re, im, Text.cut?_beq_eq_some_iff.2 ⟨ne_of_padded_name hname, rfl⟩,
    Text.cut?_beq_eq_some_iff.2 ⟨Numeral.ne_comma_of_reads ⟨u, hre, hu⟩, rfl⟩, Register.trim_eq_name_iff.2 hname,
    (Text.trim_eq_iff (Numeral.isBlank_of_real? hu)).2 hre, (Text.trim_eq_iff (Numeral.isBlank_of_real? hv)).2 him⟩

/-- A text is put together in one way. -/
theorem Assigns.unique {text : String} {r r' : Register} {u u' v v' : String} (h : Assigns text r u v)
    (h' : Assigns text r' u' v') (hu : (Numeral.real? u).isSome = true) (hv : (Numeral.real? v).isSome = true)
    (hu' : (Numeral.real? u').isSome = true) (hv' : (Numeral.real? v').isSome = true) : r = r' ∧ u = u' ∧ v = v' := by
  obtain ⟨x, hx⟩ := Option.isSome_iff_exists.1 hu
  obtain ⟨y, hy⟩ := Option.isSome_iff_exists.1 hv
  obtain ⟨x', hx'⟩ := Option.isSome_iff_exists.1 hu'
  obtain ⟨y', hy'⟩ := Option.isSome_iff_exists.1 hv'
  obtain ⟨name, value, re, im, hequals, hcomma, hname, rfl, rfl⟩ := h.cuts hx hy
  obtain ⟨name', value', re', im', hequals', hcomma', hname', rfl, rfl⟩ := h'.cuts hx' hy'
  cases hequals.symm.trans hequals'
  cases hcomma.symm.trans hcomma'
  exact ⟨Register.name_injective (hname.symm.trans hname'), rfl, rfl⟩

theorem parseAssignment_text {layout : Layout} (hlayout : layout.IsReadable) (r : Register) {x y : Float}
    (hx : x.isNaN = false) (hy : y.isNaN = false) :
    parseAssignment (r.name ++ "=" ++ (layout.text x ++ "," ++ layout.text y)) = .ok (r, ⟨x, y⟩) :=
  parseAssignment_eq_ok_iff.2 ⟨_, _, ⟨_, _, _, rfl, Text.padded_self _, Text.padded_self _, Text.padded_self _⟩,
    Layout.real?_text hlayout hx, Layout.real?_text hlayout hy⟩

/-- **Assignments have one reading.** A text is accepted exactly if it is the name of a register, an equals sign and
two texts of numbers with a comma between them, each of the three with blanks around it, and in one way only. Numbers
that are written in either notation are read back bit by bit. -/
theorem parseAssignment_reads_once :
    (∀ text r (z : Complex Float), parseAssignment text = .ok (r, z) ↔
      ∃ u v, Assigns text r u v ∧ Numeral.real? u = some z.re ∧ Numeral.real? v = some z.im) ∧
    (∀ text r r' u u' v v', Assigns text r u v → Assigns text r' u' v' → (Numeral.real? u).isSome = true →
      (Numeral.real? v).isSome = true → (Numeral.real? u').isSome = true → (Numeral.real? v').isSome = true →
      r = r' ∧ u = u' ∧ v = v') ∧
    ∀ (r : Register) (x y : Float), x.isNaN = false → y.isNaN = false →
      parseAssignment (r.name ++ "=" ++ (Written.plain x ++ "," ++ Written.plain y)) = .ok (r, ⟨x, y⟩) ∧
      parseAssignment (r.name ++ "=" ++ (Written.exact x ++ "," ++ Written.exact y)) = .ok (r, ⟨x, y⟩) := by
  refine ⟨fun _ _ _ => parseAssignment_eq_ok_iff, fun _ _ _ _ _ _ _ => Assigns.unique, fun r x y hx hy => ?_⟩
  exact ⟨parseAssignment_text (Or.inl rfl) r hx hy, parseAssignment_text (Or.inr rfl) r hx hy⟩

/-- Blanks around the parts, and the smallest positive number with a negative infinity. -/
theorem parseAssignment_reads_once_subnormal :
    let x : Float := .ofBits 1
    let y : Float := .ofBits 0xfff0000000000000
    Assigns "\t b = 1e1 , -.5\n" .b "1e1" "-.5" ∧
      parseAssignment "\t b = 1e1 , -.5\n" = .ok (.b, (⟨10, -0.5⟩ : Complex Float)) ∧
      (∀ r u v, Assigns "\t b = 1e1 , -.5\n" r u v → (Numeral.real? u).isSome = true → (Numeral.real? v).isSome = true →
        .b = r ∧ "1e1" = u ∧ "-.5" = v) ∧
      Written.exact x = "5e-324" ∧ Written.exact y = "-inf" ∧ parseAssignment "c=5e-324,-inf" = .ok (.c, ⟨x, y⟩) := by
  intro x y
  obtain ⟨hgrammar, hunique, hwritten⟩ := parseAssignment_reads_once
  have hblanks (s : String) : s.toList.all Text.isBlank = true → ∀ c ∈ s.toList, Text.isBlank c = true :=
    List.all_eq_true.1
  have hassigns : Assigns "\t b = 1e1 , -.5\n" .b "1e1" "-.5" :=
    ⟨"\t b ", " 1e1 ", " -.5\n", by decide, ⟨"\t ", " ", hblanks _ (by decide), hblanks _ (by decide), by decide⟩,
      ⟨" ", " ", hblanks _ (by decide), hblanks _ (by decide), by decide⟩,
      " ", "\n", hblanks _ (by decide), hblanks _ (by decide), by decide⟩
  have hx : Written.exact x = "5e-324" := by decide +kernel
  have hy : Written.exact y = "-inf" := by decide +kernel
  refine ⟨hassigns, (hgrammar _ _ _).2 ⟨"1e1", "-.5", hassigns, by decide +kernel, by decide +kernel⟩, ?_, hx, hy, ?_⟩
  · exact fun r u v h hu hv => hunique _ _ _ _ _ _ _ hassigns h (by decide +kernel) (by decide +kernel) hu hv
  · have hread := (hwritten .c x y (by decide +kernel) (by decide +kernel)).2
    rw [hx, hy] at hread
    exact hread

end Orbit
