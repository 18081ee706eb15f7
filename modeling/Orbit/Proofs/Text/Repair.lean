import Mathlib.Data.Nat.Find
import Mathlib.Order.Monotone.Basic
import Orbit.Text.Bytes

/-!
# Repaired texts

Arbitrary bytes are cut from the left: where a character is, it is taken, and where none is, the longest beginning of
one is replaced. The machine that reads byte by byte makes these cuts, though it never looks ahead and never goes
back.

* `IsBroken part rest`, `Repaired bytes cs` : the cuts, said of whole characters. Every list of bytes has a repair
  (`exists_repaired`);
* `utf8EncodeChar_eq` : the bytes of a character by its number;
* `Underway read p` : the state `p` knows which characters begin with the bytes `read`. A byte keeps it so
  (`Underway.next`), completes the character (`Underway.complete`) or belongs to none (`Underway.not_beginsChar`);
* `repaired_iff`, `repaired_toList_iff` : the machine gives the one repair there is;
* `ofBytesLossy_utf8` : a text is not changed.
-/

namespace Orbit.Text

open String (utf8EncodeChar)

/-- Bytes with which a character can begin. -/
def BeginsChar (bytes : List UInt8) : Prop := ∃ c : Char, bytes <+: utf8EncodeChar c

/-- A part that one replacement stands for: no character is where it starts, and it is the longest beginning of one
that is there, or a single byte if there is none. -/
structure IsBroken (part rest : List UInt8) : Prop where
  noChar : ∀ c : Char, ¬ utf8EncodeChar c <+: part ++ rest
  ne_nil : part ≠ []
  begins : BeginsChar part ∨ part.length = 1
  longest : ∀ longer, longer <+: part ++ rest → BeginsChar longer → longer.length ≤ part.length

/-- The characters of some bytes, with a replacement for each broken part. -/
inductive Repaired : List UInt8 → List Char → Prop
  | nil : Repaired [] []
  | char (c : Char) {rest : List UInt8} {cs : List Char} (h : Repaired rest cs) :
    Repaired (utf8EncodeChar c ++ rest) (c :: cs)
  | broken {part rest : List UInt8} {cs : List Char} (hpart : IsBroken part rest) (h : Repaired rest cs) :
    Repaired (part ++ rest) (replacement :: cs)

/-! ## The bytes of a character -/

/-- What a byte counts if `k` more follow it. -/
def weight : Nat → Nat
  | 0 => 1
  | k + 1 => 64 * weight k

theorem weight_pos (k : Nat) : 0 < weight k := by
  induction k with
  | zero => exact Nat.one_pos
  | succ k ih => exact Nat.mul_pos (by decide) ih

/-- The last `k` bytes of the character with a number. -/
def lastBytes : Nat → Nat → List UInt8
  | 0, _ => []
  | k + 1, n => UInt8.ofNat (n / weight k % 64 + 128) :: lastBytes k n

/-- The first byte of a character with `k` more bytes, without the bits of its number. -/
def leadBits : Nat → Nat
  | 0 => 0
  | 1 => 0xC0
  | 2 => 0xE0
  | 3 => 0xF0
  | _ => 0xF8

/-- The least number of a character with more than `k` bytes. -/
def leastNumber : Nat → Nat
  | 0 => 0
  | 1 => 0x80
  | 2 => 0x800
  | 3 => 0x10000
  | _ => 0x110000

theorem monotone_leadBits : Monotone leadBits := by
  refine monotone_nat_of_le_succ fun k => ?_
  match k with
  | 0 | 1 | 2 | 3 => decide
  | k + 4 => exact Nat.le_refl _

theorem monotone_leastNumber : Monotone leastNumber := by
  refine monotone_nat_of_le_succ fun k => ?_
  match k with
  | 0 | 1 | 2 | 3 => decide
  | k + 4 => exact Nat.le_refl _

/-- A number lies between two successive values of a monotone function in one place only. -/
theorem eq_of_between {f : Nat → Nat} (hf : Monotone f) {k m n : Nat} (hk : f k ≤ n ∧ n < f (k + 1))
    (hm : f m ≤ n ∧ n < f (m + 1)) : k = m := by
  rcases Nat.lt_trichotomy k m with hlt | heq | hlt
  · have hle : f (k + 1) ≤ f m := hf hlt
    omega
  · exact heq
  · have hle : f (m + 1) ≤ f k := hf hlt
    omega

/-- A character has up to four bytes: the leading bits with the top of its number, then six bits at a time. -/
theorem utf8EncodeChar_eq (c : Char) : ∃ k ≤ 3, leastNumber k ≤ c.toNat ∧ c.toNat < leastNumber (k + 1) ∧
    utf8EncodeChar c = UInt8.ofNat (c.toNat / weight k + leadBits k) :: lastBytes k c.toNat := by
  have hvalid : c.toNat.isValidChar := c.valid
  have hnumber : c.val.toNat = c.toNat := rfl
  have hcases : c.toNat < 0x80 ∨ 0x80 ≤ c.toNat ∧ c.toNat < 0x800 ∨ 0x800 ≤ c.toNat ∧ c.toNat < 0x10000 ∨
      0x10000 ≤ c.toNat ∧ c.toNat < 0x110000 := by
    rcases hvalid with h | ⟨-, h⟩ <;> omega
  rcases hcases with h | ⟨h, h'⟩ | ⟨h, h'⟩ | ⟨h, h'⟩
  · refine ⟨0, by decide, Nat.zero_le _, h, ?_⟩
    simp only [utf8EncodeChar, hnumber, lastBytes, weight, leadBits]
    rw [if_pos (by omega), Nat.div_one, Nat.add_zero]
  · refine ⟨1, by decide, h, h', ?_⟩
    have htop : c.toNat / 64 % 32 = c.toNat / 64 := by omega
    simp only [utf8EncodeChar, hnumber, lastBytes, weight, leadBits]
    rw [if_neg (by omega), if_pos (by omega), htop, Nat.div_one]
  · refine ⟨2, by decide, h, h', ?_⟩
    have htop : c.toNat / 4096 % 16 = c.toNat / 4096 := by omega
    simp only [utf8EncodeChar, hnumber, lastBytes, weight, leadBits]
    rw [if_neg (by omega), if_neg (by omega), if_pos (by omega), htop, Nat.div_one]
  · refine ⟨3, by decide, h, h', ?_⟩
    have htop : c.toNat / 262144 % 8 = c.toNat / 262144 := by omega
    simp only [utf8EncodeChar, hnumber, lastBytes, weight, leadBits]
    rw [if_neg (by omega), if_neg (by omega), if_neg (by omega), htop, Nat.div_one]

/-- The first byte tells how many follow and the top of the number. -/
theorem head_utf8EncodeChar {c : Char} {b : UInt8} (h : [b] <+: utf8EncodeChar c) :
    ∃ k ≤ 3, (leastNumber k ≤ c.toNat ∧ c.toNat < leastNumber (k + 1)) ∧
      (leadBits k ≤ b.toNat ∧ b.toNat < leadBits (k + 1)) ∧ b.toNat = c.toNat / weight k + leadBits k ∧
      utf8EncodeChar c = b :: lastBytes k c.toNat := by
  obtain ⟨k, hk, hleast, hlimit, hencode⟩ := utf8EncodeChar_eq c
  have hlead : c.toNat / weight k + leadBits k < leadBits (k + 1) := by
    obtain rfl | rfl | rfl | rfl : k = 0 ∨ k = 1 ∨ k = 2 ∨ k = 3 := by omega
    all_goals
      simp only [leastNumber, weight, leadBits] at hlimit ⊢
      omega
  have hbyte : c.toNat / weight k + leadBits k < 256 := by
    have hle : leadBits (k + 1) ≤ leadBits 4 := monotone_leadBits (by omega)
    have hmost : leadBits 4 = 248 := rfl
    omega
  rw [hencode, List.cons_prefix_cons] at h
  obtain ⟨rfl, -⟩ := h
  rw [UInt8.toNat_ofNat', Nat.mod_eq_of_lt hbyte]
  exact ⟨k, hk, ⟨hleast, hlimit⟩, ⟨Nat.le_add_left _ _, hlead⟩, rfl, hencode⟩

/-! ## Characters under way -/

/-- The numbers of the characters that can still come of a state. -/
def Partway.Admits (p : Partway) (n : Nat) : Prop :=
  p.value * 64 + p.low.toNat ≤ n / weight (p.missing - 1) + 128 ∧
    n / weight (p.missing - 1) + 128 ≤ p.value * 64 + p.high.toNat

/-- A state is the right one after some bytes: the characters that begin with them are those it admits, and it knows how
many bytes are missing. -/
structure Underway (read : List UInt8) (p : Partway) : Prop where
  missing : p.missing = 1 ∨ p.missing = 2 ∨ p.missing = 3
  low : 0x80 ≤ p.low.toNat
  low_le_high : p.low.toNat ≤ p.high.toNat
  high : p.high.toNat ≤ 0xBF
  valid : ∀ n, p.Admits n → n.isValidChar
  encode : ∀ c : Char, p.Admits c.toNat → utf8EncodeChar c = read ++ lastBytes p.missing c.toNat
  admits : ∀ c : Char, read <+: utf8EncodeChar c → p.Admits c.toNat

namespace Underway

variable {read rest : List UInt8} {p : Partway} {b : UInt8} {n : Nat}

theorem missing_eq (h : Underway read p) : p.missing = p.missing - 1 + 1 := by
  have := h.missing
  omega

theorem exists_next (h : Underway read p) (hn : p.Admits n) :
    ∃ b : UInt8, lastBytes p.missing n = b :: lastBytes (p.missing - 1) n ∧ (p.low ≤ b ∧ b ≤ p.high) ∧
      n / weight (p.missing - 1) + 128 = p.value * 64 + b.toNat := by
  obtain ⟨hlow, hhigh⟩ := hn
  have hl := h.low
  have hh := h.high
  have hbyte : (UInt8.ofNat (n / weight (p.missing - 1) % 64 + 128)).toNat =
      n / weight (p.missing - 1) % 64 + 128 := by
    rw [UInt8.toNat_ofNat', Nat.mod_eq_of_lt (by omega)]
  refine ⟨UInt8.ofNat (n / weight (p.missing - 1) % 64 + 128), ?_, ⟨?_, ?_⟩, ?_⟩
  · rw [h.missing_eq]
    rfl
  · rw [UInt8.le_iff_toNat_le, hbyte]
    omega
  · rw [UInt8.le_iff_toNat_le, hbyte]
    omega
  · rw [hbyte]
    omega

theorem admits_of_next (hb : p.low ≤ b ∧ b ≤ p.high)
    (hn : n / weight (p.missing - 1) + 128 = p.value * 64 + b.toNat) : p.Admits n := by
  rw [UInt8.le_iff_toNat_le, UInt8.le_iff_toNat_le] at hb
  constructor <;> omega

/-- A byte outside the range of the state belongs to no character that began. -/
theorem not_beginsChar (h : Underway read p) (hb : ¬ (p.low ≤ b ∧ b ≤ p.high)) : ¬ BeginsChar (read ++ [b]) := by
  rintro ⟨c, hc⟩
  have hadmits := h.admits c ((List.prefix_append read [b]).trans hc)
  obtain ⟨b', hlast, hrange, -⟩ := h.exists_next hadmits
  rw [h.encode c hadmits, List.prefix_append_right_inj, hlast, List.cons_prefix_cons] at hc
  obtain ⟨rfl, -⟩ := hc
  exact hb hrange

theorem utf8EncodeChar_ofNat (h : Underway read p) (hn : p.Admits n) :
    utf8EncodeChar (Char.ofNat n) = read ++ lastBytes p.missing n := by
  have hnumber : (Char.ofNat n).toNat = n := by
    rw [Char.ofNat, dif_pos (h.valid n hn)]
    rfl
  have hencode := h.encode (Char.ofNat n)
  rw [hnumber] at hencode
  exact hencode hn

theorem beginsChar (h : Underway read p) : BeginsChar read := by
  have hlow := h.low
  have hle := h.low_le_high
  have hdiv : (p.value * 64 + p.low.toNat - 128) * weight (p.missing - 1) / weight (p.missing - 1) =
      p.value * 64 + p.low.toNat - 128 := Nat.mul_div_cancel _ (weight_pos _)
  have hadmits : p.Admits ((p.value * 64 + p.low.toNat - 128) * weight (p.missing - 1)) := by
    unfold Partway.Admits
    rw [hdiv]
    omega
  exact ⟨_, h.utf8EncodeChar_ofNat hadmits ▸ List.prefix_append _ _⟩

theorem lastBytes_of_next (h : Underway read p) (hb : p.low ≤ b ∧ b ≤ p.high)
    (hn : n / weight (p.missing - 1) + 128 = p.value * 64 + b.toNat) :
    lastBytes p.missing n = b :: lastBytes (p.missing - 1) n := by
  obtain ⟨b', hlast, -, hn'⟩ := h.exists_next (admits_of_next hb hn)
  obtain rfl : b = b' := UInt8.toNat_inj.1 (by omega)
  exact hlast

theorem toNat_of_range (h : Underway read p) (hb : p.low ≤ b ∧ b ≤ p.high) : b.toNat = b.toNat % 64 + 128 := by
  have hlow := h.low
  have hhigh := h.high
  rw [UInt8.le_iff_toNat_le, UInt8.le_iff_toNat_le] at hb
  omega

theorem complete (h : Underway read p) (hlast : p.missing = 1) (hb : p.low ≤ b ∧ b ≤ p.high) :
    utf8EncodeChar (Char.ofNat (p.value * 64 + b.toNat % 64)) = read ++ [b] := by
  have hbyte := h.toNat_of_range hb
  have hn : (p.value * 64 + b.toNat % 64) / weight (p.missing - 1) + 128 = p.value * 64 + b.toNat := by
    rw [hlast]
    show (p.value * 64 + b.toNat % 64) / 1 + 128 = _
    rw [Nat.div_one]
    omega
  rw [h.utf8EncodeChar_ofNat (admits_of_next hb hn), h.lastBytes_of_next hb hn, hlast]
  rfl

/-- A byte that is not the last narrows the characters down. -/
theorem next (h : Underway read p) (hmore : 1 < p.missing) (hb : p.low ≤ b ∧ b ≤ p.high) :
    Underway (read ++ [b]) ⟨p.missing - 1, p.value * 64 + b.toNat % 64, 0x80, 0xBF⟩ := by
  have hbyte := h.toNat_of_range hb
  have hmissing := h.missing
  -- the new state fixes six more bits: it admits what the old one admits with this byte next
  have hadmits (n : Nat) : Partway.Admits ⟨p.missing - 1, p.value * 64 + b.toNat % 64, 0x80, 0xBF⟩ n ↔
      n / weight (p.missing - 1) + 128 = p.value * 64 + b.toNat := by
    have hweight : weight (p.missing - 1) = weight (p.missing - 1 - 1) * 64 := by
      rw [show p.missing - 1 = p.missing - 1 - 1 + 1 by omega, weight, Nat.mul_comm]
      rfl
    rw [hweight, ← Nat.div_div_eq_div_mul]
    show (p.value * 64 + b.toNat % 64) * 64 + 128 ≤ _ ∧ _ ≤ (p.value * 64 + b.toNat % 64) * 64 + 191 ↔ _
    generalize n / weight (p.missing - 1 - 1) = m
    omega
  have hrange : (0x80 : UInt8).toNat ≤ (0xBF : UInt8).toNat := by decide
  have hleft : p.missing - 1 = 1 ∨ p.missing - 1 = 2 ∨ p.missing - 1 = 3 := by omega
  refine ⟨hleft, Nat.le_refl _, hrange, Nat.le_refl _, fun n hn => ?_, fun c hc => ?_, fun c hc => ?_⟩
  · exact h.valid n (admits_of_next hb ((hadmits n).1 hn))
  · have hn := (hadmits c.toNat).1 hc
    rw [h.encode c (admits_of_next hb hn), h.lastBytes_of_next hb hn, List.append_assoc]
    rfl
  · have hread := h.admits c ((List.prefix_append read [b]).trans hc)
    obtain ⟨b', hlast, -, hn⟩ := h.exists_next hread
    rw [h.encode c hread, List.prefix_append_right_inj, hlast, List.cons_prefix_cons] at hc
    obtain ⟨rfl, -⟩ := hc
    exact (hadmits c.toNat).2 hn

end Underway

/-! ## First bytes -/

/-- The state after a first byte that leaves some missing, if it admits the characters with this first byte. -/
theorem underway_start {p : Partway} {b : UInt8} (hmissing : p.missing = 1 ∨ p.missing = 2 ∨ p.missing = 3)
    (hlow : 0x80 ≤ p.low.toNat) (hle : p.low.toNat ≤ p.high.toNat) (hhigh : p.high.toNat ≤ 0xBF)
    (hlead : leadBits p.missing ≤ b.toNat ∧ b.toNat < leadBits (p.missing + 1))
    (hadmits : ∀ n, p.Admits n ↔ n.isValidChar ∧ leastNumber p.missing ≤ n ∧ n < leastNumber (p.missing + 1) ∧
      b.toNat = n / weight p.missing + leadBits p.missing) : Underway [b] p := by
  refine ⟨hmissing, hlow, hle, hhigh, fun n hn => ((hadmits n).1 hn).1, fun c hc => ?_, fun c hc => ?_⟩
  · obtain ⟨-, hleast, hlimit, hbyte⟩ := (hadmits c.toNat).1 hc
    obtain ⟨k, hk, hleast', hlimit', hencode⟩ := utf8EncodeChar_eq c
    have hsame : k = p.missing := eq_of_between monotone_leastNumber ⟨hleast', hlimit'⟩ ⟨hleast, hlimit⟩
    rw [hencode, hsame, ← hbyte, UInt8.ofNat_toNat]
    rfl
  · obtain ⟨k, -, ⟨hleast, hlimit⟩, hlead', hbyte, -⟩ := head_utf8EncodeChar hc
    obtain rfl : k = p.missing := eq_of_between monotone_leadBits hlead' hlead
    exact (hadmits c.toNat).2 ⟨c.valid, hleast, hlimit, hbyte⟩

theorem utf8EncodeChar_of_lt {b : UInt8} (h : b.toNat < 0x80) : utf8EncodeChar (Char.ofNat b.toNat) = [b] := by
  have hnumber : (Char.ofNat b.toNat).val.toNat = b.toNat := by
    rw [Char.ofNat, dif_pos (Or.inl (by omega))]
    rfl
  simp only [utf8EncodeChar, hnumber]
  rw [if_pos (by omega), UInt8.ofNat_toNat]

/-- A byte below 0x80 is a character, and begins no other. -/
theorem eq_of_utf8EncodeChar_of_lt {c : Char} {b : UInt8} {more : List UInt8} (h : b.toNat < 0x80)
    (hc : utf8EncodeChar c = b :: more) : c = Char.ofNat b.toNat ∧ more = [] := by
  have hbegins : [b] <+: utf8EncodeChar c := hc ▸ List.prefix_append [b] more
  obtain ⟨k, -, -, hlead, hbyte, hencode⟩ := head_utf8EncodeChar hbegins
  have hrange : leadBits 0 ≤ b.toNat ∧ b.toNat < leadBits 1 := ⟨Nat.zero_le _, Nat.lt_trans h (by decide)⟩
  obtain rfl : k = 0 := eq_of_between monotone_leadBits hlead hrange
  rw [hc, List.cons.injEq] at hencode
  rw [weight, Nat.div_one] at hbyte
  exact ⟨by rw [hbyte]; exact (Char.ofNat_toNat c).symm, hencode.2⟩

/-- No character begins with a byte that only goes on with one, or with one above all first bytes. -/
theorem not_beginsChar_of_stray {b : UInt8} (h : 0x80 ≤ b.toNat ∧ b.toNat < 0xC2 ∨ 0xF5 ≤ b.toNat) :
    ¬ BeginsChar [b] := by
  rintro ⟨c, hc⟩
  obtain ⟨k, hk, ⟨hleast, hlimit⟩, -, hbyte, -⟩ := head_utf8EncodeChar hc
  obtain rfl | rfl | rfl | rfl : k = 0 ∨ k = 1 ∨ k = 2 ∨ k = 3 := by omega
  all_goals
    simp only [leastNumber, weight, leadBits] at hleast hlimit hbyte
    omega

/-- What a first byte can give: a character, a replacement for a byte that begins none, or the state in a longer one. -/
inductive Started (b : UInt8) : List Char × Option Partway → Prop
  | char (h : b.toNat < 0x80) : Started b ([Char.ofNat b.toNat], none)
  | stray (h : ¬ BeginsChar [b]) : Started b ([replacement], none)
  | underway {p : Partway} (h : Underway [b] p) : Started b ([], some p)

theorem started_start (b : UInt8) : Started b (start b) := by
  simp only [start, beq_iff_eq]
  refine iteInduction (motive := Started b) .char fun _ => ?_
  refine iteInduction (motive := Started b) (fun _ => .stray (not_beginsChar_of_stray (by omega))) fun _ => ?_
  iterate 7
    refine iteInduction (motive := Started b) (fun _ => ?_) fun _ => ?_
    · refine .underway (underway_start (by simp) (by simp) (by simp) (by simp) ?_ fun n => ?_)
      · simp only [leadBits]
        omega
      · simp only [leadBits, leastNumber, weight, Partway.Admits, Nat.isValidChar, UInt8.reduceToNat, Nat.reduceSub]
        omega
  exact .stray (not_beginsChar_of_stray (by omega))

/-! ## Every list of bytes has a repair -/

theorem BeginsChar.of_prefix {bytes longer : List UInt8} (h : BeginsChar longer) (hle : bytes <+: longer) :
    BeginsChar bytes := by
  obtain ⟨c, hc⟩ := h
  exact ⟨c, hle.trans hc⟩

/-- Bytes that do not start with a character start with a broken part. -/
theorem exists_isBroken {bytes : List UInt8} (hne : bytes ≠ []) (hno : ∀ c : Char, ¬ utf8EncodeChar c <+: bytes) :
    ∃ part rest, bytes = part ++ rest ∧ IsBroken part rest := by
  classical
  have hlength : 0 < bytes.length := List.length_pos_iff.2 hne
  -- the longest beginning of a character; its length is 0 if the first byte begins none
  obtain ⟨m, hm⟩ : ∃ m, Nat.findGreatest (fun n => BeginsChar (bytes.take n)) bytes.length = m := ⟨_, rfl⟩
  have hle : m ≤ bytes.length := hm ▸ Nat.findGreatest_le _
  have hpart : (bytes.take (max m 1)).length = max m 1 := by
    rw [List.length_take]
    omega
  refine ⟨bytes.take (max m 1), bytes.drop (max m 1), (List.take_append_drop _ _).symm, ?_⟩
  constructor
  case noChar => rwa [List.take_append_drop]
  case ne_nil =>
    rw [← List.length_pos_iff]
    omega
  case begins =>
    by_cases hzero : m = 0
    · right
      omega
    · left
      rw [Nat.max_eq_left (by omega)]
      exact Nat.findGreatest_of_ne_zero hm hzero
  case longest =>
    intro longer hlonger hbegins
    rw [List.take_append_drop] at hlonger
    rw [List.prefix_iff_eq_take.1 hlonger] at hbegins
    have hmost : longer.length ≤ Nat.findGreatest (fun n => BeginsChar (bytes.take n)) bytes.length :=
      Nat.le_findGreatest hlonger.length_le hbegins
    omega

theorem exists_repaired (bytes : List UInt8) : ∃ cs, Repaired bytes cs := by
  by_cases hne : bytes = []
  · exact ⟨[], hne ▸ .nil⟩
  by_cases hchar : ∃ c : Char, utf8EncodeChar c <+: bytes
  · obtain ⟨c, rest, rfl⟩ := hchar
    have hpos : 0 < (utf8EncodeChar c).length := List.length_pos_iff.2 String.utf8EncodeChar_ne_nil
    obtain ⟨cs, hcs⟩ := exists_repaired rest
    exact ⟨c :: cs, .char c hcs⟩
  · obtain ⟨part, rest, rfl, hpart⟩ := exists_isBroken hne (not_exists.1 hchar)
    have hpos : 0 < part.length := List.length_pos_iff.2 hpart.ne_nil
    obtain ⟨cs, hcs⟩ := exists_repaired rest
    exact ⟨replacement :: cs, .broken hpart hcs⟩
termination_by bytes.length
decreasing_by
  all_goals
    subst_vars
    rw [List.length_append]
    omega

/-! ## The machine repairs -/

theorem charsFrom_some_of_mem {p : Partway} {b : UInt8} {rest : List UInt8} (hb : p.low ≤ b ∧ b ≤ p.high) :
    charsFrom (some p) (b :: rest) = if p.missing ≤ 1
      then Char.ofNat (p.value * 64 + b.toNat % 64) :: charsFrom none rest
      else charsFrom (some ⟨p.missing - 1, p.value * 64 + b.toNat % 64, 0x80, 0xBF⟩) rest := by
  simp only [charsFrom, advance, if_pos hb]
  split <;> rfl

/-- A byte that a character cannot go on with is read again as a first byte. -/
theorem charsFrom_some_of_not_mem {p : Partway} {b : UInt8} {rest : List UInt8} (hb : ¬ (p.low ≤ b ∧ b ≤ p.high)) :
    charsFrom (some p) (b :: rest) = replacement :: charsFrom none (b :: rest) := by
  simp only [charsFrom, advance, if_neg hb, List.cons_append]

namespace Underway

variable {read more rest : List UInt8} {p : Partway} {b : UInt8} {c : Char}

theorem beginsChar_append (h : Underway read p) (hb : p.low ≤ b ∧ b ≤ p.high) : BeginsChar (read ++ [b]) := by
  by_cases hlast : p.missing = 1
  · exact ⟨_, [], by rw [List.append_nil, h.complete hlast hb]⟩
  · have hmissing := h.missing
    exact (h.next (by omega) hb).beginsChar

theorem charsFrom_char (h : Underway read p) (hc : utf8EncodeChar c = read ++ more) :
    charsFrom (some p) (more ++ rest) = c :: charsFrom none rest := by
  induction more generalizing read p with
  | nil =>
    have hadmits := h.admits c ⟨[], hc.symm⟩
    obtain ⟨b, hlast, -⟩ := h.exists_next hadmits
    rw [h.encode c hadmits, hlast, List.append_cancel_left_eq] at hc
    contradiction
  | cons b more ih =>
    have hmissing := h.missing
    have hadmits := h.admits c ⟨b :: more, hc.symm⟩
    obtain ⟨b', hlast, hb, hn⟩ := h.exists_next hadmits
    obtain ⟨rfl, hmore⟩ : b' = b ∧ lastBytes (p.missing - 1) c.toNat = more := by
      rw [h.encode c hadmits, hlast, List.append_cancel_left_eq, List.cons.injEq] at hc
      exact hc
    rw [List.cons_append, charsFrom_some_of_mem hb]
    split
    · next hle =>
      have hone : p.missing = 1 := by omega
      have hbyte := h.toNat_of_range hb
      rw [hone] at hn hmore
      have hnumber : p.value * 64 + b'.toNat % 64 = c.toNat := by
        rw [Nat.sub_self, weight, Nat.div_one] at hn
        omega
      rw [hnumber, Char.ofNat_toNat, ← hmore]
      rfl
    · next hmore =>
      exact ih (h.next (by omega) hb) (by rw [hc, List.append_assoc]; rfl)

theorem charsFrom_broken (h : Underway read p) (hread : read ≠ []) (hpart : IsBroken (read ++ more) rest) :
    charsFrom (some p) (more ++ rest) = replacement :: charsFrom none rest := by
  have hmissing := h.missing
  induction more generalizing read p with
  | nil =>
    rw [List.append_nil] at hpart
    cases rest with
    | nil => rfl
    | cons b rest =>
      -- the next byte cannot be in range, or the part would not be the longest
      have hb : ¬ (p.low ≤ b ∧ b ≤ p.high) := by
        intro hb
        have hle := hpart.longest (read ++ [b]) (by simp) (h.beginsChar_append hb)
        simp only [List.length_append, List.length_singleton] at hle
        omega
      exact charsFrom_some_of_not_mem hb
  | cons b more ih =>
    have hassoc : read ++ b :: more = read ++ [b] ++ more := by simp
    have hb : p.low ≤ b ∧ b ≤ p.high := by
      by_contra hb
      rcases hpart.begins with hbegins | hone
      · exact h.not_beginsChar hb (hbegins.of_prefix ⟨more, hassoc.symm⟩)
      · rw [List.length_append, List.length_cons] at hone
        exact hread (List.length_eq_zero_iff.1 (by omega))
    have hmore : 1 < p.missing := by
      -- a last byte would complete a character where none is
      by_contra hlast
      have hchar := h.complete (by omega) hb
      refine hpart.noChar (Char.ofNat (p.value * 64 + b.toNat % 64)) ⟨more ++ rest, ?_⟩
      rw [hchar, hassoc, List.append_assoc (read ++ [b])]
    rw [List.cons_append, charsFrom_some_of_mem hb, if_neg (by omega)]
    have hnext := h.next hmore hb
    exact ih hnext (by simp) (hassoc ▸ hpart) hnext.missing

end Underway

theorem charsFrom_none_cons {b : UInt8} {bytes : List UInt8} {chars : List Char} {next : Option Partway}
    (h : start b = (chars, next)) : charsFrom none (b :: bytes) = chars ++ charsFrom next bytes := by
  simp only [charsFrom, advance, h]

theorem charsFrom_utf8EncodeChar (c : Char) (rest : List UInt8) :
    charsFrom none (utf8EncodeChar c ++ rest) = c :: charsFrom none rest := by
  obtain ⟨b, more, hc⟩ := List.exists_cons_of_ne_nil (String.utf8EncodeChar_ne_nil (c := c))
  have hbegins : BeginsChar [b] := ⟨c, hc ▸ List.prefix_append [b] more⟩
  have hstarted := started_start b
  rw [hc, List.cons_append]
  generalize hstart : start b = result at hstarted
  rw [charsFrom_none_cons hstart]
  cases hstarted with
  | char h =>
    obtain ⟨rfl, rfl⟩ := eq_of_utf8EncodeChar_of_lt h hc
    rfl
  | stray h => exact absurd hbegins h
  | underway h => exact h.charsFrom_char hc

theorem charsFrom_of_isBroken {part rest : List UInt8} (hpart : IsBroken part rest) :
    charsFrom none (part ++ rest) = replacement :: charsFrom none rest := by
  obtain ⟨b, more, rfl⟩ := List.exists_cons_of_ne_nil hpart.ne_nil
  have hstarted := started_start b
  rw [List.cons_append]
  generalize hstart : start b = result at hstarted
  rw [charsFrom_none_cons hstart]
  cases hstarted with
  | char h =>
    have hchar : utf8EncodeChar (Char.ofNat b.toNat) <+: b :: more ++ rest := by
      rw [utf8EncodeChar_of_lt h]
      exact List.prefix_append [b] (more ++ rest)
    exact absurd hchar (hpart.noChar _)
  | stray h =>
    obtain rfl : more = [] := by
      rcases hpart.begins with hbegins | hone
      · exact absurd (hbegins.of_prefix (List.prefix_append [b] more)) h
      · exact List.length_eq_zero_iff.1 (Nat.succ.inj hone)
    rfl
  | underway h => exact h.charsFrom_broken (List.cons_ne_nil b []) hpart

theorem repaired_iff {bytes : List UInt8} {cs : List Char} : Repaired bytes cs ↔ cs = charsFrom none bytes := by
  have hunique {cs : List Char} (h : Repaired bytes cs) : cs = charsFrom none bytes := by
    induction h with
    | nil => rfl
    | char c h ih => rw [charsFrom_utf8EncodeChar, ih]
    | broken hpart h ih => rw [charsFrom_of_isBroken hpart, ih]
  refine ⟨hunique, ?_⟩
  rintro rfl
  obtain ⟨cs, hcs⟩ := exists_repaired bytes
  exact hunique hcs ▸ hcs

/-- The text of arbitrary bytes is their repair. -/
theorem repaired_toList_iff {bytes : List UInt8} {s : String} : Repaired bytes s.toList ↔ s = ofBytesLossy bytes := by
  rw [repaired_iff, ofBytesLossy, ← String.toList_inj, String.toList_ofList]

theorem repaired_flatMap (cs : List Char) : Repaired (cs.flatMap utf8EncodeChar) cs := by
  induction cs with
  | nil => exact .nil
  | cons c cs ih => exact .char c ih

/-- The bytes of a text need no repair. -/
theorem ofBytesLossy_utf8 (s : String) : ofBytesLossy (utf8 s) = s := by
  have hbytes : utf8 s = s.toList.flatMap utf8EncodeChar := by
    rw [utf8, String.toUTF8, ← String.utf8Encode_toList, List.utf8Encode, List.data_toByteArray]
  rw [hbytes]
  exact (repaired_toList_iff.1 (repaired_flatMap s.toList)).symm

end Orbit.Text
