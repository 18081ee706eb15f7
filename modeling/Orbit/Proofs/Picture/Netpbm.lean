import Orbit.Picture.Netpbm
import Orbit.Proofs.Picture.Render
import Orbit.Proofs.Program.Text
import Orbit.Proofs.Text.Fields

/-!
# Picture files can be read back

A reader of picture files that knows nothing of how they are written: two letters, then width, height and highest
level as decimal numbers with white space before each, then a single white space byte, and what follows is the body,
white space and digits in it included.

* `Netpbm.read?` : the reader; `Netpbm.plainRows?` : the lines of numbers that make up a plain body;
* `Netpbm.decimal?_toString` : decimal numbers are read as they are written;
* `Netpbm.field?_append`, `Netpbm.read?_file` : a number of the header in front of anything, and the whole header;
* `Netpbm.plainRows?_flatten` : lines of numbers are read line by line.
-/

namespace Orbit

namespace Netpbm

/-! ## The reader -/

/-- White space: blank, tabulators, line ends and form feed. -/
def isSpace (b : UInt8) : Bool := [0x20, 0x09, 0x0A, 0x0B, 0x0C, 0x0D].contains b

def isDigit (b : UInt8) : Bool := 0x30 ≤ b && b ≤ 0x39

def decimal? (digits : List UInt8) : Option Nat :=
  if !digits.isEmpty && digits.all isDigit then some (digits.foldl (fun n b => 10 * n + (b.toNat - 0x30)) 0) else none

/-- A number after white space, and what follows it. -/
def field? (bytes : List UInt8) : Option (Nat × List UInt8) :=
  let start := bytes.dropWhile isSpace
  (decimal? (start.takeWhile (!isSpace ·))).map fun n => (n, start.dropWhile (!isSpace ·))

structure File where
  magic : List UInt8
  width : Nat
  height : Nat
  maxval : Nat
  body : List UInt8
deriving DecidableEq, Repr

def read? (bytes : List UInt8) : Option File := do
  let (width, rest) ← field? (bytes.dropWhile (!isSpace ·))
  let (height, rest) ← field? rest
  let (maxval, rest) ← field? rest
  match rest with
  | [] => none
  | _ :: body => some ⟨bytes.takeWhile (!isSpace ·), width, height, maxval, body⟩

/-- The numbers in the lines of a plain body, with one blank between two of them. -/
def plainRows? (body : List UInt8) : Option (List (List Nat)) := do
  (← Text.ended? 0x0A body).mapM fun line => (line.splitOn 0x20).mapM decimal?

/-! ## Decimal numbers -/

theorem utf8_of_ascii {cs : List Char} (h : ∀ c ∈ cs, c.toNat < 128) :
    Text.utf8 (String.ofList cs) = cs.map Char.toUInt8 := by
  rw [Text.utf8, String.toUTF8, String.toByteArray_ofList, List.utf8Encode, List.data_toByteArray]
  induction cs with
  | nil => rfl
  | cons c cs ih =>
    have hc : c.utf8Size = 1 := by
      rw [Char.utf8Size_eq_one_iff, UInt32.le_iff_toNat_le]
      exact Nat.le_of_lt_succ (h c List.mem_cons_self)
    have hcs := ih fun d hd => h d (List.mem_cons_of_mem c hd)
    rw [List.flatMap_cons, String.utf8EncodeChar_eq_singleton hc, List.map_cons]
    exact congrArg (c.toUInt8 :: ·) hcs

theorem toNat_of_mem_toDigits {n : Nat} {c : Char} (h : c ∈ Nat.toDigits 10 n) : 0x30 ≤ c.toNat ∧ c.toNat ≤ 0x39 := by
  have hdigit := Nat.isDigit_of_mem_toDigits (by decide) (by decide) h
  rw [Char.isDigit, Bool.and_eq_true, decide_eq_true_eq, decide_eq_true_eq] at hdigit
  exact ⟨UInt32.le_iff_toNat_le.1 hdigit.1, UInt32.le_iff_toNat_le.1 hdigit.2⟩

theorem toNat_toUInt8 {c : Char} (h : c.toNat < 256) : c.toUInt8.toNat = c.toNat := Nat.mod_eq_of_lt h

/-- A number is written with the digits of its decimal expansion. -/
theorem utf8_toString (n : Nat) : Text.utf8 (toString n) = (Nat.toDigits 10 n).map Char.toUInt8 := by
  rw [Nat.toString_eq_ofList_toDigits]
  apply utf8_of_ascii
  intro c hc
  have hdigit := toNat_of_mem_toDigits hc
  omega

theorem isDigit_of_mem_toString {n : Nat} {b : UInt8} (h : b ∈ Text.utf8 (toString n)) : isDigit b = true := by
  rw [utf8_toString] at h
  obtain ⟨c, hc, rfl⟩ := List.mem_map.1 h
  have hdigit := toNat_of_mem_toDigits hc
  have hbyte := toNat_toUInt8 (c := c) (by omega)
  rw [isDigit, Bool.and_eq_true, decide_eq_true_eq, decide_eq_true_eq, UInt8.le_iff_toNat_le, UInt8.le_iff_toNat_le,
    hbyte]
  exact hdigit

theorem isSpace_of_isDigit {b : UInt8} (h : isDigit b = true) : isSpace b = false := by
  rw [isDigit, Bool.and_eq_true, decide_eq_true_eq, decide_eq_true_eq, UInt8.le_iff_toNat_le] at h
  rw [Bool.eq_false_iff]
  intro hspace
  simp only [isSpace, List.contains_eq_mem, List.mem_cons, List.not_mem_nil, or_false, decide_eq_true_eq] at hspace
  -- a digit is above all white space
  rcases hspace with rfl | rfl | rfl | rfl | rfl | rfl <;> exact absurd h.1 (by decide)

theorem utf8_toString_ne_nil (n : Nat) : Text.utf8 (toString n) ≠ [] := by
  rw [utf8_toString]
  exact fun h => Nat.toDigits_ne_nil (List.map_eq_nil_iff.1 h)

/-- **A decimal number is read as it is written.** -/
theorem decimal?_toString (n : Nat) : decimal? (Text.utf8 (toString n)) = some n := by
  have hall : (Text.utf8 (toString n)).all isDigit = true := List.all_eq_true.2 fun b hb => isDigit_of_mem_toString hb
  have hempty : (Text.utf8 (toString n)).isEmpty = false := List.isEmpty_eq_false_iff.2 (utf8_toString_ne_nil n)
  have hvalue : (Text.utf8 (toString n)).foldl (fun n b => 10 * n + (b.toNat - 0x30)) 0 = n := by
    rw [utf8_toString, List.foldl_map, List.foldl_ext _ (fun n c => n * 10 + (c.toNat - 48)),
      Numeral.value_eq_ofDigitChars, Nat.ofDigitChars_ten_toDigits]
    intro k c hc
    have hdigit := toNat_of_mem_toDigits hc
    rw [toNat_toUInt8 (by omega), Nat.mul_comm]
  rw [decimal?, hall, hempty, hvalue]
  rfl

/-! ## The header -/

theorem takeWhile_word {word rest : List UInt8} {stop : UInt8} (hword : ∀ b ∈ word, isSpace b = false)
    (hstop : isSpace stop = true) : (word ++ stop :: rest).takeWhile (!isSpace ·) = word := by
  rw [List.takeWhile_append_of_pos fun b hb => by rw [hword b hb]; rfl, List.takeWhile_cons_of_neg (by simp [hstop]),
    List.append_nil]

theorem dropWhile_word {word rest : List UInt8} {stop : UInt8} (hword : ∀ b ∈ word, isSpace b = false)
    (hstop : isSpace stop = true) : (word ++ stop :: rest).dropWhile (!isSpace ·) = stop :: rest := by
  rw [List.dropWhile_append_of_pos fun b hb => by rw [hword b hb]; rfl, List.dropWhile_cons_of_neg (by simp [hstop])]

/-- A number between two white space bytes is read in front of anything. -/
theorem field?_append {start stop : UInt8} (hstart : isSpace start = true) (hstop : isSpace stop = true) (n : Nat)
    (rest : List UInt8) :
    field? (start :: (Text.utf8 (toString n) ++ stop :: rest)) = some (n, stop :: rest) := by
  have hword : ∀ b ∈ Text.utf8 (toString n), isSpace b = false := fun b hb =>
    isSpace_of_isDigit (isDigit_of_mem_toString hb)
  have hdrop : (start :: (Text.utf8 (toString n) ++ stop :: rest)).dropWhile isSpace =
      Text.utf8 (toString n) ++ stop :: rest := by
    obtain ⟨b, digits, hdigits⟩ := List.exists_cons_of_ne_nil (utf8_toString_ne_nil n)
    have hb : ¬isSpace b = true := Bool.eq_false_iff.1 (hword b (hdigits ▸ List.mem_cons_self))
    rw [hdigits, List.dropWhile_cons_of_pos hstart, List.cons_append, List.dropWhile_cons_of_neg hb]
  simp only [field?, hdrop, takeWhile_word hword hstop, dropWhile_word hword hstop, decimal?_toString, Option.map_some]

theorem utf8_header (p : Picture) (format : Format) :
    Text.utf8 (p.header format) = Text.utf8 format.magic ++ 0x0A :: (Text.utf8 (toString p.width.toNat) ++
      0x20 :: (Text.utf8 (toString p.height.toNat) ++ 0x0A :: (Text.utf8 (toString 255) ++ [0x0A]))) := by
  have hheader : p.header format =
      format.magic ++ "\n" ++ toString p.width.toNat ++ " " ++ toString p.height.toNat ++ "\n255\n" := rfl
  rw [hheader]
  simp only [Text.utf8_append, List.append_assoc]
  rfl

/-- **The header is read back**, and the body is all that follows its last white space byte. -/
theorem read?_file (p : Picture) (format : Format) :
    read? (p.file format) = some ⟨Text.utf8 format.magic, p.width.toNat, p.height.toNat, 255,
      (p.rows.map (p.rowBytes format)).flatten⟩ := by
  -- each number is followed by white space, so the reader never looks into the body for the end of the last one
  have hmagic : ∀ b ∈ Text.utf8 format.magic, isSpace b = false := by cases format <;> decide +kernel
  have hline : isSpace 0x0A = true := rfl
  have hblank : isSpace 0x20 = true := rfl
  have hfile : p.file format = Text.utf8 format.magic ++ 0x0A :: (Text.utf8 (toString p.width.toNat) ++
      0x20 :: (Text.utf8 (toString p.height.toNat) ++ 0x0A :: (Text.utf8 (toString 255) ++
        0x0A :: (p.rows.map (p.rowBytes format)).flatten))) := by
    rw [Picture.file, Picture.parts, List.flatten_cons, utf8_header]
    simp only [List.append_assoc, List.cons_append, List.nil_append]
  simp only [read?, hfile, takeWhile_word hmagic hline, dropWhile_word hmagic hline, field?_append hline hblank,
    field?_append hblank hline, field?_append hline hline, Option.bind_eq_bind, Option.bind_some]

/-! ## Bodies -/

theorem utf8_intercalate (texts : List String) :
    Text.utf8 (" ".intercalate texts) = [0x20].intercalate (texts.map Text.utf8) := by
  induction texts with
  | nil => rfl
  | cons text texts ih =>
    cases texts with
    | nil => rw [String.intercalate_singleton]; simp
    | cons text' texts =>
      rw [String.intercalate_cons_cons, Text.utf8_append, Text.utf8_append, ih]
      simp only [List.map_cons, List.intercalate_cons_cons]
      rfl

/-- The line of numbers with one blank between two of them. -/
def plainLine (numbers : List Nat) : List UInt8 := [0x20].intercalate (numbers.map fun n => Text.utf8 (toString n))

theorem not_mem_toString {b : UInt8} (hb : isSpace b = true) (n : Nat) : b ∉ Text.utf8 (toString n) := by
  intro hmem
  rw [isSpace_of_isDigit (isDigit_of_mem_toString hmem)] at hb
  cases hb

theorem not_mem_intercalate {b separator : UInt8} {words : List (List UInt8)} (hb : b ≠ separator)
    (h : ∀ word ∈ words, b ∉ word) : b ∉ [separator].intercalate words := by
  induction words with
  | nil => exact List.not_mem_nil
  | cons word words ih =>
    have hword := h word List.mem_cons_self
    have hwords := ih fun w hw => h w (List.mem_cons_of_mem word hw)
    cases words with
    | nil => simpa using hword
    | cons word' words =>
      rw [List.intercalate_cons_cons]
      simp only [List.mem_append, List.mem_singleton]
      rintro ((hmem | hmem) | hmem)
      · exact hword hmem
      · exact hb hmem
      · exact hwords hmem

theorem newline_not_mem_plainLine (row : List Nat) : 0x0A ∉ plainLine row := by
  refine not_mem_intercalate (by decide) fun numeral hnumeral => ?_
  obtain ⟨n, -, rfl⟩ := List.mem_map.1 hnumeral
  exact not_mem_toString rfl n

-- a line without numbers would be read as one empty numeral
theorem mapM_decimal?_plainLine {row : List Nat} (h : row ≠ []) :
    ((plainLine row).splitOn 0x20).mapM decimal? = some row := by
  have hsplit : (plainLine row).splitOn 0x20 = row.map fun n => Text.utf8 (toString n) := by
    refine List.splitOn_intercalate 0x20 (fun numeral hnumeral => ?_) (by simpa using h)
    obtain ⟨n, -, rfl⟩ := List.mem_map.1 hnumeral
    exact not_mem_toString rfl n
  rw [hsplit, Text.mapM_eq_some_iff, List.forall₂_map_left_iff, List.forall₂_same]
  exact fun n _ => decimal?_toString n

/-- **A plain body is read line by line.** -/
theorem plainRows?_flatten {rows : List (List Nat)} (h : ∀ row ∈ rows, row ≠ []) :
    plainRows? (rows.map fun row => plainLine row ++ [0x0A]).flatten = some rows := by
  have hlines : Text.ended? 0x0A (rows.map fun row => plainLine row ++ [0x0A]).flatten = some (rows.map plainLine) := by
    have hnewline : ∀ line ∈ rows.map plainLine, 0x0A ∉ line := by
      intro line hline
      obtain ⟨row, -, rfl⟩ := List.mem_map.1 hline
      exact newline_not_mem_plainLine row
    rw [← Text.ended?_flatten hnewline, List.map_map]
    rfl
  rw [plainRows?, hlines, Option.bind_eq_bind, Option.bind_some, Text.mapM_eq_some_iff, List.forall₂_map_left_iff,
    List.forall₂_same]
  exact fun row hrow => mapM_decimal?_plainLine (h row hrow)

end Netpbm

/-! ## The three formats -/

namespace Picture

variable (p : Picture)

theorem body_pgm : (p.rows.map (p.rowBytes .pgm)).flatten = p.shades := by
  have hrows : p.rows.map (p.rowBytes .pgm) = p.rows.map (List.map p.shadeOf) := rfl
  rw [hrows, ← List.map_flatten, flatten_rows, shades]

theorem body_ppm : (p.rows.map (p.rowBytes .ppm)).flatten = p.shades.flatMap fun level => (colour level).bytes := by
  have hrows : p.rows.map (p.rowBytes .ppm) =
      p.rows.map (List.flatMap fun count => (colour (p.shadeOf count)).bytes) := rfl
  rw [hrows, shades, List.flatMap_map, ← flatten_rows, List.flatMap_def, List.map_flatten, List.flatten_flatten,
    List.map_map]
  rfl

theorem read?_pgm :
    Netpbm.read? (p.file .pgm) = some ⟨Text.utf8 "P5", p.width.toNat, p.height.toNat, 255, p.shades⟩ := by
  rw [Netpbm.read?_file, p.body_pgm]
  rfl

theorem read?_ppm :
    Netpbm.read? (p.file .ppm) = some ⟨Text.utf8 "P6", p.width.toNat, p.height.toNat, 255,
      p.shades.flatMap fun level => (colour level).bytes⟩ := by
  rw [Netpbm.read?_file, p.body_ppm]
  rfl

theorem rowBytes_pgmAscii (counts : List UInt32) :
    p.rowBytes .pgmAscii counts = Netpbm.plainLine (counts.map fun count => (p.shadeOf count).toNat) ++ [0x0A] := by
  show Text.utf8 (" ".intercalate (counts.map fun count => toString (p.shadeOf count)) ++ "\n") = _
  rw [Text.utf8_append, Netpbm.utf8_intercalate, List.map_map, Netpbm.plainLine, List.map_map]
  rfl

theorem body_pgmAscii : (p.rows.map (p.rowBytes .pgmAscii)).flatten =
    ((p.rows.map (List.map fun count => (p.shadeOf count).toNat)).map fun row =>
      Netpbm.plainLine row ++ [0x0A]).flatten := by
  rw [List.map_map]
  congr 1
  exact List.map_congr_left fun row _ => p.rowBytes_pgmAscii row

end Picture

/-- **Files are read back as the picture.** Of a picture with an escape time for each pixel, as rendering gives them, a
reader recovers the format, the size and the highest level from all three files. The body of the first is the grey
levels in order. The body of the second is a line for each row and nothing else, with a number for each pixel of the row
and one blank between two of them, and the numbers are the same grey levels. The body of the third is the colours of the
same grey levels, three bytes each. -/
theorem picture_file_reads_back {p : Picture} (h : p.Complete) :
    Netpbm.read? (p.file .pgm) = some ⟨Text.utf8 "P5", p.width.toNat, p.height.toNat, 255, p.shades⟩ ∧
    (∃ body rows,
      Netpbm.read? (p.file .pgmAscii) = some ⟨Text.utf8 "P2", p.width.toNat, p.height.toNat, 255, body⟩ ∧
      body = (rows.map fun row => Netpbm.plainLine row ++ [0x0A]).flatten ∧ Netpbm.plainRows? body = some rows ∧
      rows.length = p.height.toNat ∧ (∀ row ∈ rows, row.length = p.width.toNat) ∧
      rows.flatten = p.shades.map UInt8.toNat) ∧
    Netpbm.read? (p.file .ppm) = some ⟨Text.utf8 "P6", p.width.toNat, p.height.toNat, 255,
      p.shades.flatMap fun level => (colour level).bytes⟩ ∧
    p.shades.length = p.width.toNat * p.height.toNat := by
  have hlength : ∀ row ∈ p.rows.map (List.map fun count => (p.shadeOf count).toNat), row.length = p.width.toNat := by
    intro row hrow
    obtain ⟨counts, hcounts, rfl⟩ := List.mem_map.1 hrow
    rw [List.length_map, h.length_of_mem_rows hcounts]
  have hne : ∀ row ∈ p.rows.map (List.map fun count => (p.shadeOf count).toNat), row ≠ [] := by
    intro row hrow hnil
    have hzero := hlength row hrow
    rw [hnil] at hzero
    exact absurd hzero (Nat.ne_of_lt h.width_pos)
  refine ⟨p.read?_pgm, ⟨_, _, Netpbm.read?_file p .pgmAscii, p.body_pgmAscii, ?_, ?_, hlength, ?_⟩, p.read?_ppm, ?_⟩
  · rw [p.body_pgmAscii]
    exact Netpbm.plainRows?_flatten hne
  · rw [List.length_map, h.length_rows]
  · rw [← List.map_flatten, p.flatten_rows, Picture.shades, List.map_map]
    rfl
  · rw [Picture.shades, List.length_map, Array.length_toList, h.size_counts]

/-- A rendered picture of three by two pixels: among its grey levels, as bytes, are blanks and line ends. -/
theorem picture_file_reads_back_three_by_two :
    let view : Viewport Float := ⟨3, 2, -1, 5, -1, 3⟩
    let p : Picture := ⟨3, 2, 24, #[3, 2, 1, 3, 2, 1]⟩
    render Registers.quadratic view 24 = .ok p ∧ p.Complete ∧
      Netpbm.read? (p.file .pgm) = some ⟨Text.utf8 "P5", 3, 2, 255, [32, 21, 10, 32, 21, 10]⟩ ∧
      (∃ body rows, Netpbm.read? (p.file .pgmAscii) = some ⟨Text.utf8 "P2", 3, 2, 255, body⟩ ∧
        Netpbm.plainRows? body = some rows ∧ rows.length = 2 ∧ rows.flatten = [32, 21, 10, 32, 21, 10]) ∧
      Netpbm.read? (p.file .ppm) = some ⟨Text.utf8 "P6", 3, 2, 255,
        [32, 21, 10, 32, 21, 10].flatMap fun level => (colour level).bytes⟩ := by
  intro view p
  have hrender : render Registers.quadratic view 24 = .ok p := by decide +kernel
  have hcomplete : p.Complete := complete_of_render hrender
  have hshades : p.shades = [32, 21, 10, 32, 21, 10] := by decide
  obtain ⟨hpgm, ⟨body, rows, hplain, -, hrows, hheight, -, hlevels⟩, hppm, -⟩ := picture_file_reads_back hcomplete
  rw [hshades] at hpgm hppm hlevels
  exact ⟨hrender, hcomplete, hpgm, ⟨body, rows, hplain, hrows, hheight, hlevels⟩, hppm⟩

end Orbit
