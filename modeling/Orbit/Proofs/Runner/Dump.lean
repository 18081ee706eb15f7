import Orbit.Proofs.Routine.Listing
import Orbit.Proofs.Text.Fields
import Orbit.Runner.Report

/-!
# Reading a dump

The listing that the runner prints carries the machine code: split into lines, and each line into words, it gives back
the places, the labels and the bytes.

* `Text.words`, `Text.lines?` : words between blanks, lines with an end each;
* `Text.hexNumber?`, `Text.hexByte?` : numbers with any number of hexadecimal digits, and with two;
* `readListing?` : the parts of a routine from the text of its listing;
* `listingText_reads_back` : what is read from the printed text is the code of the program.
-/

namespace Orbit

namespace Text

/-! ## Words and lines -/

def words (s : String) : List String := (pieces isBlank s).filter (· ≠ "")

/-- The lines of a text in which the last line has an end, too. -/
def lines? (s : String) : Option (List String) := (ended? '\n' s.toList).map (List.map String.ofList)

theorem pieces_append {p : Char → Bool} {left : String} {c : Char} (hleft : ∀ d ∈ left.toList, p d = false)
    (hc : p c = true) (right : String) : pieces p (left ++ String.singleton c ++ right) = left :: pieces p right := by
  rw [pieces_eq, cut?_eq_some_iff.2 ⟨hleft, c, hc, rfl⟩]

theorem toList_join_lines (ls : List String) :
    (String.join (ls.map (· ++ "\n"))).toList = ((ls.map String.toList).map (· ++ ['\n'])).flatten := by
  induction ls with
  | nil => rfl
  | cons l ls ih =>
    rw [List.map_cons, String.join_cons, String.toList_append, ih, String.toList_append]
    rfl

theorem lines?_join {ls : List String} (h : ∀ l ∈ ls, ∀ c ∈ l.toList, (c == '\n') = false) :
    lines? (String.join (ls.map (· ++ "\n"))) = some ls := by
  have hends : ∀ part ∈ ls.map String.toList, '\n' ∉ part := by
    intro part hpart hmem
    obtain ⟨l, hl, rfl⟩ := List.mem_map.1 hpart
    exact absurd (h l hl '\n' hmem) (by decide)
  rw [lines?, toList_join_lines, ended?_flatten hends, Option.map_some, List.map_map]
  simp

structure IsWord (w : String) : Prop where
  ne_empty : w ≠ ""
  chars : ∀ c ∈ w.toList, isBlank c = false

theorem words_of_isWord {w : String} (hw : IsWord w) : words w = [w] := by
  rw [words, pieces_eq_cons_nil_iff.2 ⟨rfl, hw.chars⟩]
  simp [hw.ne_empty]

theorem words_blanks {blanks : List Char} (h : ∀ c ∈ blanks, isBlank c = true) (s : String) :
    words (String.ofList blanks ++ s) = words s := by
  induction blanks with
  | nil => simp
  | cons c blanks ih =>
    have hparts : String.ofList (c :: blanks) ++ s = "" ++ String.singleton c ++ (String.ofList blanks ++ s) := by
      rw [← String.toList_inj]
      simp
    rw [← ih fun d hd => h d (List.mem_cons_of_mem c hd), hparts, words,
      pieces_append (by simp) (h c List.mem_cons_self)]
    simp [words]

theorem words_word {w : String} (hw : IsWord w) {blanks : List Char} (hne : blanks ≠ [])
    (h : ∀ c ∈ blanks, isBlank c = true) (s : String) : words (w ++ String.ofList blanks ++ s) = w :: words s := by
  cases blanks with
  | nil => exact absurd rfl hne
  | cons c blanks =>
    have hparts : w ++ String.ofList (c :: blanks) ++ s = w ++ String.singleton c ++ (String.ofList blanks ++ s) := by
      rw [← String.toList_inj]
      simp
    rw [hparts, words, pieces_append hw.chars (h c List.mem_cons_self), List.filter_cons_of_pos (by simp [hw.ne_empty])]
    exact congrArg (w :: ·) (words_blanks (fun d hd => h d (List.mem_cons_of_mem c hd)) s)

theorem isBlank_spaces (k : ℕ) : ∀ c ∈ List.replicate k ' ', isBlank c = true := by
  intro c hc
  rw [List.eq_of_mem_replicate hc]
  rfl

theorem words_intercalate {ws : List String} (h : ∀ w ∈ ws, IsWord w) : words (" ".intercalate ws) = ws := by
  induction ws with
  | nil => rfl
  | cons w ws ih =>
    have hw := h w List.mem_cons_self
    have hrest := ih fun w' hw' => h w' (List.mem_cons_of_mem w hw')
    cases ws with
    | nil => exact words_of_isWord hw
    | cons w' ws =>
      have hfirst := words_word hw (List.cons_ne_nil _ _) (isBlank_spaces 1) (" ".intercalate (w' :: ws))
      rw [hrest] at hfirst
      rw [String.intercalate_cons_cons]
      exact hfirst

/-- A text in which the only blanks are spaces. -/
def InLine (s : String) : Prop := ∀ c ∈ s.toList, c = ' ' ∨ isBlank c = false

theorem IsWord.inLine {w : String} (hw : IsWord w) : InLine w := fun c hc => Or.inr (hw.chars c hc)

theorem InLine.append {s t : String} (hs : InLine s) (ht : InLine t) : InLine (s ++ t) := by
  intro c hc
  rw [String.toList_append] at hc
  exact (List.mem_append.1 hc).elim (hs c) (ht c)

theorem inLine_spaces (k : Nat) : InLine (String.ofList (List.replicate k ' ')) := by
  intro c hc
  rw [String.toList_ofList] at hc
  exact Or.inl (List.eq_of_mem_replicate hc)

theorem inLine_intercalate {ws : List String} (h : ∀ w ∈ ws, IsWord w) : InLine (" ".intercalate ws) := by
  induction ws with
  | nil => exact inLine_spaces 0
  | cons w ws ih =>
    have hw := (h w List.mem_cons_self).inLine
    cases ws with
    | nil => exact hw
    | cons w' ws =>
      rw [String.intercalate_cons_cons]
      exact (hw.append (inLine_spaces 1)).append (ih fun w' hw' => h w' (List.mem_cons_of_mem w hw'))

theorem InLine.ne_newline {s : String} (h : InLine s) : ∀ c ∈ s.toList, (c == '\n') = false := by
  intro c hc
  rw [beq_eq_false_iff_ne]
  rintro rfl
  rcases h _ hc with hspace | hblank
  · cases hspace
  · cases hblank

/-! ## Hexadecimal numbers -/

/-- The number that digits give behind those of `n`. -/
def hexFrom? (n : Nat) : List Char → Option Nat
  | [] => some n
  | c :: cs => (hexDigit? c).bind fun d => hexFrom? (16 * n + d) cs

def hexNumber? (s : String) : Option Nat := if s = "" then none else hexFrom? 0 s.toList

def hexByte? (s : String) : Option UInt8 := if s.length = 2 then (hexNumber? s).map UInt8.ofNat else none

theorem hexDigit?_digitChar : ∀ d < 16, hexDigit? d.digitChar = some d ∧ isBlank d.digitChar = false := by decide

theorem hexFrom?_append (n : Nat) (cs ds : List Char) :
    hexFrom? n (cs ++ ds) = (hexFrom? n cs).bind fun m => hexFrom? m ds := by
  induction cs generalizing n with
  | nil => rfl
  | cons c cs ih =>
    simp only [List.cons_append, hexFrom?, Option.bind_assoc, ih]

theorem hexFrom?_zeros (k : Nat) : hexFrom? 0 (List.replicate k '0') = some 0 := by
  induction k with
  | zero => rfl
  | succ k ih => exact ih

theorem hexFrom?_toDigits (n : Nat) : hexFrom? 0 (Nat.toDigits 16 n) = some n := by
  induction n using Nat.strong_induction_on with
  | _ n ih =>
    rw [Nat.toDigits_eq_if (by decide)]
    split_ifs with hn
    · rw [hexFrom?, (hexDigit?_digitChar n hn).1]
      simp [hexFrom?]
    · rw [hexFrom?_append, ih (n / 16) (by omega)]
      simp only [Option.bind_some, hexFrom?, (hexDigit?_digitChar (n % 16) (by omega)).1, Option.some.injEq]
      omega

theorem isBlank_of_mem_toDigits {n : Nat} {c : Char} (h : c ∈ Nat.toDigits 16 n) : isBlank c = false := by
  induction n using Nat.strong_induction_on with
  | _ n ih =>
    rw [Nat.toDigits_eq_if (by decide)] at h
    split_ifs at h with hn
    · rw [List.mem_singleton.1 h]
      exact (hexDigit?_digitChar n hn).2
    · rcases List.mem_append.1 h with h | h
      · exact ih (n / 16) (by omega) h
      · rw [List.mem_singleton.1 h]
        exact (hexDigit?_digitChar (n % 16) (by omega)).2

theorem isWord_hex (width n : Nat) : IsWord (hex width n) := by
  constructor
  · simp [hex, String.ofList_eq_empty_iff, Nat.toDigits_ne_nil]
  · intro c hc
    rw [hex, String.toList_ofList, List.mem_append] at hc
    rcases hc with hc | hc
    · rw [List.eq_of_mem_replicate hc]
      decide
    · exact isBlank_of_mem_toDigits hc

theorem hexNumber?_hex (width n : Nat) : hexNumber? (hex width n) = some n := by
  rw [hexNumber?, if_neg (isWord_hex width n).ne_empty, hex, String.toList_ofList, hexFrom?_append, hexFrom?_zeros]
  exact hexFrom?_toDigits n

theorem hexByte?_hexByte (b : UInt8) : hexByte? (hexByte b) = some b := by
  have hlength : (hexByte b).length = 2 := by
    have hdigits : (Nat.toDigits 16 b.toNat).length ≤ 2 :=
      (Nat.length_toDigits_le_iff (by decide) (by decide)).2 b.toNat_lt
    simp [hexByte, hex, hdigits]
  rw [hexByte?, if_pos hlength, hexByte, hexNumber?_hex]
  exact congrArg some UInt8.ofNat_toNat

end Text

namespace Runner

/-! ## Listings -/

/-- A part of a routine from a line with its place, its label and its bytes. -/
def readLine? (s : String) : Option ListingLine :=
  match Text.words s with
  | offset :: label :: bytes => do
    let offset ← Text.hexNumber? offset
    let bytes ← bytes.mapM Text.hexByte?
    some ⟨label, offset, bytes⟩
  | _ => none

/-- The parts of a routine from the lines after the first one. -/
def readListing? (s : String) : Option (List ListingLine) :=
  match Text.lines? s with
  | some (_ :: lines) => lines.mapM readLine?
  | _ => none

def listingBody (l : ListingLine) : String :=
  "  " ++ Text.hex 4 l.offset ++ "  " ++ padRight 6 l.label ++ " " ++ Text.hexBytes " " l.bytes

theorem isWord_hexByte {bytes : List UInt8} : ∀ w ∈ bytes.map Text.hexByte, Text.IsWord w := by
  intro w hw
  obtain ⟨b, -, rfl⟩ := List.mem_map.1 hw
  exact Text.isWord_hex 2 b.toNat

section Line
variable {l : ListingLine} (hlabel : Text.IsWord l.label)
include hlabel

theorem inLine_listingBody : Text.InLine (listingBody l) := by
  have hlabel' : Text.InLine (padRight 6 l.label) := hlabel.inLine.append (Text.inLine_spaces _)
  have hoffset := (Text.isWord_hex 4 l.offset).inLine
  have hbytes : Text.InLine (Text.hexBytes " " l.bytes) := Text.inLine_intercalate isWord_hexByte
  exact (((((Text.inLine_spaces 2).append hoffset).append (Text.inLine_spaces 2)).append hlabel').append
    (Text.inLine_spaces 1)).append hbytes

theorem words_listingBody :
    Text.words (listingBody l) = Text.hex 4 l.offset :: l.label :: l.bytes.map Text.hexByte := by
  have hgap : ∀ c ∈ [' ', ' '], Text.isBlank c = true := Text.isBlank_spaces 2
  have hpadding : ∀ c ∈ List.replicate (6 - l.label.length) ' ' ++ [' '], Text.isBlank c = true :=
    List.forall_mem_append.2 ⟨Text.isBlank_spaces _, Text.isBlank_spaces 1⟩
  have hparts : listingBody l = String.ofList [' ', ' '] ++ (Text.hex 4 l.offset ++ String.ofList [' ', ' '] ++
      (l.label ++ String.ofList (List.replicate (6 - l.label.length) ' ' ++ [' ']) ++ Text.hexBytes " " l.bytes)) := by
    rw [← String.toList_inj]
    simp [listingBody, padRight]
  rw [hparts, Text.words_blanks hgap, Text.words_word (Text.isWord_hex 4 l.offset) (List.cons_ne_nil _ _) hgap,
    Text.words_word hlabel (by simp) hpadding, Text.hexBytes, Text.words_intercalate isWord_hexByte]

theorem readLine?_listingBody : readLine? (listingBody l) = some l := by
  have hbytes : (l.bytes.map Text.hexByte).mapM Text.hexByte? = some l.bytes := by
    rw [Text.mapM_eq_some_iff, List.forall₂_map_left_iff, List.forall₂_same]
    exact fun b _ => Text.hexByte?_hexByte b
  unfold readLine?
  rw [words_listingBody hlabel]
  simp only [Text.hexNumber?_hex, hbytes]
  rfl

end Line

/-- **The printed lines are read back.** -/
theorem readListing?_listing {lines : List ListingLine} (hlabels : ∀ l ∈ lines, Text.IsWord l.label) :
    readListing? (s!"machine code ({Convention.native.name}):\n" ++ String.join (lines.map listingLine)) =
      some lines := by
  have hheader : ∀ c ∈ "machine code (SystemV):".toList, (c == '\n') = false :=
    Text.eq_false_of_any (by decide)
  have hparts : s!"machine code ({Convention.native.name}):\n" ++ String.join (lines.map listingLine) =
      String.join (("machine code (SystemV):" :: lines.map listingBody).map (· ++ "\n")) := by
    rw [List.map_cons, List.map_map, String.join_cons]
    rfl
  have hends : ∀ s ∈ "machine code (SystemV):" :: lines.map listingBody, ∀ c ∈ s.toList, (c == '\n') = false := by
    refine List.forall_mem_cons.2 ⟨hheader, ?_⟩
    intro s hs
    obtain ⟨l, hl, rfl⟩ := List.mem_map.1 hs
    exact (inLine_listingBody (hlabels l hl)).ne_newline
  rw [hparts, readListing?, Text.lines?_join hends]
  dsimp only
  rw [Text.mapM_eq_some_iff, List.forall₂_map_left_iff, List.forall₂_same]
  exact fun l hl => readLine?_listingBody (hlabels l hl)

theorem isWord_text (i : Instruction) : Text.IsWord i.text := by
  obtain ⟨op, source, target⟩ := i
  constructor
  · simp [Instruction.text]
  · rw [Instruction.text, String.toList_ofList]
    apply Text.eq_false_of_any
    cases op <;> cases source <;> cases target <;> decide

/-- **A dump carries the machine code.** The bytes of all lines are those of the assembled program, every place is the
number of bytes on the lines before it, and the labels are the instructions and the exit. -/
theorem listingText_reads_back (p : Program) :
    ∃ text lines code, listingText p = .ok text ∧ readListing? text = some lines ∧
    p.assemble .native = .ok code ∧ lines.flatMap ListingLine.bytes = code ∧
    (∀ k line, lines[k]? = some line → line.offset = ((lines.take k).flatMap ListingLine.bytes).length) ∧
    lines.map ListingLine.label = p.map Instruction.text ++ ["exit"] := by
  have hlabels : (Program.linesFrom 0 (p.codedPieces .native)).map ListingLine.label =
      p.map Instruction.text ++ ["exit"] := by
    rw [Program.labels_linesFrom, Program.codedPieces_eq]
    simp [Convention.native]
  have hwords : ∀ l ∈ Program.linesFrom 0 (p.codedPieces .native), Text.IsWord l.label := by
    intro l hl
    have hmem : l.label ∈ p.map Instruction.text ++ ["exit"] := hlabels ▸ List.mem_map_of_mem hl
    rcases List.mem_append.1 hmem with hmem | hmem
    · obtain ⟨i, -, hi⟩ := List.mem_map.1 hmem
      exact hi ▸ isWord_text i
    · rw [List.mem_singleton.1 hmem]
      exact ⟨by decide, Text.eq_false_of_any (by decide)⟩
  refine ⟨_, Program.linesFrom 0 (p.codedPieces .native), p.code .native, ?_, readListing?_listing hwords,
    p.assemble_eq .native, ?_, ?_, hlabels⟩
  · rw [listingText, p.listing_eq]
  · rw [Program.bytes_linesFrom, Program.encodeAll_codedPieces]
  · intro k line hline
    rw [Program.offset_linesFrom hline, Nat.zero_add]

end Runner

end Orbit
