import Mathlib.Data.List.DropRight
import Mathlib.Data.List.Forall2
import Orbit.Proofs.Text.Argument
import Orbit.Text.Split

/-!
# Fields of a text

Cutting at separators and taking off blanks, said by how a text is put together.

* `Text.cut?_eq_some_iff` : the first separator is the one with none in front of it;
* `Text.pieces_eq_cons_cons_iff` : all pieces are found by cutting again and again;
* `Text.ended? sep l` : the parts of a list in which each has a separator behind it;
* `Text.Padded core s` : `s` is `core` with blanks around it; `Text.trim_eq_iff` says when `core` is what is left of
  `s`.
-/

namespace Orbit.Text

/-! ## Separators -/

theorem eq_false_of_any {p : Char → Bool} {cs : List Char} (h : cs.any p = false) : ∀ c ∈ cs, p c = false :=
  fun c hc => Bool.eq_false_iff.2 (List.any_eq_false.1 h c hc)

theorem cut?_eq_some_iff {p : Char → Bool} {s left right : String} : cut? p s = some (left, right) ↔
    (∀ c ∈ left.toList, p c = false) ∧ ∃ c, p c = true ∧ s = left ++ String.singleton c ++ right := by
  have hparts (c : Char) : s = left ++ String.singleton c ++ right ↔ s.toList = left.toList ++ c :: right.toList := by
    rw [← String.toList_inj]
    simp
  simp only [hparts, cut?, Option.map_eq_some_iff, Prod.mk.injEq, Prod.exists]
  constructor
  · rintro ⟨l, r, hcut, rfl, rfl⟩
    rw [String.toList_ofList, String.toList_ofList]
    exact cutChars?_eq_some hcut
  · rintro ⟨hleft, c, hc, hs⟩
    refine ⟨left.toList, right.toList, ?_, String.ofList_toList, String.ofList_toList⟩
    rw [hs]
    exact cutChars?_append _ hleft hc

theorem cut?_beq_eq_some_iff {sep : Char} {s left right : String} : cut? (· == sep) s = some (left, right) ↔
    (∀ c ∈ left.toList, c ≠ sep) ∧ s = left ++ String.singleton sep ++ right := by
  simp only [cut?_eq_some_iff, beq_eq_false_iff_ne, beq_iff_eq, exists_eq_left]

theorem cut?_eq_none_iff {p : Char → Bool} {s : String} : cut? p s = none ↔ ∀ c ∈ s.toList, p c = false := by
  rw [cut?, Option.map_eq_none_iff, cutChars?_eq_none_iff]

theorem charPieces_eq (p : Char → Bool) (cs : List Char) : charPieces p cs =
    match cutChars? p cs with
    | none => [cs]
    | some (left, right) => left :: charPieces p right := by
  induction cs with
  | nil => rfl
  | cons c cs ih =>
    by_cases hc : p c = true
    · simp only [charPieces, cutChars?, hc, if_true]
    · simp only [charPieces, cutChars?, hc, ih]
      cases cutChars? p cs <;> rfl

theorem pieces_eq (p : Char → Bool) (s : String) : pieces p s =
    match cut? p s with
    | none => [s]
    | some (left, right) => left :: pieces p right := by
  unfold pieces cut?
  rw [charPieces_eq]
  cases cutChars? p s.toList with
  | none => exact congrArg (· :: []) String.ofList_toList
  | some parts => simp

theorem pieces_eq_cons_nil_iff {p : Char → Bool} {s a : String} :
    pieces p s = [a] ↔ s = a ∧ ∀ c ∈ s.toList, p c = false := by
  rw [pieces_eq, ← cut?_eq_none_iff]
  cases cut? p s with
  | none => simp
  | some parts => simp [pieces, charPieces_ne_nil]

theorem pieces_eq_cons_cons_iff {p : Char → Bool} {s a b : String} {rest : List String} :
    pieces p s = a :: b :: rest ↔ ∃ right, cut? p s = some (a, right) ∧ pieces p right = b :: rest := by
  rw [pieces_eq]
  cases cut? p s with
  | none => simp
  | some parts => simp [Prod.ext_iff]

theorem mapM_eq_some_iff {α β : Type} {f : α → Option β} {l : List α} {l' : List β} :
    l.mapM f = some l' ↔ List.Forall₂ (fun a b => f a = some b) l l' := by
  induction l generalizing l' with
  | nil => simp [eq_comm]
  | cons a l ih =>
    simp only [List.mapM_cons, Option.bind_eq_bind, Option.bind_eq_some_iff, Option.pure_def, Option.some.injEq, ih,
      List.forall₂_cons_left_iff]
    constructor
    · rintro ⟨b, hb, rest, hrest, rfl⟩
      exact ⟨b, rest, hb, hrest, rfl⟩
    · rintro ⟨b, rest, hb, hrest, rfl⟩
      exact ⟨b, hb, rest, hrest, rfl⟩

/-! ## Ends -/

section Ends

variable {α : Type} {sep : α}

/-- The parts of a list in which every part, the last one too, is followed by a separator. -/
def ended? [DecidableEq α] (sep : α) (l : List α) : Option (List (List α)) :=
  let parts := l.splitOn sep
  if parts.getLast? = some [] then some parts.dropLast else none

/-- Parts with separators behind them are parts with separators between them, and nothing behind the last. -/
theorem flatten_ended (parts : List (List α)) :
    (parts.map (· ++ [sep])).flatten = [sep].intercalate (parts ++ [[]]) := by
  induction parts with
  | nil => rfl
  | cons part parts ih =>
    rw [List.map_cons, List.flatten_cons, ih, List.cons_append, List.intercalate_cons_of_ne_nil (by simp)]

theorem ended?_flatten [DecidableEq α] {parts : List (List α)} (h : ∀ part ∈ parts, sep ∉ part) :
    ended? sep (parts.map (· ++ [sep])).flatten = some parts := by
  have hsplit : ((parts.map (· ++ [sep])).flatten).splitOn sep = parts ++ [[]] := by
    rw [flatten_ended]
    refine List.splitOn_intercalate sep (fun part hpart => ?_) (by simp)
    rcases List.mem_append.1 hpart with hpart | hpart
    · exact h part hpart
    · rw [List.mem_singleton.1 hpart]
      exact List.not_mem_nil
  simp only [ended?, hsplit, List.getLast?_concat, List.dropLast_concat, if_true]

end Ends

/-! ## Blanks -/

/-- A text with blanks, any number of them, on both sides of `core`. -/
def Padded (core s : String) : Prop :=
  ∃ left right : String, (∀ c ∈ left.toList, isBlank c = true) ∧ (∀ c ∈ right.toList, isBlank c = true) ∧
    s = left ++ core ++ right

theorem padded_trim (s : String) : Padded (trim s) s := by
  refine ⟨.ofList (s.toList.takeWhile isBlank), .ofList ((s.toList.dropWhile isBlank).rtakeWhile isBlank), ?_, ?_, ?_⟩
  · intro c hc
    rw [String.toList_ofList] at hc
    exact List.mem_takeWhile_imp hc
  · intro c hc
    rw [String.toList_ofList] at hc
    exact List.mem_rtakeWhile_imp hc
  · have htrim : trimChars s.toList = (s.toList.dropWhile isBlank).rdropWhile isBlank := rfl
    rw [trim, htrim, ← String.ofList_append, ← String.ofList_append, List.append_assoc,
      List.rdropWhile_append_rtakeWhile, List.takeWhile_append_dropWhile, String.ofList_toList]

theorem trimChars_append {left core right : List Char} (hleft : ∀ c ∈ left, isBlank c = true)
    (hcore : ∀ c ∈ core, isBlank c = false) (hright : ∀ c ∈ right, isBlank c = true) :
    trimChars (left ++ core ++ right) = core := by
  have hstop (cs : List Char) (hcs : ∀ c ∈ cs, isBlank c = false) : cs.dropWhile isBlank = cs := by
    cases cs with
    | nil => rfl
    | cons c cs => exact List.dropWhile_cons_of_neg (by simp [hcs c])
  cases core with
  | nil => exact trimChars_eq_nil_iff.2 (by simpa [or_imp, forall_and] using ⟨hleft, hright⟩)
  | cons c core =>
    have hfront : (left ++ c :: core ++ right).dropWhile isBlank = c :: core ++ right := by
      rw [List.append_assoc, List.dropWhile_append_of_pos hleft]
      exact List.dropWhile_cons_of_neg (by simp [hcore c])
    have hback : (right.reverse ++ (c :: core).reverse).dropWhile isBlank = (c :: core).reverse := by
      rw [List.dropWhile_append_of_pos fun d hd => hright d (List.mem_reverse.1 hd)]
      exact hstop _ fun d hd => hcore d (List.mem_reverse.1 hd)
    rw [trimChars, hfront, List.reverse_append, hback, List.reverse_reverse]

/-- What is left of a text, where `core` has no blanks. -/
theorem trim_eq_iff {core s : String} (hcore : ∀ c ∈ core.toList, isBlank c = false) :
    trim s = core ↔ Padded core s := by
  refine ⟨fun h => h ▸ padded_trim s, ?_⟩
  rintro ⟨left, right, hleft, hright, rfl⟩
  rw [trim, String.toList_append, String.toList_append, trimChars_append hleft hcore hright, String.ofList_toList]

theorem mem_toList_of_padded {core s : String} (h : Padded core s) {c : Char} (hc : c ∈ s.toList) :
    isBlank c = true ∨ c ∈ core.toList := by
  obtain ⟨left, right, hleft, hright, rfl⟩ := h
  simp only [String.toList_append, List.mem_append] at hc
  rcases hc with (hc | hc) | hc
  · exact Or.inl (hleft c hc)
  · exact Or.inr hc
  · exact Or.inl (hright c hc)

theorem padded_self (s : String) : Padded s s := ⟨"", "", by simp, by simp, by simp⟩

end Orbit.Text
