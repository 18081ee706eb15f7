import Mathlib.Data.List.Basic
import Orbit.Files.Tree

/-!
# Files after one of them was written

When the bytes of a file are replaced, the path by which it was opened leads to the new ones: walks go through folders,
and no folder has changed.

* `FileTree.Replaced t location bytes t'` : `t'` is `t` with these bytes as the file at a location;
* `FileTree.walk_put` : walks end where they ended before;
* `FileTree.read_put` : reading after writing.
-/

namespace Orbit.FileTree

variable {t : FileTree} {location start : Location}

/-- The second tree is the first one with these bytes as the file at a location. -/
structure Replaced (t : FileTree) (location : Location) (bytes : List UInt8) (t' : FileTree) : Prop where
  workingDirectory : t'.workingDirectory = t.workingDirectory
  held : t'.node? location = some (.file bytes)
  kept : ∀ other, other ≠ location → t'.node? other = t.node? other

theorem replaced_put (t : FileTree) (slot : t.Slot) (bytes : List UInt8) :
    t.Replaced slot.location bytes (t.put slot bytes) :=
  ⟨rfl, t.node?_set _ _, fun _ hne => t.node?_set_of_ne _ hne⟩

/-! ## Walks -/

section Put

variable (t) (slot : t.Slot) (bytes : List UInt8)

theorem isFolder_put {folder : Location} (h : t.isFolder folder = true) : (t.put slot bytes).isFolder folder = true :=
  FileTable.isFolder_set_file bytes slot.isPlain h

theorem node?_put_of_isFolder {folder : Location} (h : t.isFolder folder = true) :
    (t.put slot bytes).node? folder = t.node? folder := by
  refine (t.replaced_put slot bytes).kept folder ?_
  rintro rfl
  rw [slot.isPlain] at h
  cases h

theorem settle_put (other : Location) : (t.put slot bytes).settle other = t.settle other := by
  by_cases heq : other = slot.location
  · subst heq
    rw [settle_of_not_isLink slot.isPlace.2]
    unfold settle
    rw [(t.replaced_put slot bytes).held]
  · unfold settle
    rw [(t.replaced_put slot bytes).kept other heq]

theorem follow_put {folder : Location} (h : t.isFolder folder = true) (step : Path.Step) :
    (t.put slot bytes).follow folder step = t.follow folder step := by
  unfold follow admits
  rw [t.node?_put_of_isFolder slot bytes h]
  simp only [settle_put]

/-- Walks end where they ended before. -/
theorem walk_put {steps : List Path.Step} (h : t.walk start steps = .ok location) :
    (t.put slot bytes).walk start steps = .ok location := by
  induction steps generalizing start with
  | nil => exact h
  | cons step steps ih =>
    obtain ⟨hfolder, next, hnext, hwalk⟩ := walk_cons_eq_ok.1 h
    rw [walk_cons_eq_ok, t.follow_put slot bytes hfolder]
    exact ⟨t.isFolder_put slot bytes hfolder, next, hnext, ih hwalk⟩

end Put

theorem walk_concat_eq_ok {steps : List Path.Step} {last : Path.Step} :
    t.walk start (steps ++ [last]) = .ok location ↔
      ∃ folder, t.walk start steps = .ok folder ∧ t.isFolder folder = true ∧ t.follow folder last = .ok location := by
  induction steps generalizing start with
  | nil =>
    rw [List.nil_append, walk_cons_eq_ok]
    simp [walk]
  | cons step steps ih =>
    rw [List.cons_append, walk_cons_eq_ok]
    simp only [ih, walk_cons_eq_ok]
    constructor
    · rintro ⟨hstart, next, hnext, folder, hwalk, hlast⟩
      exact ⟨folder, ⟨hstart, next, hnext, hwalk⟩, hlast⟩
    · rintro ⟨folder, ⟨hstart, next, hnext, hwalk⟩, hlast⟩
      exact ⟨hstart, next, hnext, folder, hwalk, hlast⟩

/-! ## Reading after writing -/

/-- A path with a slash at its end is open for writing only up to a folder. -/
theorem isFolder_of_closed {path : Path} (hclosed : path.closed = true)
    (hwalk : t.walk (t.origin path) (takingSteps path) = .ok location) : t.isFolder location = true := by
  unfold takingSteps at hwalk
  rcases List.eq_nil_or_concat path.steps with hsteps | ⟨steps, last, hsteps⟩
  · simp only [hclosed, hsteps, List.getLast?_nil] at hwalk
    cases hwalk
    exact t.isFolder_origin path
  · rw [List.concat_eq_append] at hsteps
    rw [hclosed, hsteps, List.getLast?_concat, List.dropLast_concat] at hwalk
    cases last with
    | stay | down name =>
      obtain ⟨folder, -, hfolder, hlast⟩ := walk_concat_eq_ok.1 hwalk
      cases hlast
      exact hfolder
    | up =>
      obtain ⟨folder, -, hfolder, hlast⟩ := walk_concat_eq_ok.1 hwalk
      cases hlast
      exact t.coherent.isFolder_tail hfolder

theorem eq_location_of_opened {isPlace : t.IsPlace location} {slot : t.Slot}
    (h : t.opened location isPlace = .ok (.file slot)) : slot.location = location := by
  unfold opened at h
  split at h
  · cases h
  · dsimp only at h
    split at h
    · cases h
    · cases h
    · cases h
    · cases h
      rfl
    · split at h
      · cases h
      · cases h
        rfl

/-- Where the bytes for a path go when they go to a file: to the end of the walk. -/
theorem exists_walk_of_destination {text : String} {slot : t.Slot} (h : t.destination text = .ok (.file slot)) :
    ∃ path, Path.ofText text = .ok path ∧ t.walk (t.origin path) (takingSteps path) = .ok slot.location := by
  unfold destination at h
  split at h
  · cases h
  · next path hpath =>
    split at h
    · cases h
    · next location hwalk =>
      rw [eq_location_of_opened h]
      exact ⟨path, hpath, hwalk⟩

/-- **What was written is read.** The path by which a file was opened leads to the bytes that it has now. -/
theorem read_put {text : String} {slot : t.Slot} (bytes : List UInt8) (h : t.destination text = .ok (.file slot)) :
    (t.put slot bytes).read text = .ok bytes := by
  obtain ⟨path, hpath, hwalk⟩ := exists_walk_of_destination h
  have hopen : path.closed = false := by
    by_contra hclosed
    have hfolder := isFolder_of_closed (Bool.not_eq_false _ ▸ hclosed) hwalk
    rw [slot.isPlain] at hfolder
    cases hfolder
  have hsteps : takingSteps path = path.steps := by simp [takingSteps, hopen]
  rw [hsteps] at hwalk
  have hwalk' : (t.put slot bytes).walk ((t.put slot bytes).origin path) path.steps = .ok slot.location :=
    t.walk_put slot bytes hwalk
  simp [read, hpath, hwalk', hopen, contents, (t.replaced_put slot bytes).held]

end Orbit.FileTree
