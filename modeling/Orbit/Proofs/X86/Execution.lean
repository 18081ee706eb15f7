import Orbit.X86.Machine

/-!
# Execution of instructions in a row

* `Machine.steps` : the state after instructions that all fall through to the next one; `steps_append` cuts it in
  two, `run_ret` ends it with a `ret`;
* `Instr.IsData` : the instructions on vector registers and memory; `exec_frame`, `steps_frame` say what they
  leave alone, `exec_fixed`, `steps_fixed` what every instruction does;
* `Instr.reads`, `Instr.writes` : the lanes whose values an instruction uses, and those it sets. An instruction
  that is executed finds something in every lane it reads (`lane_of_exec`), and lanes that it does not write stay
  (`lane_exec`), so what is found in a lane that was empty was put there on the way (`exists_writes_of_steps`).
-/

namespace Orbit.X86

/-! ## Lanes -/

inductive Lane where
  | low
  | high
deriving DecidableEq, Repr

def VectorFile.lane {α : Type} (v : VectorFile α) (x : Xmm) : Lane → Option α
  | .low => (v.get x).low
  | .high => (v.get x).high

namespace Instr

def IsData : Instr → Prop
  | memory _ _ _ | vector _ _ _ => True
  | _ => False

/-- The lanes whose values an instruction uses. A lane that is merely kept is not among them. -/
def reads : Instr → List (Xmm × Lane)
  | memory .storePair x _ | memory .addPair x _ => [(x, .low), (x, .high)]
  | memory .storeLow x _ => [(x, .low)]
  | vector .copyLow _ source => [(source, .low)]
  | vector _ target source => [(target, .low), (source, .low)]
  | _ => []

def writes : Instr → List (Xmm × Lane)
  | memory .loadPair x _ | memory .addPair x _ | memory .loadLow x _ => [(x, .low), (x, .high)]
  | vector _ target _ => [(target, .low)]
  | _ => []

end Instr

namespace Machine

variable {α : Type}

/-! ## One instruction -/

theorem store?_eq_some {m m' : Machine α} {address : UInt64} {x : α} (h : m.store? address x = some m') :
    ∃ r, m' = { m with registers := r } := by
  rw [store?, Option.map_eq_some_iff] at h
  obtain ⟨r, -, rfl⟩ := h
  exact ⟨r, rfl⟩

variable [Scalar α]

/-- What an instruction between a vector register and memory can do: it sets both lanes of the register, or it
takes the lanes it stores from the register and changes memory. -/
theorem execMemory_cases {m m' : Machine α} {op : MemoryOp} {x : Xmm} {address : UInt64}
    (h : m.execMemory op x address = some m') :
    (∃ lanes, m' = m.setVector x lanes ∧
      (op = .loadPair ∨ op = .loadLow ∨
        op = .addPair ∧ (m.vectors.get x).low.isSome ∧ (m.vectors.get x).high.isSome)) ∨
    (∃ r, m' = { m with registers := r } ∧
      (op = .storeLow ∧ (m.vectors.get x).low.isSome ∨
        op = .storePair ∧ (m.vectors.get x).low.isSome ∧ (m.vectors.get x).high.isSome)) := by
  cases op with
  | loadPair =>
    simp only [execMemory, Option.bind_eq_bind, Option.bind_eq_some_iff, Option.some.injEq] at h
    obtain ⟨low, -, high, -, rfl⟩ := h
    exact Or.inl ⟨_, rfl, Or.inl rfl⟩
  | storePair =>
    simp only [execMemory, Option.bind_eq_bind, Option.bind_eq_some_iff] at h
    obtain ⟨low, hlow, high, hhigh, m1, h1, h2⟩ := h
    obtain ⟨r1, rfl⟩ := store?_eq_some h1
    obtain ⟨r2, rfl⟩ := store?_eq_some h2
    exact Or.inr ⟨r2, rfl, Or.inr ⟨rfl, by rw [hlow]; rfl, by rw [hhigh]; rfl⟩⟩
  | addPair =>
    simp only [execMemory] at h
    split at h
    · simp at h
    · simp only [Option.bind_eq_bind, Option.bind_eq_some_iff, Option.some.injEq] at h
      obtain ⟨low, -, high, -, u, hlow, v, hhigh, rfl⟩ := h
      exact Or.inl ⟨_, rfl, Or.inr (Or.inr ⟨rfl, by rw [hlow]; rfl, by rw [hhigh]; rfl⟩)⟩
  | loadLow =>
    simp only [execMemory, Option.bind_eq_bind, Option.bind_eq_some_iff, Option.some.injEq] at h
    obtain ⟨low, -, rfl⟩ := h
    exact Or.inl ⟨_, rfl, Or.inr (Or.inl rfl)⟩
  | storeLow =>
    simp only [execMemory, Option.bind_eq_bind, Option.bind_eq_some_iff] at h
    obtain ⟨low, hlow, h1⟩ := h
    obtain ⟨r, rfl⟩ := store?_eq_some h1
    exact Or.inr ⟨r, rfl, Or.inl ⟨rfl, by rw [hlow]; rfl⟩⟩

/-- What an instruction on two vector registers can do: it sets the low lane of its target, and it finds what it
computes with. -/
theorem execVector_cases {m m' : Machine α} {op : VectorOp} {target source : Xmm}
    (h : m.execVector op target source = some m') :
    (∃ low, m' = m.setVector target { m.vectors.get target with low := some low }) ∧
      (m.vectors.get source).low.isSome ∧ (op ≠ .copyLow → (m.vectors.get target).low.isSome) := by
  simp only [execVector, Option.bind_eq_bind, Option.bind_eq_some_iff, Option.some.injEq] at h
  obtain ⟨low, hlow, rfl⟩ := h
  refine ⟨⟨low, rfl⟩, ?_⟩
  cases op with
  | copyLow =>
    rw [lowLane?] at hlow
    exact ⟨by rw [hlow]; rfl, fun hne => absurd rfl hne⟩
  | _ =>
    simp only [lowLane?, Option.bind_eq_bind, Option.bind_eq_some_iff] at hlow
    obtain ⟨u, hu, v, hv, -⟩ := hlow
    exact ⟨by rw [hv]; rfl, fun _ => by rw [hu]; rfl⟩

/-- An instruction on vector registers and memory changes nothing but the six vector registers and the complex
registers. -/
theorem exec_frame {m m' : Machine α} {i : Instr} (hi : i.IsData) (h : m.exec i = some m') :
    ∃ v r, m' = { m with vectors := v, registers := r } ∧ v.upper = m.vectors.upper := by
  cases i with
  | memory op x disp =>
    rcases execMemory_cases h with ⟨lanes, rfl, -⟩ | ⟨r, rfl, -⟩
    · exact ⟨_, _, rfl, VectorFile.upper_set _ _ _⟩
    · exact ⟨_, _, rfl, rfl⟩
  | vector op target source =>
    obtain ⟨⟨low, rfl⟩, -⟩ := execVector_cases h
    exact ⟨_, _, rfl, VectorFile.upper_set _ _ _⟩
  | pushRdi | movRdiRcx | popRdi | ret => exact absurd hi id

/-- No instruction moves the complex registers or changes the vector registers from `xmm6` on. -/
theorem exec_fixed {m m' : Machine α} {i : Instr} (h : m.exec i = some m') :
    m'.base = m.base ∧ m'.vectors.upper = m.vectors.upper := by
  cases i with
  | memory op x disp =>
    obtain ⟨v, r, rfl, hv⟩ := exec_frame (i := .memory op x disp) trivial h
    exact ⟨rfl, hv⟩
  | vector op target source =>
    obtain ⟨v, r, rfl, hv⟩ := exec_frame (i := .vector op target source) trivial h
    exact ⟨rfl, hv⟩
  | pushRdi | movRdiRcx =>
    cases h
    exact ⟨rfl, rfl⟩
  | popRdi =>
    rw [exec] at h
    split at h <;> cases h
    exact ⟨rfl, rfl⟩
  | ret => cases h

/-- An instruction that is executed finds something in every lane it reads. -/
theorem lane_of_exec {m m' : Machine α} {i : Instr} (h : m.exec i = some m') {x : Xmm} {l : Lane}
    (hl : (x, l) ∈ i.reads) : (m.vectors.lane x l).isSome := by
  cases i with
  | memory op y disp =>
    rcases execMemory_cases h with ⟨lanes, -, rfl | rfl | ⟨rfl, hlow, hhigh⟩⟩ |
      ⟨r, -, ⟨rfl, hlow⟩ | ⟨rfl, hlow, hhigh⟩⟩
    · simp [Instr.reads] at hl
    · simp [Instr.reads] at hl
    · simp only [Instr.reads, List.mem_cons, Prod.mk.injEq, List.not_mem_nil, or_false] at hl
      rcases hl with ⟨rfl, rfl⟩ | ⟨rfl, rfl⟩
      · exact hlow
      · exact hhigh
    · simp only [Instr.reads, List.mem_cons, Prod.mk.injEq, List.not_mem_nil, or_false] at hl
      obtain ⟨rfl, rfl⟩ := hl
      exact hlow
    · simp only [Instr.reads, List.mem_cons, Prod.mk.injEq, List.not_mem_nil, or_false] at hl
      rcases hl with ⟨rfl, rfl⟩ | ⟨rfl, rfl⟩
      · exact hlow
      · exact hhigh
  | vector op target source =>
    obtain ⟨-, hsource, htarget⟩ := execVector_cases h
    cases op with
    | copyLow =>
      simp only [Instr.reads, List.mem_cons, Prod.mk.injEq, List.not_mem_nil, or_false] at hl
      obtain ⟨rfl, rfl⟩ := hl
      exact hsource
    | _ =>
      simp only [Instr.reads, List.mem_cons, Prod.mk.injEq, List.not_mem_nil, or_false] at hl
      rcases hl with ⟨rfl, rfl⟩ | ⟨rfl, rfl⟩
      · exact htarget (by decide)
      · exact hsource
  | pushRdi | movRdiRcx | popRdi | ret => simp [Instr.reads] at hl

/-- A lane that an instruction does not write stays. -/
theorem lane_exec {m m' : Machine α} {i : Instr} (h : m.exec i = some m') {x : Xmm} {l : Lane}
    (hl : (x, l) ∉ i.writes) : m'.vectors.lane x l = m.vectors.lane x l := by
  cases i with
  | memory op y disp =>
    rcases execMemory_cases h with ⟨lanes, rfl, hop⟩ | ⟨r, rfl, -⟩
    · have hne : x ≠ y := by
        rintro rfl
        apply hl
        rcases hop with rfl | rfl | ⟨rfl, -⟩ <;> cases l <;> simp [Instr.writes]
      cases l <;> simp only [VectorFile.lane, setVector, VectorFile.get_set_ne _ _ hne]
    · rfl
  | vector op target source =>
    obtain ⟨⟨low, rfl⟩, -⟩ := execVector_cases h
    by_cases hx : x = target
    · subst hx
      cases l with
      | low => exact absurd (by simp [Instr.writes]) hl
      | high => simp only [VectorFile.lane, setVector, VectorFile.get_set_self]
    · cases l <;> simp only [VectorFile.lane, setVector, VectorFile.get_set_ne _ _ hx]
  | pushRdi =>
    cases h
    rfl
  | movRdiRcx =>
    cases h
    rfl
  | popRdi =>
    rw [exec] at h
    split at h <;> cases h
    rfl
  | ret => cases h

/-! ## Instructions in a row -/

/-- The state after instructions that all fall through to the next one. -/
def steps : List Instr → Machine α → Option (Machine α)
  | [], m => some m
  | i :: rest, m =>
    match m.exec i with
    | none => none
    | some m => steps rest m

theorem steps_cons_eq_some {m final : Machine α} {i : Instr} {rest : List Instr} :
    m.steps (i :: rest) = some final ↔ ∃ m', m.exec i = some m' ∧ m'.steps rest = some final := by
  rw [steps]
  cases m.exec i <;> simp

theorem steps_append {first second : List Instr} {m final : Machine α} :
    m.steps (first ++ second) = some final ↔ ∃ m', m.steps first = some m' ∧ m'.steps second = some final := by
  induction first generalizing m with
  | nil => simp [steps]
  | cons i rest ih =>
    rw [List.cons_append, steps_cons_eq_some]
    constructor
    · rintro ⟨m1, h1, h2⟩
      obtain ⟨m', hm', hfinal⟩ := ih.1 h2
      exact ⟨m', steps_cons_eq_some.2 ⟨m1, h1, hm'⟩, hfinal⟩
    · rintro ⟨m', hm', hfinal⟩
      obtain ⟨m1, h1, h2⟩ := steps_cons_eq_some.1 hm'
      exact ⟨m1, h1, ih.2 ⟨m', h2, hfinal⟩⟩

/-- A run goes through the instructions before its `ret`, and ends there if everything pushed was popped. -/
theorem run_ret {front : List Instr} {m final : Machine α} (h : m.steps front = some final)
    (hpushed : final.pushed = []) (rest : List Instr) : m.run (front ++ .ret :: rest) = some final := by
  induction front generalizing m with
  | nil =>
    cases h
    rw [List.nil_append, run, hpushed]
    rfl
  | cons i front ih =>
    obtain ⟨m1, h1, h2⟩ := steps_cons_eq_some.1 h
    have hne : i ≠ .ret := by
      rintro rfl
      cases h1
    have hrun : m.run (i :: (front ++ .ret :: rest)) = m1.run (front ++ .ret :: rest) := by
      cases i <;> first | exact absurd rfl hne | simp only [run, h1]
    rw [List.cons_append, hrun, ih h2]

theorem steps_frame {instrs : List Instr} {m final : Machine α} (hdata : ∀ i ∈ instrs, i.IsData)
    (h : m.steps instrs = some final) :
    ∃ v r, final = { m with vectors := v, registers := r } ∧ v.upper = m.vectors.upper := by
  induction instrs generalizing m with
  | nil =>
    cases h
    exact ⟨_, _, rfl, rfl⟩
  | cons i rest ih =>
    obtain ⟨m1, h1, h2⟩ := steps_cons_eq_some.1 h
    obtain ⟨v1, r1, rfl, hv1⟩ := exec_frame (hdata i List.mem_cons_self) h1
    obtain ⟨v, r, rfl, hv⟩ := ih (fun j hj => hdata j (List.mem_cons_of_mem _ hj)) h2
    exact ⟨v, r, rfl, hv.trans hv1⟩

theorem steps_fixed {instrs : List Instr} {m final : Machine α} (h : m.steps instrs = some final) :
    final.base = m.base ∧ final.vectors.upper = m.vectors.upper := by
  induction instrs generalizing m with
  | nil =>
    cases h
    exact ⟨rfl, rfl⟩
  | cons i rest ih =>
    obtain ⟨m1, h1, h2⟩ := steps_cons_eq_some.1 h
    obtain ⟨hbase1, hupper1⟩ := exec_fixed h1
    obtain ⟨hbase, hupper⟩ := ih h2
    exact ⟨hbase.trans hbase1, hupper.trans hupper1⟩

/-- What is found in a lane that was empty at the start was written on the way. -/
theorem exists_writes_of_steps {instrs : List Instr} {m final : Machine α} (h : m.steps instrs = some final)
    {x : Xmm} {l : Lane} (hempty : m.vectors.lane x l = none) (hfound : (final.vectors.lane x l).isSome) :
    ∃ i ∈ instrs, (x, l) ∈ i.writes := by
  induction instrs generalizing m with
  | nil =>
    cases h
    rw [hempty] at hfound
    cases hfound
  | cons i rest ih =>
    obtain ⟨m1, h1, h2⟩ := steps_cons_eq_some.1 h
    by_cases hw : (x, l) ∈ i.writes
    · exact ⟨i, List.mem_cons_self, hw⟩
    · obtain ⟨j, hj, hjw⟩ := ih h2 ((lane_exec h1 hw).trans hempty)
      exact ⟨j, List.mem_cons_of_mem _ hj, hjw⟩

end Machine

end Orbit.X86
