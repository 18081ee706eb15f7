import Orbit.Proofs.Routine.Simulation
import Orbit.Runner.Session

/-!
# Sessions interpret their programs

A session compiles what is entered, keeps the last routine and calls it again for the same program. None of this can
be seen: the session is compared with an ideal one, which has no routines and interprets every program.

* `Entry`, `Session.take` : what is entered, and the session afterwards;
* `wordOf line`, `restOf line` : a line up to its first blank, and what follows that;
* `Ideal`, `Ideal.take` : the ideal session. It remembers which program ran last, for only another one asks the
  system for memory;
* `Session.Matches` : both sessions have the same registers, and the routine that is kept holds the code of the
  program that ran last. Every entry preserves it (`Matches.take`);
* `session_interprets` : what follows for every session and everything that is entered.
-/

namespace Orbit.Runner

/-- What is entered: a command, or a program together with the answers of the system if it asks for memory. -/
inductive Entry where
  | command (line : String)
  | program (host : Host) (text : String)

def Session.take {α : Type} [Scalar α] [Written α] [DecidableEq α] (s : Session α) : Entry → Session α
  | .command line => (s.command line).2.2
  | .program host text => (s.run host text).2

/-! ## Lines -/

/-- The word of a command: everything in front of the first blank. -/
def wordOf (line : String) : String := String.ofList (line.toList.takeWhile (· ≠ ' '))

/-- The argument of a command: everything behind the first blank. -/
def restOf (line : String) : String := String.ofList ((line.toList.dropWhile (· ≠ ' ')).drop 1)

theorem cutChars?_blank (cs : List Char) : (Text.cutChars? (· == ' ') cs).getD (cs, []) =
    (cs.takeWhile (· ≠ ' '), (cs.dropWhile (· ≠ ' ')).drop 1) := by
  induction cs with
  | nil => rfl
  | cons c cs ih =>
    by_cases hc : c = ' '
    · simp [Text.cutChars?, hc]
    · have hne : decide (c ≠ ' ') = true := decide_eq_true hc
      have hbeq : ¬(c == ' ') = true := by simpa using hc
      rw [Text.cutChars?, if_neg hbeq, List.takeWhile_cons_of_pos (p := (· ≠ ' ')) hne,
        List.dropWhile_cons_of_pos (p := (· ≠ ' ')) hne]
      cases hcut : Text.cutChars? (· == ' ') cs with
      | none =>
        rw [hcut] at ih
        obtain ⟨htake, hdrop⟩ := Prod.mk.inj ih
        rw [← htake, ← hdrop]
        rfl
      | some parts =>
        rw [hcut] at ih
        obtain rfl : parts = _ := ih
        rfl

theorem splitCommand_eq (line : String) : Session.splitCommand line = (wordOf line, restOf line) := by
  have hchars := cutChars?_blank line.toList
  unfold Session.splitCommand Text.cut? wordOf restOf
  cases hcut : Text.cutChars? (· == ' ') line.toList with
  | none =>
    rw [hcut] at hchars
    obtain ⟨htake, hdrop⟩ := Prod.mk.inj hchars
    rw [← htake, ← hdrop, String.ofList_toList]
    rfl
  | some parts =>
    rw [hcut] at hchars
    obtain rfl : parts = _ := hchars
    rfl

/-! ## The ideal session -/

structure Ideal (α : Type) where
  initial : Registers α
  registers : Registers α
  /-- The program that ran last. -/
  recent : Option Program

/-- The value of a register after assignments: that of the last one to it, or zero. -/
def assignedValue {α : Type} [Scalar α] (assignments : List (Register × Complex α)) (name : Register) : Complex α :=
  match assignments.reverse.find? (·.1 = name) with
  | some (_, value) => value
  | none => Complex.zero

namespace Ideal

variable {α : Type}

def start [Scalar α] (assignments : List (Register × Complex α)) : Ideal α :=
  let value := assignedValue assignments
  let initial : Registers α := ⟨value .a, value .b, value .c, value .d⟩
  ⟨initial, initial, none⟩

/-- The ideal session after a command: only `.reset` and a valid `.set` do something. -/
def command [Written α] (r : Ideal α) (line : String) : Ideal α :=
  if wordOf line = ".reset" then { r with registers := r.initial }
  else if wordOf line = ".set" then
    match parseAssignment (restOf line) with
    | .ok (name, value) => { r with registers := r.registers.set name value }
    | .error _ => r
  else r

/-- Why a program cannot run: the system does not give the memory for another program than the last one. -/
def refusal? (r : Ideal α) (host : Host) (p : Program) : Option Fault :=
  if r.recent = some p then none else host.fault? (p.sizeBound .native)

/-- What a program prints, or why it did not run, and the ideal session afterwards. -/
def run [Scalar α] [Written α] (host : Host) (r : Ideal α) (text : String) : Except Fault String × Ideal α :=
  match Program.parse text with
  | .error fault => (.error fault, r)
  | .ok p =>
    match r.refusal? host p with
    | some fault => (.error fault, r)
    | none =>
      let registers := p.run r.registers
      (.ok (registersText registers), { r with registers := registers, recent := some p })

def take [Scalar α] [Written α] (r : Ideal α) : Entry → Ideal α
  | .command line => r.command line
  | .program host text => (r.run host text).2

end Ideal

/-! ## Initial registers -/

theorem get_assign {α : Type} (r : Registers α) (assignments : List (Register × Complex α)) (name : Register) :
    (r.assign assignments).get name =
      match assignments.reverse.find? (·.1 = name) with
      | some (_, value) => value
      | none => r.get name := by
  induction assignments generalizing r with
  | nil => rfl
  | cons first rest ih =>
    obtain ⟨other, value⟩ := first
    have hcons : r.assign ((other, value) :: rest) = (r.set other value).assign rest := rfl
    rw [hcons, ih, List.reverse_cons, List.find?_append]
    cases rest.reverse.find? (·.1 = name) with
    | some last => rfl
    | none =>
      by_cases hname : other = name
      · subst hname
        simp
      · simp [hname, Registers.get_set_ne r value (Ne.symm hname)]

theorem Ideal.get_initial_start {α : Type} [Scalar α] (assignments : List (Register × Complex α)) (name : Register) :
    (start assignments).initial.get name = assignedValue assignments name := by
  cases name <;> rfl

theorem initial_start {α : Type} [Scalar α] (assignments : List (Register × Complex α)) :
    (Session.start assignments).initial = (Ideal.start assignments).initial := by
  apply Registers.ext_get
  intro name
  have hzero : (Registers.cleared : Registers α).get name = Complex.zero := by cases name <;> rfl
  show ((Registers.cleared : Registers α).assign assignments).get name = _
  rw [get_assign, hzero, Ideal.get_initial_start]
  rfl

theorem Ideal.initial_take {α : Type} [Scalar α] [Written α] (r : Ideal α) (e : Entry) :
    (r.take e).initial = r.initial := by
  cases e with
  | command line =>
    rw [take, command]
    split
    · rfl
    · split
      · split <;> rfl
      · rfl
  | program host text =>
    rw [take, run]
    split
    · rfl
    · split <;> rfl

theorem Ideal.initial_foldl_take {α : Type} [Scalar α] [Written α] (r : Ideal α) (entries : List Entry) :
    (entries.foldl take r).initial = r.initial := by
  induction entries generalizing r with
  | nil => rfl
  | cons e rest ih => rw [List.foldl_cons, ih, initial_take]

/-! ## One entry -/

namespace Session

variable {α : Type}

section Command

variable [Written α] (s : Session α) {line : String}

theorem command_reset (h : wordOf line = ".reset") :
    s.command line = (registersText s.initial, .proceed, { s with registers := s.initial }) := by
  simp [command, splitCommand_eq, h]

theorem command_set_error {fault : AssignmentFault} (h : wordOf line = ".set")
    (hassignment : (parseAssignment (restOf line) : Except AssignmentFault (Register × Complex α)) = .error fault) :
    s.command line = (fault.message ++ "\n", .proceed, s) := by
  simp [command, splitCommand_eq, h, hassignment]

theorem command_set_ok {name : Register} {value : Complex α} (h : wordOf line = ".set")
    (hassignment : parseAssignment (restOf line) = .ok (name, value)) :
    s.command line =
      (registersText (s.registers.set name value), .proceed, { s with registers := s.registers.set name value }) := by
  simp [command, splitCommand_eq, h, hassignment]

theorem command_other (hreset : wordOf line ≠ ".reset") (hset : wordOf line ≠ ".set") : (s.command line).2.2 = s := by
  simp only [command, splitCommand_eq, beq_iff_eq, hreset, hset, if_false]
  split
  · rfl
  · split
    · rfl
    · split <;> rfl

end Command

/-- A session and an ideal one agree, and the routine that is kept is a good one. -/
structure Matches (s : Session α) (r : Ideal α) : Prop where
  initial : s.initial = r.initial
  registers : s.registers = r.registers
  recent : s.last.map Routine.program = r.recent
  holds : ∀ u, s.last = some u → u.Holds u.program

theorem matches_start [Scalar α] (assignments : List (Register × Complex α)) :
    (start assignments).Matches (Ideal.start assignments) where
  initial := initial_start assignments
  registers := initial_start assignments
  recent := rfl
  holds := by
    intro u hu
    cases hu

namespace Matches

variable {s : Session α} {r : Ideal α}

theorem command [Written α] (h : s.Matches r) (line : String) : (s.command line).2.2.Matches (r.command line) := by
  rw [Ideal.command]
  by_cases hreset : wordOf line = ".reset"
  · rw [if_pos hreset, command_reset s hreset]
    exact { h with registers := h.initial }
  · rw [if_neg hreset]
    by_cases hset : wordOf line = ".set"
    · rw [if_pos hset]
      cases hassignment : (parseAssignment (restOf line) : Except AssignmentFault (Register × Complex α)) with
      | error fault =>
        rw [command_set_error s hset hassignment]
        exact h
      | ok assignment =>
        obtain ⟨name, value⟩ := assignment
        rw [command_set_ok s hset hassignment, h.registers]
        exact { h with registers := rfl }
    · rw [if_neg hset, command_other s hreset hset]
      exact h

/-- The routine for a program is there unless the ideal session is refused, and it holds the code of the program. -/
theorem routineFor_cases (h : s.Matches r) (host : Host) (p : Program) :
    (∃ fault, r.refusal? host p = some fault ∧ s.routineFor host p = .error fault) ∨
      (r.refusal? host p = none ∧ ∃ u, s.routineFor host p = .ok u ∧ u.Holds p) := by
  -- a routine is compiled exactly if the program is not the one that ran last
  have hcompile (hne : r.recent ≠ some p) (heq : s.routineFor host p = (p.compile host 0).1) :
      (∃ fault, r.refusal? host p = some fault ∧ s.routineFor host p = .error fault) ∨
        (r.refusal? host p = none ∧ ∃ u, s.routineFor host p = .ok u ∧ u.Holds p) := by
    rw [Ideal.refusal?, if_neg hne, heq]
    rcases p.compile_cases host 0 with ⟨fault, hfault, hresult⟩ | ⟨hnone, u, hresult, hu⟩
    · exact Or.inl ⟨fault, hfault, by rw [hresult]⟩
    · exact Or.inr ⟨hnone, u, by rw [hresult], hu⟩
  have hrecent := h.recent
  cases hlast : s.last with
  | none =>
    rw [hlast] at hrecent
    refine hcompile ?_ ?_
    · rw [← hrecent]
      simp
    · simp only [routineFor, hlast]
  | some u =>
    rw [hlast] at hrecent
    by_cases hu : u.program = p
    · right
      refine ⟨?_, u, ?_, ?_⟩
      · rw [Ideal.refusal?, ← hrecent, if_pos]
        exact congrArg some hu
      · simp only [routineFor, hlast, if_pos hu]
      · rw [← hu]
        exact h.holds u hlast
    · refine hcompile ?_ ?_
      · rw [← hrecent]
        simpa using hu
      · simp only [routineFor, hlast, if_neg hu]

variable [Scalar α] [Written α] [DecidableEq α] [CommutativeScalar α]

/-- A program prints the same in both sessions, and they agree afterwards. -/
theorem run (h : s.Matches r) (host : Host) (text : String) :
    (s.run host text).1 = (r.run host text).1 ∧ (s.run host text).2.Matches (r.run host text).2 := by
  cases hparse : Program.parse text with
  | error fault =>
    simp only [Session.run, Ideal.run, hparse]
    exact ⟨trivial, h⟩
  | ok p =>
    rcases h.routineFor_cases host p with ⟨fault, hrefusal, hroutine⟩ | ⟨hrefusal, u, hroutine, hu⟩
    · simp only [Session.run, Ideal.run, hparse, hrefusal, hroutine]
      exact ⟨trivial, h⟩
    · -- the routine may be an old one, but it holds the code of this program
      have hcall : u.call s.registers = p.run r.registers := by rw [hu.call_eq, p.native_eq_run, h.registers]
      simp only [Session.run, Ideal.run, hparse, hrefusal, hroutine, hcall]
      refine ⟨?_, { h with registers := rfl, recent := ?_, holds := ?_ }⟩
      · rw [if_pos (by rw [h.registers])]
        simp
      · exact congrArg some hu.program
      · intro v hv
        cases hv
        rw [hu.program]
        exact hu

theorem take (h : s.Matches r) (e : Entry) : (s.take e).Matches (r.take e) := by
  cases e with
  | command line => exact h.command line
  | program host text => exact (h.run host text).2

/-- The sessions agree after everything that is entered. -/
theorem foldl_take (h : s.Matches r) (entries : List Entry) :
    (entries.foldl Session.take s).Matches (entries.foldl Ideal.take r) := by
  induction entries generalizing s r with
  | nil => exact h
  | cons e rest ih => exact ih (h.take e)

end Matches

/-! ## Errors -/

def commandWords : List String := [".quit", ".exit", ".help", ".regs", ".reset", ".set"]

/-- The sentence for a command that cannot be followed: its word is unknown, or it gives no assignment. -/
def complaint? (α : Type) [Written α] (line : String) : Option String :=
  if wordOf line ∉ commandWords then some s!"unknown command '{wordOf line}', try .help\n"
  else if wordOf line = ".set" then
    match (parseAssignment (restOf line) : Except AssignmentFault (Register × Complex α)) with
    | .error fault => some (fault.message ++ "\n")
    | .ok _ => none
  else none

/-- A command that cannot be followed says so and changes nothing. -/
theorem command_of_complaint? [Written α] (s : Session α) {line sentence : String}
    (h : complaint? α line = some sentence) : s.command line = (sentence, .proceed, s) := by
  rw [complaint?] at h
  by_cases hword : wordOf line ∈ commandWords
  · by_cases hset : wordOf line = ".set"
    · cases hassignment : (parseAssignment (restOf line) : Except AssignmentFault (Register × Complex α)) with
      | error fault =>
        rw [if_neg (not_not_intro hword), if_pos hset, hassignment] at h
        rw [command_set_error s hset hassignment, Option.some.inj h]
      | ok assignment =>
        rw [if_neg (not_not_intro hword), if_pos hset, hassignment] at h
        cases h
    · rw [if_neg (not_not_intro hword), if_neg hset] at h
      cases h
  · rw [if_pos hword] at h
    simp only [commandWords, List.mem_cons, List.not_mem_nil, or_false, not_or] at hword
    simp [command, splitCommand_eq, hword, ← Option.some.inj h]

/-- Any other command prints nothing, the help or the registers. -/
theorem command_of_no_complaint [Written α] (s : Session α) {line : String} (h : complaint? α line = none) :
    (s.command line).1 ∈ ["", helpText, registersText (s.command line).2.2.registers] := by
  rw [complaint?] at h
  by_cases hword : wordOf line ∈ commandWords
  · by_cases hset : wordOf line = ".set"
    · cases hassignment : (parseAssignment (restOf line) : Except AssignmentFault (Register × Complex α)) with
      | error fault =>
        rw [if_neg (not_not_intro hword), if_pos hset, hassignment] at h
        cases h
      | ok assignment => simp [command_set_ok s hset hassignment]
    · simp only [commandWords, List.mem_cons, List.not_mem_nil, or_false, hset] at hword
      rcases hword with hword | hword | hword | hword | hword <;> simp [command, splitCommand_eq, hword]
  · rw [if_pos hword] at h
    cases h

/-- A program that reports an error changes nothing. -/
theorem run_of_error [Scalar α] [Written α] [DecidableEq α] (s : Session α) {host : Host} {text : String}
    {fault : Fault} (h : (s.run host text).1 = .error fault) : (s.run host text).2 = s := by
  revert h
  rw [run]
  split
  · exact fun _ => rfl
  · split
    · exact fun _ => rfl
    · intro h
      cases h

end Session

/-- **Sessions interpret their programs.** After any entries, whatever the system answers to requests for memory, a
session has the registers of the ideal one, its initial registers are those of the start, and the routine that is kept
is for the program that ran last. Whatever is entered next, an entry that reports an error changes nothing, and a
program prints what it prints in the ideal session, in particular no warning. -/
theorem session_interprets {α : Type} [Scalar α] [Written α] [DecidableEq α] [CommutativeScalar α]
    (assignments : List (Register × Complex α)) (entries : List Entry) :
    let s := entries.foldl Session.take (Session.start assignments)
    let r := entries.foldl Ideal.take (Ideal.start assignments)
    s.registers = r.registers ∧ (∀ name, s.initial.get name = assignedValue assignments name) ∧
      s.last.map Routine.program = r.recent ∧
      (∀ line, match Session.complaint? α line with
        | some sentence => s.command line = (sentence, .proceed, s)
        | none => (s.command line).1 ∈ ["", Session.helpText, registersText (s.take (.command line)).registers]) ∧
      (∀ host text fault, (s.run host text).1 = .error fault → s.take (.program host text) = s) ∧
      ∀ host text, (s.run host text).1 = (r.run host text).1 := by
  intro s r
  have hmatches : s.Matches r := (Session.matches_start assignments).foldl_take entries
  refine ⟨hmatches.registers, ?_, hmatches.recent, ?_, ?_, ?_⟩
  · intro name
    rw [hmatches.initial, Ideal.initial_foldl_take, Ideal.get_initial_start]
  · intro line
    cases hline : Session.complaint? α line with
    | some sentence => exact s.command_of_complaint? hline
    | none => exact s.command_of_no_complaint hline
  · intro host text fault hfault
    exact s.run_of_error hfault
  · intro host text
    exact (hmatches.run host text).1

/-- A session over binary64 numbers on a system that has memory once: the square runs twice, the second time with the
routine that was kept, an assignment is stored, and another program does not run. What is no command and what is no
assignment is reported and changes nothing, and `.reset` restores what the session started with. -/
theorem session_interprets_square :
    let full : Host := { map := fun _ => some "full", protect := fun _ => none }
    let entries : List Entry :=
      [.program .standard "*bb", .command ".rest", .program full "*bb", .command ".set a=1,-2", .program full "*ab"]
    let s : Session Float := entries.foldl Session.take (Session.start [(.b, ⟨2, 0⟩)])
    s.registers = ⟨⟨1, -2⟩, ⟨16, 0⟩, ⟨0, 0⟩, ⟨0, 0⟩⟩ ∧ s.last.map Routine.program = some [⟨.multiply, .b, .b⟩] ∧
      (s.run full "*ab").1 = .error (.noMemory (.unmapped "full")) ∧
      s.command ".rest" = ("unknown command '.rest', try .help\n", .proceed, s) ∧
      s.command ".set q=1,1" = ("unknown register 'q'\n", .proceed, s) ∧
      (s.take (.command ".reset now")).registers = ⟨⟨0, 0⟩, ⟨2, 0⟩, ⟨0, 0⟩, ⟨0, 0⟩⟩ := by
  have h (entries : List Entry) := session_interprets [(.b, ⟨(2 : Float), 0⟩)] entries
  refine ⟨(h _).1.trans ?_, (h _).2.2.1.trans rfl, ((h _).2.2.2.2.2 _ "*ab").trans rfl, (h _).2.2.2.1 ".rest",
    (h _).2.2.2.1 ".set q=1,1", ?_⟩
  · decide +kernel
  · -- one entry more
    show ([Entry.command ".reset now"].foldl Session.take _).registers = _
    rw [← List.foldl_append]
    refine (h _).1.trans ?_
    decide +kernel

end Orbit.Runner
