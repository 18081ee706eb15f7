import Mathlib.Data.List.Induction
import Orbit.Proofs.Text.Argument
import Orbit.Runner.Options

/-!
# The argument lists of the runner

An argument list is accepted if it is a sequence of groups, in any order and with at most one program, and then each
group has its say in the settings. Reading goes on behind a request for help, so nothing that is wrong is passed over.

* `Group` : an option word, an option with a value that it takes, or a program text;
* `Options.ofGroups` : the settings that groups ask for, field by field;
* `parseOptionsFrom_spelled`, `exists_reading` : groups are read one after the other, and what is not read as groups is
  refused;
* `parseOptions_eq_ok_iff` : both together.
-/

namespace Orbit.Runner

/-! ## Groups -/

def optionWords : List String := ["-h", "--help", "--dump", "--repl", "--set", "--steps"]

/-- A text that is taken as a program: no option word, and no other argument with a dash at its start than the dash. -/
def IsProgramText (text : String) : Prop := text ∉ optionWords ∧ IsPositional text

instance (text : String) : Decidable (IsProgramText text) :=
  inferInstanceAs (Decidable (text ∉ optionWords ∧ IsPositional text))

inductive Group where
  | help (word : String) (h : word = "-h" ∨ word = "--help")
  | dump
  | repl
  | assign (text : String) (assignment : Register × Complex Float) (h : parseAssignment text = .ok assignment)
  | steps (text : String) (count : UInt32) (h : Numeral.word? text = some count)
  | program (text : String) (h : IsProgramText text)

namespace Group

def isHelp : Group → Bool
  | help _ _ => true
  | _ => false

def isDump : Group → Bool
  | dump => true
  | _ => false

def isRepl : Group → Bool
  | repl => true
  | _ => false

def assignment? : Group → Option (Register × Complex Float)
  | assign _ assignment _ => some assignment
  | _ => none

def steps? : Group → Option UInt32
  | steps _ count _ => some count
  | _ => none

end Group

instance : ArgumentGroup Group where
  arguments
    | .help word _ => [word]
    | .dump => ["--dump"]
    | .repl => ["--repl"]
    | .assign text _ _ => ["--set", text]
    | .steps text _ _ => ["--steps", text]
    | .program text _ => [text]
  program?
    | .program text _ => some text
    | _ => none

/-- The settings that groups ask for: the options that occur, all assignments in order, the last number of steps or one,
and the program. -/
def Options.ofGroups (groups : List Group) : Options where
  program := (programs groups).getLast?
  assignments := groups.filterMap Group.assignment?
  steps := (groups.filterMap Group.steps?).getLast?.getD 1
  dump := groups.any Group.isDump
  repl := groups.any Group.isRepl
  help := groups.any Group.isHelp

/-! ## Reading groups -/

def Options.and (o : Options) : Group → Options
  | .help _ _ => { o with help := true }
  | .dump => { o with dump := true }
  | .repl => { o with repl := true }
  | .assign _ assignment _ => { o with assignments := o.assignments ++ [assignment] }
  | .steps _ count _ => { o with steps := count }
  | .program text _ => { o with program := some text }

theorem Options.ofGroups_append (before : List Group) (g : Group) :
    ofGroups (before ++ [g]) = (ofGroups before).and g := by
  cases g <;>
    simp [ofGroups, Options.and, programs, program?, Group.assignment?, Group.steps?, Group.isDump, Group.isRepl,
      Group.isHelp]

theorem isFlag_eq_false {arg : String} (h : IsPositional arg) : isFlag arg = false := by
  unfold isFlag
  split
  · next c cs hcs => exact absurd h (not_isPositional_iff.2 ⟨c, cs, hcs⟩)
  · rfl

theorem isFlag_eq_true {arg : String} (h : ¬ IsPositional arg) : isFlag arg = true := by
  obtain ⟨c, cs, hcs⟩ := not_isPositional_iff.1 h
  unfold isFlag
  rw [hcs]
  rfl

theorem parseOptionsFrom_of_not_word (o : Options) {arg : String} (rest : List String) (h : arg ∉ optionWords) :
    parseOptionsFrom o (arg :: rest) =
      if isFlag arg then .error (.unknownFlag arg)
      else if o.program.isSome then .error .manyPrograms
      else parseOptionsFrom { o with program := some arg } rest := by
  simp only [optionWords, List.mem_cons, List.not_mem_nil, or_false, not_or] at h
  rw [parseOptionsFrom.eq_def]
  simp only [beq_iff_eq, h, Bool.or_eq_true, or_self, if_false]

/-- **One group** is read as what it says, unless it is a second program. -/
theorem parseOptionsFrom_group (o : Options) (g : Group) (rest : List String)
    (h : (program? g).isSome → o.program = none) :
    parseOptionsFrom o (arguments g ++ rest) = parseOptionsFrom (o.and g) rest := by
  cases g with
  | help word hword =>
    rcases hword with rfl | rfl
    · show parseOptionsFrom o ("-h" :: rest) = _
      rw [parseOptionsFrom.eq_def]
      rfl
    · show parseOptionsFrom o ("--help" :: rest) = _
      rw [parseOptionsFrom.eq_def]
      rfl
  | dump =>
    show parseOptionsFrom o ("--dump" :: rest) = _
    rw [parseOptionsFrom.eq_def]
    rfl
  | repl =>
    show parseOptionsFrom o ("--repl" :: rest) = _
    rw [parseOptionsFrom.eq_def]
    rfl
  | assign text assignment hassign =>
    show parseOptionsFrom o ("--set" :: text :: rest) = _
    rw [parseOptionsFrom.eq_def]
    simp [hassign, Options.and]
  | steps text count hcount =>
    show parseOptionsFrom o ("--steps" :: text :: rest) = _
    rw [parseOptionsFrom.eq_def]
    simp [hcount, Options.and]
  | program text htext =>
    have hnone : o.program = none := h rfl
    show parseOptionsFrom o (text :: rest) = _
    rw [parseOptionsFrom_of_not_word o rest htext.1, isFlag_eq_false htext.2, hnone]
    rfl

/-- Arguments begin with a group, or they are refused whatever was read before. -/
theorem exists_group_or_error (arg : String) (rest : List String) :
    (∃ (g : Group) (rest' : List String), arg :: rest = arguments g ++ rest') ∨
    ∃ fault, ∀ o, parseOptionsFrom o (arg :: rest) = .error fault := by
  by_cases hword : arg ∈ optionWords
  · simp only [optionWords, List.mem_cons, List.not_mem_nil, or_false] at hword
    rcases hword with rfl | rfl | rfl | rfl | rfl | rfl
    · exact Or.inl ⟨.help "-h" (Or.inl rfl), rest, rfl⟩
    · exact Or.inl ⟨.help "--help" (Or.inr rfl), rest, rfl⟩
    · exact Or.inl ⟨.dump, rest, rfl⟩
    · exact Or.inl ⟨.repl, rest, rfl⟩
    · cases rest with
      | nil =>
        refine Or.inr ⟨.missingValue "--set", fun o => ?_⟩
        rw [parseOptionsFrom.eq_def]
        rfl
      | cons text rest =>
        cases htext : (parseAssignment text : Except AssignmentFault (Register × Complex Float)) with
        | ok assignment => exact Or.inl ⟨.assign text assignment htext, rest, rfl⟩
        | error fault =>
          refine Or.inr ⟨.badAssignment fault, fun o => ?_⟩
          rw [parseOptionsFrom.eq_def]
          simp [htext]
    · cases rest with
      | nil =>
        refine Or.inr ⟨.missingValue "--steps", fun o => ?_⟩
        rw [parseOptionsFrom.eq_def]
        rfl
      | cons text rest =>
        cases htext : Numeral.word? text with
        | some count => exact Or.inl ⟨.steps text count htext, rest, rfl⟩
        | none =>
          refine Or.inr ⟨.badSteps text, fun o => ?_⟩
          rw [parseOptionsFrom.eq_def]
          simp [htext]
  · by_cases hpositional : IsPositional arg
    · exact Or.inl ⟨.program arg ⟨hword, hpositional⟩, rest, rfl⟩
    · refine Or.inr ⟨.unknownFlag arg, fun o => ?_⟩
      rw [parseOptionsFrom_of_not_word o rest hword, isFlag_eq_true hpositional]
      rfl

/-! ## Reading argument lists -/

section Programs

variable {before : List Group} {g : Group}

theorem program_eq_none (h : (programs (before ++ [g])).length ≤ 1) (hg : (program? g).isSome) :
    (Options.ofGroups before).program = none := by
  obtain ⟨text, htext⟩ := Option.isSome_iff_exists.1 hg
  rw [programs_append, programs_singleton htext, List.length_append, List.length_singleton] at h
  have hnil : programs before = [] := List.eq_nil_of_length_eq_zero (by omega)
  simp [Options.ofGroups, hnil]

theorem parseOptionsFrom_second_program (rest : List String) (hbefore : (programs before).length ≤ 1)
    (h : ¬ (programs (before ++ [g])).length ≤ 1) :
    parseOptionsFrom (.ofGroups before) (arguments g ++ rest) = .error .manyPrograms := by
  rw [programs_append, List.length_append] at h
  cases g with
  | program text htext =>
    have hsome : (Options.ofGroups before).program.isSome = true := by
      have hlength : 0 < (programs before).length := by
        have hone : programs [Group.program text htext] = [text] := programs_singleton rfl
        rw [hone, List.length_singleton] at h
        omega
      rw [Options.ofGroups, List.getLast?_eq_some_getLast (List.ne_nil_of_length_pos hlength)]
      rfl
    show parseOptionsFrom _ (text :: rest) = _
    rw [parseOptionsFrom_of_not_word _ rest htext.1, isFlag_eq_false htext.2, hsome]
    rfl
  | _ => exact absurd hbefore h

end Programs

/-- **Groups are read one after the other**, whatever follows them. -/
theorem parseOptionsFrom_spelled (before groups : List Group) (rest : List String)
    (h : (programs (before ++ groups)).length ≤ 1) :
    parseOptionsFrom (.ofGroups before) (spelled groups ++ rest) =
      parseOptionsFrom (.ofGroups (before ++ groups)) rest := by
  induction groups generalizing before with
  | nil => rw [List.append_nil]; rfl
  | cons g groups ih =>
    have hsplit : before ++ g :: groups = before ++ [g] ++ groups := by simp
    rw [hsplit] at h ⊢
    have hone : (programs (before ++ [g])).length ≤ 1 := length_programs_of_append h
    rw [spelled_cons, List.append_assoc, parseOptionsFrom_group _ _ _ (program_eq_none hone), ← Options.ofGroups_append,
      ih _ h]

/-- **What is not read as groups is refused.** -/
theorem exists_reading : ∀ (before : List Group) (args : List String), (programs before).length ≤ 1 →
    (∃ groups : List Group, args = spelled groups ∧ (programs (before ++ groups)).length ≤ 1) ∨
    ∃ fault, parseOptionsFrom (.ofGroups before) args = .error fault
  | before, [], hbefore => Or.inl ⟨[], rfl, by rwa [List.append_nil]⟩
  | before, arg :: rest, hbefore => by
    rcases exists_group_or_error arg rest with ⟨g, rest', hargs⟩ | ⟨fault, hfault⟩
    · by_cases hone : (programs (before ++ [g])).length ≤ 1
      · have hshorter : rest'.length < (arg :: rest).length := by
          rw [hargs, List.length_append]
          cases g <;> simp [arguments]
        rw [hargs]
        rcases exists_reading (before ++ [g]) rest' hone with ⟨groups, rfl, hgroups⟩ | ⟨fault, hfault⟩
        · refine Or.inl ⟨g :: groups, rfl, ?_⟩
          rwa [List.append_assoc] at hgroups
        · refine Or.inr ⟨fault, ?_⟩
          rw [parseOptionsFrom_group _ _ _ (program_eq_none hone), ← Options.ofGroups_append, hfault]
      · rw [hargs]
        exact Or.inr ⟨_, parseOptionsFrom_second_program rest' hbefore hone⟩
    · exact Or.inr ⟨fault, hfault _⟩
termination_by _ args => args.length
decreasing_by exact hshorter

theorem parseOptions_spelled {groups : List Group} (h : (programs groups).length ≤ 1) :
    parseOptions (spelled groups) = .ok (.ofGroups groups) := by
  have hread := parseOptionsFrom_spelled [] groups [] h
  rw [List.append_nil, List.nil_append] at hread
  rw [parseOptions]
  refine hread.trans ?_
  rw [parseOptionsFrom.eq_def]

theorem parseOptions_eq_ok_iff {args : List String} {o : Options} :
    parseOptions args = .ok o ↔
      ∃ groups : List Group, args = spelled groups ∧ (programs groups).length ≤ 1 ∧ o = .ofGroups groups := by
  constructor
  · intro h
    rcases exists_reading [] args (by decide) with ⟨groups, rfl, hone⟩ | ⟨fault, hfault⟩
    · rw [List.nil_append] at hone
      rw [parseOptions_spelled hone, Except.ok.injEq] at h
      exact ⟨groups, rfl, hone, h.symm⟩
    · exact absurd (h.symm.trans hfault) (by simp)
  · rintro ⟨groups, rfl, hone, rfl⟩
    exact parseOptions_spelled hone

/-! ## Help and errors -/

/-- The words after which the rest of the arguments might seem not to matter. -/
def haltWords : List String := ["-h", "--help", "--repl"]

theorem parseAssignment_ne_ok {word : String} (h : word ∈ haltWords) (assignment : Register × Complex Float) :
    parseAssignment word ≠ .ok assignment := by
  simp only [haltWords, List.mem_cons, List.not_mem_nil, or_false] at h
  rcases h with rfl | rfl | rfl <;> exact fun h => nomatch h

theorem word?_ne_some {word : String} (h : word ∈ haltWords) (count : UInt32) : Numeral.word? word ≠ some count := by
  simp only [haltWords, List.mem_cons, List.not_mem_nil, or_false] at h
  rcases h with rfl | rfl | rfl <;> exact fun h => nomatch h

theorem mem_optionWords_of_mem_haltWords {word : String} (h : word ∈ haltWords) : word ∈ optionWords := by
  simp only [haltWords, List.mem_cons, List.not_mem_nil, or_false] at h
  rcases h with rfl | rfl | rfl <;> decide

/-- Such a word is a group of its own wherever it stands, since no option takes it as a value. -/
theorem arguments_eq_of_mem {word : String} (hword : word ∈ haltWords) {g : Group} (h : word ∈ arguments g) :
    arguments g = [word] ∧ program? g = none := by
  cases g with
  | help text _ =>
    rw [List.mem_singleton.1 h]
    exact ⟨rfl, rfl⟩
  | dump =>
    rw [List.mem_singleton.1 h] at hword
    exact absurd hword (by decide)
  | repl =>
    rw [List.mem_singleton.1 h]
    exact ⟨rfl, rfl⟩
  | assign text assignment hassign =>
    rcases List.mem_cons.1 h with rfl | hvalue
    · exact absurd hword (by decide)
    · rw [List.mem_singleton.1 hvalue] at hword
      exact absurd hassign (parseAssignment_ne_ok hword assignment)
  | steps text count hcount =>
    rcases List.mem_cons.1 h with rfl | hvalue
    · exact absurd hword (by decide)
    · rw [List.mem_singleton.1 hvalue] at hword
      exact absurd hcount (word?_ne_some hword count)
  | program text htext =>
    rw [List.mem_singleton.1 h] at hword
    exact absurd (mem_optionWords_of_mem_haltWords hword) htext.1

theorem exists_spelled_of_insert {word : String} (hword : word ∈ haltWords) (groups : List Group)
    {front back : List String} (h : front ++ word :: back = spelled groups) :
    ∃ groups' : List Group, front ++ back = spelled groups' ∧ programs groups' = programs groups := by
  induction groups generalizing front with
  | nil => simp [spelled] at h
  | cons g groups ih =>
    have hbehind (front' : List String) (hfront : front = arguments g ++ front')
        (hrest : front' ++ word :: back = spelled groups) :
        ∃ groups' : List Group, front ++ back = spelled groups' ∧ programs groups' = programs (g :: groups) := by
      obtain ⟨groups', hspelled, hprograms⟩ := ih hrest
      refine ⟨g :: groups', ?_, ?_⟩
      · rw [spelled_cons, hfront, List.append_assoc, hspelled]
      · show programs ([g] ++ groups') = programs ([g] ++ groups)
        rw [programs_append, programs_append, hprograms]
    rw [spelled_cons, List.append_eq_append_iff] at h
    rcases h with ⟨inside, hg, hrest⟩ | ⟨front', hfront, hrest⟩
    · cases inside with
      | nil => exact hbehind [] (by rw [hg, List.append_nil, List.append_nil]) hrest
      | cons x inside =>
        -- the word belongs to the group, so it is the whole of it and can go
        obtain ⟨rfl, rfl⟩ := List.cons.inj hrest
        obtain ⟨hone, hnone⟩ := arguments_eq_of_mem hword (by rw [hg]; simp)
        have hlength := congrArg List.length (hg.symm.trans hone)
        simp only [List.length_append, List.length_cons, List.length_nil] at hlength
        have hfront : front = [] := List.eq_nil_of_length_eq_zero (by omega)
        have hinside : inside = [] := List.eq_nil_of_length_eq_zero (by omega)
        exact ⟨groups, by rw [hfront, hinside]; rfl, (programs_cons_of_none hnone groups).symm⟩
    · exact hbehind front' hfront hrest.symm

theorem error_of_insert {word : String} (hword : word ∈ haltWords) {front back : List String} {fault : OptionsFault}
    (h : parseOptions (front ++ back) = .error fault) :
    ∃ fault', parseOptions (front ++ word :: back) = .error fault' := by
  cases hread : parseOptions (front ++ word :: back) with
  | error fault' => exact ⟨fault', rfl⟩
  | ok o =>
    obtain ⟨groups, hspelled, hone, -⟩ := parseOptions_eq_ok_iff.1 hread
    obtain ⟨groups', hspelled', hprograms⟩ := exists_spelled_of_insert hword groups hspelled
    rw [← hprograms] at hone
    rw [hspelled', parseOptions_spelled hone] at h
    cases h

/-! ## Settings that can be asked for -/

theorem exists_arguments_and {o : Options} (h : ∃ args, parseOptions args = .ok o) (g : Group)
    (hg : (program? g).isSome → o.program = none) : ∃ args, parseOptions args = .ok (o.and g) := by
  obtain ⟨args, hargs⟩ := h
  obtain ⟨groups, -, hone, rfl⟩ := parseOptions_eq_ok_iff.1 hargs
  refine ⟨spelled (groups ++ [g]), ?_⟩
  rw [← Options.ofGroups_append]
  apply parseOptions_spelled
  rw [programs_append, List.length_append]
  cases hprogram : program? g with
  | none =>
    rw [programs_cons_of_none hprogram]
    exact hone
  | some text =>
    have hnone : programs groups = [] := List.getLast?_eq_none_iff.1 (hg (by rw [hprogram]; rfl))
    rw [hnone, programs_singleton hprogram]
    exact Nat.le_refl 1

theorem exists_arguments_assignments (assignments : List (Register × Complex Float))
    (h : ∀ a ∈ assignments, ∃ text, parseAssignment text = .ok a) :
    ∃ args, parseOptions args = .ok { Options.standard with assignments := assignments } := by
  induction assignments using List.reverseRecOn with
  | nil =>
    have hnone : (programs ([] : List Group)).length ≤ 1 := Nat.zero_le 1
    exact ⟨_, parseOptions_spelled hnone⟩
  | append_singleton assignments a ih =>
    obtain ⟨text, htext⟩ := h a (by simp)
    have hfront := ih fun b hb => h b (List.mem_append_left _ hb)
    exact exists_arguments_and hfront (.assign text a htext) nofun

theorem exists_arguments {o : Options} (hprogram : ∀ text, o.program = some text → IsProgramText text)
    (hassignments : ∀ a ∈ o.assignments, ∃ text, parseAssignment text = .ok a) :
    ∃ args, parseOptions args = .ok o := by
  obtain ⟨program, assignments, steps, dump, repl, help⟩ := o
  have hsteps : ∃ args, parseOptions args = .ok ⟨none, assignments, steps, false, false, false⟩ :=
    exists_arguments_and (exists_arguments_assignments assignments hassignments)
      (.steps (toString steps.toNat) steps (Numeral.word?_toString steps)) nofun
  have hdump : ∃ args, parseOptions args = .ok ⟨none, assignments, steps, dump, false, false⟩ := by
    cases dump with
    | false => exact hsteps
    | true => exact exists_arguments_and hsteps .dump nofun
  have hrepl : ∃ args, parseOptions args = .ok ⟨none, assignments, steps, dump, repl, false⟩ := by
    cases repl with
    | false => exact hdump
    | true => exact exists_arguments_and hdump .repl nofun
  have hhelp : ∃ args, parseOptions args = .ok ⟨none, assignments, steps, dump, repl, help⟩ := by
    cases help with
    | false => exact hrepl
    | true => exact exists_arguments_and hrepl (.help "-h" (Or.inl rfl)) nofun
  cases program with
  | none => exact hhelp
  | some text => exact exists_arguments_and hhelp (.program text (hprogram text rfl)) fun _ => rfl

theorem isProgramText_of_parseOptions {args : List String} {o : Options} (h : parseOptions args = .ok o) {text : String}
    (htext : o.program = some text) : IsProgramText text := by
  obtain ⟨groups, -, -, rfl⟩ := parseOptions_eq_ok_iff.1 h
  obtain ⟨g, -, hg⟩ := List.mem_filterMap.1 (List.mem_of_getLast? htext)
  cases g with
  | program text' hprogram =>
    cases hg
    exact hprogram
  | _ => cases hg

theorem exists_text_of_parseOptions {args : List String} {o : Options} (h : parseOptions args = .ok o)
    {a : Register × Complex Float} (ha : a ∈ o.assignments) : ∃ text, parseAssignment text = .ok a := by
  obtain ⟨groups, -, -, rfl⟩ := parseOptions_eq_ok_iff.1 h
  obtain ⟨g, -, hg⟩ := List.mem_filterMap.1 ha
  cases g with
  | assign text assignment hassign =>
    cases hg
    exact ⟨text, hassign⟩
  | _ => cases hg

/-! ## The result -/

/-- **The grammar of argument lists.** A list is accepted if and only if it is a sequence of groups with at most one
program among them, and then the settings are what the groups say. A list that is refused stays so wherever a request
for help or for a dialogue is put into it. The settings that can be asked for are those whose program is a program
text and whose assignments can be written. -/
theorem parseOptions_grammar :
    (∀ args, (∃ o, parseOptions args = .ok o) ↔
      ∃ groups : List Group, args = spelled groups ∧ (programs groups).length ≤ 1) ∧
    (∀ groups : List Group, (programs groups).length ≤ 1 → parseOptions (spelled groups) = .ok (.ofGroups groups)) ∧
    (∀ word ∈ ["-h", "--help", "--repl"], ∀ (front back : List String) (fault : OptionsFault),
      parseOptions (front ++ back) = .error fault →
        ∃ fault', parseOptions (front ++ word :: back) = .error fault') ∧
    ∀ o : Options, (∃ args, parseOptions args = .ok o) ↔
      (∀ text, o.program = some text → IsProgramText text) ∧
        ∀ a ∈ o.assignments, ∃ text, parseAssignment text = .ok a := by
  refine ⟨fun args => ⟨?_, ?_⟩, fun groups hone => parseOptions_spelled hone, ?_, fun o => ⟨?_, ?_⟩⟩
  · rintro ⟨o, ho⟩
    obtain ⟨groups, hspelled, hone, -⟩ := parseOptions_eq_ok_iff.1 ho
    exact ⟨groups, hspelled, hone⟩
  · rintro ⟨groups, rfl, hone⟩
    exact ⟨_, parseOptions_spelled hone⟩
  · exact fun word hword front back fault h => error_of_insert hword h
  · rintro ⟨args, hargs⟩
    exact ⟨fun text => isProgramText_of_parseOptions hargs, fun a => exists_text_of_parseOptions hargs⟩
  · exact fun h => exists_arguments h.1 h.2

/-- A value with a sign, a dash as the program and two numbers of steps, of which the last one counts; a value that is
missing, and a request for help that does not hide it; and the same settings without their number of steps. -/
theorem parseOptions_grammar_two_steps :
    let b : Register × Complex Float := (.b, ⟨-1, 20⟩)
    let options : Options := ⟨some "-", [b], 7, false, true, false⟩
    parseAssignment "b = -1,2e1" = .ok b ∧
      parseOptions ["--steps", "3", "--set", "b = -1,2e1", "-", "--repl", "--steps", "+7"] = .ok options ∧
      parseOptions ["--repl", "--steps"] = .error (.missingValue "--steps") ∧
      (∃ fault, parseOptions ["--repl", "-h", "--steps"] = .error fault) ∧
      ∃ args, parseOptions args = .ok { options with steps := 1 } := by
  intro b options
  have hb : parseAssignment "b = -1,2e1" = .ok b := by decide +kernel
  have hdash : IsProgramText "-" := by decide
  obtain ⟨-, hgroups, hhelp, hreach⟩ := parseOptions_grammar
  have hread := hgroups [.steps "3" 3 rfl, .assign "b = -1,2e1" b hb, .program "-" hdash, .repl, .steps "+7" 7 rfl]
    (Nat.le_refl 1)
  have hmissing : parseOptions ["--repl", "--steps"] = .error (.missingValue "--steps") := by
    rw [parseOptions, parseOptionsFrom.eq_def]
    show parseOptionsFrom { Options.standard with repl := true } ["--steps"] = _
    rw [parseOptionsFrom.eq_def]
    rfl
  refine ⟨hb, hread, hmissing, hhelp "-h" (by decide) ["--repl"] ["--steps"] _ hmissing, (hreach _).2 ⟨?_, ?_⟩⟩
  · rintro text ⟨⟩
    exact hdash
  · intro a ha
    rw [List.mem_singleton.1 ha]
    exact ⟨_, hb⟩

end Orbit.Runner
