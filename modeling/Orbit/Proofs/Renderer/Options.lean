import Mathlib.Data.List.Basic
import Orbit.Proofs.Renderer.Values

/-!
# The argument lists of the renderer

An argument list is read as groups, an option with the argument after it or a program text, up to the first request
for help or for the version, the first group that is not well formed, or the end. What stands there decides; at the end
every setting is the value of the last group for it.

* `Group`, `WellFormed` : groups, and groups in which nothing is wrong;
* `Flag.field`, `Flag.Reads` : the field of the settings that an option sets, and what its values say;
* `lastValue`, `Describes` : the value of an option in groups, and the settings that groups describe;
* `Misfit` : what can be wrong behind well-formed groups, with the fault it is;
* `Ending` : what decides behind well-formed groups, with the answer;
* `parseOptions_eq_iff` : an argument list is answered as its reading ends;
* `Reordered` : the same groups in another order, except among groups of one option.
-/

namespace Orbit.Renderer

/-! ## Groups -/

def Flag.words : Flag → List String
  | .engine => ["--engine"]
  | .size => ["--size"]
  | .bounds => ["--bounds"]
  | .cap => ["--max-iterations"]
  | .format => ["--format"]
  | .output => ["--output", "-o"]
  | .programFile => ["--program-file"]

def helpWords : List String := ["-h", "--help"]

def versionWords : List String := ["-V", "--version"]

/-- An argument that looks like an option and is none. -/
structure IsUnknownFlag (arg : String) : Prop where
  not_help : arg ∉ helpWords
  not_version : arg ∉ versionWords
  not_flag : ∀ flag : Flag, arg ∉ flag.words
  not_positional : ¬ IsPositional arg

/-- A part of an argument list: an option with the argument after it, whatever that looks like, or a program text. -/
inductive Group where
  | option (flag : Flag) (word value : String) (h : word ∈ flag.words)
  | program (text : String) (h : IsPositional text)

namespace Group

def flag? : Group → Option Flag
  | option flag _ _ _ => some flag
  | program _ _ => none

def value? (flag : Flag) : Group → Option String
  | option flag' _ value _ => if flag' = flag then some value else none
  | program _ _ => none

end Group

instance : ArgumentGroup Group where
  arguments
    | .option _ word value _ => [word, value]
    | .program text _ => [text]
  program?
    | .option _ _ _ _ => none
    | .program text _ => some text

/-! ## Values -/

def IsBlank (value : String) : Prop := value.toList.all Text.isBlank = true

instance (value : String) : Decidable (IsBlank value) :=
  inferInstanceAs (Decidable (value.toList.all Text.isBlank = true))

def Flag.Field : Flag → Type
  | .engine => Engine
  | .size => UInt32 × UInt32
  | .bounds => Bounds
  | .cap => UInt32
  | .format => Format
  | .output => Option String
  | .programFile => Option String

def Flag.field : (flag : Flag) → Options → flag.Field
  | .engine, o => o.engine
  | .size, o => (o.viewport.width, o.viewport.height)
  | .bounds, o => (⟨o.viewport.reMin, o.viewport.reMax, o.viewport.imMin, o.viewport.imMax⟩ : Bounds)
  | .cap, o => o.cap
  | .format, o => o.format
  | .output, o => o.output
  | .programFile, o => o.programFile

/-- What is in the field if the option does not occur. -/
def Flag.standard : (flag : Flag) → flag.Field
  | .engine => Engine.jit
  | .size => ((1600, 900) : UInt32 × UInt32)
  | .bounds => (⟨-1.6, 1.6, -0.9, 0.9⟩ : Bounds)
  | .cap => (256 : UInt32)
  | .format => Format.pgm
  | .output => (none : Option String)
  | .programFile => (none : Option String)

/-- What a value says to an option: a name, a size, bounds or a positive number; any text is the name of a file. -/
def Flag.Reads : (flag : Flag) → String → flag.Field → Prop
  | .engine, value, x => IsOneOf (engineNames x) value
  | .size, value, x => IsSize value x.1 x.2
  | .bounds, value, x => IsBounds value x
  | .cap, value, x => IsCap value x
  | .format, value, x => IsOneOf (formatNames x) value
  | .output, value, x => x = some value
  | .programFile, value, x => x = some value

/-- What is wrong with a value that says nothing. -/
def Flag.refusal? (value : String) : Flag → Option OptionsFault
  | .engine => some (.unknownEngine ⟨String.ofList (value.toList.map Char.toLower)⟩)
  | .size => some (.badSize value)
  | .bounds => some (.badBounds value)
  | .cap => some (.badCap value)
  | .format => some (.unknownFormat ⟨String.ofList (value.toList.map Char.toLower)⟩)
  | .output => none
  | .programFile => none

/-- A value that an option does not take, and what is wrong with it. -/
structure Flag.Refuses (flag : Flag) (value : String) (fault : OptionsFault) : Prop where
  unread : ∀ x, ¬ flag.Reads value x
  refusal : flag.refusal? value = some fault

/-- A group with a value that is not blank and that its option takes. -/
def Group.IsAccepted : Group → Prop
  | option flag _ value _ => ¬ IsBlank value ∧ ∃ x, flag.Reads value x
  | program _ _ => True

structure WellFormed (groups : List Group) : Prop where
  accepted : ∀ g ∈ groups, g.IsAccepted
  programs : (programs groups).length ≤ 1

/-! ## What groups say -/

def lastValue (flag : Flag) (groups : List Group) : Option String := (groups.filterMap (Group.value? flag)).getLast?

/-- What groups say about a field: what the last value of its option says, or the standard if there is none. -/
def Flag.Holds (flag : Flag) (groups : List Group) (x : flag.Field) : Prop :=
  match lastValue flag groups with
  | none => x = flag.standard
  | some value => flag.Reads value x

/-- The settings that groups describe: each field from the last group for its option, and the program. -/
structure Describes (groups : List Group) (o : Options) : Prop where
  fields : ∀ flag : Flag, flag.Holds groups (flag.field o)
  program : o.program = (programs groups).getLast?

inductive Misfit (before : List Group) : List String → OptionsFault → Prop
  | unknownFlag {arg : String} (rest : List String) (h : IsUnknownFlag arg) :
      Misfit before (arg :: rest) (.unknownFlag arg)
  | missingValue {flag : Flag} {word name : String} (h : word ∈ flag.words) (hname : flag.words.head? = some name) :
      Misfit before [word] (.missingValue name)
  | blankValue {flag : Flag} {word name value : String} (rest : List String) (h : word ∈ flag.words)
      (hname : flag.words.head? = some name) (hblank : IsBlank value) :
      Misfit before (word :: value :: rest) (.emptyValue name)
  | refusedValue {flag : Flag} {word value : String} {fault : OptionsFault} (rest : List String)
      (h : word ∈ flag.words) (hblank : ¬ IsBlank value) (hrefuses : flag.Refuses value fault) :
      Misfit before (word :: value :: rest) fault
  | secondProgram {text : String} (rest : List String) (h : IsPositional text) (hbefore : programs before ≠ []) :
      Misfit before (text :: rest) .manyPrograms

/-- What decides behind well-formed groups, and the answer. -/
inductive Ending (groups : List Group) : List String → Except OptionsFault Request → Prop
  | help {word : String} (rest : List String) (h : word ∈ helpWords) : Ending groups (word :: rest) (.ok .help)
  | version {word : String} (rest : List String) (h : word ∈ versionWords) : Ending groups (word :: rest) (.ok .version)
  | misfit {rest : List String} {fault : OptionsFault} (h : Misfit groups rest fault) :
      Ending groups rest (.error fault)
  | complete {o : Options} (h : Describes groups o) : Ending groups [] (.ok (.render o))

/-- The same groups in another order, in which groups of the same option, and program texts, are in the order in which
they were. -/
structure Reordered (groups groups' : List Group) : Prop where
  perm : groups.Perm groups'
  kept : ∀ kind, groups.filter (fun g => g.flag? = kind) = groups'.filter (fun g => g.flag? = kind)

/-! ## Single words -/

theorem ofArgument_of_mem_helpWords {arg : String} (h : arg ∈ helpWords) : Word.ofArgument arg = .help := by
  simp only [helpWords, List.mem_cons, List.not_mem_nil, or_false] at h
  rcases h with rfl | rfl <;> rfl

theorem ofArgument_of_mem_versionWords {arg : String} (h : arg ∈ versionWords) : Word.ofArgument arg = .version := by
  simp only [versionWords, List.mem_cons, List.not_mem_nil, or_false] at h
  rcases h with rfl | rfl <;> rfl

theorem ofArgument_of_mem_words {arg : String} {flag : Flag} (h : arg ∈ flag.words) :
    Word.ofArgument arg = .flag flag := by
  cases flag <;> simp only [Flag.words, List.mem_cons, List.not_mem_nil, or_false] at h
  case output => rcases h with rfl | rfl <;> rfl
  all_goals rw [h]; rfl

theorem ofArgument_of_not_word {arg : String} (hhelp : arg ∉ helpWords) (hversion : arg ∉ versionWords)
    (hflag : ∀ flag : Flag, arg ∉ flag.words) :
    (IsPositional arg → Word.ofArgument arg = .program) ∧ (¬ IsPositional arg → Word.ofArgument arg = .unknown) := by
  have hwords := And.intro (hflag .engine) (And.intro (hflag .size) (And.intro (hflag .bounds) (And.intro (hflag .cap)
    (And.intro (hflag .format) (And.intro (hflag .output) (hflag .programFile))))))
  simp only [helpWords, versionWords, Flag.words, List.mem_cons, List.not_mem_nil, or_false, not_or]
    at hhelp hversion hwords
  unfold Word.ofArgument
  simp only [beq_iff_eq, Bool.or_eq_true, hhelp, hversion, hwords, or_self, if_false]
  constructor
  · intro hpositional
    split
    · next c cs hcs => exact absurd hpositional (not_isPositional_iff.2 ⟨c, cs, hcs⟩)
    · rfl
  · intro hdash
    obtain ⟨c, cs, hcs⟩ := not_isPositional_iff.1 hdash
    rw [hcs]
    rfl

theorem ofArgument_of_isUnknownFlag {arg : String} (h : IsUnknownFlag arg) : Word.ofArgument arg = .unknown :=
  (ofArgument_of_not_word h.not_help h.not_version h.not_flag).2 h.not_positional

theorem ofArgument_of_isPositional {arg : String} (h : IsPositional arg) : Word.ofArgument arg = .program := by
  refine (ofArgument_of_not_word ?_ ?_ ?_).1 h
  · intro hword
    simp only [helpWords, List.mem_cons, List.not_mem_nil, or_false] at hword
    rcases hword with rfl | rfl <;> exact absurd h (by decide)
  · intro hword
    simp only [versionWords, List.mem_cons, List.not_mem_nil, or_false] at hword
    rcases hword with rfl | rfl <;> exact absurd h (by decide)
  · intro flag hword
    cases flag <;> simp only [Flag.words, List.mem_cons, List.not_mem_nil, or_false] at hword
    case output => rcases hword with rfl | rfl <;> exact absurd h (by decide)
    all_goals exact absurd h (by rw [hword]; decide)

/-- The cases of an argument that stands where an option may. -/
theorem argument_cases (arg : String) :
    arg ∈ helpWords ∨ arg ∈ versionWords ∨ (∃ flag : Flag, arg ∈ flag.words) ∨ IsPositional arg ∨
      IsUnknownFlag arg := by
  by_cases hhelp : arg ∈ helpWords
  · exact Or.inl hhelp
  · by_cases hversion : arg ∈ versionWords
    · exact Or.inr (Or.inl hversion)
    · by_cases hflag : ∃ flag : Flag, arg ∈ flag.words
      · exact Or.inr (Or.inr (Or.inl hflag))
      · by_cases hpositional : IsPositional arg
        · exact Or.inr (Or.inr (Or.inr (Or.inl hpositional)))
        · exact Or.inr (Or.inr (Or.inr (Or.inr ⟨hhelp, hversion, fun flag h => hflag ⟨flag, h⟩, hpositional⟩)))

/-! ## Single groups -/

section Setting

variable {flag : Flag} {value : String}

theorem setting_of_isBlank (flag : Flag) (h : IsBlank value) : flag.setting value = .error (.emptyValue flag.name) := by
  rw [Flag.setting, if_pos (Text.isEmpty_trim_iff.2 h)]

theorem setting_of_not_isBlank (flag : Flag) (h : ¬ IsBlank value) : flag.setting value = settingOf value flag := by
  rw [Flag.setting, if_neg (fun hempty => h (Text.isEmpty_trim_iff.1 hempty))]

theorem Flag.head?_words (flag : Flag) : flag.words.head? = some flag.name := by
  cases flag <;> rfl

def Setting.flag? : Setting → Option Flag
  | .engine _ => some .engine
  | .size _ _ => some .size
  | .bounds _ => some .bounds
  | .cap _ => some .cap
  | .format _ => some .format
  | .output _ => some .output
  | .programFile _ => some .programFile
  | .program _ => none

/-- A setting changes no field but that of its option. -/
theorem field_apply_of_ne {o o' : Options} {setting : Setting} (h : o.apply setting = .ok o') {other : Flag}
    (hne : setting.flag? ≠ some other) : other.field o' = other.field o := by
  cases setting with
  | program text =>
    rw [Options.apply] at h
    split at h
    · cases h
    · cases h
      cases other <;> rfl
  | _ =>
    cases h
    cases other <;> first | rfl | exact absurd rfl hne

/-- An option sets its field to what its value says. -/
theorem exists_settingOf {x : flag.Field} (h : flag.Reads value x) (o : Options) :
    ∃ setting o', settingOf value flag = .ok setting ∧ setting.flag? = some flag ∧ o.apply setting = .ok o' ∧
      o'.program = o.program ∧ flag.field o' = x := by
  cases flag with
  | engine =>
    have hread : Engine.ofText value = .ok x := engine_ofText_eq_ok_iff.2 h
    exact ⟨.engine x, _, by simp only [settingOf, hread], rfl, rfl, rfl, rfl⟩
  | size =>
    have hread : parseSize? value = some (x.1, x.2) := parseSize?_eq_some_iff.2 h
    exact ⟨.size x.1 x.2, _, by simp only [settingOf, hread], rfl, rfl, rfl, rfl⟩
  | bounds =>
    have hread : parseBounds? value = some x := parseBounds?_eq_some_iff.2 h
    exact ⟨.bounds x, _, by simp only [settingOf, hread], rfl, rfl, rfl, rfl⟩
  | cap =>
    have hread : parseCap? value = some x := parseCap?_eq_some_iff.2 h
    exact ⟨.cap x, _, by simp only [settingOf, hread], rfl, rfl, rfl, rfl⟩
  | format =>
    have hread : Format.ofText value = .ok x := format_ofText_eq_ok_iff.2 h
    exact ⟨.format x, _, by simp only [settingOf, hread], rfl, rfl, rfl, rfl⟩
  | output => exact ⟨.output value, _, rfl, rfl, rfl, rfl, h.symm⟩
  | programFile => exact ⟨.programFile value, _, rfl, rfl, rfl, rfl, h.symm⟩

/-- A value says something to an option, or it is refused. -/
theorem reads_or_error (flag : Flag) (value : String) :
    (∃ x, flag.Reads value x) ∨ ∃ fault, flag.refusal? value = some fault ∧ settingOf value flag = .error fault := by
  cases flag with
  | engine =>
    cases hread : Engine.ofText value with
    | ok engine => exact Or.inl ⟨engine, engine_ofText_eq_ok_iff.1 hread⟩
    | error fault =>
      refine Or.inr ⟨_, rfl, ?_⟩
      simp only [settingOf, hread, engine_ofText_eq_error hread]
  | size =>
    cases hread : parseSize? value with
    | some size => exact Or.inl ⟨size, parseSize?_eq_some_iff.1 hread⟩
    | none => exact Or.inr ⟨_, rfl, by simp only [settingOf, hread]⟩
  | bounds =>
    cases hread : parseBounds? value with
    | some bounds => exact Or.inl ⟨bounds, parseBounds?_eq_some_iff.1 hread⟩
    | none => exact Or.inr ⟨_, rfl, by simp only [settingOf, hread]⟩
  | cap =>
    cases hread : parseCap? value with
    | some cap => exact Or.inl ⟨cap, parseCap?_eq_some_iff.1 hread⟩
    | none => exact Or.inr ⟨_, rfl, by simp only [settingOf, hread]⟩
  | format =>
    cases hread : Format.ofText value with
    | ok format => exact Or.inl ⟨format, format_ofText_eq_ok_iff.1 hread⟩
    | error fault =>
      refine Or.inr ⟨_, rfl, ?_⟩
      simp only [settingOf, hread, format_ofText_eq_error hread]
  | output | programFile => exact Or.inl ⟨some value, rfl⟩

theorem exists_reads_iff : (∃ x, flag.Reads value x) ↔ (settingOf value flag).isOk = true := by
  constructor
  · rintro ⟨x, hx⟩
    obtain ⟨setting, -, hsetting, -⟩ := exists_settingOf hx .standard
    rw [hsetting]
    rfl
  · intro h
    rcases reads_or_error flag value with hreads | ⟨fault, -, herror⟩
    · exact hreads
    · rw [herror] at h
      cases h

theorem settingOf_of_refuses {fault : OptionsFault} (h : flag.Refuses value fault) :
    settingOf value flag = .error fault := by
  rcases reads_or_error flag value with ⟨x, hx⟩ | ⟨fault', hrefusal, herror⟩
  · exact absurd hx (h.unread x)
  · rw [herror, Option.some.inj (hrefusal.symm.trans h.refusal)]

theorem exists_refuses (h : ¬ ∃ x, flag.Reads value x) : ∃ fault, flag.Refuses value fault := by
  obtain ⟨fault, hrefusal, -⟩ := (reads_or_error flag value).resolve_left h
  exact ⟨fault, not_exists.1 h, hrefusal⟩

theorem Flag.Reads.unique {x y : flag.Field} (hx : flag.Reads value x) (hy : flag.Reads value y) : x = y := by
  obtain ⟨setting, o, hsetting, -, happly, -, rfl⟩ := exists_settingOf hx .standard
  obtain ⟨setting', o', hsetting', -, happly', -, rfl⟩ := exists_settingOf hy .standard
  obtain rfl := Except.ok.inj (hsetting.symm.trans hsetting')
  rw [Except.ok.inj (happly.symm.trans happly')]

end Setting

/-! ## Well-formed groups can be told from others -/

instance (flag : Flag) (value : String) : Decidable (∃ x, flag.Reads value x) :=
  decidable_of_iff _ exists_reads_iff.symm

instance : DecidablePred Group.IsAccepted
  | .option flag _ value _ => inferInstanceAs (Decidable (¬ IsBlank value ∧ ∃ x, flag.Reads value x))
  | .program _ _ => isTrue trivial

instance (groups : List Group) : Decidable (WellFormed groups) :=
  decidable_of_iff ((∀ g ∈ groups, g.IsAccepted) ∧ (programs groups).length ≤ 1)
    ⟨fun h => ⟨h.1, h.2⟩, fun h => ⟨h.accepted, h.programs⟩⟩

/-! ## Groups one after the other -/

theorem lastValue_append (flag : Flag) (before : List Group) (g : Group) :
    lastValue flag (before ++ [g]) = (g.value? flag).or (lastValue flag before) := by
  rw [lastValue, List.filterMap_append, List.getLast?_append]
  cases hvalue : g.value? flag <;> simp [hvalue, lastValue]

theorem Flag.holds_append_of_none {flag : Flag} (before : List Group) {g : Group} (h : g.value? flag = none) :
    flag.Holds (before ++ [g]) = flag.Holds before := by
  unfold Holds
  rw [lastValue_append, h, Option.none_or]

theorem Flag.holds_append_of_some {flag : Flag} (before : List Group) {g : Group} {value : String}
    (h : g.value? flag = some value) : flag.Holds (before ++ [g]) = flag.Reads value := by
  unfold Holds
  rw [lastValue_append, h, Option.some_or]

theorem Flag.Holds.unique {flag : Flag} {groups : List Group} {x y : flag.Field} (hx : flag.Holds groups x)
    (hy : flag.Holds groups y) : x = y := by
  unfold Holds at hx hy
  cases hlast : lastValue flag groups with
  | none =>
    rw [hlast] at hx hy
    exact hx.trans hy.symm
  | some value =>
    rw [hlast] at hx hy
    exact Reads.unique hx hy

/-! ## Reading groups -/

theorem parseOptionsFrom_program {o : Options} {text : String} (rest : List String) (h : IsPositional text)
    (hnone : o.program = none) :
    parseOptionsFrom o (text :: rest) = parseOptionsFrom { o with program := some text } rest := by
  rw [parseOptionsFrom.eq_def]
  simp only [ofArgument_of_isPositional h, Options.apply, hnone]
  rfl

theorem parseOptionsFrom_option {o o' : Options} {flag : Flag} {word value : String} {setting : Setting}
    (rest : List String) (hword : word ∈ flag.words) (hblank : ¬ IsBlank value)
    (hsetting : settingOf value flag = .ok setting) (happly : o.apply setting = .ok o') :
    parseOptionsFrom o (word :: value :: rest) = parseOptionsFrom o' rest := by
  rw [parseOptionsFrom.eq_def]
  simp only [ofArgument_of_mem_words hword, setting_of_not_isBlank flag hblank, hsetting, happly]

section Describes

variable {before : List Group} {o : Options}

theorem Describes.append_program (h : Describes before o) {text : String} (htext : IsPositional text) :
    Describes (before ++ [.program text htext]) { o with program := some text } := by
  constructor
  · intro flag
    rw [Flag.holds_append_of_none before rfl]
    cases flag with
    | _ => exact h.fields _
  · rw [programs_append, List.getLast?_append]
    rfl

theorem Describes.append_option (h : Describes before o) {flag : Flag} {word value : String} (hword : word ∈ flag.words)
    {o' : Options} (hprogram : o'.program = o.program) (hself : flag.Reads value (flag.field o'))
    (hframe : ∀ other, other ≠ flag → other.field o' = other.field o) :
    Describes (before ++ [.option flag word value hword]) o' := by
  constructor
  · intro other
    by_cases heq : flag = other
    · subst heq
      have hvalue : Group.value? flag (.option flag word value hword) = some value := if_pos rfl
      rw [Flag.holds_append_of_some before hvalue]
      exact hself
    · have hvalue : Group.value? other (.option flag word value hword) = none := if_neg heq
      rw [Flag.holds_append_of_none before hvalue, hframe other (Ne.symm heq)]
      exact h.fields other
  · rw [programs_append, hprogram, h.program]
    exact congrArg List.getLast? (List.append_nil _).symm

/-- **One group** that is well formed is read as what it says. -/
theorem Describes.exists_append (h : Describes before o) {g : Group} (hg : g.IsAccepted)
    (hprograms : (programs (before ++ [g])).length ≤ 1) :
    ∃ o', Describes (before ++ [g]) o' ∧
      ∀ rest, parseOptionsFrom o (arguments g ++ rest) = parseOptionsFrom o' rest := by
  cases g with
  | option flag word value hword =>
    obtain ⟨hblank, x, hx⟩ := hg
    obtain ⟨setting, o', hsetting, hflag, happly, hprogram, hself⟩ := exists_settingOf hx o
    have hframe : ∀ other, other ≠ flag → other.field o' = other.field o := by
      intro other hne
      apply field_apply_of_ne happly
      rw [hflag]
      exact fun heq => hne (Option.some.inj heq).symm
    refine ⟨o', h.append_option hword hprogram (hself ▸ hx) hframe, fun rest => ?_⟩
    exact parseOptionsFrom_option rest hword hblank hsetting happly
  | program text htext =>
    have hnone : o.program = none := by
      rw [programs_append, List.length_append] at hprograms
      have hlength : (programs before).length = 0 := Nat.le_zero.1 (Nat.le_of_succ_le_succ hprograms)
      rw [h.program, List.eq_nil_of_length_eq_zero hlength]
      rfl
    exact ⟨_, h.append_program htext, fun rest => parseOptionsFrom_program rest htext hnone⟩

theorem Describes.unique {groups : List Group} {o o' : Options} (h : Describes groups o) (h' : Describes groups o') :
    o = o' := by
  have hfield (flag : Flag) : flag.field o = flag.field o' := (h.fields flag).unique (h'.fields flag)
  have hprogram : o.program = o'.program := h.program.trans h'.program.symm
  obtain ⟨program, programFile, engine, ⟨width, height, reMin, reMax, imMin, imMax⟩, cap, format, output⟩ := o
  obtain ⟨rfl, rfl⟩ := Prod.mk.inj (hfield .size)
  obtain ⟨rfl, rfl, rfl, rfl⟩ := Bounds.mk.inj (hfield .bounds)
  obtain rfl : engine = _ := hfield .engine
  obtain rfl : cap = _ := hfield .cap
  obtain rfl : format = _ := hfield .format
  obtain rfl : output = _ := hfield .output
  obtain rfl : programFile = _ := hfield .programFile
  obtain rfl : program = _ := hprogram
  rfl

end Describes

/-! ## Endings -/

theorem parseOptionsFrom_of_misfit {before : List Group} {o : Options} (h : Describes before o) {rest : List String}
    {fault : OptionsFault} (hmisfit : Misfit before rest fault) : parseOptionsFrom o rest = .error fault := by
  rw [parseOptionsFrom.eq_def]
  cases hmisfit with
  | unknownFlag rest hflag => simp only [ofArgument_of_isUnknownFlag hflag]
  | missingValue hword hname =>
    rw [Flag.head?_words] at hname
    cases hname
    simp only [ofArgument_of_mem_words hword]
  | blankValue rest hword hname hblank =>
    rw [Flag.head?_words] at hname
    cases hname
    simp only [ofArgument_of_mem_words hword, setting_of_isBlank _ hblank]
  | refusedValue rest hword hblank hrefuses =>
    simp only [ofArgument_of_mem_words hword, setting_of_not_isBlank _ hblank, settingOf_of_refuses hrefuses]
  | secondProgram rest htext hbefore =>
    have hsome : o.program.isSome = true := by
      rw [h.program, List.getLast?_eq_some_getLast hbefore]
      rfl
    simp only [ofArgument_of_isPositional htext, Options.apply, hsome, if_true]

theorem parseOptionsFrom_of_ending {groups : List Group} {o : Options} (h : Describes groups o) {rest : List String}
    {answer : Except OptionsFault Request} (hending : Ending groups rest answer) :
    parseOptionsFrom o rest = answer := by
  cases hending with
  | help rest hword =>
    rw [parseOptionsFrom.eq_def]
    simp only [ofArgument_of_mem_helpWords hword]
  | version rest hword =>
    rw [parseOptionsFrom.eq_def]
    simp only [ofArgument_of_mem_versionWords hword]
  | misfit hmisfit => exact parseOptionsFrom_of_misfit h hmisfit
  | complete h' =>
    rw [parseOptionsFrom.eq_def, h.unique h']

/-- Behind well-formed groups there is an ending, or one more well-formed group. -/
theorem exists_ending_or_group {before : List Group} {o : Options} (h : Describes before o)
    (hone : (programs before).length ≤ 1) (rest : List String) :
    (∃ answer, Ending before rest answer) ∨
    ∃ (g : Group) (rest' : List String), rest = arguments g ++ rest' ∧ g.IsAccepted ∧
      (programs (before ++ [g])).length ≤ 1 := by
  cases rest with
  | nil => exact Or.inl ⟨_, .complete h⟩
  | cons arg rest =>
    rcases argument_cases arg with hhelp | hversion | ⟨flag, hword⟩ | hpositional | hunknown
    · exact Or.inl ⟨_, .help rest hhelp⟩
    · exact Or.inl ⟨_, .version rest hversion⟩
    · cases rest with
      | nil => exact Or.inl ⟨_, .misfit (.missingValue hword flag.head?_words)⟩
      | cons value rest =>
        by_cases hblank : IsBlank value
        · exact Or.inl ⟨_, .misfit (.blankValue rest hword flag.head?_words hblank)⟩
        · by_cases hreads : ∃ x, flag.Reads value x
          · refine Or.inr ⟨.option flag arg value hword, rest, rfl, ⟨hblank, hreads⟩, ?_⟩
            rw [programs_append, List.length_append]
            exact hone
          · obtain ⟨fault, hrefuses⟩ := exists_refuses hreads
            exact Or.inl ⟨_, .misfit (.refusedValue rest hword hblank hrefuses)⟩
    · by_cases hbefore : programs before = []
      · refine Or.inr ⟨.program arg hpositional, rest, rfl, trivial, ?_⟩
        rw [programs_append, hbefore]
        exact Nat.le_refl 1
      · exact Or.inl ⟨_, .misfit (.secondProgram rest hpositional hbefore)⟩
    · exact Or.inl ⟨_, .misfit (.unknownFlag rest hunknown)⟩

/-! ## Reading argument lists -/

theorem describes_nil : Describes [] .standard := by
  refine ⟨fun flag => ?_, rfl⟩
  cases flag <;> rfl

theorem wellFormed_nil : WellFormed [] := ⟨fun _ hg => (List.not_mem_nil hg).elim, Nat.zero_le 1⟩

theorem WellFormed.append {before : List Group} (h : WellFormed before) {g : Group} (hg : g.IsAccepted)
    (hprograms : (Orbit.programs (before ++ [g])).length ≤ 1) : WellFormed (before ++ [g]) := by
  refine ⟨fun g' hg' => ?_, hprograms⟩
  rcases List.mem_append.1 hg' with hg' | hg'
  · exact h.accepted g' hg'
  · rw [List.mem_singleton.1 hg']
    exact hg

theorem WellFormed.of_append {before groups : List Group} (h : WellFormed (before ++ groups)) : WellFormed before := by
  exact ⟨fun g hg => h.accepted g (List.mem_append_left groups hg), length_programs_of_append h.programs⟩

/-- **Well-formed groups are read one after the other**, whatever follows them. -/
theorem exists_parseOptionsFrom_spelled {before : List Group} {o : Options} (h : Describes before o)
    (groups : List Group) (hgroups : WellFormed (before ++ groups)) :
    ∃ o', Describes (before ++ groups) o' ∧
      ∀ rest, parseOptionsFrom o (spelled groups ++ rest) = parseOptionsFrom o' rest := by
  induction groups generalizing before o with
  | nil => exact ⟨o, by rwa [List.append_nil], fun rest => rfl⟩
  | cons g groups ih =>
    have hsplit : before ++ g :: groups = before ++ [g] ++ groups := by simp
    rw [hsplit] at hgroups ⊢
    obtain ⟨o₁, h₁, hstep⟩ := h.exists_append (hgroups.accepted g (by simp)) hgroups.of_append.programs
    obtain ⟨o₂, h₂, hrest⟩ := ih h₁ hgroups
    refine ⟨o₂, h₂, fun rest => ?_⟩
    rw [spelled_cons, List.append_assoc, hstep, hrest]

/-- **Every argument list has a reading.** -/
theorem exists_reading : ∀ (before : List Group) (o : Options) (args : List String),
    Describes before o → WellFormed before →
    ∃ (groups : List Group) (rest : List String) (answer : Except OptionsFault Request), args = spelled groups ++ rest ∧
      WellFormed (before ++ groups) ∧ Ending (before ++ groups) rest answer
  | before, o, args, h, hbefore => by
    rcases exists_ending_or_group h hbefore.programs args with ⟨answer, hending⟩ | ⟨g, rest, hargs, hg, hprograms⟩
    · exact ⟨[], args, answer, rfl, by rwa [List.append_nil], by rwa [List.append_nil]⟩
    · have hshorter : rest.length < args.length := by
        rw [hargs, List.length_append]
        cases g <;> simp [arguments]
      obtain ⟨o', h', -⟩ := h.exists_append hg hprograms
      obtain ⟨groups, rest', answer, hrest, hgroups, hending⟩ :=
        exists_reading (before ++ [g]) o' rest h' (hbefore.append hg hprograms)
      rw [List.append_assoc] at hgroups hending
      refine ⟨g :: groups, rest', answer, ?_, hgroups, hending⟩
      rw [hargs, hrest, ← List.append_assoc]
      rfl
termination_by _ _ args => args.length
decreasing_by exact hshorter

/-- **An argument list is answered as its reading ends.** -/
theorem parseOptions_eq_iff {args : List String} {answer : Except OptionsFault Request} :
    parseOptions args = answer ↔
      ∃ groups rest, args = spelled groups ++ rest ∧ WellFormed groups ∧ Ending groups rest answer := by
  have hanswer {groups : List Group} {rest : List String} {answer : Except OptionsFault Request}
      (hgroups : WellFormed groups) (hending : Ending groups rest answer) :
      parseOptions (spelled groups ++ rest) = answer := by
    obtain ⟨o, h, hread⟩ := exists_parseOptionsFrom_spelled describes_nil groups hgroups
    exact (hread rest).trans (parseOptionsFrom_of_ending h hending)
  constructor
  · rintro rfl
    obtain ⟨groups, rest, answer, hargs, hgroups, hending⟩ :=
      exists_reading [] .standard args describes_nil wellFormed_nil
    have heq : parseOptions args = answer := by rw [hargs]; exact hanswer hgroups hending
    rw [heq]
    exact ⟨groups, rest, hargs, hgroups, hending⟩
  · rintro ⟨groups, rest, rfl, hgroups, hending⟩
    exact hanswer hgroups hending

section Answers

variable {args : List String}

theorem parseOptions_eq_help_iff : parseOptions args = .ok .help ↔
    ∃ groups word rest, args = spelled groups ++ word :: rest ∧ WellFormed groups ∧ word ∈ helpWords := by
  rw [parseOptions_eq_iff]
  constructor
  · rintro ⟨groups, rest, hargs, hgroups, hending⟩
    cases hending with
    | help rest hword => exact ⟨groups, _, rest, hargs, hgroups, hword⟩
  · rintro ⟨groups, word, rest, hargs, hgroups, hword⟩
    exact ⟨groups, _, hargs, hgroups, .help rest hword⟩

theorem parseOptions_eq_version_iff : parseOptions args = .ok .version ↔
    ∃ groups word rest, args = spelled groups ++ word :: rest ∧ WellFormed groups ∧ word ∈ versionWords := by
  rw [parseOptions_eq_iff]
  constructor
  · rintro ⟨groups, rest, hargs, hgroups, hending⟩
    cases hending with
    | version rest hword => exact ⟨groups, _, rest, hargs, hgroups, hword⟩
  · rintro ⟨groups, word, rest, hargs, hgroups, hword⟩
    exact ⟨groups, _, hargs, hgroups, .version rest hword⟩

theorem parseOptions_eq_error_iff {fault : OptionsFault} : parseOptions args = .error fault ↔
    ∃ groups rest, args = spelled groups ++ rest ∧ WellFormed groups ∧ Misfit groups rest fault := by
  rw [parseOptions_eq_iff]
  constructor
  · rintro ⟨groups, rest, hargs, hgroups, hending⟩
    cases hending with
    | misfit h => exact ⟨groups, rest, hargs, hgroups, h⟩
  · rintro ⟨groups, rest, hargs, hgroups, h⟩
    exact ⟨groups, rest, hargs, hgroups, .misfit h⟩

theorem parseOptions_eq_render_iff {o : Options} : parseOptions args = .ok (.render o) ↔
    ∃ groups, args = spelled groups ∧ WellFormed groups ∧ Describes groups o := by
  rw [parseOptions_eq_iff]
  constructor
  · rintro ⟨groups, rest, hargs, hgroups, hending⟩
    cases hending with
    | complete h => exact ⟨groups, by rw [hargs, List.append_nil], hgroups, h⟩
  · rintro ⟨groups, hargs, hgroups, h⟩
    exact ⟨groups, [], by rw [hargs, List.append_nil], hgroups, .complete h⟩

end Answers

/-! ## Orders of groups -/

theorem arguments_append_inj {g g' : Group} {xs ys : List String} (h : arguments g ++ xs = arguments g' ++ ys) :
    g = g' ∧ xs = ys := by
  cases g with
  | option flag word value hword =>
    cases g' with
    | option flag' word' value' hword' =>
      obtain ⟨rfl, hrest⟩ := List.cons.inj h
      obtain ⟨rfl, rfl⟩ := List.cons.inj hrest
      obtain rfl := Word.flag.inj ((ofArgument_of_mem_words hword).symm.trans (ofArgument_of_mem_words hword'))
      exact ⟨rfl, rfl⟩
    | program text htext =>
      obtain ⟨rfl, -⟩ := List.cons.inj h
      cases (ofArgument_of_mem_words hword).symm.trans (ofArgument_of_isPositional htext)
  | program text htext =>
    cases g' with
    | option flag word value hword =>
      obtain ⟨rfl, -⟩ := List.cons.inj h
      cases (ofArgument_of_mem_words hword).symm.trans (ofArgument_of_isPositional htext)
    | program text' htext' =>
      obtain ⟨rfl, rfl⟩ := List.cons.inj h
      exact ⟨rfl, rfl⟩

theorem spelled_cons_ne_nil (g : Group) (groups : List Group) : spelled (g :: groups) ≠ [] := by
  cases g <;> exact List.cons_ne_nil _ _

/-- **Groups are read in one way.** -/
theorem spelled_injective {groups groups' : List Group} (h : spelled groups = spelled groups') : groups = groups' := by
  induction groups generalizing groups' with
  | nil =>
    cases groups' with
    | nil => rfl
    | cons g' groups' => exact absurd h.symm (spelled_cons_ne_nil g' groups')
  | cons g groups ih =>
    cases groups' with
    | nil => exact absurd h (spelled_cons_ne_nil g groups)
    | cons g' groups' =>
      obtain ⟨rfl, hrest⟩ := arguments_append_inj h
      rw [ih hrest]

theorem filterMap_filter_flag {β : Type} (kind : Option Flag) (f : Group → Option β)
    (h : ∀ g : Group, g.flag? ≠ kind → f g = none) (groups : List Group) :
    (groups.filter fun g => g.flag? = kind).filterMap f = groups.filterMap f := by
  rw [List.filterMap_filter]
  congr 1
  funext g
  by_cases hkind : g.flag? = kind
  · simp [hkind]
  · simp [hkind, h g hkind]

namespace Reordered

variable {groups groups' : List Group} (h : Reordered groups groups')
include h

theorem filterMap_eq {β : Type} (kind : Option Flag) (f : Group → Option β)
    (hf : ∀ g : Group, g.flag? ≠ kind → f g = none) : groups.filterMap f = groups'.filterMap f := by
  rw [← filterMap_filter_flag kind f hf groups, h.kept kind, filterMap_filter_flag kind f hf groups']

theorem programs_eq : programs groups = programs groups' := by
  apply h.filterMap_eq none
  rintro (_ | _) hkind
  · rfl
  · exact absurd rfl hkind

theorem lastValue_eq (flag : Flag) : lastValue flag groups = lastValue flag groups' := by
  apply congrArg List.getLast?
  apply h.filterMap_eq (some flag)
  rintro (⟨flag', word, value, hword⟩ | _) hkind
  · exact if_neg fun heq => hkind (congrArg some heq)
  · rfl

theorem wellFormed (hgroups : WellFormed groups) : WellFormed groups' :=
  ⟨fun g hg => hgroups.accepted g (h.perm.mem_iff.2 hg), h.programs_eq ▸ hgroups.programs⟩

theorem describes {o : Options} (hgroups : Describes groups o) : Describes groups' o := by
  constructor
  · intro flag
    unfold Flag.Holds
    rw [← h.lastValue_eq flag]
    exact hgroups.fields flag
  · rw [hgroups.program, h.programs_eq]

end Reordered

/-! ## The result -/

/-- **Argument lists mean what their groups say.** A list is read from left to right as well-formed groups. If a
request for help or for the version comes behind them, it is the answer, whatever follows; if something else than a
well-formed group comes, the answer is the fault of that; and if nothing is left, the answer is the settings in which
each field is the value of the last group for its option, or the standard. These settings are there and determined by
the groups, so they do not change when groups change places and those of the same option keep their order. -/
theorem parseOptions_reads_groups :
    (∀ args, parseOptions args = .ok .help ↔
      ∃ groups word rest, args = spelled groups ++ word :: rest ∧ WellFormed groups ∧ word ∈ helpWords) ∧
    (∀ args, parseOptions args = .ok .version ↔
      ∃ groups word rest, args = spelled groups ++ word :: rest ∧ WellFormed groups ∧ word ∈ versionWords) ∧
    (∀ args fault, parseOptions args = .error fault ↔
      ∃ groups rest, args = spelled groups ++ rest ∧ WellFormed groups ∧ Misfit groups rest fault) ∧
    (∀ args o, parseOptions args = .ok (.render o) ↔
      ∃ groups, args = spelled groups ∧ WellFormed groups ∧ Describes groups o) ∧
    (∀ groups, WellFormed groups → ∃ o, Describes groups o ∧ ∀ o', Describes groups o' → o' = o) ∧
    ∀ groups groups' o, Reordered groups groups' → parseOptions (spelled groups) = .ok (.render o) →
      parseOptions (spelled groups') = .ok (.render o) := by
  refine ⟨fun args => parseOptions_eq_help_iff, fun args => parseOptions_eq_version_iff,
    fun args fault => parseOptions_eq_error_iff, fun args o => parseOptions_eq_render_iff, fun groups hgroups => ?_, ?_⟩
  · obtain ⟨o, h, -⟩ := exists_parseOptionsFrom_spelled describes_nil groups hgroups
    exact ⟨o, h, fun o' h' => h'.unique h⟩
  · intro groups groups' o hreordered hparse
    obtain ⟨read, hspelled, hgroups, h⟩ := parseOptions_eq_render_iff.1 hparse
    obtain rfl := spelled_injective hspelled
    exact parseOptions_eq_render_iff.2 ⟨groups', rfl, hreordered.wellFormed hgroups, hreordered.describes h⟩

/-- A path that looks like an option, two sizes of which the last one counts, a number with a sign, names with
capitals and a dash as the program, in two orders; a request for help in front of a flag that is unknown, a request
for the version, a size that is refused in front of a request for help, and values and words that are refused. -/
theorem parseOptions_reads_groups_two_sizes :
    let path : Group := .option .output "-o" "--size" (by decide)
    let small : Group := .option .size "--size" "2X3" (by decide)
    let cap : Group := .option .cap "--max-iterations" "+017" (by decide)
    let format : Group := .option .format "--format" "PGM-Ascii" (by decide)
    let engine : Group := .option .engine "--engine" "Interpreter" (by decide)
    let dash : Group := .program "-" (by decide)
    let large : Group := .option .size "--size" " 4 x5" (by decide)
    let groups := [path, small, cap, format, engine, dash, large]
    let o : Options := ⟨some "-", none, .interpret, ⟨4, 5, -1.6, 1.6, -0.9, 0.9⟩, 17, .pgmAscii, some "--size"⟩
    WellFormed groups ∧ Describes groups o ∧ Reordered groups [small, cap, format, engine, dash, path, large] ∧
      parseOptions ["-o", "--size", "--size", "2X3", "--max-iterations", "+017", "--format", "PGM-Ascii",
        "--engine", "Interpreter", "-", "--size", " 4 x5"] = .ok (.render o) ∧
      parseOptions ["--size", "2X3", "--max-iterations", "+017", "--format", "PGM-Ascii",
        "--engine", "Interpreter", "-", "-o", "--size", "--size", " 4 x5"] = .ok (.render o) ∧
      parseOptions ["-", "-h", "--bogus"] = .ok .help ∧ parseOptions ["--version", "-h"] = .ok .version ∧
      parseOptions ["--size", "0x1", "-h"] = .error (.badSize "0x1") ∧
      parseOptions ["--max-iterations", "0"] = .error (.badCap "0") ∧
      parseOptions ["--max-iterations", "4294967296"] = .error (.badCap "4294967296") ∧
      parseOptions ["--format", "JPEG"] = .error (.unknownFormat ⟨"jpeg"⟩) ∧
      parseOptions ["--engine", "Fast"] = .error (.unknownEngine ⟨"fast"⟩) ∧
      parseOptions ["-o"] = .error (.missingValue "--output") ∧
      parseOptions ["-o", " "] = .error (.emptyValue "--output") := by
  intro path small cap format engine dash large groups o
  have hgroups : WellFormed groups := by decide +kernel
  have hsize : IsSize " 4 x5" 4 5 := parseSize?_eq_some_iff.1 (by decide +kernel)
  have hcap : IsCap "+017" 17 := parseCap?_eq_some_iff.1 (by decide +kernel)
  have hdescribes : Describes groups o := by
    constructor
    · intro flag
      cases flag with
      | size => exact hsize
      | cap => exact hcap
      | format => exact ⟨"pgm-ascii", by decide, by decide⟩
      | engine => exact ⟨"interpreter", by decide, by decide⟩
      | _ => rfl
    · rfl
  have hreordered : Reordered groups [small, cap, format, engine, dash, path, large] := by
    constructor
    · have hperm : ([path] ++ [small, cap, format, engine, dash]).Perm ([small, cap, format, engine, dash] ++ [path]) :=
        List.perm_append_comm
      exact hperm.append_right [large]
    · rintro (_ | flag)
      · rfl
      · cases flag <;> rfl
  obtain ⟨hhelp, hversion, herror, hrender, -, horder⟩ := parseOptions_reads_groups
  have hread := (hrender _ o).2 ⟨groups, rfl, hgroups, hdescribes⟩
  have hrefused (flag : Flag) {word value : String} {fault : OptionsFault} (rest : List String)
      (hword : word ∈ flag.words) (hblank : ¬ IsBlank value) (hunread : ¬ ∃ x, flag.Reads value x)
      (hfault : flag.refusal? value = some fault) : parseOptions (word :: value :: rest) = .error fault :=
    (herror _ _).2 ⟨[], _, rfl, wellFormed_nil, .refusedValue rest hword hblank ⟨not_exists.1 hunread, hfault⟩⟩
  have houtput : "-o" ∈ Flag.output.words := by decide
  refine ⟨hgroups, hdescribes, hreordered, hread, horder _ _ o hreordered hread, ?_, ?_, ?_, ?_, ?_, ?_, ?_, ?_, ?_⟩
  · exact (hhelp _).2 ⟨[dash], "-h", ["--bogus"], rfl, by decide +kernel, by decide⟩
  · exact (hversion _).2 ⟨[], "--version", ["-h"], rfl, wellFormed_nil, by decide⟩
  · exact hrefused .size ["-h"] (by decide) (by decide) (by decide +kernel) rfl
  · exact hrefused .cap [] (by decide) (by decide) (by decide +kernel) rfl
  · exact hrefused .cap [] (by decide) (by decide) (by decide +kernel) rfl
  · exact hrefused .format [] (by decide) (by decide) (by decide +kernel) rfl
  · exact hrefused .engine [] (by decide) (by decide) (by decide +kernel) rfl
  · exact (herror _ _).2 ⟨[], _, rfl, wellFormed_nil, .missingValue houtput rfl⟩
  · exact (herror _ _).2 ⟨[], _, rfl, wellFormed_nil, .blankValue [] houtput rfl (by decide)⟩

end Orbit.Renderer
