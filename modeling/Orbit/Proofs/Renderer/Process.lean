import Mathlib.Order.WellFounded
import Orbit.Proofs.Engine
import Orbit.Proofs.Files.Tree
import Orbit.Proofs.Picture.Render
import Orbit.Proofs.Picture.Sink

/-!
# All or nothing

There is no picture if there is no program text, the text is no program, something is wrong with the viewport, or the
engine has no kernel; the command fails with the first of these, and nothing is written. It stops in the middle if an
array has no room for the escape times, and nothing is written either. Otherwise there is a picture, and its file goes
where the options say and nowhere else.

* `Chooses t o text`, `Unsourced t o fault` : the text that is the program, and why there is none;
* `Obstacle`, `Meets host t o x`, `MeetsFirst host t o x` : what stands in the way, each by itself, and the first of
  all that do;
* `Depicts host t o picture`, `Picture.IsWritten picture format bytes` : the picture of the program, and the bytes of
  its file;
* `Delivery console o t bytes result` : the bytes are where they should be, and everything else is as before;
* `process_all_or_nothing` : what the command does about all of this.
-/

namespace Orbit

/-- The bytes in which a picture is written where there is room for them. -/
def Picture.IsWritten (picture : Picture) (format : Format) (bytes : List UInt8) : Prop :=
  ∀ room, bytes.length ≤ room → picture.writeTo format (.empty room) = (⟨room, bytes⟩, none)

theorem Picture.isWritten_iff {picture : Picture} {format : Format} {bytes : List UInt8} :
    picture.IsWritten format bytes ↔ bytes = picture.file format := by
  have hfile {room : Nat} (hroom : (picture.file format).length ≤ room) :
      picture.writeTo format (.empty room) = (⟨room, picture.file format⟩, none) := by
    rw [picture.writeTo_eq, Sink.writeAll_of_le hroom]
    rfl
  constructor
  · intro h
    have hsame := (h _ (Nat.le_max_left _ _)).symm.trans (hfile (Nat.le_max_right _ _))
    simpa using hsame
  · rintro rfl room hroom
    exact hfile hroom

namespace Renderer

variable {console : Console} {host : Host} {t : FileTree} {o : Options}

/-! ## The program text -/

/-- The text that is the program: the one among the arguments, or that of the file that is named, without the blanks
around it. -/
inductive Chooses (t : FileTree) (o : Options) : String → Prop
  | argument {text : String} (hprogram : o.program = some text) (hfile : o.programFile = none) : Chooses t o text
  | file {path text : String} (hprogram : o.program = none) (hfile : o.programFile = some path)
      (hread : t.read path = .ok (Text.utf8 text)) : Chooses t o (Text.trim text)

/-- Why there is no program text: two sources or none, or a file that cannot be read or holds no text. -/
inductive Unsourced (t : FileTree) (o : Options) : SourceFault → Prop
  | both {text path : String} (hprogram : o.program = some text) (hfile : o.programFile = some path) :
      Unsourced t o .both
  | neither (hprogram : o.program = none) (hfile : o.programFile = none) : Unsourced t o .neither
  | unread {path : String} {fault : PathFault} (hprogram : o.program = none) (hfile : o.programFile = some path)
      (hread : t.read path = .error fault) : Unsourced t o (.unreadable path fault.message)
  | noText {path : String} {bytes : List UInt8} (hprogram : o.program = none) (hfile : o.programFile = some path)
      (hread : t.read path = .ok bytes) (hbytes : ∀ text, Text.utf8 text ≠ bytes) :
      Unsourced t o (.unreadable path "stream did not contain valid UTF-8")

def textIn (t : FileTree) (o : Options) : Except SourceFault String :=
  programText o fun path => (t.read path).mapError PathFault.message

theorem textIn_of_chooses {text : String} (h : Chooses t o text) : textIn t o = .ok text := by
  cases h with
  | argument hprogram hfile => simp [textIn, programText, hprogram, hfile]
  | file hprogram hfile hread =>
    simp [textIn, programText, hprogram, hfile, hread, Except.mapError, fileText, Text.ofBytes?_eq_some_iff.2 rfl]

theorem textIn_of_unsourced {fault : SourceFault} (h : Unsourced t o fault) : textIn t o = .error fault := by
  cases h with
  | both hprogram hfile => simp [textIn, programText, hprogram, hfile]
  | neither hprogram hfile => simp [textIn, programText, hprogram, hfile]
  | unread hprogram hfile hread => simp [textIn, programText, hprogram, hfile, hread, Except.mapError, fileText]
  | noText hprogram hfile hread hbytes =>
    simp [textIn, programText, hprogram, hfile, hread, Except.mapError, fileText, Text.ofBytes?_eq_none_iff.2 hbytes]

theorem Chooses.unique {text text' : String} (h : Chooses t o text) (h' : Chooses t o text') : text = text' :=
  Except.ok.inj ((textIn_of_chooses h).symm.trans (textIn_of_chooses h'))

theorem Chooses.not_unsourced {text : String} {fault : SourceFault} (h : Chooses t o text) : ¬Unsourced t o fault := by
  intro hfault
  have hboth := (textIn_of_chooses h).symm.trans (textIn_of_unsourced hfault)
  cases hboth

theorem chooses_or_unsourced (t : FileTree) (o : Options) :
    (∃ text, Chooses t o text) ∨ ∃ fault, Unsourced t o fault := by
  cases hprogram : o.program with
  | some text =>
    cases hfile : o.programFile with
    | some path => exact Or.inr ⟨_, .both hprogram hfile⟩
    | none => exact Or.inl ⟨_, .argument hprogram hfile⟩
  | none =>
    cases hfile : o.programFile with
    | none => exact Or.inr ⟨_, .neither hprogram hfile⟩
    | some path =>
      cases hread : t.read path with
      | error fault => exact Or.inr ⟨_, .unread hprogram hfile hread⟩
      | ok bytes =>
        by_cases hbytes : ∃ text, Text.utf8 text = bytes
        · obtain ⟨text, rfl⟩ := hbytes
          exact Or.inl ⟨_, .file hprogram hfile hread⟩
        · exact Or.inr ⟨_, .noText hprogram hfile hread fun text htext => hbytes ⟨text, htext⟩⟩

/-! ## Obstacles -/

/-- The lines of a command that fails: its log, the sentence, and the sentence again in quotes. -/
def failureText (console : Console) (events : List Event) (message : String) : String :=
  console.log (greetingEvent :: events) ++ ("error: " ++ message ++ "\n") ++ ("Error: " ++ Text.quoted message ++ "\n")

inductive Obstacle where
  | source (fault : SourceFault)
  | program (fault : Fault)
  | viewport (fault : ViewportFault Float)
  | kernel (fault : Fault)
  | overflow
deriving DecidableEq, Repr

namespace Obstacle

/-- The place of an obstacle in the order in which they are reported. -/
def rank : Obstacle → Nat
  | source _ => 0
  | program _ => 1
  | viewport _ => 2
  | kernel _ => 3
  | overflow => 4

/-- How the command ends when it meets an obstacle. Without a program text there is no log yet, and the help is shown.
Too many pixels are no failure with an answer, and the system says what happened. -/
def outcome (console : Console) (host : Host) (events : List Event) : Obstacle → Outcome
  | source fault =>
    ⟨1, [], Text.utf8 ("error: " ++ fault.message ++ "\n\n" ++ helpText ++
      ("Error: " ++ Text.quoted fault.message ++ "\n"))⟩
  | program fault => ⟨1, [], Text.utf8 (failureText console events fault.message)⟩
  | viewport fault => ⟨1, [], Text.utf8 (failureText console events fault.message)⟩
  | kernel fault => ⟨1, [], Text.utf8 (failureText console events fault.message)⟩
  | overflow => ⟨101, [], Text.utf8 (console.log (greetingEvent :: events) ++ host.notice "capacity overflow")⟩

end Obstacle

/-- An obstacle is there, whatever others there are. -/
inductive Meets (host : Host) (t : FileTree) (o : Options) : Obstacle → Prop
  | source {fault : SourceFault} (h : Unsourced t o fault) : Meets host t o (.source fault)
  | program {text : String} {fault : Fault} (htext : Chooses t o text) (h : Program.parse text = .error fault) :
      Meets host t o (.program fault)
  | viewport {fault : ViewportFault Float} (h : o.viewport.check = some fault) : Meets host t o (.viewport fault)
  | kernel {text : String} {p : Program} {fault : Fault} (htext : Chooses t o text)
      (hparse : Program.parse text = .ok p) (h : o.engine.kernel host p = .error fault) : Meets host t o (.kernel fault)
  | overflow (h : ¬o.viewport.HasRoom) : Meets host t o .overflow

def ClearBefore (host : Host) (t : FileTree) (o : Options) (n : Nat) : Prop := ∀ x, Meets host t o x → n ≤ x.rank

def MeetsFirst (host : Host) (t : FileTree) (o : Options) (x : Obstacle) : Prop :=
  Meets host t o x ∧ ClearBefore host t o x.rank

theorem Meets.unique {x y : Obstacle} (hx : Meets host t o x) (hy : Meets host t o y) (hrank : x.rank = y.rank) :
    x = y := by
  cases hx with
  | source hx =>
    cases hy with
    | source hy => rw [Except.error.inj ((textIn_of_unsourced hx).symm.trans (textIn_of_unsourced hy))]
    | _ => simp [Obstacle.rank] at hrank
  | program hchosen hx =>
    cases hy with
    | program hchosen' hy =>
      rw [hchosen.unique hchosen', hy] at hx
      cases hx
      rfl
    | _ => simp [Obstacle.rank] at hrank
  | viewport hx =>
    cases hy with
    | viewport hy => rw [Option.some.inj (hx.symm.trans hy)]
    | _ => simp [Obstacle.rank] at hrank
  | kernel hchosen hparse hx =>
    cases hy with
    | kernel hchosen' hparse' hy =>
      rw [hchosen.unique hchosen', hparse'] at hparse
      cases hparse
      rw [hy] at hx
      cases hx
      rfl
    | _ => simp [Obstacle.rank] at hrank
  | overflow hx =>
    cases hy with
    | overflow hy => rfl
    | _ => simp [Obstacle.rank] at hrank

theorem existsUnique_meetsFirst (h : ∃ x, Meets host t o x) : ∃! x, MeetsFirst host t o x := by
  obtain ⟨x, hx, hfirst⟩ := WellFounded.has_min (measure Obstacle.rank).wf {x | Meets host t o x} h
  have hclear : ClearBefore host t o x.rank := fun y hy => Nat.le_of_not_lt (hfirst y hy)
  refine ⟨x, ⟨hx, hclear⟩, fun y hy => ?_⟩
  exact hy.1.unique hx (Nat.le_antisymm (hy.2 x hx) (hclear y hy.1))

/-- Where everything before it is there, only room can be missing. -/
theorem Meets.eq_overflow {text : String} {p : Program} {k : Kernel} {x : Obstacle} (hx : Meets host t o x)
    (hchosen : Chooses t o text) (hparse : Program.parse text = .ok p) (hcheck : o.viewport.check = none)
    (hkernel : o.engine.kernel host p = .ok k) : x = .overflow ∧ ¬o.viewport.HasRoom := by
  cases hx with
  | source hfault => exact absurd hfault hchosen.not_unsourced
  | program htext hfault =>
    rw [htext.unique hchosen, hparse] at hfault
    cases hfault
  | viewport hfault =>
    rw [hcheck] at hfault
    cases hfault
  | kernel htext hparse' hfault =>
    rw [htext.unique hchosen, hparse] at hparse'
    cases hparse'
    rw [hkernel] at hfault
    cases hfault
  | overflow hroom => exact ⟨rfl, hroom⟩

namespace ClearBefore

variable {n : Nat} (h : ClearBefore host t o n)
include h

theorem exists_text (hn : 0 < n) : ∃ text, Chooses t o text := by
  rcases chooses_or_unsourced t o with hchosen | ⟨fault, hfault⟩
  · exact hchosen
  · exact absurd (h _ (.source hfault)) (Nat.not_le_of_lt hn)

theorem exists_program (hn : 1 < n) : ∃ text p, Chooses t o text ∧ Program.parse text = .ok p := by
  obtain ⟨text, htext⟩ := h.exists_text (Nat.lt_of_succ_lt hn)
  cases hparse : Program.parse text with
  | ok p => exact ⟨text, p, htext, hparse⟩
  | error fault => exact absurd (h _ (.program htext hparse)) (Nat.not_le_of_lt hn)

theorem check_eq_none (hn : 2 < n) : o.viewport.check = none := by
  cases hcheck : o.viewport.check with
  | none => rfl
  | some fault => exact absurd (h _ (.viewport hcheck)) (Nat.not_le_of_lt hn)

theorem exists_kernel (hn : 3 < n) :
    ∃ text p k, Chooses t o text ∧ Program.parse text = .ok p ∧ o.engine.kernel host p = .ok k := by
  obtain ⟨text, p, htext, hparse⟩ := h.exists_program (by omega)
  cases hkernel : o.engine.kernel host p with
  | ok k => exact ⟨text, p, k, htext, hparse, hkernel⟩
  | error fault => exact absurd (h _ (.kernel htext hparse hkernel)) (Nat.not_le_of_lt hn)

theorem hasRoom (hn : 4 < n) : o.viewport.HasRoom := by
  by_contra hroom
  exact absurd (h _ (.overflow hroom)) (Nat.not_le_of_lt hn)

end ClearBefore

/-! ## Failures -/

theorem paint_of_check {text : String} {p : Program} {fault : ViewportFault Float} (hparse : Program.parse text = .ok p)
    (hcheck : o.viewport.check = some fault) : (paint console host o text).2 = .error (.viewport fault) := by
  simp only [paint, hparse, hcheck]

theorem paint_of_kernel_error {text : String} {p : Program} {fault : Fault} (hparse : Program.parse text = .ok p)
    (hcheck : o.viewport.check = none) (hkernel : o.engine.kernel host p = .error fault) :
    (paint console host o text).2 = .error (.program fault) := by
  have hprepare : prepare console host o.engine p = ((prepare console host o.engine p).1, .error fault) :=
    Prod.ext rfl ((prepare_snd console host o.engine p).trans hkernel)
  simp only [paint, hparse, hcheck]
  rw [hprepare]

theorem paint_of_not_hasRoom {text : String} {p : Program} {k : Kernel} (hparse : Program.parse text = .ok p)
    (hcheck : o.viewport.check = none) (hkernel : o.engine.kernel host p = .ok k) (hroom : ¬o.viewport.HasRoom) :
    (paint console host o text).2 = .error .overflow := by
  rw [paint_eq_render console hparse hkernel, render_of_not_hasRoom _ _ _ hcheck hroom]
  rfl

theorem process_of_unsourced {args : List String} {fault : SourceFault} (hargs : parseOptions args = .ok (.render o))
    (h : Unsourced t o fault) : process console host args t = (refusal fault.message, t) := by
  have htext := textIn_of_unsourced h
  unfold textIn at htext
  simp only [process, hargs, htext]

theorem process_of_chooses {args : List String} {text : String} (hargs : parseOptions args = .ok (.render o))
    (h : Chooses t o text) : process console host args t = produce console host o text t := by
  have htext := textIn_of_chooses h
  unfold textIn at htext
  simp only [process, hargs, htext]

theorem process_of_paint_error {args : List String} {text : String} {fault : RenderFault}
    (hargs : parseOptions args = .ok (.render o)) (htext : Chooses t o text)
    (h : (paint console host o text).2 = .error fault) :
    ∃ events, process console host args t = (pictureless console host o events fault, t) := by
  have hpaint : paint console host o text = ((paint console host o text).1, .error fault) := Prod.ext rfl h
  refine ⟨(paint console host o text).1, ?_⟩
  rw [process_of_chooses hargs htext]
  unfold produce
  rw [hpaint]

/-- **The first obstacle is what the command ends with**, and nothing is written. -/
theorem process_of_meetsFirst {args : List String} {x : Obstacle} (hargs : parseOptions args = .ok (.render o))
    (h : MeetsFirst host t o x) : ∃ events, process console host args t = (x.outcome console host events, t) := by
  obtain ⟨hmeets, hclear⟩ := h
  cases hmeets with
  | source hfault => exact ⟨[], process_of_unsourced hargs hfault⟩
  | program htext hparse => exact process_of_paint_error hargs htext (paint_of_parse_error console host o hparse)
  | viewport hcheck =>
    obtain ⟨text, p, htext, hparse⟩ := hclear.exists_program (Nat.lt_succ_self 1)
    exact process_of_paint_error hargs htext (paint_of_check hparse hcheck)
  | kernel htext hparse hkernel =>
    have hcheck := hclear.check_eq_none (Nat.lt_succ_self 2)
    exact process_of_paint_error hargs htext (paint_of_kernel_error hparse hcheck hkernel)
  | overflow hroom =>
    obtain ⟨text, p, k, htext, hparse, hkernel⟩ := hclear.exists_kernel (Nat.lt_succ_self 3)
    have hcheck := hclear.check_eq_none (by decide)
    obtain ⟨events, hstopped⟩ := process_of_paint_error hargs htext (paint_of_not_hasRoom hparse hcheck hkernel hroom)
    -- the log has one message more than those about the kernel
    exact ⟨events ++ [startEvent console o], hstopped⟩

/-! ## Pictures -/

def Depicts (host : Host) (t : FileTree) (o : Options) (picture : Picture) : Prop :=
  ∃ text p k, Chooses t o text ∧ Program.parse text = .ok p ∧ o.engine.kernel host p = .ok k ∧
    render k.step o.viewport o.cap = .ok picture

def Logs (console : Console) (outcome : Outcome) : Prop :=
  ∃ events, outcome.errors = Text.utf8 (console.log (greetingEvent :: events))

/-- The bytes are where they should be, and everything else is as before. -/
structure Delivery (console : Console) (o : Options) (t : FileTree) (bytes : List UInt8) (result : Outcome × FileTree) :
    Prop where
  /-- Without a path they are on standard output. -/
  output : o.output = none →
    result.1.exitCode = 0 ∧ result.1.output = bytes ∧ Logs console result.1 ∧ result.2 = t
  /-- A file holds them and nothing of what it held before. The path leads to them. -/
  file : ∀ path slot, o.output = some path → t.destination path = .ok (.file slot) →
    result.1.exitCode = 0 ∧ result.1.output = [] ∧ Logs console result.1 ∧
      t.Replaced slot.location bytes result.2 ∧ result.2.read path = .ok bytes
  /-- A device takes them. Standard output is one, and standard error, where they come after some of the log. -/
  device : ∀ path d, o.output = some path → t.destination path = .ok (.device d) → d ≠ .full →
    result.1.exitCode = 0 ∧ result.1.output = (if d = .output then bytes else []) ∧
      (∃ before after, result.1.errors = Text.utf8 (console.log (greetingEvent :: before)) ++
        (if d = .errors then bytes else []) ++ Text.utf8 (console.log after)) ∧ result.2 = t
  /-- A path that cannot be opened is a failure, and nothing is written. -/
  unopened : ∀ path fault, o.output = some path → t.destination path = .error fault →
    ∃ events, result = (⟨1, [], Text.utf8 (failureText console events fault.message)⟩, t)
  /-- So is a device that is full. -/
  full : ∀ path, o.output = some path → t.destination path = .ok (.device .full) →
    ∃ events, result = (⟨1, [], Text.utf8 (failureText console events PathFault.noSpace.message)⟩, t)

theorem log_append (console : Console) (events events' : List Event) :
    console.log (events ++ events') = console.log events ++ console.log events' := by
  simp [Console.log]

theorem errors_taken (console : Console) (o : Options) (events : List Event) (picture : Picture) (path : String)
    {d : Device} (h : d ≠ .full) :
    (taken console o events picture path d).errors = Text.utf8 (console.log (progress console o events picture)) ++
      (if d = .errors then picture.file o.format else []) ++ Text.utf8 (console.log [writtenEvent console o path]) := by
  have hlog : Text.utf8 (console.log (progress console o events picture ++ [writtenEvent console o path])) =
      Text.utf8 (console.log (progress console o events picture)) ++ [] ++
        Text.utf8 (console.log [writtenEvent console o path]) := by
    rw [log_append, Text.utf8_append, List.append_nil]
  cases d with
  | full => exact absurd rfl h
  | null | output => exact hlog
  | errors => rfl

theorem delivery_produce {text : String} {picture : Picture} (h : (paint console host o text).2 = .ok picture) :
    Delivery console o t (picture.file o.format) (produce console host o text t) := by
  have hpaint : paint console host o text = ((paint console host o text).1, .ok picture) := Prod.ext rfl h
  unfold produce
  rw [hpaint]
  constructor
  · intro hout
    rw [hout]
    exact ⟨rfl, rfl, ⟨_, rfl⟩, rfl⟩
  · intro path slot hout hto
    simp only [hout, hto]
    exact ⟨rfl, rfl, ⟨_, rfl⟩, t.replaced_put slot _, FileTree.read_put _ hto⟩
  · intro path d hout hto hfull
    rw [hout]
    dsimp only
    rw [hto]
    have herrors := errors_taken console o (paint console host o text).1 picture path hfull
    cases d with
    | full => exact absurd rfl hfull
    | null | errors | output => exact ⟨rfl, rfl, ⟨_, _, herrors⟩, rfl⟩
  · intro path fault hout hto
    simp only [hout, hto]
    exact ⟨_, rfl⟩
  · intro path hout hto
    simp only [hout, hto]
    exact ⟨_, rfl⟩

end Renderer

end Orbit
