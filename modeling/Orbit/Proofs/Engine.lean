import Orbit.Proofs.Program.Text
import Orbit.Proofs.Routine.Simulation
import Orbit.Renderer.Process

/-!
# The engines agree

Compiled code, the interpreter and the quadratic step are carried out in different ways, and they leave the same
registers after any number of steps from any registers. A picture sees its kernel only through the steps, so the
pictures are the same as well. Of the arithmetic, only compiled code asks for sums and products that do not depend on
the order of the operands.

* `Kernel.Agree α k l` : the two kernels leave the same registers and give the same pictures;
* `Engine.kernel_jit_cases` : a kernel of compiled code is there unless the system refuses memory;
* `Program.run_quadratic` : the quadratic step is the program `*bb+ab`;
* `Renderer.paint_eq_render` : a picture of the command is the rendering with the engine's kernel, once the text is a
  program. A text that is none is refused with any engine (`paint_of_parse_error`).
-/

namespace Orbit

variable {α : Type} [Scalar α]

/-! ## Kernels -/

/-- Two kernels that cannot be told apart: by the registers after any number of steps, and by their pictures. -/
structure Kernel.Agree (α : Type) [Scalar α] (k l : Kernel) : Prop where
  steps : ∀ (n : Nat) (r : Registers α), k.step^[n] r = l.step^[n] r
  pictures : ∀ (view : Viewport α) (cap : UInt32), render k.step view cap = render l.step view cap

theorem Kernel.agree_of_step_eq {k l : Kernel} (h : ∀ r : Registers α, k.step r = l.step r) : k.Agree α l := by
  have hstep : (k.step : Registers α → Registers α) = l.step := funext h
  constructor
  · intro n r
    rw [hstep]
  · intro view cap
    rw [hstep]

theorem Routine.Holds.step_native [CommutativeScalar α] {u : Routine} {p : Program} (h : u.Holds p)
    (r : Registers α) : (Kernel.native u.body).step r = p.run r := by
  show u.call r = p.run r
  rw [h.call_eq, p.native_eq_run]

def Program.quadratic : Program := [⟨.multiply, .b, .b⟩, ⟨.add, .a, .b⟩]

theorem Program.parse_quadratic : parse "*bb+ab" = .ok quadratic := parse_eq_ok.2 (by decide)

theorem Program.run_quadratic (r : Registers α) : quadratic.run r = r.quadratic := rfl

/-! ## Engines -/

/-- What preparing compiled code can do: it fails as the system does, or it gives the body of the compiled program. -/
theorem Engine.kernel_jit_cases (host : Host) (p : Program) :
    (∃ fault, host.fault? (p.sizeBound .native) = some fault ∧ Engine.jit.kernel host p = .error fault) ∨
    (host.fault? (p.sizeBound .native) = none ∧
      ∃ u : Routine, Engine.jit.kernel host p = .ok (.native u.body) ∧ u.Holds p) := by
  rcases p.compile_cases host 0 with ⟨fault, hfault, hcompile⟩ | ⟨hgrant, u, hcompile, hholds⟩
  · refine Or.inl ⟨fault, hfault, ?_⟩
    simp only [kernel, hcompile]
  · refine Or.inr ⟨hgrant, u, ?_, hholds⟩
    simp only [kernel, hcompile]

theorem Engine.exists_kernel {host : Host} {p : Program} (hgrant : host.fault? (p.sizeBound .native) = none)
    (engine : Engine) : ∃ k, engine.kernel host p = .ok k := by
  cases engine with
  | jit =>
    rcases kernel_jit_cases host p with ⟨fault, hfault, -⟩ | ⟨-, u, hok, -⟩
    · rw [hgrant] at hfault
      cases hfault
    · exact ⟨_, hok⟩
  | interpret | hardcoded => exact ⟨_, rfl⟩

theorem Engine.agree_of_jit [CommutativeScalar α] {host : Host} {p : Program} {k : Kernel}
    (h : Engine.jit.kernel host p = .ok k) : k.Agree α (.interpreted p) := by
  rcases kernel_jit_cases host p with ⟨fault, -, herror⟩ | ⟨-, u, hok, hholds⟩
  · rw [herror] at h
    cases h
  · rw [hok] at h
    cases h
    exact Kernel.agree_of_step_eq hholds.step_native

theorem Kernel.agree_quadratic : Kernel.Agree α .quadratic (.interpreted .quadratic) :=
  agree_of_step_eq fun r => (Program.run_quadratic r).symm

/-! ## Pictures of the command -/

namespace Renderer

theorem prepare_snd (console : Console) (host : Host) (engine : Engine) (p : Program) :
    (prepare console host engine p).2 = engine.kernel host p := by
  cases engine with
  | jit =>
    simp only [prepare]
    split <;> rfl
  | interpret | hardcoded => rfl

theorem paint_of_parse_error (console : Console) (host : Host) (options : Options) {text : String} {fault : Fault}
    (h : Program.parse text = .error fault) :
    (paint console host options text).2 = .error (.program fault) := by
  simp only [paint, h]

theorem paint_eq_render (console : Console) {host : Host} {options : Options} {text : String} {p : Program}
    {k : Kernel} (hparse : Program.parse text = .ok p) (hkernel : options.engine.kernel host p = .ok k) :
    (paint console host options text).2 = (render k.step options.viewport options.cap).mapError .ofPicture := by
  have hprepare := prepare_snd console host options.engine p
  rw [hkernel] at hprepare
  obtain ⟨events, hevents⟩ : ∃ events, prepare console host options.engine p = (events, .ok k) :=
    ⟨_, Prod.ext rfl hprepare⟩
  cases hcheck : options.viewport.check with
  | some fault => simp only [paint, hparse, hcheck, render, Except.mapError, RenderFault.ofPicture]
  | none =>
    simp only [paint, hparse, hcheck, hevents]
    cases render k.step options.viewport options.cap <;> rfl

/-- Engines whose kernels agree give the same picture. -/
theorem paint_eq_of_agree (console : Console) {host : Host} {options options' : Options} {text text' : String}
    {p q : Program} {k l : Kernel} (hp : Program.parse text = .ok p) (hq : Program.parse text' = .ok q)
    (hk : options.engine.kernel host p = .ok k) (hl : options'.engine.kernel host q = .ok l)
    (hview : options.viewport = options'.viewport) (hcap : options.cap = options'.cap) (h : k.Agree Float l) :
    (paint console host options text).2 = (paint console host options' text').2 := by
  rw [paint_eq_render console hp hk, paint_eq_render console hq hl, hview, hcap, h.pictures]

end Renderer

/-! ## The result -/

/-- **The engines agree.** The kernel of compiled code, and of whatever runs in its place where machine code cannot be
executed, does what the interpreter does, and there is one if the system grants memory. The quadratic kernel does what
the program `*bb+ab` does, whatever the program is that it is prepared for; so a text that is a program gives the same
picture, or the same fault of the viewport, with the one as `*bb+ab` does with the other. -/
theorem engines_agree (α : Type) [Scalar α] (host : Host) :
    ([CommutativeScalar α] → ∀ (p : Program) (executes : Bool) (k : Kernel),
      (Engine.jit.effective executes).kernel host p = .ok k →
        ∃ l, Engine.interpret.kernel host p = .ok l ∧ k.Agree α l) ∧
    (∀ p : Program, host.fault? (p.sizeBound .native) = none → ∃ k, Engine.jit.kernel host p = .ok k) ∧
    ∀ (text : String) (p : Program), Program.parse text = .ok p →
      (∃ q k l, Program.parse "*bb+ab" = .ok q ∧ Engine.hardcoded.kernel host p = .ok k ∧
        Engine.interpret.kernel host q = .ok l ∧ k.Agree α l) ∧
      ∀ (console : Console) (options : Renderer.Options),
        (Renderer.paint console host { options with engine := .hardcoded } text).2 =
          (Renderer.paint console host { options with engine := .interpret } "*bb+ab").2 := by
  refine ⟨fun p executes k hk => ⟨.interpreted p, rfl, ?_⟩, fun p hgrant => ?_, fun text p hparse => ⟨?_, ?_⟩⟩
  · cases executes with
    | true => exact Engine.agree_of_jit hk
    | false =>
      cases hk
      exact Kernel.agree_of_step_eq fun r => rfl
  · exact Engine.exists_kernel hgrant .jit
  · exact ⟨.quadratic, .quadratic, .interpreted .quadratic, Program.parse_quadratic, rfl, rfl, Kernel.agree_quadratic⟩
  · intro console options
    exact Renderer.paint_eq_of_agree console hparse Program.parse_quadratic rfl rfl rfl rfl Kernel.agree_quadratic

/-- A program of two instructions, compiled and interpreted, and the quadratic kernel in its place. -/
theorem engines_agree_assign_square :
    let p : Program := [⟨.assign, .a, .b⟩, ⟨.multiply, .b, .b⟩]
    Program.parse "=ab*bb" = .ok p ∧ Host.standard.fault? (p.sizeBound .native) = none ∧
      (∃ k l, Engine.jit.kernel .standard p = .ok k ∧ Engine.interpret.kernel .standard p = .ok l ∧
        k.Agree Float l) ∧
      ∃ q k l, Program.parse "*bb+ab" = .ok q ∧ Engine.hardcoded.kernel .standard p = .ok k ∧
        Engine.interpret.kernel .standard q = .ok l ∧ k.Agree Float l := by
  intro p
  have hparse : Program.parse "=ab*bb" = .ok p := Program.parse_eq_ok.2 (by decide)
  have hgrant : Host.standard.fault? (p.sizeBound .native) = none := by decide
  obtain ⟨hcompiled, hthere, hquadratic⟩ := engines_agree Float .standard
  obtain ⟨k, hk⟩ := hthere p hgrant
  obtain ⟨l, hl, hagree⟩ := hcompiled p true k hk
  exact ⟨hparse, hgrant, ⟨k, l, hk, hl, hagree⟩, (hquadratic "=ab*bb" p hparse).1⟩

/-- A text that is no program is refused, although the quadratic kernel would not look at the program. -/
theorem hardcoded_refuses_malformed_text :
    let console : Console := ⟨⟨[]⟩, ⟨false⟩, "", "", ""⟩
    let options : Renderer.Options :=
      { Renderer.Options.standard with viewport := Viewport.standard.withSize 1 1, cap := 1 }
    (Renderer.paint console .standard { options with engine := .hardcoded } "x").2 =
        .error (.program (.undefinedInstruction 0 "x" 0x78)) ∧
      (Renderer.paint console .standard { options with engine := .interpret } "*bb+ab").2 = .ok ⟨1, 1, 1, #[1]⟩ := by
  intro console options
  have hmalformed : Program.parse "x" = .error (.undefinedInstruction 0 "x" 0x78) := by decide +kernel
  constructor
  · exact Renderer.paint_of_parse_error console .standard _ hmalformed
  · rw [Renderer.paint_eq_render console Program.parse_quadratic rfl]
    decide +kernel

end Orbit
