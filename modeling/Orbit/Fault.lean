import Orbit.Text.Quoted

/-!
# What can go wrong with a program

* `MemoryFault` : why no executable memory could be had.
* `Fault` : a text that is no program, code that does not fit, or memory that is not there.
* `Fault.message` : the sentence shown to the user.
-/

namespace Orbit

inductive MemoryFault where
  /-- The size has no multiple of the page size above it that fits in an address. -/
  | tooLarge (size : Nat)
  /-- The system did not map the pages, and said why. -/
  | unmapped (reason : String)
  /-- The system did not take away the right to write, and said why. -/
  | unprotected (reason : String)
deriving DecidableEq, Repr

def MemoryFault.message : MemoryFault → String
  | tooLarge size => s!"region of {size} bytes overflows usize"
  | unmapped reason => "mmap(PROT_READ|PROT_WRITE|PROT_EXEC) failed: " ++ reason
  | unprotected reason => "mprotect(PROT_READ|PROT_EXEC) failed: " ++ reason

/-- Why a program could not be read, assembled or compiled. -/
inductive Fault where
  /-- No instruction: the place of the first wrong byte, the text of its triple and the byte itself. -/
  | undefinedInstruction (offset : Nat) (fragment : String) (byte : UInt8)
  /-- The next instruction needs more bytes than the buffer has. -/
  | codeOverflow (capacity required : Nat)
  /-- No executable memory. -/
  | noMemory (cause : MemoryFault)
deriving DecidableEq, Repr

def Fault.message : Fault → String
  | undefinedInstruction offset fragment byte =>
    "undefined instruction " ++ Text.quoted fragment ++ s!" at offset {offset} (ASCII 0x" ++ Text.hexByte byte ++ ")"
  | codeOverflow capacity required => s!"code buffer overflow: {required} bytes required, capacity is {capacity}"
  | noMemory cause => "executable memory unavailable: " ++ cause.message

end Orbit
