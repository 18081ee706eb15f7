import Orbit.Scalar

/-!
# Complex registers

Four registers `a`, `b`, `c`, `d`, each a complex number. In memory they are sixteen bytes apiece, real
part first, one after the other, 64 bytes in all.

* `Register` : the four names; `Register.index`, `Register.offset`, `Register.ofByte?`, `Register.ofIndex?`.
* `Complex α` : a pair of scalars with the product and the sum of complex numbers.
* `Registers α` : the four values; `Registers.get`, `Registers.set`, `Registers.atPoint`.
-/

namespace Orbit

inductive Register where
  | a
  | b
  | c
  | d
deriving DecidableEq, Repr

namespace Register

def all : List Register := [a, b, c, d]

def index : Register → Nat
  | a => 0
  | b => 1
  | c => 2
  | d => 3

def letter : Register → Char
  | a => 'a'
  | b => 'b'
  | c => 'c'
  | d => 'd'

def byte : Register → UInt8
  | a => 0x61
  | b => 0x62
  | c => 0x63
  | d => 0x64

def ofByte? (byte : UInt8) : Option Register :=
  if byte = 0x61 then some a
  else if byte = 0x62 then some b
  else if byte = 0x63 then some c
  else if byte = 0x64 then some d
  else none

def ofIndex? : Nat → Option Register
  | 0 => some a
  | 1 => some b
  | 2 => some c
  | 3 => some d
  | _ => none

/-- The distance in bytes from the start of the registers in memory. -/
def offset (r : Register) : Nat := 16 * r.index

@[simp] theorem ofByte?_byte (r : Register) : ofByte? r.byte = some r := by cases r <;> rfl

theorem eq_byte_of_ofByte? {x : UInt8} {r : Register} (h : ofByte? x = some r) : x = r.byte := by
  unfold ofByte? at h
  split at h
  · simp_all [byte]; subst h; rfl
  · split at h
    · simp_all; subst h; rfl
    · split at h
      · simp_all; subst h; rfl
      · split at h
        · simp_all; subst h; rfl
        · simp at h

end Register

@[ext]
structure Complex (α : Type) where
  re : α
  im : α
deriving DecidableEq, Repr

namespace Complex

variable {α : Type}

def add [Add α] (z w : Complex α) : Complex α := ⟨z.re + w.re, z.im + w.im⟩

/-- The product `z · w`; the left factor comes first in every product of parts. -/
def mul [Add α] [Sub α] [Mul α] (z w : Complex α) : Complex α :=
  ⟨z.re * w.re - z.im * w.im, z.re * w.im + z.im * w.re⟩

def normSq [Add α] [Mul α] (z : Complex α) : α := z.re * z.re + z.im * z.im

def zero [Scalar α] : Complex α := ⟨Scalar.zero, Scalar.zero⟩

/-- Equality of the parts as numbers, which is not the equality of values: zero equals its negative, and what is
no number differs from itself. -/
def numericallyEqual [BEq α] (z w : Complex α) : Bool := z.re == w.re && z.im == w.im

end Complex

@[ext]
structure Registers (α : Type) where
  a : Complex α
  b : Complex α
  c : Complex α
  d : Complex α
deriving DecidableEq, Repr

namespace Registers

variable {α : Type}

def get (r : Registers α) : Register → Complex α
  | .a => r.a
  | .b => r.b
  | .c => r.c
  | .d => r.d

def set (r : Registers α) (name : Register) (value : Complex α) : Registers α :=
  match name with
  | .a => { r with a := value }
  | .b => { r with b := value }
  | .c => { r with c := value }
  | .d => { r with d := value }

def cleared [Scalar α] : Registers α := ⟨Complex.zero, Complex.zero, Complex.zero, Complex.zero⟩

/-- The start of an orbit: the point in `a`, the rest zero. -/
def atPoint [Scalar α] (point : Complex α) : Registers α := { (cleared : Registers α) with a := point }

/-- The registers after a list of assignments, from left to right. -/
def assign (r : Registers α) (assignments : List (Register × Complex α)) : Registers α :=
  assignments.foldl (fun r (name, value) => r.set name value) r

def numericallyEqual [BEq α] (r s : Registers α) : Bool :=
  r.a.numericallyEqual s.a && r.b.numericallyEqual s.b && r.c.numericallyEqual s.c && r.d.numericallyEqual s.d

@[simp] theorem get_set_self (r : Registers α) (name : Register) (value : Complex α) :
    (r.set name value).get name = value := by cases name <;> rfl

@[simp] theorem get_set_ne {name other : Register} (r : Registers α) (value : Complex α) (h : other ≠ name) :
    (r.set name value).get other = r.get other := by
  cases name <;> cases other <;> first | rfl | exact absurd rfl h

theorem ext_get {r s : Registers α} (h : ∀ name, r.get name = s.get name) : r = s :=
  Registers.ext (h .a) (h .b) (h .c) (h .d)

end Registers

end Orbit
