import Orbit.Proofs.Routine.Assembly
import Orbit.Routine.Pool

/-!
# The life of regions

A client asks a pool for regions, writes to them, closes and drops them, and the system may refuse each time. What was
said is kept, request by request with the replies, and it accounts for everything that is held.

* `Pool.Turn`, `Pool.Dialogue` : a request with its reply, and a pool with all turns so far;
* `Pool.asked?`, `Pool.contents` : what the turns say about a number: the size that was asked for, and the bytes that
  were written;
* `Pool.Effect` : what one request can do (`step_effect`);
* `Dialogue.Sound` : the count is that of the regions that are held, and each is as long as it must be and holds what
  was written to it. Every request preserves it (`Sound.step`);
* `regions_accounted` : what follows for every dialogue.
-/

namespace Orbit.Pool

/-! ## Dialogues -/

structure Turn where
  request : Request
  reply : Reply

/-- A pool and everything that was said. -/
structure Dialogue where
  turns : List Turn
  pool : Pool

namespace Dialogue

def start : Dialogue := ⟨[], empty⟩

/-- The dialogue after a request, with the answers of the system to it. -/
def step (d : Dialogue) (next : Host × Request) : Dialogue :=
  let (reply, pool) := d.pool.step next.1 next.2
  ⟨d.turns ++ [⟨next.2, reply⟩], pool⟩

end Dialogue

/-- The size that is asked for when a thing gets its number. -/
def Turn.asked? (id : Nat) : Turn → Option Nat
  | ⟨.allocate size, .allocated given _⟩ => if given = id then some size else none
  | ⟨.compile text, .compiled given _ _⟩ =>
    match Program.parse text with
    | .ok p => if given = id then some (p.sizeBound .native) else none
    | .error _ => none
  | _ => none

/-- Position and bytes of a write that was done. -/
def Turn.write? (id : Nat) : Turn → Option (Nat × List UInt8)
  | ⟨.write target position bytes, .done⟩ => if target = id then some (position, bytes) else none
  | _ => none

def asked? (turns : List Turn) (id : Nat) : Option Nat := turns.findSome? (Turn.asked? id)

def writes (turns : List Turn) (id : Nat) : List (Nat × List UInt8) := turns.filterMap (Turn.write? id)

/-- The bytes of a region that was all zeros, after the writes to it. -/
def contents (turns : List Turn) (id size : Nat) : List UInt8 :=
  (writes turns id).foldl (fun bytes (position, new) => splice bytes position new) (List.replicate size 0)

theorem asked?_append (turns : List Turn) (turn : Turn) (id : Nat) :
    asked? (turns ++ [turn]) id = (asked? turns id).or (turn.asked? id) := by
  rw [asked?, List.findSome?_append, List.findSome?_singleton]
  rfl

theorem writes_append_of_none {turns : List Turn} {turn : Turn} {id : Nat} (h : turn.write? id = none) :
    writes (turns ++ [turn]) id = writes turns id := by
  rw [writes, List.filterMap_append, List.filterMap_cons_none h, List.filterMap_nil, List.append_nil]
  rfl

theorem contents_append_of_none {turns : List Turn} {turn : Turn} {id : Nat} (h : turn.write? id = none) (size : Nat) :
    contents (turns ++ [turn]) id size = contents turns id size := by
  rw [contents, writes_append_of_none h]
  rfl

theorem contents_append_write (turns : List Turn) (id position : Nat) (new : List UInt8) (size : Nat) :
    contents (turns ++ [⟨.write id position new, .done⟩]) id size = splice (contents turns id size) position new := by
  have hwrite : Turn.write? id ⟨.write id position new, .done⟩ = some (position, new) := if_pos rfl
  rw [contents, writes, List.filterMap_append, List.filterMap_cons_some hwrite, List.filterMap_nil, List.foldl_append]
  rfl

/-! ## One request -/

/-- The turns after which a pool is as it was before: new things that could not be made, what was refused, reading,
counting, and dropping what is gone. -/
def Turn.IsQuiet : Turn → Prop
  | ⟨.allocate _, .failed _⟩ | ⟨.compile _, .failed _⟩ | ⟨_, .refused⟩ => True
  | ⟨.read _ _, _⟩ | ⟨.count, _⟩ | ⟨.drop _, _⟩ => True
  | _ => False

/-- What a request can do to a pool. -/
inductive Effect (pool : Pool) : Turn → Pool → Prop
  | kept {turn : Turn} (quiet : turn.IsQuiet) : Effect pool turn pool
  | allocated {size n : Nat} (pages : pagesFor? size = some n) :
    Effect pool ⟨.allocate size, .allocated pool.holdings.size n⟩
      ⟨pool.live + 1, pool.holdings.push (.writable (.blank n))⟩
  | compiled {text : String} {p : Program} {u : Routine} (parse : Program.parse text = .ok p) (holds : u.Holds p) :
    Effect pool ⟨.compile text, .compiled pool.holdings.size u.region.size u.codeLength⟩
      ⟨pool.live + 1, pool.holdings.push (.routine u)⟩
  | written {id position : Nat} {bytes : List UInt8} {r : Region} (held : pool.holding id = .writable r)
    (fits : position + bytes.length ≤ r.size) :
    Effect pool ⟨.write id position bytes, .done⟩ (pool.put id (.writable (r.write position bytes)))
  | closed {id : Nat} {r : Region} (held : pool.holding id = .writable r) :
    Effect pool ⟨.close id, .closed r.size⟩ (pool.put id (.closed ⟨r⟩))
  | spoiled {id : Nat} {r : Region} {fault : Fault} (held : pool.holding id = .writable r) :
    Effect pool ⟨.close id, .failed fault⟩ { pool.put id .gone with live := Region.release pool.live }
  | dropped {id : Nat} (held : (pool.holding id).isMapped = true) :
    Effect pool ⟨.drop id, .done⟩ { pool.put id .gone with live := Region.release pool.live }

theorem step_effect (host : Host) (pool : Pool) (request : Request) :
    Effect pool ⟨request, (pool.step host request).1⟩ (pool.step host request).2 := by
  cases request with
  | allocate size =>
    cases hpages : pagesFor? size with
    | none =>
      simp only [step, Region.allocate, hpages]
      exact .kept trivial
    | some n =>
      cases hmap : host.map n with
      | some reason =>
        simp only [step, Region.allocate, hpages, hmap]
        exact .kept trivial
      | none =>
        simp only [step, Region.allocate, hpages, hmap]
        exact .allocated hpages
  | compile text =>
    cases hparse : Program.parse text with
    | error fault =>
      simp only [step, Program.compileText, hparse]
      exact .kept trivial
    | ok p =>
      rcases p.compile_cases host pool.live with ⟨fault, -, hcompile⟩ | ⟨-, u, hcompile, hu⟩
      · simp only [step, Program.compileText, hparse, hcompile]
        exact .kept trivial
      · simp only [step, Program.compileText, hparse, hcompile]
        exact .compiled hparse hu
  | write id position bytes =>
    cases hheld : pool.holding id with
    | writable r =>
      by_cases hfits : position + bytes.length ≤ r.size
      · simp only [step, hheld, if_pos hfits]
        exact .written hheld hfits
      · simp only [step, hheld, if_neg hfits]
        exact .kept trivial
    | closed r | routine u | gone =>
      simp only [step, hheld]
      exact .kept trivial
  | close id =>
    cases hheld : pool.holding id with
    | writable r =>
      cases hprotect : host.protect r.size with
      | some reason =>
        simp only [step, hheld, Region.close, hprotect]
        exact .spoiled hheld
      | none =>
        simp only [step, hheld, Region.close, hprotect]
        exact .closed hheld
    | closed r | routine u | gone =>
      simp only [step, hheld]
      exact .kept trivial
  | read id count =>
    cases hheld : pool.holding id with
    | closed r | writable r | routine u | gone =>
      simp only [step, hheld]
      exact .kept trivial
  | drop id =>
    cases hheld : (pool.holding id).isMapped with
    | true =>
      simp only [step, drop, hheld, if_true]
      exact .dropped hheld
    | false =>
      simp only [step, drop, hheld]
      exact .kept trivial
  | count => exact .kept trivial

/-! ## Holdings -/

/-- The regions that are held: writable, closed, or with a routine in them. -/
def owned (pool : Pool) : Nat := pool.holdings.countP Holding.isMapped

def Holding.size? : Holding → Option Nat
  | .writable r => some r.size
  | .closed r => some r.size
  | .routine u => some u.region.size
  | .gone => none

section Holdings

variable {pool : Pool} {id other : Nat} {h : Holding}

theorem holding_of_size_le (hle : pool.holdings.size ≤ id) : pool.holding id = .gone := by
  rw [holding, Array.getD_eq_getD_getElem?, Array.getElem?_eq_none hle]
  rfl

theorem lt_size_of_isMapped (hmapped : (pool.holding id).isMapped = true) : id < pool.holdings.size := by
  by_contra hle
  rw [holding_of_size_le (by omega)] at hmapped
  cases hmapped

theorem isMapped_of_writable {r : Region} (hheld : pool.holding id = .writable r) :
    (pool.holding id).isMapped = true := by
  rw [hheld]
  rfl

theorem holding_push_size (live : Nat) : holding ⟨live, pool.holdings.push h⟩ pool.holdings.size = h := by
  simp [holding]

theorem holding_push_of_ne (live : Nat) (hne : id ≠ pool.holdings.size) :
    holding ⟨live, pool.holdings.push h⟩ id = pool.holding id := by
  rw [holding, holding, Array.getD_eq_getD_getElem?, Array.getD_eq_getD_getElem?, Array.getElem?_push, if_neg hne]

theorem holding_put_self (hlt : id < pool.holdings.size) : (pool.put id h).holding id = h := by
  simp [holding, put, hlt]

theorem holding_put_of_ne (hne : other ≠ id) : (pool.put id h).holding other = pool.holding other := by
  rw [holding, holding, put, Array.getD_eq_getD_getElem?, Array.getD_eq_getD_getElem?,
    Array.getElem?_setIfInBounds_ne (Ne.symm hne)]

theorem owned_push (live : Nat) (hmapped : h.isMapped = true) :
    owned ⟨live, pool.holdings.push h⟩ = pool.owned + 1 := by
  rw [owned, owned, Array.countP_push, if_pos hmapped]

theorem owned_put (hmapped : (pool.holding id).isMapped = true) :
    (pool.put id h).owned + 1 = pool.owned + if h.isMapped then 1 else 0 := by
  have hlt := lt_size_of_isMapped hmapped
  have hget : pool.holdings[id].isMapped = true := by
    rw [holding, Array.getD_eq_getD_getElem?, Array.getElem?_eq_getElem hlt] at hmapped
    exact hmapped
  -- what was there is counted, so taking it from the count loses nothing
  have hpos := Array.boole_getElem_le_countP (p := Holding.isMapped) hlt
  rw [if_pos hget] at hpos
  show (pool.holdings.setIfInBounds id h).countP Holding.isMapped + 1 = pool.holdings.countP Holding.isMapped + _
  rw [Array.setIfInBounds_def, dif_pos hlt, Array.countP_set hlt, if_pos hget]
  omega

end Holdings

/-! ## Accounts -/

/-- A length is the least whole pages for the size that was asked for. -/
def IsLengthOf (turns : List Turn) (id n : Nat) : Prop :=
  ∃ size, asked? turns id = some size ∧ IsLeast (wholePages size) n

/-- What is held under a number is what the turns say about it. -/
def Holding.Accounted (turns : List Turn) (id : Nat) : Holding → Prop
  | .writable r => IsLengthOf turns id r.size ∧ r.bytes.toList = contents turns id r.size
  | .closed r => IsLengthOf turns id r.size ∧ r.region.bytes.toList = contents turns id r.size
  | .routine u => IsLengthOf turns id u.region.size
  | .gone => True

/-- The count of a pool is right, the numbers that are not given yet were not spoken of, and everything that is held
is accounted for. -/
structure Dialogue.Sound (d : Dialogue) : Prop where
  live : d.pool.live = d.pool.owned
  fresh : ∀ id, d.pool.holdings.size ≤ id → asked? d.turns id = none ∧ writes d.turns id = []
  accounted : ∀ id, (d.pool.holding id).Accounted d.turns id

theorem Dialogue.sound_start : start.Sound where
  live := rfl
  fresh := fun _ _ => ⟨rfl, rfl⟩
  accounted := by
    intro id
    rw [holding_of_size_le (Nat.zero_le id)]
    trivial

section Accounts

variable {turns : List Turn} {turn : Turn} {id n : Nat} {h : Holding}

theorem IsLengthOf.append (hlength : IsLengthOf turns id n) (turn : Turn) : IsLengthOf (turns ++ [turn]) id n := by
  obtain ⟨size, hasked, hleast⟩ := hlength
  refine ⟨size, ?_, hleast⟩
  rw [asked?_append, hasked, Option.some_or]

/-- Turns that do not write to a region leave its account alone. -/
theorem Holding.Accounted.append (haccounted : h.Accounted turns id) (hwrite : turn.write? id = none) :
    h.Accounted (turns ++ [turn]) id := by
  cases h with
  | writable r =>
    obtain ⟨hlength, hbytes⟩ := haccounted
    exact ⟨hlength.append turn, by rw [contents_append_of_none hwrite, hbytes]⟩
  | closed r =>
    obtain ⟨hlength, hbytes⟩ := haccounted
    exact ⟨hlength.append turn, by rw [contents_append_of_none hwrite, hbytes]⟩
  | routine u => exact IsLengthOf.append haccounted turn
  | gone => trivial

theorem Holding.Accounted.isLengthOf (haccounted : h.Accounted turns id) (hn : h.size? = some n) :
    IsLengthOf turns id n := by
  cases h with
  | writable r =>
    cases hn
    exact haccounted.1
  | closed r =>
    cases hn
    exact haccounted.1
  | routine u =>
    cases hn
    exact haccounted
  | gone => cases hn

theorem Turn.IsQuiet.asked?_eq (hquiet : turn.IsQuiet) (id : Nat) : turn.asked? id = none := by
  obtain ⟨request, reply⟩ := turn
  cases request <;> cases reply <;> first | rfl | exact hquiet.elim

theorem Turn.IsQuiet.write?_eq (hquiet : turn.IsQuiet) (id : Nat) : turn.write? id = none := by
  obtain ⟨request, reply⟩ := turn
  cases request <;> cases reply <;> first | rfl | exact hquiet.elim

end Accounts

namespace Dialogue.Sound

variable {d : Dialogue} {turn : Turn} {id : Nat} {h : Holding}

theorem kept (hd : d.Sound) (hquiet : turn.IsQuiet) : Sound ⟨d.turns ++ [turn], d.pool⟩ where
  live := hd.live
  fresh := by
    intro other hle
    obtain ⟨hasked, hwrites⟩ := hd.fresh other hle
    exact ⟨by rw [asked?_append, hasked, hquiet.asked?_eq]; rfl,
      by rw [writes_append_of_none (hquiet.write?_eq other), hwrites]⟩
  accounted := fun other => (hd.accounted other).append (hquiet.write?_eq other)

/-- A new thing gets the next number. -/
theorem push (hd : d.Sound) (hmapped : h.isMapped = true)
    (hasked : ∀ other, other ≠ d.pool.holdings.size → turn.asked? other = none)
    (hwrite : ∀ other, turn.write? other = none)
    (haccounted : h.Accounted (d.turns ++ [turn]) d.pool.holdings.size) :
    Sound ⟨d.turns ++ [turn], ⟨d.pool.live + 1, d.pool.holdings.push h⟩⟩ where
  live := by
    show d.pool.live + 1 = owned ⟨d.pool.live + 1, d.pool.holdings.push h⟩
    rw [owned_push _ hmapped, hd.live]
  fresh := by
    intro other hle
    have hlt : d.pool.holdings.size < other := by
      rw [Array.size_push] at hle
      omega
    obtain ⟨hnone, hwrites⟩ := hd.fresh other hlt.le
    exact ⟨by rw [asked?_append, hnone, hasked other hlt.ne']; rfl,
      by rw [writes_append_of_none (hwrite other), hwrites]⟩
  accounted := by
    intro other
    by_cases hother : other = d.pool.holdings.size
    · subst hother
      rw [holding_push_size]
      exact haccounted
    · rw [holding_push_of_ne _ hother]
      exact (hd.accounted other).append (hwrite other)

/-- Something else takes the place of a thing that is held. -/
theorem put (hd : d.Sound) (hmapped : (d.pool.holding id).isMapped = true) {live : Nat}
    (hlive : live + 1 = d.pool.live + if h.isMapped then 1 else 0)
    (hasked : ∀ other, turn.asked? other = none) (hwrite : ∀ other, other ≠ id → turn.write? other = none)
    (haccounted : h.Accounted (d.turns ++ [turn]) id) :
    Sound ⟨d.turns ++ [turn], { d.pool.put id h with live := live }⟩ where
  live := by
    have howned := owned_put (h := h) hmapped
    show live = (d.pool.put id h).owned
    rw [hd.live] at hlive
    omega
  fresh := by
    intro other hle
    have hle : d.pool.holdings.size ≤ other := by simpa [Pool.put] using hle
    have hlt := lt_size_of_isMapped hmapped
    obtain ⟨hnone, hwrites⟩ := hd.fresh other hle
    exact ⟨by rw [asked?_append, hnone, hasked other]; rfl,
      by rw [writes_append_of_none (hwrite other (by omega)), hwrites]⟩
  accounted := by
    intro other
    show ((d.pool.put id h).holding other).Accounted _ other
    by_cases hother : other = id
    · subst hother
      rw [holding_put_self (lt_size_of_isMapped hmapped)]
      exact haccounted
    · rw [holding_put_of_ne hother]
      exact (hd.accounted other).append (hwrite other hother)

/-- A region that is given back was counted. -/
theorem release_live (hd : d.Sound) (hmapped : (d.pool.holding id).isMapped = true) :
    Region.release d.pool.live + 1 = d.pool.live := by
  have howned := owned_put (h := .gone) hmapped
  rw [hd.live]
  obtain ⟨k, hk⟩ : ∃ k, d.pool.owned = k + 1 := ⟨_, howned.symm⟩
  rw [hk, Region.release_add_one]

theorem of_effect (hd : d.Sound) {pool : Pool} (heffect : Effect d.pool turn pool) :
    Sound ⟨d.turns ++ [turn], pool⟩ := by
  -- nothing was said yet about the number that a new thing gets
  obtain ⟨hunasked, hunwritten⟩ := hd.fresh d.pool.holdings.size le_rfl
  cases heffect with
  | kept quiet => exact hd.kept quiet
  | @allocated size n pages =>
    refine hd.push rfl (fun other hne => if_neg hne.symm) (fun _ => rfl) ⟨⟨size, ?_, ?_⟩, ?_⟩
    · rw [asked?_append, hunasked]
      exact if_pos rfl
    · exact (pagesFor?_eq_some.1 pages).1
    · rw [Region.toList_bytes_blank, contents_append_of_none rfl, contents, hunwritten]
      rfl
  | @compiled text p u parse holds =>
    refine hd.push rfl (fun other hne => ?_) (fun _ => rfl) ⟨p.sizeBound .native, ?_, ?_⟩
    · simp only [Turn.asked?, parse, if_neg hne.symm]
    · simp only [asked?_append, hunasked, Turn.asked?, parse, if_true, Option.none_or]
    · exact (pagesFor?_eq_some.1 holds.pages).1
  | @written id position bytes r held fits =>
    obtain ⟨hlength, hbytes⟩ : (Holding.writable r).Accounted d.turns id := held ▸ hd.accounted id
    refine hd.put (isMapped_of_writable held) rfl (fun _ => rfl) (fun other hne => if_neg hne.symm)
      ⟨hlength.append _, ?_⟩
    rw [r.toList_bytes_write fits, contents_append_write, hbytes]
    rfl
  | @closed id r held =>
    have haccounted : (Holding.writable r).Accounted d.turns id := held ▸ hd.accounted id
    exact hd.put (h := .closed ⟨r⟩) (isMapped_of_writable held) rfl (fun _ => rfl) (fun _ _ => rfl)
      (haccounted.append rfl)
  | spoiled held =>
    have hmapped := isMapped_of_writable held
    exact hd.put hmapped (hd.release_live hmapped) (fun _ => rfl) (fun _ _ => rfl) trivial
  | dropped held => exact hd.put held (hd.release_live held) (fun _ => rfl) (fun _ _ => rfl) trivial

theorem step (hd : d.Sound) (next : Host × Request) : (d.step next).Sound :=
  hd.of_effect (step_effect next.1 d.pool next.2)

theorem foldl_step (hd : d.Sound) (history : List (Host × Request)) : (history.foldl Dialogue.step d).Sound := by
  induction history generalizing d with
  | nil => exact hd
  | cons next rest ih => exact ih (hd.step next)

end Dialogue.Sound

/-! ## Consequences -/

section Consequences

variable {d : Dialogue} {pool : Pool} {turn : Turn} {id size : Nat}

theorem effect_of_reply {host : Host} {request : Request} {reply : Reply} (h : (pool.step host request).1 = reply) :
    Effect pool ⟨request, reply⟩ (pool.step host request).2 :=
  h ▸ step_effect host pool request

/-- Nothing but a close changes a pool when it fails. -/
theorem Effect.eq_of_failed {request : Request} {fault : Fault} (heffect : Effect d.pool ⟨request, .failed fault⟩ pool)
    (hclose : ∀ id, request ≠ .close id) : pool = d.pool := by
  cases heffect with
  | kept quiet => rfl
  | spoiled held => exact absurd rfl (hclose _)

/-- A close that fails lowers the count by one. -/
theorem Effect.live_spoiled {fault : Fault} (heffect : Effect d.pool ⟨.close id, .failed fault⟩ pool) (hd : d.Sound) :
    pool.live + 1 = d.pool.live := by
  cases heffect with
  | kept quiet => exact quiet.elim
  | spoiled held => exact hd.release_live (isMapped_of_writable held)

/-- A new thing gets a number under which nothing was held, and is counted. -/
theorem pushed (pool : Pool) {h : Holding} {n : Nat} (hsize : h.size? = some n) :
    let after : Pool := ⟨pool.live + 1, pool.holdings.push h⟩
    pool.holding pool.holdings.size = .gone ∧ (after.holding pool.holdings.size).size? = some n ∧
      after.live = pool.live + 1 := by
  refine ⟨holding_of_size_le le_rfl, ?_, rfl⟩
  rw [holding_push_size]
  exact hsize

theorem Effect.of_allocated {n : Nat} (heffect : Effect d.pool ⟨.allocate size, .allocated id n⟩ pool) :
    d.pool.holding id = .gone ∧ (pool.holding id).size? = some n ∧ pool.live = d.pool.live + 1 := by
  cases heffect with
  | kept quiet => exact quiet.elim
  | allocated pages => exact d.pool.pushed rfl

theorem Effect.of_compiled {text : String} {n length : Nat}
    (heffect : Effect d.pool ⟨.compile text, .compiled id n length⟩ pool) :
    d.pool.holding id = .gone ∧ (pool.holding id).size? = some n ∧ pool.live = d.pool.live + 1 := by
  cases heffect with
  | kept quiet => exact quiet.elim
  | compiled parse holds => exact d.pool.pushed rfl

/-- What is dropped is gone, and is counted no more. -/
theorem Dialogue.Sound.drop (hd : d.Sound) (hheld : d.pool.holding id ≠ .gone) :
    (d.pool.drop id).holding id = .gone ∧ (d.pool.drop id).live + 1 = d.pool.live := by
  have hmapped : (d.pool.holding id).isMapped = true := by
    cases hholding : d.pool.holding id with
    | gone => exact absurd hholding hheld
    | writable r | closed r | routine u => rfl
  unfold Pool.drop
  rw [if_pos hmapped]
  exact ⟨holding_put_self (lt_size_of_isMapped hmapped), hd.release_live hmapped⟩

/-- A request moves the count by one at most, so that it never runs below zero. -/
theorem Effect.live_le (heffect : Effect d.pool turn pool) (hd : d.Sound) :
    pool.live ≤ d.pool.live + 1 ∧ d.pool.live ≤ pool.live + 1 := by
  have hrelease {target : Nat} (held : (d.pool.holding target).isMapped = true) :
      Region.release d.pool.live ≤ d.pool.live + 1 ∧ d.pool.live ≤ Region.release d.pool.live + 1 := by
    have hlive := hd.release_live held
    omega
  cases heffect with
  | kept quiet => exact ⟨Nat.le_succ _, Nat.le_succ _⟩
  | allocated pages => exact ⟨le_rfl, Nat.le_add_right _ 2⟩
  | compiled parse holds => exact ⟨le_rfl, Nat.le_add_right _ 2⟩
  | written held fits => exact ⟨Nat.le_succ _, Nat.le_succ _⟩
  | closed held => exact ⟨Nat.le_succ _, Nat.le_succ _⟩
  | spoiled held => exact hrelease (isMapped_of_writable held)
  | dropped held => exact hrelease held

/-- What is closed stays as it is until it is dropped. -/
theorem Effect.holding_closed (heffect : Effect d.pool turn pool) {r : SealedRegion}
    (hheld : d.pool.holding id = .closed r) (hdrop : turn.request ≠ .drop id) : pool.holding id = .closed r := by
  have hlt : id < d.pool.holdings.size := lt_size_of_isMapped (by rw [hheld]; rfl)
  -- only writable things are written or closed, and this one is not
  have hne {target : Nat} {r' : Region} (held : d.pool.holding target = .writable r') : id ≠ target := by
    rintro rfl
    rw [hheld] at held
    cases held
  cases heffect with
  | kept quiet => exact hheld
  | allocated pages => rw [holding_push_of_ne _ hlt.ne, hheld]
  | compiled parse holds => rw [holding_push_of_ne _ hlt.ne, hheld]
  | written held fits => rw [holding_put_of_ne (hne held), hheld]
  | closed held => rw [holding_put_of_ne (hne held), hheld]
  | spoiled held => exact (holding_put_of_ne (hne held)).trans hheld
  | @dropped target held =>
    have htarget : id ≠ target := by
      rintro rfl
      exact hdrop rfl
    exact (holding_put_of_ne htarget).trans hheld

theorem holding_closed_foldl {r : SealedRegion} (hheld : d.pool.holding id = .closed r) (later : List (Host × Request))
    (hdrop : ∀ next ∈ later, next.2 ≠ .drop id) : (later.foldl Dialogue.step d).pool.holding id = .closed r := by
  induction later generalizing d with
  | nil => exact hheld
  | cons next rest ih =>
    refine ih ?_ (fun other hother => hdrop other (List.mem_cons_of_mem _ hother))
    exact (step_effect next.1 d.pool next.2).holding_closed hheld (hdrop next List.mem_cons_self)

end Consequences

/-! ## Sizes that are too large -/

theorem step_allocate_tooLarge (host : Host) (pool : Pool) (size : Nat) :
    (pool.step host (.allocate size)).1 = .failed (.noMemory (.tooLarge size)) ↔ pagesFor? size = none := by
  cases hpages : pagesFor? size with
  | none => simp [step, Region.allocate, hpages]
  | some n => cases hmap : host.map n <;> simp [step, Region.allocate, hpages, hmap]

theorem step_compile_tooLarge (host : Host) (pool : Pool) {text : String} {p : Program}
    (hparse : Program.parse text = .ok p) :
    (pool.step host (.compile text)).1 = .failed (.noMemory (.tooLarge (p.sizeBound .native))) ↔
      pagesFor? (p.sizeBound .native) = none := by
  have hfault : host.fault? (p.sizeBound .native) = some (.noMemory (.tooLarge (p.sizeBound .native))) ↔
      pagesFor? (p.sizeBound .native) = none := by
    unfold Host.fault?
    cases hpages : pagesFor? (p.sizeBound .native) with
    | none => simp
    | some n => cases hmap : host.map n <;> cases hprotect : host.protect n <;> simp [hmap, hprotect]
  rw [← hfault]
  rcases p.compile_cases host pool.live with ⟨fault, hsome, hcompile⟩ | ⟨hnone, u, hcompile, -⟩
  · simp [step, Program.compileText, hparse, hcompile, hsome]
  · simp [step, Program.compileText, hparse, hcompile, hnone]

/-- **Every region is accounted for.** After any requests, whatever the system answered, the count is that of the
regions that are held, and the next request moves it by one at most. Making something adds one, under the number in the
reply, or fails and changes nothing; dropping something that is held, and closing that fails, lowers the count by one.
Every region is as long as the least whole pages for the size that was asked for, and a size is too large exactly if
that length is no 64-bit number. A closed region shows zeros with everything that was written to it, in order, whatever
else is asked for before it is dropped. -/
theorem regions_accounted (history : List (Host × Request)) :
    let d := history.foldl Dialogue.step Dialogue.start
    d.pool.live = d.pool.owned ∧
      (∀ host request, let after := (d.pool.step host request).2
        after.live ≤ d.pool.live + 1 ∧ d.pool.live ≤ after.live + 1) ∧
      (∀ host size fault, (d.pool.step host (.allocate size)).1 = .failed fault →
        (d.pool.step host (.allocate size)).2 = d.pool) ∧
      (∀ host text fault, (d.pool.step host (.compile text)).1 = .failed fault →
        (d.pool.step host (.compile text)).2 = d.pool) ∧
      (∀ host id fault, (d.pool.step host (.close id)).1 = .failed fault →
        (d.pool.step host (.close id)).2.live + 1 = d.pool.live) ∧
      (∀ host size id n, let after := (d.pool.step host (.allocate size)).2
        (d.pool.step host (.allocate size)).1 = .allocated id n →
          d.pool.holding id = .gone ∧ (after.holding id).size? = some n ∧ after.live = d.pool.live + 1) ∧
      (∀ host text id n length, let after := (d.pool.step host (.compile text)).2
        (d.pool.step host (.compile text)).1 = .compiled id n length →
          d.pool.holding id = .gone ∧ (after.holding id).size? = some n ∧ after.live = d.pool.live + 1) ∧
      (∀ host id, let after := (d.pool.step host (.drop id)).2
        d.pool.holding id ≠ .gone → after.holding id = .gone ∧ after.live + 1 = d.pool.live) ∧
      (∀ id n, (d.pool.holding id).size? = some n →
        ∃ size, asked? d.turns id = some size ∧ IsLeast (wholePages size) n) ∧
      (∀ host size n, IsLeast (wholePages size) n →
        ((d.pool.step host (.allocate size)).1 = .failed (.noMemory (.tooLarge size)) ↔ UInt64.size ≤ n)) ∧
      (∀ host text p n, Program.parse text = .ok p → IsLeast (wholePages (p.sizeBound .native)) n →
        ((d.pool.step host (.compile text)).1 = .failed (.noMemory (.tooLarge (p.sizeBound .native))) ↔
          UInt64.size ≤ n)) ∧
      ∀ id r (later : List (Host × Request)), d.pool.holding id = .closed r → (∀ next ∈ later, next.2 ≠ .drop id) →
        ∀ host count, ((later.foldl Dialogue.step d).pool.step host (.read id count)).1 = .bytes r count ∧
          r.bytes count = (contents d.turns id r.size).take count := by
  intro d
  have hd : d.Sound := Dialogue.sound_start.foldl_step history
  refine ⟨hd.live, ?_, ?_, ?_, ?_, ?_, ?_, ?_, ?_, ?_, ?_, ?_⟩
  · intro host request
    exact (step_effect host d.pool request).live_le hd
  · intro host size fault hfailed
    exact (effect_of_reply hfailed).eq_of_failed (by simp)
  · intro host text fault hfailed
    exact (effect_of_reply hfailed).eq_of_failed (by simp)
  · intro host id fault hfailed
    exact (effect_of_reply hfailed).live_spoiled hd
  · intro host size id n after hmade
    exact (effect_of_reply hmade).of_allocated
  · intro host text id n length after hmade
    exact (effect_of_reply hmade).of_compiled
  · intro host id after hheld
    exact hd.drop hheld
  · intro id n hn
    exact (hd.accounted id).isLengthOf hn
  · intro host size n hleast
    rw [step_allocate_tooLarge, pagesFor?_eq_none hleast]
  · intro host text p n hparse hleast
    rw [step_compile_tooLarge host d.pool hparse, pagesFor?_eq_none hleast]
  · intro id r later hheld hdrop host count
    constructor
    · simp only [step, holding_closed_foldl hheld later hdrop]
    · have haccounted := hd.accounted id
      rw [hheld] at haccounted
      rw [r.bytes_eq_take, haccounted.2]

/-- A region is written twice and closed; what is asked for a second one later does not change it. When it is dropped
nothing is held any more. -/
theorem regions_accounted_overlapping :
    let history : List (Host × Request) :=
      [(.standard, .allocate 5000), (.standard, .write 0 1 [7, 8, 9]), (.standard, .write 0 2 [5]),
        (.standard, .close 0)]
    let later : List (Host × Request) := [(.standard, .allocate 1), (.standard, .write 1 0 [3]), (.standard, .close 1)]
    let d := history.foldl Dialogue.step Dialogue.start
    d.pool.live = 1 ∧ ∃ r : SealedRegion, r.size = 8192 ∧
      ((later.foldl Dialogue.step d).pool.step .standard (.read 0 5)).1 = .bytes r 5 ∧ r.bytes 5 = [0, 7, 5, 9, 0] ∧
      (d.pool.step .standard (.drop 0)).2.live = 0 := by
  intro history later d
  have h := regions_accounted history
  obtain ⟨r, hclosed, hsize⟩ : ∃ r : SealedRegion, d.pool.holding 0 = .closed r ∧ r.size = 8192 := ⟨_, rfl, rfl⟩
  have hdrop : ∀ next ∈ later, next.2 ≠ .drop 0 := by simp [later]
  obtain ⟨hlive, -, -, -, -, -, -, hdropped, -, -, -, hshown⟩ := h
  obtain ⟨hread, hbytes⟩ := hshown 0 r later hclosed hdrop .standard 5
  refine ⟨hlive, r, hsize, hread, ?_, ?_⟩
  · rw [hbytes, hsize]
    rfl
  · have hheld : d.pool.holding 0 ≠ .gone := by
      rw [hclosed]
      nofun
    exact Nat.succ.inj ((hdropped .standard 0 hheld).2.trans hlive)

end Orbit.Pool
