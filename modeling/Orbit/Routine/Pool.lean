import Orbit.Routine.Compile

/-!
# A pool of regions

The regions and routines that a client holds, under numbers that it gets when they are made. A thing that is
dropped keeps its number and is gone.

* `Pool.Holding` : what is held under a number.
* `Pool`, `Pool.Request`, `Pool.Reply` : the state and the conversation with the client.
* `Pool.step`, `Pool.clear` : one request, and giving back everything.
-/

namespace Orbit

inductive Pool.Holding where
  | writable (region : Region)
  | closed (region : SealedRegion)
  | routine (routine : Routine)
  | gone

def Pool.Holding.isMapped : Pool.Holding → Bool
  | .gone => false
  | _ => true

/-- The things a client holds and the count of mapped regions. -/
structure Pool where
  live : Nat
  holdings : Array Pool.Holding

namespace Pool

inductive Request where
  | allocate (size : Nat)
  | compile (text : String)
  | write (id position : Nat) (bytes : List UInt8)
  | close (id : Nat)
  | read (id count : Nat)
  | drop (id : Nat)
  | count

inductive Reply where
  | allocated (id size : Nat)
  | compiled (id size codeLength : Nat)
  | closed (size : Nat)
  /-- The first `count` bytes of a region. -/
  | bytes (region : SealedRegion) (count : Nat)
  | done
  /-- The request failed. -/
  | failed (fault : Fault)
  /-- The request makes no sense for what is held under the number. -/
  | refused

def empty : Pool := ⟨0, #[]⟩

def holding (pool : Pool) (id : Nat) : Holding := pool.holdings.getD id .gone

def put (pool : Pool) (id : Nat) (h : Holding) : Pool := { pool with holdings := pool.holdings.setIfInBounds id h }

/-- The pool after a thing is dropped; dropping what is gone changes nothing. -/
def drop (pool : Pool) (id : Nat) : Pool :=
  if (pool.holding id).isMapped then { pool.put id .gone with live := Region.release pool.live } else pool

def step (host : Host) (pool : Pool) : Request → Reply × Pool
  | .allocate size =>
    match Region.allocate host size pool.live with
    | (.error fault, live) => (.failed fault, { pool with live := live })
    | (.ok region, live) =>
      (.allocated pool.holdings.size region.size, ⟨live, pool.holdings.push (.writable region)⟩)
  | .compile text =>
    match Program.compileText host text pool.live with
    | (.error fault, live) => (.failed fault, { pool with live := live })
    | (.ok routine, live) =>
      (.compiled pool.holdings.size routine.region.size routine.codeLength,
        ⟨live, pool.holdings.push (.routine routine)⟩)
  | .write id position bytes =>
    match pool.holding id with
    | .writable region =>
      if position + bytes.length ≤ region.size then (.done, pool.put id (.writable (region.write position bytes)))
      else (.refused, pool)
    | _ => (.refused, pool)
  | .close id =>
    match pool.holding id with
    | .writable region =>
      match Region.close host region pool.live with
      | (.error fault, live) => (.failed fault, { pool.put id .gone with live := live })
      | (.ok closed, live) => (.closed closed.size, { pool.put id (.closed closed) with live := live })
    | _ => (.refused, pool)
  | .read id count =>
    match pool.holding id with
    | .closed region => (.bytes region count, pool)
    | _ => (.refused, pool)
  | .drop id => (.done, pool.drop id)
  | .count => (.done, pool)

def clear (pool : Pool) : Pool := (List.range pool.holdings.size).foldl Pool.drop pool

end Pool

end Orbit
