import SocksGateway.Bytes
import SocksGateway.Failure

/-!
Pipes: one direction of a connection, with room for so many octets. A write takes what there is room
for, a read takes what is there, and both wait when there is none. A write or a read of no octets
never waits.
-/

set_option autoImplicit false

namespace SocksGateway

/-- The outcome of an attempt: an answer, or nothing for now. -/
inductive Poll (α : Type) where
  | ready (value : α)
  | pending
deriving DecidableEq, Repr

structure Pipe where
  capacity : Nat
  /-- What is written and not yet read. -/
  held : Bytes := []
  /-- The writer has shut it down, or one of its ends is gone. -/
  closed : Bool := false
deriving DecidableEq, Repr, Inhabited

namespace Pipe

/-- How many octets there is room for. -/
def free (pipe : Pipe) : Nat := pipe.capacity - pipe.held.length

/-- Takes as many of the octets as there is room for and tells how many. -/
def write (octets : Bytes) (pipe : Pipe) : Poll (Except IoError Nat) × Pipe :=
  if pipe.closed then (.ready (.error .brokenPipe), pipe)
  else if octets ≠ [] ∧ pipe.free = 0 then (.pending, pipe)
  else
    let accepted := min octets.length pipe.free
    (.ready (.ok accepted), { pipe with held := pipe.held ++ octets.take accepted })

/-- Gives up to `limit` of the octets held; no octets mean the end. -/
def read (limit : Nat) (pipe : Pipe) : Poll Bytes × Pipe :=
  if pipe.held ≠ [] then (.ready (pipe.held.take limit), { pipe with held := pipe.held.drop limit })
  else if pipe.closed ∨ limit = 0 then (.ready [], pipe)
  else (.pending, pipe)

def close (pipe : Pipe) : Pipe := { pipe with closed := true }

@[simp] theorem held_close (pipe : Pipe) : pipe.close.held = pipe.held := rfl

/-- Nothing that is held is lost or changed by a read. -/
theorem read_append {limit : Nat} {pipe rest : Pipe} {octets : Bytes}
    (given : pipe.read limit = (.ready octets, rest)) : octets ++ rest.held = pipe.held := by
  unfold read at given
  split at given
  · cases given
    exact List.take_append_drop limit pipe.held
  · rename_i none
    simp only [ne_eq, Classical.not_not] at none
    split at given <;> cases given
    simp [none]

/-- A write puts the octets that it takes behind those held. -/
theorem held_write {octets : Bytes} {pipe rest : Pipe} {accepted : Nat}
    (taken : pipe.write octets = (.ready (.ok accepted), rest)) :
    rest.held = pipe.held ++ octets.take accepted := by
  unfold write at taken
  split at taken
  · cases taken
  · split at taken <;> cases taken
    rfl

end Pipe

end SocksGateway
