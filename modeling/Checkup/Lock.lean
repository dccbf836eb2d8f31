import Checkup.Fault

/-!
Locks with two sides: any number of readers, or one writer.

Writers go first: a writer that has to wait is counted, and while any is counted no reader gets in.
Neither side is reentrant, and the lock does not know who holds it, so anyone may give a side back.
-/

namespace Checkup

inductive Side where
  | read
  | write
  deriving DecidableEq, Repr

/-- The counters of a lock: readers inside, whether a writer is, and the writers that wait. -/
structure Lock where
  readers : Int := 0
  writer : Bool := false
  waitingWriters : Int := 0
  deriving DecidableEq, Repr

namespace Lock

def isOpen (l : Lock) : Side → Bool
  | .read => !l.writer && l.waitingWriters == 0
  | .write => !l.writer && l.readers == 0

def hold (l : Lock) : Side → Lock
  | .read => { l with readers := l.readers + 1 }
  | .write => { l with writer := true }

/-- Counts someone who waits for a side, if that is to be known. -/
def announce (l : Lock) : Side → Lock
  | .read => l
  | .write => { l with waitingWriters := l.waitingWriters + 1 }

def withdraw (l : Lock) : Side → Lock
  | .read => l
  | .write => { l with waitingWriters := l.waitingWriters - 1 }

/-- Raised when a side is given back that nobody holds. -/
def notHeld : Side → Fault
  | .read => .because .runtimeError "release_read() called without a read hold"
  | .write => .because .runtimeError "release_write() called without a write hold"

/-- Gives a side back. Also says whether those who wait are to look again: when the last reader has
left, and whenever a writer has. -/
def release (l : Lock) : Side → Except Fault (Bool × Lock)
  | .read =>
    if l.readers ≤ 0 then .error (notHeld .read)
    else .ok (l.readers == 1, { l with readers := l.readers - 1 })
  | .write =>
    if l.writer then .ok (true, { l with writer := false }) else .error (notHeld .write)

@[simp] theorem withdraw_announce (l : Lock) (side : Side) :
    (l.announce side).withdraw side = l := by
  cases side <;> simp [announce, withdraw]

theorem release_hold_read {l : Lock} (h : 0 ≤ l.readers) :
    (l.hold .read).release .read = .ok (l.readers == 0, l) := by
  have positive : ¬ l.readers + 1 ≤ 0 := by omega
  have last : (l.readers + 1 == 1) = (l.readers == 0) := by
    rw [Bool.eq_iff_iff]
    simp only [beq_iff_eq]
    omega
  simp [hold, release, positive, last]

theorem release_hold_write {l : Lock} (h : l.writer = false) :
    (l.hold .write).release .write = .ok (true, l) := by
  cases l
  simp_all [hold, release]

end Lock

end Checkup
