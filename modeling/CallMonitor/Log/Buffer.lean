import CallMonitor.Calendar
import CallMonitor.Log.Entry

/-!
The call log: entries in the order of their arrival, and the clock that stamps them. The entries
are reached under one lock, so every operation is one step on the whole buffer. It returns the
buffer it leaves, also when it aborts: an abort leaves the entries as they were, and marks the lock
if it was held. Whoever takes a marked lock goes on as if it were not marked.
-/

namespace CallMonitor.Log

structure Buffer where
  processId : Nat
  clock : Clock
  entries : List Entry
  /-- Somebody has aborted while holding the lock. -/
  poisoned : Bool
  deriving DecidableEq, Repr

abbrev Step (α : Type) := Except SelfReference α × Buffer

namespace Buffer

def new (processId : Nat) (clock : Clock) : Buffer := ⟨processId, clock, [], false⟩

/-- Takes the lock. A marked lock hands the entries over as well, as an error. -/
def acquire (buffer : Buffer) : Except (List Entry) (List Entry) :=
  if buffer.poisoned then .error buffer.entries else .ok buffer.entries

/-- The entries that a holder of the lock finds, whether or not the lock is marked. -/
def locked (buffer : Buffer) : List Entry :=
  match buffer.acquire with
  | .ok entries => entries
  | .error entries => entries

def abandon (buffer : Buffer) : Buffer := { buffer with poisoned := true }

/-- A marked lock is recovered: its holder finds the entries all the same. -/
@[simp] theorem locked_eq_entries (buffer : Buffer) : buffer.locked = buffer.entries := by
  unfold locked acquire
  cases buffer.poisoned <;> rfl

def wait (buffer : Buffer) (nanos : Nat) : Buffer :=
  { buffer with clock := buffer.clock.advance nanos }

def stamp (buffer : Buffer) (payload : String) : Entry :=
  ⟨toString buffer.processId, buffer.clock.nowText, payload⟩

def append (buffer : Buffer) (entry : Entry) : Buffer :=
  { buffer with entries := buffer.locked ++ [entry] }

def clear (buffer : Buffer) : Buffer := { buffer with entries := [] }

/-- Records a payload of this process and returns its entry. The payload is checked before the lock
is taken. -/
def record (buffer : Buffer) (payload : String) : Step Entry :=
  match checkPayload payload with
  | .error abort => (.error abort, buffer)
  | .ok () =>
      let entry := buffer.stamp payload
      (.ok entry, buffer.append entry)

/-- Appends an entry made elsewhere, checked before the lock is taken. -/
def push (buffer : Buffer) (entry : Entry) : Step Unit :=
  match checkPayload entry.payload with
  | .error abort => (.error abort, buffer)
  | .ok () => (.ok (), buffer.append entry)

/-- Hands out every entry and leaves none. The entries are checked under the lock. -/
def drain (buffer : Buffer) : Step (List Entry) :=
  match checkEntries buffer.locked with
  | .error abort => (.error abort, buffer.abandon)
  | .ok () => (.ok buffer.locked, buffer.clear)

def snapshot (buffer : Buffer) : List Entry := buffer.locked

def size (buffer : Buffer) : Nat := buffer.locked.length

def isEmpty (buffer : Buffer) : Bool := buffer.locked.isEmpty

end Buffer

end CallMonitor.Log
