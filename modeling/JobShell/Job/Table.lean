import JobShell.Unix.Program

/-!
# The table of background jobs

The table has a fixed number of slots, numbered from one. A job takes the
lowest free slot. Slots are freed by name only; a job that ends keeps its slot.
-/

namespace JobShell

open Unix (Pid)

set_option autoImplicit false

structure JobEntry where
  command : String
  group : Option Pid
  deriving DecidableEq, Repr

/-- The slots, the first one having number one. -/
structure JobTable where
  slots : List (Option JobEntry)
  deriving DecidableEq, Repr

namespace JobTable

def empty (capacity : Nat) : JobTable :=
  ⟨List.replicate capacity none⟩

def capacity (table : JobTable) : Nat :=
  table.slots.length

def length (table : JobTable) : Nat :=
  table.slots.countP Option.isSome

def isEmpty (table : JobTable) : Bool :=
  table.length == 0

def get? (table : JobTable) : Nat → Option JobEntry
  | 0 => none
  | index + 1 => (table.slots[index]?).join

def modify (table : JobTable) (slot : Nat) (change : Option JobEntry → Option JobEntry) :
    JobTable :=
  match slot with
  | 0 => table
  | index + 1 => ⟨table.slots.modify index change⟩

def lowestFree? (table : JobTable) : Option Nat :=
  (table.slots.findIdx? Option.isNone).map (· + 1)

/-- Puts an entry into the lowest free slot, if there is one. -/
def insert (table : JobTable) (entry : JobEntry) : Option Nat × JobTable :=
  match table.lowestFree? with
  | none => (none, table)
  | some slot => (some slot, table.modify slot fun _ => some entry)

def register (table : JobTable) (command : String) : Option Nat × JobTable :=
  table.insert ⟨command, none⟩

def setGroup (table : JobTable) (slot : Nat) (group : Option Pid) : JobTable :=
  table.modify slot (Option.map fun entry => { entry with group := group })

def remove (table : JobTable) (slot : Nat) : Option JobEntry × JobTable :=
  (table.get? slot, table.modify slot fun _ => none)

def occupied (table : JobTable) : List (Nat × JobEntry) :=
  table.slots.zipIdx.filterMap fun (content, index) =>
    content.map fun entry => (index + 1, entry)

end JobTable

end JobShell
