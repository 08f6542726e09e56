import JobShell.Unix.Program

/-!
# Parents and children in a process table

Both questions are asked of one table: the parent of a process, and the
processes that have it as their parent. Threads are listed in a table but are
nobody's children.
-/

namespace JobShell.Builtin.ProcessTree

open Unix (ProcessRecord ProcessTable)

set_option autoImplicit false

def find? (table : ProcessTable) (pid : Nat) : Option ProcessRecord :=
  table.find? fun record => record.pid == pid

/-- The parent of a process, which is zero for one without a parent. There is no
answer for a process that does not exist. -/
def parent? (table : ProcessTable) (pid : Nat) : Option Nat :=
  (find? table pid).map fun record => record.parent.getD 0

def children? (table : ProcessTable) (pid : Nat) : Option (List Nat) :=
  (find? table pid).map fun _ =>
    ((table.filter fun record => !record.isThread && record.parent == some pid).map
      ProcessRecord.pid).mergeSort (fun first second => first ≤ second)

end JobShell.Builtin.ProcessTree
