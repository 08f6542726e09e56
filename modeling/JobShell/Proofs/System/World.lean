import JobShell.Proofs.Descriptor.Holdings
import Mathlib.Logic.Function.Basic
import Mathlib.Logic.Relation

/-!
# The processes of a program

A program that forks becomes several processes, which run side by side and share the
files that they have open. A step is one call of one of them with any reply that the
system may give, or something that a program does which a process has started and of
which nothing is known. A started program stands for itself and for the processes that
it makes. It may close and copy the descriptors that it was given and move bytes through
the pipes that it has, and when it has ended it holds none. The files that it opens by
itself are not counted here.

A pipe holds bytes up to a capacity. A write to it gets no reply while there is no room
and someone could still read, so a process that writes then makes no step.
-/

namespace JobShell.Unix

set_option autoImplicit false

/-- What a process is doing: it runs its own program, it has started another one on the
descriptors that were left, or it has ended without that. -/
inductive Activity (α : Type) where
  | running (program : Program α)
  | started (arguments : List String) (received : DescriptorTable)
  | ended

structure Member (α : Type) where
  pid : Pid
  trace : Trace
  table : DescriptorTable
  activity : Activity α

/-- All files opened so far, the bytes in each pipe by the number of its reading end, and
the processes in the order of their forks. -/
structure World (α : Type) where
  files : List Origin
  contents : Nat → ByteArray
  members : List (Member α)

def Exchange.forks : Exchange → Bool
  | ⟨.fork, .ok _⟩ => true
  | _ => false

def DescriptorTable.Leads (table : DescriptorTable) (file : Nat) : Prop :=
  ∃ entry ∈ table, entry.2.file = file

namespace World

variable {α : Type}

def initial (start : Holdings) (pid : Pid) (program : Program α) : World α where
  files := start.files
  contents := fun _ => .empty
  members := [⟨pid, [], start.table, .running program⟩]

def holdings (world : World α) (member : Member α) : Holdings :=
  ⟨world.files, member.table⟩

def IsHeld (world : World α) (file : Nat) : Prop :=
  ∃ member ∈ world.members, member.table.Leads file

/-- What a pipe holds after a write to it. Of some bytes it takes at least one and no more
than it has room for, and it fails only when nobody can read from it. -/
def Takes (capacity : Nat) (world : World α) (pipe : Nat) (bytes : ByteArray) :
    Except Errno Nat → (Nat → ByteArray) → Prop
  | .ok count, contents =>
    count ≤ bytes.size ∧
      (bytes.size = 0 ∨
        world.IsHeld pipe ∧ 0 < count ∧ (world.contents pipe).size + count ≤ capacity) ∧
      contents = Function.update world.contents pipe
        (world.contents pipe ++ bytes.extract 0 count)
  | .error _, contents => ¬ world.IsHeld pipe ∧ contents = world.contents

/-- What a pipe holds after a read from it. It gives its first bytes. Without a byte there is
a reply only when the pipe is empty and nobody can write to it any more. -/
def Gives (world : World α) (pipe limit : Nat) :
    Except Errno ByteArray → (Nat → ByteArray) → Prop
  | .ok bytes, contents =>
    bytes = (world.contents pipe).extract 0 bytes.size ∧ bytes.size ≤ limit ∧
      (bytes.size = 0 → limit = 0 ∨
        (world.contents pipe).size = 0 ∧ ¬ world.IsHeld (pipe + 1)) ∧
      contents = Function.update world.contents pipe
        ((world.contents pipe).extract bytes.size (world.contents pipe).size)
  | .error _, contents => contents = world.contents

def Transfers (capacity : Nat) (world : World α) (member : Member α) :
    Exchange → (Nat → ByteArray) → Prop
  | ⟨.pipe, .ok _⟩, contents =>
    contents = Function.update world.contents world.files.length .empty
  | ⟨.write target bytes, reply⟩, contents =>
    match (world.holdings member).originAt target with
    | some (.pipeEnd pipe true) => world.Takes capacity pipe bytes reply contents
    | _ => contents = world.contents
  | ⟨.read source limit, reply⟩, contents =>
    match (world.holdings member).originAt source with
    | some (.pipeEnd pipe false) => world.Gives pipe limit reply contents
    | _ => contents = world.contents
  | _, contents => contents = world.contents

/-- What a started program may do to the pipes: it takes bytes out in front where it has the
reading end, and puts bytes in behind, as far as there is room, where it has the writing
end. -/
def Moves (capacity : Nat) (world : World α) (member : Member α)
    (contents : Nat → ByteArray) : Prop :=
  ∀ pipe, ∃ taken left added,
    world.contents pipe = taken ++ left ∧ contents pipe = left ++ added ∧
      (taken.size = 0 ∨ member.table.Leads pipe) ∧
      (added.size = 0 ∨ member.table.Leads (pipe + 1) ∧ (contents pipe).size ≤ capacity)

end World

variable {α : Type}

/-- One step of one of the processes. A process that waits for a reply may be ended from
outside, except for the first one, which ends only by itself. -/
inductive Step (capacity : Nat) : World α → World α → Prop where
  | answer {world : World α} {before after : List (Member α)} {member : Member α}
      {request : Call} {next : request.Reply → Program α} {reply : request.Reply}
      {contents : Nat → ByteArray}
      (among : world.members = before ++ member :: after)
      (asks : member.activity = .running (.call request next))
      (single : Exchange.forks ⟨request, reply⟩ = false)
      (expected : (world.holdings member).Expects ⟨request, reply⟩)
      (moved : world.Transfers capacity member ⟨request, reply⟩ contents) :
      Step capacity world
        { files := ((world.holdings member).after ⟨request, reply⟩).files
          contents := contents
          members := before ++
            ⟨member.pid, member.trace ++ [⟨request, reply⟩],
              ((world.holdings member).after ⟨request, reply⟩).table,
              .running (next reply)⟩ :: after }
  | fork {world : World α} {before after : List (Member α)} {member : Member α}
      {next : Call.fork.Reply → Program α} {child : Pid}
      (among : world.members = before ++ member :: after)
      (asks : member.activity = .running (.call .fork next))
      (fresh : ∀ other ∈ world.members, other.pid ≠ child) :
      Step capacity world
        { world with
          members := before ++
            ⟨member.pid, member.trace ++ [⟨.fork, .ok (some child)⟩], member.table,
              .running (next (.ok (some child)))⟩ :: after ++
            [⟨child, member.trace ++ [⟨.fork, .ok none⟩], member.table,
              .running (next (.ok none))⟩] }
  | execute {world : World α} {before after : List (Member α)} {member : Member α}
      {arguments : List String} {next : Errno → Program α}
      (among : world.members = before ++ member :: after)
      (asks : member.activity = .running (.call (.execute arguments) next)) :
      Step capacity world
        { world with
          members := before ++
            ⟨member.pid, member.trace, member.table.afterExecute,
              .started arguments member.table.afterExecute⟩ :: after }
  | finish {world : World α} {before after : List (Member α)} {member : Member α}
      {program : Program α}
      (among : world.members = before ++ member :: after)
      (runs : member.activity = .running program)
      (allowed : before ≠ [] ∨ ∃ code next, program = .call (.exit code) next) :
      Step capacity world
        { world with
          members := before ++ ⟨member.pid, member.trace, [], .ended⟩ :: after }
  | use {world : World α} {before after : List (Member α)} {member : Member α}
      {arguments : List String} {received table : DescriptorTable} {contents : Nat → ByteArray}
      (among : world.members = before ++ member :: after)
      (runs : member.activity = .started arguments received)
      (fewer : ∀ entry ∈ table, member.table.Leads entry.2.file)
      (moved : world.Moves capacity member contents) :
      Step capacity world
        { files := world.files
          contents := contents
          members := before ++
            ⟨member.pid, member.trace, table, .started arguments received⟩ :: after }

abbrev Run (capacity : Nat) : World α → World α → Prop :=
  Relation.ReflTransGen (Step capacity)

def Reaches (capacity : Nat) (goal : World α → Prop) (world : World α) : Prop :=
  ∃ later, Run capacity world later ∧ goal later

theorem Reaches.here {capacity : Nat} {goal : World α → Prop} {world : World α}
    (reached : goal world) : Reaches capacity goal world :=
  ⟨world, .refl, reached⟩

theorem Reaches.step {capacity : Nat} {goal : World α → Prop} {world next : World α}
    (first : Step capacity world next) (rest : Reaches capacity goal next) :
    Reaches capacity goal world := by
  obtain ⟨later, run, reached⟩ := rest
  exact ⟨later, .head first run, reached⟩

end JobShell.Unix
