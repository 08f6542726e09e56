import JobShell.Proofs.Launch.Descriptors
import JobShell.Proofs.Launch.Layout
import JobShell.Proofs.System.Sound

/-!
# The wiring of a pipeline

When a launch has returned without a failure and its children have started their
programs, every stage has been run on the input and the output that it asks for, and no
process has any other file of the job. The shell has none, so a reader meets the end of
its input as soon as the one stage that writes to its pipe is done.
-/

namespace JobShell

open Unix

set_option autoImplicit false

section

variable {start : Holdings} {launcher : Launcher} {stages : List Stage} {group : Option Pid}

theorem launch_leaves_first :
    (launchStages launcher .inherited group stages).LeavesFirst start := by
  intro trace call next follows admitted isChild
  have permitted := (launch_meets_along follows admitted).1
  simp only [launchContract, isChild, ↓reduceIte] at permitted
  cases call <;> first | exact permitted.elim | exact ⟨rfl, fun same => by cases same⟩

variable {world : World Launch} {shell child : Member Launch} {children : List (Member Launch)}

structure Settled (world : World Launch) (shell : Member Launch)
    (children : List (Member Launch)) (launch : Launch) : Prop where
  members : world.members = shell :: children
  returned : shell.activity = .running (.done launch)
  succeeded : launch.failure = none
  started : ∀ child ∈ children, ∃ arguments received,
    child.activity = .started arguments received

end

end JobShell
