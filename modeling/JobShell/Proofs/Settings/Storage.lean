import JobShell.Proofs.Program.Trace
import JobShell.Settings.Standard
import Mathlib.Logic.Function.Basic

/-!
# What a storage shows

While the shell looks for its settings nothing else changes the files. A storage is what
can be seen then: the environment, which paths lead somewhere, and what comes out of the
files. It answers the calls of a program, not always in one way, since a read may get a
block of any size. A program that ends with the same value under all these answers is
settled by the storage.
-/

namespace JobShell.Settings

open Unix (Descriptor Errno Exchange PathName Program Trace)

set_option autoImplicit false

/-- What comes out of an open file: some bytes, and then the end of the file or an error. -/
structure Content where
  bytes : List UInt8
  fault : Option Errno

/-- What can be seen of the system. A path without content cannot be opened, and no file has
2⁶³ bytes or more. -/
structure Storage where
  environment : Surroundings.Environment
  leads : String → Bool
  contents : PathName → Option Content
  bounded : ∀ path content, contents path = some content → content.bytes.length < blockLimit

abbrev Opened := Descriptor → Option Content

namespace Storage

variable {α β : Type} {storage : Storage} {opened : Opened}

/-- One reply of a storage to a call, with what is open before and after. -/
inductive Answers (storage : Storage) : Opened → Exchange → Opened → Prop where
  | environment (opened : Opened) :
      Answers storage opened ⟨.environment, storage.environment⟩ opened
  | found {opened : Opened} {path : String} {status : Unix.FileStatus}
      (leads : storage.leads path = true) :
      Answers storage opened ⟨.inspect path true, .ok status⟩ opened
  | missing {opened : Opened} {path : String} {errno : Errno}
      (leadsNowhere : storage.leads path = false) :
      Answers storage opened ⟨.inspect path true, .error errno⟩ opened
  | opened {opened : Opened} {path : PathName} {content : Content} {source : Descriptor}
      (holds : storage.contents path = some content) :
      Answers storage opened ⟨.openFile path .reading, .ok source⟩
        (Function.update opened source (some content))
  | refused {opened : Opened} {path : PathName} {errno : Errno}
      (holds : storage.contents path = none) :
      Answers storage opened ⟨.openFile path .reading, .error errno⟩ opened
  | block {opened : Opened} {source : Descriptor} {limit : Nat} {block : ByteArray}
      {left : List UInt8} {fault : Option Errno}
      (holds : opened source = some ⟨block.data.toList ++ left, fault⟩)
      (nonempty : 0 < block.size) (fits : block.size ≤ limit) :
      Answers storage opened ⟨.read source limit, .ok block⟩
        (Function.update opened source (some ⟨left, fault⟩))
  | atEnd {opened : Opened} {source : Descriptor} {limit : Nat}
      (holds : opened source = some ⟨[], none⟩) :
      Answers storage opened ⟨.read source limit, .ok .empty⟩ opened
  | fails {opened : Opened} {source : Descriptor} {limit : Nat} {errno : Errno}
      (holds : opened source = some ⟨[], some errno⟩) :
      Answers storage opened ⟨.read source limit, .error errno⟩ opened
  | closed {opened : Opened} {source : Descriptor} {reply : Except Errno Unit} :
      Answers storage opened ⟨.close source, reply⟩ (Function.update opened source none)

inductive AnswersAll (storage : Storage) : Opened → Trace → Prop where
  | nothing (opened : Opened) : AnswersAll storage opened []
  | step {opened middle : Opened} {exchange : Exchange} {later : Trace}
      (answers : storage.Answers opened exchange middle)
      (answersLater : AnswersAll storage middle later) :
      AnswersAll storage opened (exchange :: later)

/-- A trace that starts with no open file and on which every reply is one of the storage. -/
def Shows (storage : Storage) (trace : Trace) : Prop :=
  storage.AnswersAll (fun _ => none) trace

/-- Whatever a storage answers, the program gets an answer to each call and ends with the
value. -/
def Settles (storage : Storage) (value : α) : Opened → Program α → Prop
  | _, .done result => result = value
  | opened, .call request next =>
    (∃ reply after, storage.Answers opened ⟨request, reply⟩ after) ∧
      ∀ reply after, storage.Answers opened ⟨request, reply⟩ after →
        Settles storage value after (next reply)

theorem Settles.exists_trace {program : Program α} {value : α}
    (settles : storage.Settles value opened program) :
    ∃ trace, storage.AnswersAll opened trace ∧ program.Returns trace value := by
  induction program generalizing opened with
  | done result => exact ⟨[], .nothing opened, Program.returns_done_iff.mpr ⟨rfl, settles.symm⟩⟩
  | call request next ih =>
      obtain ⟨reply, after, answers⟩ := settles.1
      obtain ⟨trace, answersLater, returns⟩ := ih reply (settles.2 reply after answers)
      exact ⟨⟨request, reply⟩ :: trace, .step answers answersLater, .step returns⟩

theorem Settles.eq_of_returns {program : Program α} {value result : α} {trace : Trace}
    (settles : storage.Settles value opened program) (shown : storage.AnswersAll opened trace)
    (returns : program.Returns trace result) : result = value := by
  induction program generalizing opened trace with
  | done other =>
      obtain ⟨_, rfl⟩ := Program.returns_done_iff.mp returns
      exact settles
  | call request next ih =>
      obtain ⟨reply, later, rfl, returnsLater⟩ := Program.returns_call_iff.mp returns
      cases shown with
      | step answers answersLater =>
          exact ih reply (settles.2 reply _ answers) answersLater returnsLater

theorem settles_pure (value : α) : storage.Settles value opened (pure value : Program α) :=
  rfl

theorem Settles.bind {first : Program α} {following : α → Program β} {value : α} {result : β}
    (settles : storage.Settles value opened first)
    (later : ∀ opened, storage.Settles result opened (following value)) :
    storage.Settles result opened (first >>= following) := by
  induction first generalizing opened with
  | done other =>
      obtain rfl : other = value := settles
      exact later opened
  | call request next ih =>
      exact ⟨settles.1, fun reply after answers => ih reply (settles.2 reply after answers)⟩

theorem settles_request {request : Unix.Call} {following : request.Reply → Program β}
    {result : β} (answered : ∃ reply after, storage.Answers opened ⟨request, reply⟩ after)
    (later : ∀ reply after, storage.Answers opened ⟨request, reply⟩ after →
      storage.Settles result after (following reply)) :
    storage.Settles result opened (Program.request request >>= following) :=
  ⟨answered, later⟩

def outcome (held : ByteArray) (content : Content) : Except Errno ByteArray :=
  match content.fault with
  | none => .ok (held ++ ⟨content.bytes.toArray⟩)
  | some errno => .error errno

theorem outcome_append (held block : ByteArray) (left : List UInt8) (fault : Option Errno) :
    outcome (held ++ block) ⟨left, fault⟩ = outcome held ⟨block.data.toList ++ left, fault⟩ := by
  cases fault with
  | some errno => rfl
  | none =>
      have same :
          (⟨(block.data.toList ++ left).toArray⟩ : ByteArray) = block ++ ⟨left.toArray⟩ := by
        ext1
        rw [ByteArray.data_append]
        exact (List.append_toArray _ _).symm
      simp only [outcome, same, ByteArray.append_assoc]

theorem exists_answer_to_read {source : Descriptor} {limit : Nat} {content : Content}
    (holds : opened source = some content) (positive : 0 < limit) :
    ∃ reply after, storage.Answers opened ⟨.read source limit, reply⟩ after := by
  obtain ⟨bytes, fault⟩ := content
  rcases bytes with _ | ⟨byte, rest⟩
  · cases fault with
    | none => exact ⟨_, _, .atEnd holds⟩
    | some errno => exact ⟨_, _, .fails holds⟩
  · have size : ByteArray.size ⟨((byte :: rest).take limit).toArray⟩ =
        min limit (rest.length + 1) := by
      change ((byte :: rest).take limit).toArray.size = _
      rw [List.size_toArray, List.length_take, List.length_cons]
    rw [← List.take_append_drop limit (byte :: rest)] at holds
    refine ⟨.ok ⟨((byte :: rest).take limit).toArray⟩, _, .block holds ?_ ?_⟩
    · rw [size]
      omega
    · rw [size]
      omega

/-- Each block leaves fewer bytes, so reading comes to the end of the file or to the error
that stands there. -/
theorem settles_read_rest {source : Descriptor} {turns : Nat} {held : ByteArray}
    {content : Content} (holds : opened source = some content)
    (enough : content.bytes.length < turns) :
    storage.Settles (outcome held content) opened (readRest source turns held) := by
  induction turns generalizing opened held content with
  | zero => cases enough
  | succ turns ih =>
      rw [readRest]
      refine settles_request (exists_answer_to_read holds (by decide)) fun reply after answers => ?_
      cases answers with
      | @block _ _ block left fault holdsBlock nonempty fits =>
          obtain rfl : content = ⟨block.data.toList ++ left, fault⟩ :=
            Option.some.inj (holds.symm.trans holdsBlock)
          have isBlock : block.isEmpty = false := beq_false_of_ne (Nat.ne_of_gt nonempty)
          have fewer : left.length < turns := by
            have size : block.data.toList.length = block.size := Array.length_toList
            rw [List.length_append] at enough
            omega
          simp only [isBlock, Bool.false_eq_true, if_false]
          rw [← outcome_append]
          exact ih (Function.update_self ..) fewer
      | atEnd holdsNothing =>
          obtain rfl : content = ⟨[], none⟩ := Option.some.inj (holds.symm.trans holdsNothing)
          exact congrArg Except.ok ByteArray.append_empty.symm
      | @fails _ _ errno holdsFault =>
          obtain rfl : content = ⟨[], some errno⟩ := Option.some.inj (holds.symm.trans holdsFault)
          exact settles_pure _

def bytesAt (storage : Storage) (path : PathName) : Option (List UInt8) :=
  if path.hasNul then none
  else
    match storage.contents path with
    | some ⟨bytes, none⟩ => some bytes
    | _ => none

theorem settles_bytes_of (path : PathName) :
    storage.Settles ((storage.bytesAt path).map fun bytes => ⟨bytes.toArray⟩) opened
      (bytesOf path) := by
  unfold bytesOf openPath bytesAt
  by_cases isRefused : path.hasNul = true
  · rw [if_pos isRefused, if_pos isRefused]
    exact settles_pure none
  · rw [if_neg isRefused, if_neg isRefused]
    have answered : ∃ reply after,
        storage.Answers opened ⟨.openFile path .reading, reply⟩ after := by
      cases contents : storage.contents path with
      | none => exact ⟨.error .noEntry, _, .refused contents⟩
      | some content => exact ⟨.ok Unix.standardInput, _, .opened contents⟩
    refine settles_request answered fun reply after answers => ?_
    cases answers with
    | refused contents =>
        rw [contents]
        exact settles_pure none
    | @opened _ content source contents =>
        have nowOpen := Function.update_self source (some content) opened
        refine (settles_read_rest nowOpen (storage.bounded path content contents)).bind
          fun left => settles_request ⟨.ok (), _, .closed⟩ fun reply after answers => ?_
        rw [contents]
        obtain ⟨bytes, fault⟩ := content
        cases fault with
        | none => exact congrArg some ByteArray.empty_append
        | some errno => exact settles_pure none

theorem settles_first_existing (paths : List String) :
    storage.Settles ((paths.find? storage.leads).map PathName.ofText) opened
      (firstExisting paths) := by
  induction paths generalizing opened with
  | nil => exact settles_pure none
  | cons path rest ih =>
      rw [firstExisting]
      have answered : ∃ reply after, storage.Answers opened ⟨.inspect path true, reply⟩ after := by
        cases leads : storage.leads path with
        | true => exact ⟨.ok ⟨.regular, 0, 0, 0, 0⟩, _, .found leads⟩
        | false => exact ⟨.error .noEntry, _, .missing leads⟩
      refine settles_request answered fun reply after answers => ?_
      cases answers with
      | found leads =>
          rw [List.find?_cons_of_pos leads]
          exact settles_pure (some (PathName.ofText path))
      | missing leadsNowhere =>
          rw [List.find?_cons_of_neg (Bool.eq_false_iff.mp leadsNowhere)]
          exact ih

theorem settles_standard_find (account : Option Surroundings.Account) :
    storage.Settles
      (((places storage.environment account).find? storage.leads).map PathName.ofText) opened
      (Source.standard account).find := by
  refine settles_request ⟨_, _, .environment opened⟩ fun reply after answers => ?_
  cases answers
  exact settles_first_existing _

end Storage

end JobShell.Settings
