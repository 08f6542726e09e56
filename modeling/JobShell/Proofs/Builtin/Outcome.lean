import JobShell.Proofs.Launch.Printing
import JobShell.Proofs.Program.Ending
import JobShell.Proofs.Shell.Turn

/-!
# The outcome of a builtin and its complaints

A builtin fails exactly when it complains, and it complains at most once. What it has printed
before is nothing at all, unless it was the printing that failed. The shell's own part in it,
leaving or changing directory, is asked for by one builtin each and only once.
-/

namespace JobShell

open Unix

set_option autoImplicit false

/-- Whether a call leaves the process as it is, and alive. -/
def Unix.Call.comesBack (call : Call) : Bool :=
  call.keepsProcess && !call.neverReplies

/-- Whether a call does so and moves no bytes. -/
def Unix.Call.isQuiet (call : Call) : Bool :=
  call.isStill && call.comesBack

namespace Unix.Trace

variable {target other : Descriptor} {own more : Trace}

def NeverWrites (own : Trace) (target : Descriptor) : Prop :=
  ∀ exchange ∈ own, exchange.request.writesTo target = false

def Accepts (own : Trace) (target : Descriptor) : Prop :=
  ∀ exchange ∈ own, exchange.request.writesTo target = true → ¬ exchange.RefusesBytes

/-- Exactly one message is written to a descriptor, as a whole and with its newline. -/
def TellsOnce (own : Trace) (target : Descriptor) : Prop :=
  ∃ message before telling, own = before ++ telling ∧ before.NeverWrites target ∧
    (Program.say target (message ++ "\n")).Returns telling () ∧
    own.sent target = (message ++ "\n").toUTF8

theorem never_writes_append :
    (own ++ more).NeverWrites target ↔ own.NeverWrites target ∧ more.NeverWrites target :=
  List.forall_mem_append

theorem accepts_append :
    (own ++ more).Accepts target ↔ own.Accepts target ∧ more.Accepts target :=
  List.forall_mem_append

theorem never_writes_of_still (still : ∀ exchange ∈ own, exchange.request.isStill = true) :
    own.NeverWrites target := by
  intro exchange member
  have isStill := still exchange member
  generalize exchange.request = request at isStill ⊢
  cases request <;> first | rfl | cases isStill

theorem never_writes_of_other (different : other ≠ target)
    (writes : ∀ exchange ∈ own, exchange.request.writesTo other = true) :
    own.NeverWrites target := by
  intro exchange member
  have writesOther := writes exchange member
  generalize exchange.request = request at writesOther ⊢
  cases request with
  | write asked bytes =>
      obtain rfl : asked = other := by simpa [Call.writesTo] using writesOther
      simpa [Call.writesTo] using different
  | _ => rfl

theorem NeverWrites.sent (silent : own.NeverWrites target) : own.sent target = .empty := by
  induction own using sent.induct target with
  | case1 => rfl
  | case2 bytes count later ih => simp [NeverWrites, Call.writesTo] at silent
  | case3 other bytes count later different ih =>
      rw [Trace.sent, if_neg different]
      exact ih (List.forall_mem_cons.mp silent).2
  | case4 exchange later notWrite ih =>
      rw [Trace.sent.eq_3 _ _ _ notWrite]
      exact ih (List.forall_mem_cons.mp silent).2

theorem TellsOnce.not_silent (tells : own.TellsOnce target) : ¬ own.NeverWrites target := by
  intro silent
  obtain ⟨message, before, telling, _, _, _, sent⟩ := tells
  rw [silent.sent] at sent
  have size := congrArg ByteArray.size sent
  have lineEnd : "\n".utf8ByteSize = 1 := rfl
  simp [lineEnd] at size

end Unix.Trace

namespace Unix.Program

variable {target : Descriptor} {text : String} {telling : Trace}

theorem write_all_only_writes (target : Descriptor) (bytes : ByteArray) :
    (writeAll target bytes).OnlyCalls (Call.writesTo target) :=
  write_from_only_calls (fun _ => beq_self_eq_true target) _ _

theorem say_writes (returns : (say target text).Returns telling ()) :
    ∀ exchange ∈ telling, exchange.request.writesTo target = true := by
  have only : (say target text).OnlyCalls (Call.writesTo target) :=
    only_calls_bind (write_all_only_writes target _) fun _ => trivial
  exact only.along returns

theorem say_sends (returns : (say target text).Returns telling ())
    (accepts : telling.Accepts target) : telling.sent target = text.toUTF8 := by
  have writes := say_writes returns
  obtain ⟨writing, rest, written, rfl, writesAll, ended⟩ := returns_bind_iff.mp returns
  obtain ⟨rfl, _⟩ := returns_done_iff.mp ended
  rw [List.append_nil] at accepts writes ⊢
  have accepted : ∀ exchange ∈ writing, ¬ exchange.RefusesBytes :=
    fun exchange member => accepts exchange member (writes exchange member)
  rw [(write_from_decides writesAll).succeeds accepted] at writesAll
  exact (write_all_returns writesAll).1

theorem write_all_refused {bytes : ByteArray} {errno : Errno} {writing : Trace}
    (returns : (writeAll target bytes).Returns writing (.error errno)) :
    ∃ exchange ∈ writing, exchange.request.writesTo target = true ∧ exchange.RefusesBytes := by
  by_contra accepted
  have taken : ∀ exchange ∈ writing, ¬ exchange.RefusesBytes := by
    intro exchange member refuses
    have isWrite := (write_all_only_writes target bytes).along returns exchange member
    exact accepted ⟨exchange, member, isWrite, refuses⟩
  cases (write_from_decides returns).succeeds taken

end Unix.Program

namespace Builtin

/-- A host that writes nothing, and that always comes back from changing directory. -/
structure Host.IsQuiet (host : Host) : Prop where
  leaves : host.leave.OnlyCalls Call.isStill
  enters : ∀ directory, (host.enter directory).OnlyCalls Call.isQuiet

theorem shell_host_is_quiet : Shell.host.IsQuiet where
  leaves := ⟨rfl, fun never => nomatch never⟩
  enters := by
    intro directory
    change (Shell.enter directory).OnlyCalls Call.isQuiet
    unfold Shell.enter
    split
    · trivial
    · refine ⟨rfl, fun changed => ?_⟩
      cases changed with
      | error errno => trivial
      | ok => exact ⟨rfl, fun found => by cases found <;> trivial⟩

/-- How a change of directory goes on when the host has answered. -/
def entered (error : Descriptor) (directory : String) : Except String String → Program Result
  | .ok path => .done ⟨.handled, some path⟩
  | .error reason => complainOn error ("cd: " ++ directory ++ ": " ++ reason)

theorem carry_out_enter (host : Host) (output error : Descriptor) (directory : String) :
    (Response.enter directory).carryOut host output error =
      (host.enter directory).bind (entered error directory) := by
  apply congrArg (Program.bind _)
  funext answer
  cases answer <;> rfl

inductive CarriedOut (host : Host) (output error : Descriptor) :
    Response → Trace → Result → Prop where
  | printed {label text : String} {writing : Trace}
      (writes : (Program.writeAll output text.toUTF8).Returns writing (.ok ())) :
      CarriedOut host output error (.print label text) writing ⟨.handled, none⟩
  | unprinted {label text : String} {writing telling : Trace} {errno : Errno}
      (stops : (Program.writeAll output text.toUTF8).Returns writing (.error errno))
      (tells : (Program.say error (label ++ ": " ++ errno.ioMessage ++ "\n")).Returns telling ()) :
      CarriedOut host output error (.print label text) (writing ++ telling) ⟨.failed, none⟩
  | complained {message : String} {telling : Trace}
      (tells : (Program.say error (message ++ "\n")).Returns telling ()) :
      CarriedOut host output error (.complain message) telling ⟨.failed, none⟩
  | left {leaving : Trace} (leaves : host.leave.Returns leaving ()) :
      CarriedOut host output error .leave leaving ⟨.handled, none⟩
  | moved {directory path : String} {entering : Trace}
      (enters : (host.enter directory).Returns entering (.ok path)) :
      CarriedOut host output error (.enter directory) entering ⟨.handled, some path⟩
  | barred {directory reason : String} {entering telling : Trace}
      (enters : (host.enter directory).Returns entering (.error reason))
      (tells : (Program.say error
        ("cd: " ++ directory ++ ": " ++ reason ++ "\n")).Returns telling ()) :
      CarriedOut host output error (.enter directory) (entering ++ telling) ⟨.failed, none⟩

variable {host : Host} {output error : Descriptor} {response : Response} {own : Trace}
  {result : Result}

theorem complaint_returns {message : String}
    (returns : (complainOn error message).Returns own result) :
    (Program.say error (message ++ "\n")).Returns own () ∧ result = ⟨.failed, none⟩ := by
  obtain ⟨telling, rest, _, rfl, tells, ended⟩ := Program.returns_bind_iff.mp returns
  obtain ⟨rfl, failed⟩ := Program.returns_done_iff.mp ended
  rw [List.append_nil]
  exact ⟨tells, failed⟩

theorem carried_out_of_returns
    (returns : (response.carryOut host output error).Returns own result) :
    CarriedOut host output error response own result := by
  cases response with
  | complain message =>
      obtain ⟨tells, rfl⟩ := complaint_returns returns
      exact .complained tells
  | leave =>
      obtain ⟨leaving, rest, _, rfl, leaves, ended⟩ := Program.returns_bind_iff.mp returns
      obtain ⟨rfl, rfl⟩ := Program.returns_done_iff.mp ended
      rw [List.append_nil]
      exact .left leaves
  | print label text =>
      rw [carry_out_print] at returns
      obtain ⟨writing, rest, written, rfl, writes, ended⟩ := Program.returns_bind_iff.mp returns
      cases written with
      | ok =>
          obtain ⟨rfl, rfl⟩ := Program.returns_done_iff.mp ended
          rw [List.append_nil]
          exact .printed writes
      | error errno =>
          obtain ⟨tells, rfl⟩ := complaint_returns ended
          exact .unprinted writes tells
  | enter directory =>
      rw [carry_out_enter] at returns
      obtain ⟨entering, rest, answer, rfl, enters, ended⟩ := Program.returns_bind_iff.mp returns
      cases answer with
      | ok path =>
          obtain ⟨rfl, rfl⟩ := Program.returns_done_iff.mp ended
          rw [List.append_nil]
          exact .moved enters
      | error reason =>
          obtain ⟨tells, rfl⟩ := complaint_returns ended
          exact .barred enters tells

structure Reported (output error : Descriptor) (own : Trace) (outcome : Outcome) : Prop where
  failed_iff : outcome = .failed ↔ own.TellsOnce error
  silent : outcome = .handled → own.NeverWrites error
  unprinted : outcome = .failed → own.NeverWrites output ∨
    ∃ exchange ∈ own, exchange.request.writesTo output = true ∧ exchange.RefusesBytes

theorem Reported.of_handled (silent : own.NeverWrites error) :
    Reported output error own .handled where
  failed_iff := by
    constructor
    · nofun
    · intro tells
      exact absurd silent tells.not_silent
  silent := fun _ => silent
  unprinted := nofun

theorem Reported.of_failed {message : String} {before telling : Trace} (distinct : output ≠ error)
    (silent : before.NeverWrites error) (accepts : (before ++ telling).Accepts error)
    (tells : (Program.say error (message ++ "\n")).Returns telling ())
    (unprinted : before.NeverWrites output ∨
      ∃ exchange ∈ before, exchange.request.writesTo output = true ∧ exchange.RefusesBytes) :
    Reported output error (before ++ telling) .failed where
  failed_iff := by
    have sent : (before ++ telling).sent error = (message ++ "\n").toUTF8 := by
      rw [Trace.sent_append, silent.sent, ByteArray.empty_append]
      exact Program.say_sends tells (Trace.accepts_append.mp accepts).2
    simp only [true_iff]
    exact ⟨message, before, telling, rfl, silent, tells, sent⟩
  silent := nofun
  unprinted := by
    intro _
    rcases unprinted with neverPrints | ⟨exchange, member, refused⟩
    · left
      have elsewhere := Trace.never_writes_of_other distinct.symm (Program.say_writes tells)
      exact Trace.never_writes_append.mpr ⟨neverPrints, elsewhere⟩
    · right
      exact ⟨exchange, List.mem_append_left telling member, refused⟩

theorem CarriedOut.reported {reading : Trace} (quiet : host.IsQuiet) (distinct : output ≠ error)
    (still : ∀ exchange ∈ reading, exchange.request.isStill = true)
    (carried : CarriedOut host output error response own result)
    (accepts : (reading ++ own).Accepts error) :
    Reported output error (reading ++ own) result.outcome := by
  have enterStill (directory : String) : (host.enter directory).OnlyCalls Call.isStill := by
    apply Program.only_calls_mono _ (quiet.enters directory)
    intro call isQuiet
    exact (Bool.and_eq_true_iff.mp isQuiet).1
  have silentReading {target : Descriptor} : reading.NeverWrites target :=
    Trace.never_writes_of_still still
  cases carried with
  | printed writes =>
      apply Reported.of_handled
      have silent := Trace.never_writes_of_other distinct (Program.write_all_returns writes).2
      exact Trace.never_writes_append.mpr ⟨silentReading, silent⟩
  | left leaves =>
      apply Reported.of_handled
      have silent : own.NeverWrites error :=
        Trace.never_writes_of_still (quiet.leaves.along leaves)
      exact Trace.never_writes_append.mpr ⟨silentReading, silent⟩
  | moved enters =>
      apply Reported.of_handled
      have silent : own.NeverWrites error :=
        Trace.never_writes_of_still ((enterStill _).along enters)
      exact Trace.never_writes_append.mpr ⟨silentReading, silent⟩
  | complained tells => exact .of_failed distinct silentReading accepts tells (.inl silentReading)
  | @barred directory reason entering telling enters tells =>
      have silent {target : Descriptor} : entering.NeverWrites target :=
        Trace.never_writes_of_still ((enterStill _).along enters)
      rw [← List.append_assoc] at accepts ⊢
      apply Reported.of_failed distinct _ accepts tells
      · left
        exact Trace.never_writes_append.mpr ⟨silentReading, silent⟩
      · exact Trace.never_writes_append.mpr ⟨silentReading, silent⟩
  | @unprinted label text writing telling errno stops tells =>
      have writes := (Program.write_all_only_writes output text.toUTF8).along stops
      have silent := Trace.never_writes_of_other distinct writes
      obtain ⟨exchange, member, refused⟩ := Program.write_all_refused stops
      rw [← List.append_assoc] at accepts ⊢
      apply Reported.of_failed distinct _ accepts tells
      · right
        exact ⟨exchange, List.mem_append_right reading member, refused⟩
      · exact Trace.never_writes_append.mpr ⟨silentReading, silent⟩

def Response.isText : Response → Bool
  | .print _ _ | .complain _ => true
  | .leave | .enter _ => false

theorem respond_is_text {builtin : Builtin} (notExit : builtin ≠ .exit) (notCd : builtin ≠ .cd)
    (view : View) (processes : ProcessTable) (arguments : List String) :
    (builtin.respond view processes arguments).isText = true := by
  have tree (option argument : String) :
      (treeResponse processes option argument).isText = true := by
    unfold treeResponse
    cases Text.Decimal.read? Text.Decimal.pidBound argument with
    | none => rfl
    | some pid =>
        dsimp only
        split <;> rfl
  cases builtin with
  | exit => exact absurd rfl notExit
  | cd => exact absurd rfl notCd
  | help => rfl
  | record => rfl
  | echo =>
      simp only [respond, echoResponse]
      split <;> rfl
  | replay =>
      simp only [respond, replayResponse]
      split
      · split
        · split <;> rfl
        · rfl
      · rfl
  | mypid =>
      simp only [respond, mypidResponse]
      split
      · rfl
      · split
        · rfl
        · split
          · split
            · rfl
            · exact tree _ _
          · rfl

theorem carry_out_of_text (isText : response.isText = true) (host other : Host) :
    response.carryOut host output error = response.carryOut other output error := by
  cases response with
  | print label text => rfl
  | complain message => rfl
  | leave => cases isText
  | enter directory => cases isText

theorem CarriedOut.stays_in_directory (isText : response.isText = true)
    (carried : CarriedOut host output error response own result) : result.directory = none := by
  cases carried <;> first | rfl | cases isText

variable {builtin : Builtin} {view : View} {arguments : List String}

theorem invoke_returns
    (returns : (builtin.invoke host view arguments output error).Returns own result) :
    ∃ reading doing processes, own = reading ++ doing ∧
      (∀ exchange ∈ reading, exchange.request.isStill = true) ∧
      CarriedOut host output error (builtin.respond view processes arguments) doing result := by
  obtain ⟨reading, doing, processes, rfl, reads, does⟩ := Program.returns_bind_iff.mp returns
  have still := builtin.process_table_still.along reads
  exact ⟨reading, doing, processes, rfl, still, carried_out_of_returns does⟩

/-- The part that the host has in a builtin. It leaves the shell for `exit` and changes
directory for `cd`, once each, and for the others it might as well be another host. -/
def HostPart (host : Host) (view : View) (arguments : List String) (output error : Descriptor) :
    Builtin → Prop
  | .exit =>
    Builtin.exit.invoke host view arguments output error =
      host.leave.bind fun _ => .done ⟨.handled, none⟩
  | .cd =>
    let directory := arguments[1]?.getD (view.home.getD "/")
    Builtin.cd.invoke host view arguments output error =
      (host.enter directory).bind (entered error directory)
  | builtin =>
    (∀ other : Host, builtin.invoke host view arguments output error =
      builtin.invoke other view arguments output error) ∧
    ∀ own result, (builtin.invoke host view arguments output error).Returns own result →
      result.directory = none

theorem host_part (host : Host) (view : View) (arguments : List String)
    (output error : Descriptor) (builtin : Builtin) :
    HostPart host view arguments output error builtin := by
  have apart {builtin : Builtin} (notExit : builtin ≠ .exit) (notCd : builtin ≠ .cd) :
      (∀ other : Host, builtin.invoke host view arguments output error =
        builtin.invoke other view arguments output error) ∧
      ∀ own result, (builtin.invoke host view arguments output error).Returns own result →
        result.directory = none := by
    have isText (processes : ProcessTable) :
        (builtin.respond view processes arguments).isText = true :=
      respond_is_text notExit notCd view processes arguments
    constructor
    · intro other
      apply congrArg (Program.bind builtin.processTable)
      funext processes
      exact carry_out_of_text (isText processes) host other
    · intro own result returns
      obtain ⟨_, _, processes, _, _, carried⟩ := invoke_returns returns
      exact carried.stays_in_directory (isText processes)
  cases builtin with
  | exit => rfl
  | cd =>
      have answers (processes : ProcessTable) : Builtin.cd.respond view processes arguments =
          .enter (arguments[1]?.getD (view.home.getD "/")) := by
        simp only [respond, cdResponse]
        cases arguments[1]? <;> rfl
      change (Builtin.cd.respond view [] arguments).carryOut host output error = _
      rw [answers, carry_out_enter]
  | help => exact apart (by decide) (by decide)
  | echo => exact apart (by decide) (by decide)
  | record => exact apart (by decide) (by decide)
  | replay => exact apart (by decide) (by decide)
  | mypid => exact apart (by decide) (by decide)

theorem complaint_comes_back (error : Descriptor) (message : String) :
    (complainOn error message).OnlyCalls Call.comesBack := by
  apply Program.only_calls_bind
  · apply Program.only_calls_bind
    · exact Program.write_from_only_calls (fun _ => rfl) _ _
    · intro _
      trivial
  · intro _
    trivial

theorem invoke_comes_back (quiet : host.IsQuiet) (notExit : builtin ≠ .exit) :
    (builtin.invoke host view arguments output error).OnlyCalls Call.comesBack := by
  by_cases isCd : builtin = .cd
  · subst isCd
    have asks := host_part host view arguments output error .cd
    simp only [HostPart] at asks
    rw [asks]
    apply Program.only_calls_bind
    · apply Program.only_calls_mono _ (quiet.enters _)
      intro call isQuiet
      exact (Bool.and_eq_true_iff.mp isQuiet).2
    · intro answer
      cases answer with
      | ok path => trivial
      | error reason => exact complaint_comes_back error _
  · apply Program.only_calls_bind
    · cases builtin with
      | mypid => exact ⟨rfl, fun _ => trivial⟩
      | _ => trivial
    · intro processes
      have isText := respond_is_text notExit isCd view processes arguments
      cases answer : builtin.respond view processes arguments with
      | complain message => exact complaint_comes_back error message
      | leave => simp [answer, Response.isText] at isText
      | enter directory => simp [answer, Response.isText] at isText
      | print label text =>
          rw [carry_out_print]
          apply Program.only_calls_bind
          · exact Program.write_from_only_calls (fun _ => rfl) _ _
          · intro written
            cases written with
            | ok => trivial
            | error errno => exact complaint_comes_back error _

theorem invoke_stays (quiet : host.IsQuiet) (notExit : builtin ≠ .exit) :
    (builtin.invoke host view arguments output error).Stays := by
  apply Program.OnlyCalls.stays _ (invoke_comes_back quiet notExit)
  intro call isBack
  simpa using (Bool.and_eq_true_iff.mp isBack).2

theorem invoke_can_go_on {rest : Program Result} (quiet : host.IsQuiet) (notExit : builtin ≠ .exit)
    (follows : (builtin.invoke host view arguments output error).Follows own rest) :
    ∃ more result,
      (builtin.invoke host view arguments output error).Returns (own ++ more) result := by
  have isFirst := (invoke_comes_back quiet notExit).in_child rfl follows
  exact (invoke_stays quiet notExit).can_go_on follows isFirst

theorem history_of_launch {shell after : Shell} {context : Context} {job : Job} {calls : Trace}
    {result : JobResult} (returns : (shell.launch context job).Returns calls (after, result)) :
    after.history = shell.history := by
  obtain ⟨_, _, ran, _, _, ended⟩ := Program.returns_bind_iff.mp returns
  obtain ⟨_, same⟩ := Program.returns_done_iff.mp ended
  obtain ⟨rfl, rfl⟩ := Prod.mk.inj same
  exact shell.after_job_history _

/-- A builtin whose complaints can be written, and not where it prints, fails exactly when it has
told one, has then printed nothing unless printing was what failed, and always comes to its end.
Only `exit` leaves the shell, only `cd` changes directory, and the history stays as it is. -/
theorem failure_is_told_once (quiet : host.IsQuiet) (distinct : output ≠ error)
    (builtin : Builtin) (view : View) (arguments : List String) :
    (∀ own result, (builtin.invoke host view arguments output error).Returns own result →
        own.Accepts error → Reported output error own result.outcome) ∧
      (builtin ≠ .exit → ∀ own rest,
        (builtin.invoke host view arguments output error).Follows own rest → ∃ more result,
          (builtin.invoke host view arguments output error).Returns (own ++ more) result) ∧
      HostPart host view arguments output error builtin ∧
      ∀ (shell after : Shell) (context : Context) (job : Job) (calls : Trace) (result : JobResult),
        (shell.launch context job).Returns calls (after, result) →
          after.history = shell.history := by
  refine ⟨?_, ?_, host_part host view arguments output error builtin, ?_⟩
  · intro own result returns accepts
    obtain ⟨reading, doing, processes, rfl, still, carried⟩ := invoke_returns returns
    exact carried.reported quiet distinct still accepts
  · intro notExit own rest follows
    exact invoke_can_go_on quiet notExit follows
  · intro shell after context job calls result returns
    exact history_of_launch returns

def unreadEcho : Trace :=
  [⟨.write standardOutput "hi\n".toUTF8, .error .brokenPipe⟩,
    ⟨.write standardError "echo: Broken pipe (os error 32)\n".toUTF8, .ok 32⟩]

theorem failure_is_told_once_unread_echo :
    Shell.host.IsQuiet ∧ standardOutput ≠ standardError ∧
      (Builtin.echo.invoke Shell.host ⟨7, none, [], 16⟩ ["echo", "hi"] standardOutput
        standardError).Returns unreadEcho ⟨.failed, none⟩ ∧
      unreadEcho.Accepts standardError ∧ unreadEcho.TellsOnce standardError := by
  have distinct : standardOutput ≠ standardError := by decide
  have returns : (Builtin.echo.invoke Shell.host ⟨7, none, [], 16⟩ ["echo", "hi"] standardOutput
      standardError).Returns unreadEcho ⟨.failed, none⟩ := .step (.step (.stop _))
  have accepts : unreadEcho.Accepts standardError := by
    intro exchange member writes
    rcases List.mem_pair.mp member with rfl | rfl
    · cases writes
    · nofun
  have reported := (failure_is_told_once shell_host_is_quiet distinct .echo ⟨7, none, [], 16⟩
    ["echo", "hi"]).1 unreadEcho ⟨.failed, none⟩ returns accepts
  exact ⟨shell_host_is_quiet, distinct, returns, accepts, reported.failed_iff.mp rfl⟩

end Builtin

end JobShell
