import TestSystem.LinuxClient.Client
import TestSystem.Transition.Calls

/-!
# The life cycle of the Linux client

`lc_init` and `lc_deinit` are called in any order, and `buffer_init` and
`OS_CREATE_TASK` may fail. Two things go wrong: the result of `OS_CREATE_TASK` is
not looked at, so that the object is returned without a task, and `lc_deinit`
gives the static object to `vPortFree` and leaves the flag `init` set, so that the
next `lc_init` returns what was torn down. A sequence of calls that avoids the two
keeps the life cycle.
-/

namespace TestSystem.LinuxClient

open TestSystem.Transition

variable {κ : Type*}

/-- A call of `lc_init` or `lc_deinit`. -/
inductive LifeCall
  | init (motor : Option ℕ) (answer : InitAnswer)
  | deinit
  deriving DecidableEq, Repr

/-- The object, the number of tasks that serve it, and whether it was passed to
`vPortFree` and has not been initialised since. -/
structure Client (κ : Type*) where
  lc : Lc κ
  tasks : ℕ
  tornDown : Bool
  deriving DecidableEq, Repr

/-- At start-up. -/
def unused : Client κ := { lc := zeroed, tasks := 0, tornDown := false }

/-- `vPortFree` knows nothing of the object: no field changes. -/
def lcDeinit (s : Client κ) : Client κ × Int32 := ({ s with tornDown := true }, 0)

/-- What one call leaves of the client. -/
def Client.call (s : Client κ) : LifeCall → Client κ
  | .init motor answer =>
    let result := lcInit s.lc motor answer
    { lc := result.1
      tasks := s.tasks + result.2.2
      tornDown := if s.lc.init then s.tornDown else false }
  | .deinit => (lcDeinit s).1

/-- `lc_init` returns the object, and not a null pointer. -/
def Client.returns (s : Client κ) (motor : Option ℕ) (answer : InitAnswer) : Prop :=
  (lcInit s.lc motor answer).2.1 = true

/-- The client has its buffers, one task and the callback for pings, and was not torn down. -/
structure Operational (s : Client κ) : Prop where
  rx : s.lc.rx ≠ none
  tx : s.lc.tx ≠ none
  task : s.tasks = 1
  ping : s.lc.callbackAt lcTypeAct = some .lcPing
  kept : s.tornDown = false

/-- The call returns the object exactly if the client is operational then. It leaves an
operational client alone, and after a failure another call can succeed. -/
structure InitCorrect (s : Client κ) (motor : Option ℕ) (answer : InitAnswer) : Prop where
  returned : s.returns motor answer ↔ Operational (s.call (.init motor answer))
  repeated : Operational s → s.call (.init motor answer) = s ∧ s.returns motor answer
  failed : ¬ s.returns motor answer → (s.call (.init motor answer)).lc.init = false ∧
    ∀ motor' answer', answer'.rx ≠ none → answer'.tx ≠ none → answer'.taskCreated = true →
      Operational ((s.call (.init motor answer)).call (.init motor' answer'))

/-- The client counts as uninitialised: the next `lc_init` does what it does at start-up. -/
structure DeinitCorrect (s : Client κ) : Prop where
  uninitialised : (s.call .deinit).lc.init = false
  again : ∀ motor answer, lcInit (s.call .deinit).lc motor answer = lcInit zeroed motor answer

/-- A call does what its name says. -/
def CallCorrect (s : Client κ) : LifeCall → Prop
  | .init motor answer => InitCorrect s motor answer
  | .deinit => DeinitCorrect s

/-- The task is created whenever both buffers are, and `lc_deinit` is not called
once the flag is set. -/
def Harmless (s : Client κ) : LifeCall → Prop
  | .init _ answer =>
    s.lc.init = false → answer.rx ≠ none → answer.tx ≠ none → answer.taskCreated = true
  | .deinit => s.lc.init = false

instance (s : Client κ) (call : LifeCall) : Decidable (Harmless s call) :=
  match call with
  | .init _ answer => inferInstanceAs (Decidable
      (s.lc.init = false → answer.rx ≠ none → answer.tx ≠ none → answer.taskCreated = true))
  | .deinit => inferInstanceAs (Decidable (s.lc.init = false))

variable {s : Client κ} {answer : InitAnswer} {call : LifeCall}
  {calls : List LifeCall}

/-! ## One call of `lc_init` -/

theorem call_init_of_init (motor : Option ℕ) (answer : InitAnswer) (ready : s.lc.init = true) :
    s.call (.init motor answer) = s ∧ s.returns motor answer := by
  simp [Client.call, Client.returns, lcInit_of_init motor answer ready, ready]

theorem call_init_of_missing (motor : Option ℕ) (fresh : s.lc.init = false)
    (missing : answer.rx = none ∨ answer.tx = none) :
    (s.call (.init motor answer)).lc.init = false ∧
      (s.call (.init motor answer)).tasks = s.tasks ∧
      ¬ Operational (s.call (.init motor answer)) ∧ ¬ s.returns motor answer := by
  obtain ⟨lc', result, flag, lost⟩ := lcInit_of_missing motor fresh missing
  have hlc : (s.call (.init motor answer)).lc = lc' := by simp [Client.call, result]
  refine ⟨hlc ▸ flag, ?_, ?_, ?_⟩
  · simp [Client.call, result]
  · intro operational
    rcases lost with rx | tx
    · exact operational.rx (hlc ▸ rx)
    · exact operational.tx (hlc ▸ tx)
  · simp [Client.returns, result]

theorem call_init_of_buffers (motor : Option ℕ) (fresh : s.lc.init = false) (rx : answer.rx ≠ none)
    (tx : answer.tx ≠ none) :
    (s.call (.init motor answer)).lc.init = true ∧ s.returns motor answer ∧
      (s.call (.init motor answer)).tasks = s.tasks + (if answer.taskCreated then 1 else 0) ∧
      ((s.call (.init motor answer)).tasks = 1 → Operational (s.call (.init motor answer))) := by
  obtain ⟨lc', result, flag, hrx, htx, callbacks⟩ := lcInit_of_buffers motor fresh rx tx
  have hlc : (s.call (.init motor answer)).lc = lc' := by simp [Client.call, result]
  refine ⟨hlc ▸ flag, ?_, ?_, fun task => ⟨?_, ?_, task, ?_, ?_⟩⟩
  · simp [Client.returns, result]
  · simp [Client.call, result]
  · rwa [hlc, hrx]
  · rwa [hlc, htx]
  · rw [hlc, callbacks, if_pos rfl]
  · simp [Client.call, fresh]

/-- With the task the client is operational. -/
theorem operational_call_init (motor : Option ℕ) (fresh : s.lc.init = false) (idle : s.tasks = 0)
    (rx : answer.rx ≠ none) (tx : answer.tx ≠ none) (created : answer.taskCreated = true) :
    Operational (s.call (.init motor answer)) := by
  obtain ⟨-, -, tasks, operational⟩ := call_init_of_buffers motor fresh rx tx
  apply operational
  rw [tasks, idle, created]
  rfl

/-! ## Sequences of calls -/

/-- As long as the flag is clear no task serves the object. -/
def Counted (s : Client κ) : Prop := s.lc.init = false → s.tasks = 0

theorem counted_call (call : LifeCall) (counted : Counted s) : Counted (s.call call) := by
  cases call with
  | deinit => exact counted
  | init motor answer =>
    intro flag
    cases ready : s.lc.init with
    | true =>
      rw [(call_init_of_init motor answer ready).1, ready] at flag
      cases flag
    | false =>
      -- A task is created only together with the flag.
      by_cases missing : answer.rx = none ∨ answer.tx = none
      · rw [(call_init_of_missing motor ready missing).2.1]
        exact counted ready
      · obtain ⟨rx, tx⟩ := not_or.mp missing
        rw [(call_init_of_buffers motor ready rx tx).1] at flag
        cases flag

theorem harmless_of_callCorrect (counted : Counted s) (correct : CallCorrect s call) :
    Harmless s call := by
  cases call with
  | deinit => exact correct.uninitialised
  | init motor answer =>
    intro fresh rx tx
    obtain ⟨-, returned, tasks, -⟩ := call_init_of_buffers motor fresh rx tx
    -- The object is returned, so a task has to serve it.
    have served := (correct.returned.mp returned).task
    rw [tasks, counted fresh] at served
    by_contra missing
    simp [missing] at served

/-- The flag is set exactly on an operational client, and otherwise there is no task. -/
structure Consistent (s : Client κ) : Prop where
  operational : s.lc.init = true → Operational s
  counted : Counted s

theorem consistent_unused : Consistent (unused : Client κ) where
  operational ready := by cases ready
  counted _ := rfl

theorem consistent_call (consistent : Consistent s) (harmless : Harmless s call) :
    Consistent (s.call call) ∧ CallCorrect s call := by
  have counted := counted_call call consistent.counted
  cases call with
  | deinit =>
    -- The flag was clear before the call, and the call does not change it.
    have fresh : (s.call .deinit).lc.init = false := harmless
    refine ⟨⟨?_, counted⟩, ⟨harmless, fun motor answer => lcInit_of_fresh motor answer fresh⟩⟩
    intro ready
    rw [fresh] at ready
    cases ready
  | init motor answer =>
    cases ready : s.lc.init with
    | true =>
      -- With the flag set the call changes nothing.
      obtain ⟨same, returned⟩ := call_init_of_init motor answer ready
      have operational := consistent.operational ready
      refine ⟨by rwa [same], ⟨?_, ?_, ?_⟩⟩
      · rw [same]
        exact iff_of_true returned operational
      · exact fun _ => ⟨same, returned⟩
      · exact fun failed => absurd returned failed
    | false =>
      have idle := consistent.counted ready
      by_cases missing : answer.rx = none ∨ answer.tx = none
      · obtain ⟨flag, tasks, broken, failed⟩ := call_init_of_missing motor ready missing
        -- Without a buffer the client stays idle, and another call finds it as it was.
        refine ⟨⟨fun set => ?_, counted⟩, iff_of_false failed broken, ?_, fun _ => ⟨flag, ?_⟩⟩
        · rw [flag] at set
          cases set
        · exact fun operational => absurd idle (by simp [operational.task])
        · intro motor' answer' rx tx created
          exact operational_call_init motor' flag (tasks.trans idle) rx tx created
      · obtain ⟨rx, tx⟩ := not_or.mp missing
        obtain ⟨flag, returned, -, -⟩ := call_init_of_buffers motor ready rx tx
        have operational := operational_call_init motor ready idle rx tx
          (harmless ready rx tx)
        refine ⟨⟨fun _ => operational, counted⟩, iff_of_true returned operational, ?_, ?_⟩
        · exact fun before => absurd idle (by simp [before.task])
        · exact fun failed => absurd returned failed

theorem harmless_of_atEvery_callCorrect
    (correct : AtEvery CallCorrect Client.call (unused : Client κ) calls) :
    AtEvery Harmless Client.call (unused : Client κ) calls := by
  have start : Counted (unused : Client κ) := fun _ => rfl
  exact correct.imp start (fun counted _ => counted_call _ counted) harmless_of_callCorrect

/-- **When the life cycle is kept.** From start-up every call of a sequence is correct
exactly if the task is created whenever both buffers are, and `lc_deinit` is not
called once the flag is set. -/
theorem callCorrect_iff (calls : List LifeCall) :
    AtEvery CallCorrect Client.call (unused : Client κ) calls ↔
      AtEvery Harmless Client.call (unused : Client κ) calls := by
  constructor
  · exact harmless_of_atEvery_callCorrect
  · intro harmless
    exact harmless.imp consistent_unused
      (fun consistent admitted => (consistent_call consistent admitted).1)
      fun consistent admitted => (consistent_call consistent admitted).2

/-- `lc_init` after `lc_deinit` returns what was torn down, and `lc_init` without a
task returns the object too. -/
theorem not_callCorrect :
    ¬ AtEvery CallCorrect Client.call (unused : Client Unit)
        [.init none ⟨some 1, some 2, true⟩, .deinit, .init none ⟨some 3, some 4, true⟩] ∧
      ¬ AtEvery CallCorrect Client.call (unused : Client Unit)
        [.init none ⟨some 1, some 2, false⟩] := by
  constructor
  · intro correct
    exact absurd (harmless_of_atEvery_callCorrect correct) (by decide)
  · intro correct
    exact absurd (harmless_of_atEvery_callCorrect correct) (by decide)

end TestSystem.LinuxClient
