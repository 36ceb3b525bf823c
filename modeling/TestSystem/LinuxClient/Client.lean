import TestSystem.Transition.Run

/-!
# The Linux client

`src/vf610/linux_client.c` connects the controller with a Linux on the other
core. Messages of 32 bytes arrive in the buffer `rx`; `lcTask` hands each to the
callback registered for its type. The callback `lc_ping`, which `lc_init`
registers for `LC_TYPE_ACT`, sends the message back through `tx`. There is one
static object `lc0`.
-/

namespace TestSystem.LinuxClient

/-- `LC_MSG_SIZE`, the bytes of a message beside its type. -/
abbrev lcMsgSize : ℕ := 31

/-- `LC_COUNT`, the number of message types. -/
abbrev lcCount : ℕ := 3

/-- `LC_TYPE_ACT`, one of the types below `LC_COUNT`. -/
def lcTypeAct : Fin lcCount := ⟨0, by decide⟩

/-- `struct lc_msg`. -/
structure LcMsg where
  type : UInt8
  data : Vector UInt8 lcMsgSize
  deriving DecidableEq, Repr

variable {κ : Type*}

/-- A function that can be registered: `lc_ping`, or one of another file. -/
inductive Callback (κ : Type*)
  | lcPing
  | other (name : κ)
  deriving DecidableEq, Repr

/-- A buffer is named by the pointer that `buffer_init` returned. -/
structure Lc (κ : Type*) where
  init : Bool
  motor : Option ℕ
  rx : Option ℕ
  tx : Option ℕ
  callbacks : Vector (Option (Callback κ)) lcCount
  deriving DecidableEq, Repr

/-- The object after `memset`, and at start-up. -/
def zeroed : Lc κ where
  init := false
  motor := none
  rx := none
  tx := none
  callbacks := Vector.replicate lcCount none

/-- What is registered for a known type. -/
def Lc.callbackAt (lc : Lc κ) (type : Fin lcCount) : Option (Callback κ) := lc.callbacks[type]

/-- `lc->callbacks[type]`; from `LC_COUNT` on there is no entry, and none is read. -/
def Lc.entry (lc : Lc κ) (type : UInt8) : Option (Callback κ) :=
  if known : type.toNat < lcCount then lc.callbackAt ⟨type.toNat, known⟩ else none

/-- The source does not test `type`, and a null pointer takes the callback away. -/
def lcRegisterCallback (lc : Lc κ) (type : Fin lcCount) (callback : Option (Callback κ)) :
    Lc κ × Int32 :=
  ({ lc with callbacks := lc.callbacks.set type callback }, 0)

/-- What the functions that `lc_init` calls return: a buffer or a null pointer,
and whether `OS_CREATE_TASK` has created the task. -/
structure InitAnswer where
  rx : Option ℕ
  tx : Option ℕ
  taskCreated : Bool
  deriving DecidableEq, Repr

/-- The object, whether `lc_init` returns it, and the number of tasks created. -/
def lcInit (lc : Lc κ) (motor : Option ℕ) (answer : InitAnswer) : Lc κ × Bool × ℕ :=
  if lc.init then
    (lc, true, 0)
  else if answer.rx = none then
    ({ zeroed with motor := motor }, false, 0)
  else if answer.tx = none then
    ({ zeroed with motor := motor, rx := answer.rx }, false, 0)
  else
    -- The result of `OS_CREATE_TASK` is not looked at.
    let lc : Lc κ := { zeroed with motor := motor, rx := answer.rx, tx := answer.tx, init := true }
    ((lcRegisterCallback lc lcTypeAct (some .lcPing)).1, true, if answer.taskCreated then 1 else 0)

@[simp] theorem callbackAt_zeroed (type : Fin lcCount) :
    (zeroed : Lc κ).callbackAt type = none := by
  simp [Lc.callbackAt, zeroed]

theorem callbackAt_lcRegisterCallback (lc : Lc κ) (type type' : Fin lcCount)
    (callback : Option (Callback κ)) :
    (lcRegisterCallback lc type callback).1.callbackAt type' =
      if type' = type then callback else lc.callbackAt type' := by
  simp [lcRegisterCallback, Lc.callbackAt, Vector.getElem_set, Fin.ext_iff, eq_comm]

section Init

variable {lc : Lc κ} {answer : InitAnswer}

/-- Without the flag nothing of the object is kept. -/
theorem lcInit_of_fresh (motor : Option ℕ) (answer : InitAnswer) (fresh : lc.init = false) :
    lcInit lc motor answer = lcInit zeroed motor answer := by
  have zeroedFresh : (zeroed : Lc κ).init = false := rfl
  simp only [lcInit, fresh, zeroedFresh, Bool.false_eq_true, if_false]

theorem lcInit_of_init (motor : Option ℕ) (answer : InitAnswer) (ready : lc.init = true) :
    lcInit lc motor answer = (lc, true, 0) := by
  simp [lcInit, ready]

/-- Without both buffers `lc_init` fails, and the flag stays clear. -/
theorem lcInit_of_missing (motor : Option ℕ) (fresh : lc.init = false)
    (missing : answer.rx = none ∨ answer.tx = none) :
    ∃ lc', lcInit lc motor answer = (lc', false, 0) ∧ lc'.init = false ∧
      (lc'.rx = none ∨ lc'.tx = none) := by
  by_cases rx : answer.rx = none
  · refine ⟨{ zeroed with motor := motor }, ?_, rfl, .inl rfl⟩
    simp [lcInit, fresh, rx]
  · have tx : answer.tx = none := missing.resolve_left rx
    refine ⟨{ zeroed with motor := motor, rx := answer.rx }, ?_, rfl, .inr rfl⟩
    simp [lcInit, fresh, rx, tx]

/-- With both buffers `lc_init` sets everything up, except that the task may be missing. -/
theorem lcInit_of_buffers (motor : Option ℕ) (fresh : lc.init = false) (rx : answer.rx ≠ none)
    (tx : answer.tx ≠ none) :
    ∃ lc', lcInit lc motor answer = (lc', true, if answer.taskCreated then 1 else 0) ∧
      lc'.init = true ∧ lc'.rx = answer.rx ∧ lc'.tx = answer.tx ∧
      ∀ type, lc'.callbackAt type = if type = lcTypeAct then some .lcPing else none := by
  let lc' : Lc κ := { zeroed with motor := motor, rx := answer.rx, tx := answer.tx, init := true }
  refine ⟨(lcRegisterCallback lc' lcTypeAct (some .lcPing)).1, ?_, rfl, rfl, rfl, ?_⟩
  · simp [lcInit, fresh, rx, tx, lc']
  intro type
  have blank : lc'.callbackAt type = none := callbackAt_zeroed type
  rw [callbackAt_lcRegisterCallback, blank]

/-- After `lc_init` has returned the object, `lc_ping` is what is registered. -/
theorem callbackAt_of_lcInit {lc' : Lc κ} {motor : Option ℕ} {tasks : ℕ} (fresh : lc.init = false)
    (created : lcInit lc motor answer = (lc', true, tasks)) (type : Fin lcCount) :
    lc'.callbackAt type = if type = lcTypeAct then some .lcPing else none := by
  by_cases missing : answer.rx = none ∨ answer.tx = none
  · obtain ⟨_, result, -, -⟩ := lcInit_of_missing motor fresh missing
    rw [result] at created
    cases created
  · obtain ⟨rx, tx⟩ := not_or.mp missing
    obtain ⟨_, result, -, -, -, callbacks⟩ := lcInit_of_buffers motor fresh rx tx
    rw [result] at created
    cases created
    exact callbacks type

end Init

end TestSystem.LinuxClient
