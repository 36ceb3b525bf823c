import TestSystem.Transition.Run

/-!
# The SD card test

`sdtest_task` and `testReadWrite` of `src/stm32/sdtest.c`: the task identifies a card,
selects it, and three times reads what is on it, writes that back and reads it again; the
second time over four lines, the third time with a faster clock. Each call of the driver
is a step, with what the driver answers, and so is the delay before the data is read again.
-/

namespace TestSystem.SdTest

/-- `CMD(n)` and `ACMD(n)`. -/
inductive Command
  | cmd (n : ℕ)
  | acmd (n : ℕ)
  deriving DecidableEq

/-- A call of the driver; `n` bytes are read and written at a time. -/
inductive Call (n : ℕ)
  | sendCommand (cmd : Command) (arg : BitVec 32)
  | read (cmd : Command) (address : BitVec 32)
  | write (cmd : Command) (address : BitVec 32) (data : Vector UInt8 n)
  | setBlockSize (bytes : ℕ)
  | setBusWide (lines : ℕ)
  | setClock (hz : ℕ)
  deriving DecidableEq

/-- What the driver returns, `res.data[3]` of a response, and the bytes of a read. -/
structure Answer (n : ℕ) where
  ret : Int32
  response : BitVec 32
  data : Vector UInt8 n
  deriving DecidableEq

/-- What the task does, as the outside sees it. -/
inductive Event (n : ℕ)
  | call (call : Call n) (answer : Answer n)
  /-- `vTaskDelay`. -/
  | delay (ms : ℕ)
  deriving DecidableEq

/-- The three calls of `testReadWrite`. -/
inductive Round
  | first
  | wide
  | fast
  deriving DecidableEq

/-- The statements of `testReadWrite`. -/
inductive Stage
  | blockSize
  | read
  | stopRead
  | write
  | stopWrite
  | delay
  | readBack
  | stopBack
  deriving DecidableEq

/-- The call or delay that comes next. -/
inductive Place
  | reset
  | condition
  | appOpCond
  | opCond
  | cid
  | address
  | select
  | test (round : Round) (stage : Stage)
  | appWide
  | wide
  | hostWide
  | clock
  | suspended
  deriving DecidableEq

/-- The assertions, by what they are about. -/
inductive Assertion
  | ret (place : Place)
  | condition
  | compare
  deriving DecidableEq

/-- The task and its two buffers. -/
structure State (n : ℕ) where
  place : Place
  rca : BitVec 32
  data : Vector UInt8 n
  data2 : Vector UInt8 n
  stopped : Option Assertion
  deriving DecidableEq

/-- `(0x1 << 8) | (0x42 << 0)`: the voltage range and the check pattern. -/
def condition : BitVec 32 := 0x142#32

/-- `BIT(19) | BIT(20) | BIT(31) | BIT(28) | BIT(30)`. -/
def opCond : BitVec 32 := 0xD0180000#32

/-- The upper half of an argument carries the address of the card. -/
def rcaMask : BitVec 32 := 0xFFFF0000#32

/-- What follows a call of `testReadWrite`. -/
def Round.after : Round → Place
  | .first => .appWide
  | .wide => .clock
  | .fast => .suspended

variable {n : ℕ}

/-- The task starts with `rca` uninitialised and the two global arrays cleared. -/
def boot (n : ℕ) (rca : BitVec 32) : State n where
  place := .reset
  rca := rca
  data := .replicate n 0
  data2 := .replicate n 0
  stopped := none

namespace State

/-- The call that the task makes next. -/
def call (s : State n) : Option (Call n) :=
  match s.place with
  | .reset => some (.sendCommand (.cmd 0) 0)
  | .condition => some (.sendCommand (.cmd 8) SdTest.condition)
  | .appOpCond => some (.sendCommand (.cmd 55) 0)
  | .opCond => some (.sendCommand (.acmd 41) SdTest.opCond)
  | .cid => some (.sendCommand (.cmd 2) 0)
  | .address => some (.sendCommand (.cmd 3) 0)
  | .select => some (.sendCommand (.cmd 7) s.rca)
  | .test _ .blockSize => some (.setBlockSize 512)
  | .test _ .read => some (.read (.cmd 18) 0)
  | .test _ .write => some (.write (.cmd 25) 0 s.data)
  | .test _ .readBack => some (.read (.cmd 18) 0)
  | .test _ .stopRead => some (.sendCommand (.cmd 12) 0)
  | .test _ .stopWrite => some (.sendCommand (.cmd 12) 0)
  | .test _ .stopBack => some (.sendCommand (.cmd 12) 0)
  | .appWide => some (.sendCommand (.cmd 55) s.rca)
  | .wide => some (.sendCommand (.acmd 6) 2)
  | .hostWide => some (.setBusWide 4)
  | .clock => some (.setClock 48000000)
  | .test _ .delay => none
  | .suspended => none

/-- What the task does when its call has returned 0. -/
def accepted (answer : Answer n) (s : State n) : State n :=
  match s.place with
  | .reset => { s with place := .condition }
  | .condition =>
    if answer.response &&& 0xFFF#32 = SdTest.condition then { s with place := .appOpCond }
    else { s with stopped := some .condition }
  | .appOpCond => { s with place := .opCond }
  | .opCond => { s with place := if answer.response.getLsbD 31 then .cid else .appOpCond }
  | .cid => { s with place := .address }
  | .address => { s with rca := answer.response &&& rcaMask, place := .select }
  | .select => { s with place := .test .first .blockSize }
  | .test round .blockSize =>
    -- `memset(data, 0x42, ARRAY_SIZE(data))`.
    { s with data := .replicate n 0x42, place := .test round .read }
  | .test round .read => { s with data := answer.data, place := .test round .stopRead }
  | .test round .stopRead => { s with place := .test round .write }
  | .test round .write => { s with place := .test round .stopWrite }
  | .test round .stopWrite => { s with place := .test round .delay }
  | .test round .readBack => { s with data2 := answer.data, place := .test round .stopBack }
  | .test round .stopBack =>
    -- `memcmp`.
    if s.data = s.data2 then { s with place := round.after }
    else { s with stopped := some .compare }
  | .appWide => { s with place := .wide }
  | .wide => { s with place := .hostWide }
  | .hostWide => { s with place := .test .wide .blockSize }
  | .clock => { s with place := .test .fast .blockSize }
  | .test _ .delay => s
  | .suspended => s

end State

/-- One call, up to the next; a task whose assertion fails makes no further step. -/
def step (s : State n) : Event n → Option (State n)
  | .call call answer =>
    if s.stopped = none ∧ s.call = some call then
      some (if answer.ret = 0 then s.accepted answer
        else { s with stopped := some (.ret s.place) })
    else none
  | .delay ms =>
    match s.place with
    | .test round .delay =>
      if s.stopped = none ∧ ms = 500 then some { s with place := .test round .readBack } else none
    | _ => none

variable {s t : State n} {event : Event n}

/-- A step is a call that fails, a call that succeeds or the delay. -/
theorem step_cases (enabled : step s event = some t) : s.stopped = none ∧
    ((∃ call answer, event = .call call answer ∧ s.call = some call ∧ answer.ret ≠ 0 ∧
        t = { s with stopped := some (.ret s.place) }) ∨
      (∃ call answer, event = .call call answer ∧ s.call = some call ∧ answer.ret = 0 ∧
        t = s.accepted answer) ∨
      ∃ round, event = .delay 500 ∧ s.place = .test round .delay ∧
        t = { s with place := .test round .readBack }) := by
  cases event with
  | call call answer =>
    obtain ⟨⟨running, made⟩, next⟩ := Option.ite_none_right_eq_some.mp enabled
    refine ⟨running, ?_⟩
    by_cases success : answer.ret = 0
    · rw [if_pos success] at next
      exact .inr (.inl ⟨call, answer, rfl, made, success, (Option.some.inj next).symm⟩)
    · rw [if_neg success] at next
      exact .inl ⟨call, answer, rfl, made, success, (Option.some.inj next).symm⟩
  | delay ms =>
    simp only [step] at enabled
    split at enabled
    case h_1 round here =>
      obtain ⟨⟨running, rfl⟩, next⟩ := Option.ite_none_right_eq_some.mp enabled
      exact ⟨running, .inr (.inr ⟨round, rfl, here, (Option.some.inj next).symm⟩)⟩
    case h_2 => cases enabled

end TestSystem.SdTest
