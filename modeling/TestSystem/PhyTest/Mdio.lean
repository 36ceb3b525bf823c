import TestSystem.Transition.Run

/-!
# Management frames of the PHY test

`src/imx6/phytest.c` reads and writes the registers of a PHY. A call writes the
frame to the register `MMFR` and waits at most 500 ms for the semaphore `mii`,
which the interrupt of the MAC gives when a frame has completed. The token says
nothing about which frame that was: after a call that timed out, its frame or
its token is still around.
-/

namespace TestSystem.PhyTest

open TestSystem.Transition

/-- The macros of the device header: the fields of `MMFR` and the bit of `EIR`. -/
structure Enet where
  st : UInt32 → UInt32
  op : UInt32 → UInt32
  pa : UInt32 → UInt32
  ra : UInt32 → UInt32
  ta : UInt32 → UInt32
  data : UInt32 → UInt32
  eirMii : UInt32

/-- `ENET_MMFR_DATA` is the low half of the register, and `ENET_EIR_MII_MASK`
is a bit. -/
structure Enet.Documented (enet : Enet) : Prop where
  data : ∀ word, (enet.data word).toUInt16 = word.toUInt16
  eirMii : enet.eirMii ≠ 0

/-- Whether a frame writes a register of the PHY or reads it. -/
inductive Operation
  | write (value : UInt16)
  | read
  deriving DecidableEq, Repr

/-- A call of `mac_mdioWrite` or `mac_mdioRead`. -/
structure Call where
  id : UInt8
  addr : UInt8
  operation : Operation
  deriving DecidableEq, Repr

/-- The word a call writes to `MMFR`. -/
def Call.mmfr (enet : Enet) (call : Call) : UInt32 :=
  match call.operation with
  | .write value =>
    enet.st 1 ||| enet.op 1 ||| enet.pa call.id.toUInt32 ||| enet.ta 2 |||
      enet.data value.toUInt32 ||| enet.ra call.addr.toUInt32
  | .read =>
    enet.st 1 ||| enet.op 2 ||| enet.pa call.id.toUInt32 ||| enet.ta 2 |||
      enet.ra call.addr.toUInt32

/-- A management frame in progress. Frames bear the number of the call that
started them. -/
structure Frame where
  number : ℕ
  word : UInt32
  operation : Operation
  deriving DecidableEq, Repr

/-- A frame that has completed, with what the PHY answered. -/
structure Completion where
  number : ℕ
  word : UInt32
  answer : UInt16
  deriving DecidableEq, Repr

/-- A call that has returned: its return value, the number of the frame whose
token it consumed, and what it stored. -/
structure Return where
  number : ℕ
  call : Call
  ret : Int32
  consumed : Option ℕ
  value : Option UInt16
  deriving DecidableEq, Repr

/-- Where the task is. -/
inductive Task
  | idle
  /-- In `xSemaphoreTake`. -/
  | waiting (call : Call)
  /-- A read has taken the token of a frame and reads `MMFR` next. -/
  | taken (call : Call) (token : ℕ)
  deriving DecidableEq, Repr

/-- The MAC, the semaphore and the task. An available token bears the number of
the frame whose completion gave it. -/
structure State where
  mmfr : UInt32
  eir : UInt32
  frame : Option Frame
  mii : Option ℕ
  task : Task
  calls : ℕ
  completions : List Completion
  returns : List Return
  deriving DecidableEq, Repr

/-- After `phytest_init`: the semaphore is given and taken once, so it is empty,
and the reset has cleared the events. -/
def phytestInit : State where
  mmfr := 0
  eir := 0
  frame := none
  mii := none
  task := .idle
  calls := 0
  completions := []
  returns := []

/-! ## The interrupt and the MAC -/

/-- The handler clears the events it has read, and gives the semaphore for a
completed frame. Giving an available semaphore changes nothing. -/
def enet1Handler (enet : Enet) (number : ℕ) (s : State) : State :=
  -- Writing a bit of `EIR` clears it.
  let eir := s.eir
  let s := { s with eir := s.eir &&& ~~~eir }
  if eir &&& enet.eirMii ≠ 0 then { s with mii := s.mii.or (some number) } else s

/-- The frame in progress completes: the answer to a read is left in the low half
of `MMFR`, and the event is raised. -/
def complete (enet : Enet) (frame : Frame) (answer : UInt16) (s : State) : State :=
  { s with
    mmfr :=
      match frame.operation with
      | .read => (s.mmfr &&& 0xFFFF0000) ||| answer.toUInt32
      | .write _ => s.mmfr
    eir := s.eir ||| enet.eirMii
    frame := none
    completions := s.completions ++ [⟨frame.number, frame.word, answer⟩] }

/-- Writing `MMFR` starts a frame; while a frame is in progress, its contents are
altered instead. -/
def writeMmfr (number : ℕ) (word : UInt32) (operation : Operation) (s : State) : State :=
  { s with
    mmfr := word
    frame := some
      { number := s.frame.elim number Frame.number
        word := word
        operation := operation } }

/-! ## The calls -/

/-- The call up to the wait: the frame register is written. -/
def mdioStart (enet : Enet) (call : Call) (s : State) : State :=
  { writeMmfr (s.calls + 1) (call.mmfr enet) call.operation s with
    task := .waiting call
    calls := s.calls + 1 }

/-- The call returns. -/
def mdioReturn (call : Call) (ret : Int32) (consumed : Option ℕ) (value : Option UInt16)
    (s : State) : State :=
  { s with
    task := .idle
    returns := s.returns ++ [⟨s.calls, call, ret, consumed, value⟩] }

/-- `xSemaphoreTake` has returned `pdTRUE`: a write is done, a read goes on. -/
def mdioTaken (call : Call) (token : ℕ) (s : State) : State :=
  -- The token says that a frame has completed, and no check is made of which.
  let s := { s with mii := none }
  match call.operation with
  | .write _ => mdioReturn call 0 (some token) none s
  | .read => { s with task := .taken call token }

/-- A step of the calling task or of the device. -/
inductive Label
  /-- The task calls `mac_mdioWrite` or `mac_mdioRead`. -/
  | call (call : Call)
  /-- `xSemaphoreTake` succeeds. -/
  | take
  /-- `xSemaphoreTake` gives up after 500 ms. -/
  | timeout
  /-- A read stores the value. -/
  | store
  /-- The frame in progress completes and the interrupt runs. -/
  | complete (answer : UInt16)
  deriving DecidableEq, Repr

/-- One step; what the task or the device cannot do in this state is `none`. -/
def step (enet : Enet) (s : State) : Label → Option State
  | .call call =>
    match s.task with
    | .idle => some (mdioStart enet call s)
    | _ => none
  | .take =>
    match s.task, s.mii with
    | .waiting call, some token => some (mdioTaken call token s)
    | _, _ => none
  | .timeout =>
    match s.task, s.mii with
    | .waiting call, none => some (mdioReturn call (-1) none none s)
    | _, _ => none
  | .store =>
    match s.task with
    | .taken call token =>
      some (mdioReturn call 0 (some token) (some (enet.data s.mmfr).toUInt16) s)
    | _ => none
  | .complete answer =>
    s.frame.map fun frame => enet1Handler enet frame.number (complete enet frame answer s)

end TestSystem.PhyTest
