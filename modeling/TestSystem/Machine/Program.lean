import TestSystem.Machine.Frame

/-!
# Straight-line programs of a processor

The state of a processor of the ARMv7-M profile, as far as the low level of an
operating system touches it, and the instructions that it is written with. An
access that is not aligned, and an exception return that the processor refuses,
are faults: the program has no state after it.

A register list is written in ascending order, as the instruction stores it, and
does not contain the base register. A called function is given by its effect.

Programs are reasoned about backwards: `wp program Q` is what must hold before the
program so that it runs to its end and `Q` holds there. There is one rule for each
instruction, and one for programs in sequence.
-/

namespace TestSystem.Machine

/-- The registers behind `mrs` and `msr`. -/
inductive Special
  | msp | psp | basepri

/-- The base register of a block transfer. -/
inductive Base
  | reg (r : Reg)
  | sp

/-- The registers of the processor and the memory. -/
structure Core where
  reg : Reg → Word
  pc : Word
  xpsr : Word
  /-- The main stack pointer. -/
  msp : Word
  /-- The process stack pointer. -/
  psp : Word
  basepri : Word
  primask : Bool
  faultmask : Bool
  /-- An exception is being handled. -/
  handler : Bool
  /-- Threads use the process stack pointer. -/
  spsel : Bool
  mem : Memory

/-- The instructions of the handlers; `bl` does what the called function does to the core. -/
inductive Instr
  | mrs (d : Reg) (s : Special)
  | msr (s : Special) (n : Reg)
  | cpsid (i f : Bool)
  | cpsie (i f : Bool)
  /-- `isb` and `dsb`: there is no pipeline and no write buffer here. -/
  | barrier
  /-- A load from the literals behind the code. -/
  | literal (d : Reg) (value : Word)
  | mov (d : Reg) (value : Word)
  | orr (d : Reg) (value : Word)
  | ldr (d n : Reg)
  | str (t n : Reg)
  | stmdb (n : Base) (list : List Reg)
  | ldmia (n : Base) (list : List Reg)
  | bl (effect : Core → Core)
  | bx (m : Reg)

namespace Core

variable (c : Core)

/-- A general register is written. -/
def set (d : Reg) (v : Word) : Core := { c with reg := Function.update c.reg d v }

/-- A special register as `mrs` reads it. -/
def special : Special → Word
  | .msp => c.msp
  | .psp => c.psp
  | .basepri => c.basepri

/-- A special register is written by `msr`. -/
def setSpecial : Special → Word → Core
  | .msp, v => { c with msp := v }
  | .psp, v => { c with psp := v }
  | .basepri, v => { c with basepri := v }

/-- The stack pointer in use. -/
def sp : Word := if c.handler = false ∧ c.spsel = true then c.psp else c.msp

/-- The stack pointer in use is written. -/
def setSp (v : Word) : Core :=
  if c.handler = false ∧ c.spsel = true then { c with psp := v } else { c with msp := v }

/-- The address in a base register. -/
def base : Base → Word
  | .reg r => c.reg r
  | .sp => c.sp

/-- The address goes back into a base register. -/
def setBase : Base → Word → Core
  | .reg r, v => c.set r v
  | .sp, v => c.setSp v

/-- What the code that runs would go on with. -/
def context : Context := ⟨c.reg, c.pc, c.xpsr, c.sp⟩

/-! ## Exceptions -/

/-- Where an exception return goes on. -/
inductive Target
  | handler | threadMain | threadProcess
  deriving DecidableEq

/-- Where a value in `lr` returns to from a frame without floating-point registers. -/
def Target.ofReturn (value : Word) : Option Target :=
  if value = 0xfffffff1#32 then some .handler
  else if value = 0xfffffff9#32 then some .threadMain
  else if value = 0xfffffffd#32 then some .threadProcess
  else none

/-- The return value that stands for what an exception interrupts. -/
def returnValue : Word :=
  if c.handler then 0xfffffff1#32 else if c.spsel then 0xfffffffd#32 else 0xfffffff9#32

/-- The exception of the given number is taken: `r0` to `r3` and `r12` are left
unknown. -/
def enter (number : Word) (unknown : Reg → Word) : Option Core :=
  let frame := framePointer c.sp
  if Aligned frame then
    some { c.setSp frame with
      reg := fun r =>
        if r = .lr then c.returnValue else if r ∈ stacked then unknown r else c.reg r
      xpsr := 0x01000000#32 ||| number
      handler := true
      spsel := false
      mem := c.mem.storeAll frame c.context.frame }
  else none

/-! ### With a floating-point context

The registers of a floating-point unit are not part of the state. What of them an
exception stores lies in memory, above the eight words. -/

/-- Whether the code that an exception interrupts uses the floating-point registers. -/
inductive Floats
  | unused
  /-- `stored` is what is stored at once: the registers, or nothing where that is put off. -/
  | inUse (stored : List Word)

/-- What an exception stores of the floating-point registers. -/
def Floats.stored : Floats → List Word
  | .unused => []
  | .inUse stored => stored

/-- The room for them above the eight words. -/
def Floats.room : Floats → Word
  | .unused => 0#32
  | .inUse _ => 72#32

/-- Bit 4 of the return value says that there is no such room. -/
def Floats.returnValue (value : Word) : Floats → Word
  | .unused => value
  | .inUse _ => value &&& ~~~0x10#32

/-- The frame of an exception that is taken while the floating-point registers may be in
use. -/
def frameWith (floats : Floats) : Word := framePointer (c.sp - floats.room)

/-- The processor after such an exception was taken. -/
def enteredWith (floats : Floats) (number : Word) (unknown : Reg → Word) : Core :=
  { c.setSp (c.frameWith floats) with
    reg := fun r =>
      if r = .lr then floats.returnValue c.returnValue
      else if r ∈ stacked then unknown r else c.reg r
    xpsr := 0x01000000#32 ||| number
    handler := true
    spsel := false
    mem := (c.mem.storeAll (c.frameWith floats) c.context.frame).storeAll
      (c.frameWith floats + 32) floats.stored }

/-- An exception is taken, as long as the stack is aligned. -/
def enterWith (floats : Floats) (number : Word) (unknown : Reg → Word) : Option Core :=
  if Aligned (c.frameWith floats) then some (c.enteredWith floats number unknown) else none

/-- Without a floating-point context it is as above. -/
theorem enterWith_unused (number : Word) (unknown : Reg → Word) :
    c.enterWith .unused number unknown = c.enter number unknown := by
  simp [enterWith, enteredWith, frameWith, enter, Floats.room, Floats.returnValue, Floats.stored,
    Memory.storeAll]

/-- Every handler starts with the return value in `lr`. -/
theorem handler_of_enterWith {floats : Floats} {number : Word} {unknown : Reg → Word} {c' : Core}
    (entered : c.enterWith floats number unknown = some c') :
    c'.handler = true ∧ c'.reg .lr = floats.returnValue c.returnValue := by
  obtain ⟨-, result⟩ := Option.ite_none_right_eq_some.mp entered
  obtain rfl := Option.some.inj result
  exact ⟨rfl, rfl⟩

/-! ### Entry and return by the stack in use -/

/-- A thread on the process stack is interrupted. -/
def enterProcess (number : Word) (unknown : Reg → Word) : Core :=
  { c with
    reg := fun r => if r = .lr then 0xfffffffd#32 else if r ∈ stacked then unknown r else c.reg r
    psp := framePointer c.psp
    xpsr := 0x01000000#32 ||| number
    handler := true
    spsel := false
    mem := c.mem.storeAll (framePointer c.psp) (Context.frame ⟨c.reg, c.pc, c.xpsr, c.psp⟩) }

/-- A thread on the main stack is interrupted. -/
def enterMain (number : Word) (unknown : Reg → Word) : Core :=
  { c with
    reg := fun r => if r = .lr then 0xfffffff9#32 else if r ∈ stacked then unknown r else c.reg r
    msp := framePointer c.msp
    xpsr := 0x01000000#32 ||| number
    handler := true
    spsel := false
    mem := c.mem.storeAll (framePointer c.msp) (Context.frame ⟨c.reg, c.pc, c.xpsr, c.msp⟩) }

theorem enter_process {number : Word} {unknown : Reg → Word} (thread : c.handler = false)
    (process : c.spsel = true) (aligned : Aligned (framePointer c.psp)) :
    c.enter number unknown = some (c.enterProcess number unknown) := by
  simp [enter, enterProcess, sp, setSp, returnValue, context, thread, process, aligned]

theorem enter_main {number : Word} {unknown : Reg → Word} (thread : c.handler = false)
    (main : c.spsel = false) (aligned : Aligned (framePointer c.msp)) :
    c.enter number unknown = some (c.enterMain number unknown) := by
  simp [enter, enterMain, sp, setSp, returnValue, context, thread, main, aligned]

/-- The number of the exception in a status word; zero stands for a thread. -/
def exceptionNumber (xpsr : Word) : Word := xpsr &&& 0x1ff#32

/-- The room above the eight words that a return takes off the stack as well. -/
def returnRoom (value : Word) : Word := if value &&& 0x10#32 = 0#32 then 72#32 else 0#32

/-- A return to a thread asks for a frame of a thread, and a return to a handler for
one of a handler. -/
def leave (value : Word) : Option Core := do
  let target ← Target.ofReturn (value ||| 0x10#32)
  let frame := if target = .threadProcess then c.psp else c.msp
  let x := Context.unstack c.reg (frame + returnRoom value) (c.mem.loadAll frame 8)
  if Aligned frame ∧ (exceptionNumber x.xpsr = 0#32 ↔ target ≠ .handler) then
    some { c with
      reg := x.reg
      pc := x.pc
      xpsr := x.xpsr
      msp := if target = .threadProcess then c.msp else x.sp
      psp := if target = .threadProcess then x.sp else c.psp
      faultmask := false
      handler := target = .handler
      spsel := target = .threadProcess }
  else none

/-- A thread goes on with a context on the process stack. -/
def resume (x : Context) : Core :=
  { c with
    reg := x.reg
    pc := x.pc
    xpsr := x.xpsr
    psp := x.sp
    faultmask := false
    handler := false
    spsel := true }

/-- A thread goes on with a context on the main stack. -/
def resumeMain (x : Context) : Core :=
  { c with
    reg := x.reg
    pc := x.pc
    xpsr := x.xpsr
    msp := x.sp
    faultmask := false
    handler := false
    spsel := false }

section Leave

variable {value : Word}

theorem leave_threadProcess (target : Target.ofReturn (value ||| 0x10#32) = some .threadProcess)
    (aligned : Aligned c.psp)
    (thread : exceptionNumber
      (Context.unstack c.reg (c.psp + returnRoom value) (c.mem.loadAll c.psp 8)).xpsr = 0#32) :
    c.leave value = some (c.resume
      (Context.unstack c.reg (c.psp + returnRoom value) (c.mem.loadAll c.psp 8))) := by
  simp [leave, target, aligned, thread, resume]

theorem leave_threadMain (target : Target.ofReturn (value ||| 0x10#32) = some .threadMain)
    (aligned : Aligned c.msp)
    (thread : exceptionNumber
      (Context.unstack c.reg (c.msp + returnRoom value) (c.mem.loadAll c.msp 8)).xpsr = 0#32) :
    c.leave value = some (c.resumeMain
      (Context.unstack c.reg (c.msp + returnRoom value) (c.mem.loadAll c.msp 8))) := by
  simp [leave, target, aligned, thread, resumeMain]

/-- A handler is not gone back to with the frame of a thread. -/
theorem leave_handler (target : Target.ofReturn (value ||| 0x10#32) = some .handler)
    (thread : exceptionNumber
      (Context.unstack c.reg (c.msp + returnRoom value) (c.mem.loadAll c.msp 8)).xpsr = 0#32) :
    c.leave value = none := by
  simp [leave, target, thread]

/-- The return to a thread without a floating-point context. -/
theorem leave_process (aligned : Aligned c.psp)
    (thread : exceptionNumber
      (Context.unstack c.reg c.psp (c.mem.loadAll c.psp 8)).xpsr = 0#32) :
    c.leave 0xfffffffd#32 =
      some (c.resume (Context.unstack c.reg c.psp (c.mem.loadAll c.psp 8))) := by
  have room : c.psp + returnRoom 0xfffffffd#32 = c.psp := BitVec.add_zero _
  have target : Target.ofReturn (0xfffffffd#32 ||| 0x10#32) = some .threadProcess := by decide
  have left := c.leave_threadProcess target aligned (by rwa [room])
  rwa [room] at left

end Leave

/-! ## Instructions -/

/-- One instruction; `none` is a fault. -/
def exec : Instr → Option Core
  | .mrs d s => some (c.set d (c.special s))
  | .msr s n => some (c.setSpecial s (c.reg n))
  | .cpsid i f => some { c with primask := i || c.primask, faultmask := f || c.faultmask }
  | .cpsie i f => some { c with primask := !i && c.primask, faultmask := !f && c.faultmask }
  | .barrier => some c
  | .literal d value => some (c.set d value)
  | .mov d value => some (c.set d value)
  | .orr d value => some (c.set d (c.reg d ||| value))
  | .ldr d n => if Aligned (c.reg n) then some (c.set d (c.mem (c.reg n))) else none
  | .str t n =>
    if Aligned (c.reg n) then some { c with mem := c.mem.store (c.reg n) (c.reg t) } else none
  | .stmdb n list =>
    let a := c.base n - 4 * BitVec.ofNat 32 list.length
    if Aligned a then
      some { c.setBase n a with mem := c.mem.storeAll a (list.map c.reg) }
    else none
  | .ldmia n list =>
    let a := c.base n
    if Aligned a then
      let loaded := { c with reg := setAll c.reg list (c.mem.loadAll a list.length) }
      some (loaded.setBase n (a + 4 * BitVec.ofNat 32 list.length))
    else none
  | .bl effect => some (effect c)
  | .bx m =>
    -- In a handler such an address is no address but asks for an exception return.
    if c.handler = true ∧ (c.reg m) >>> 28 = 0xf#32 then c.leave (c.reg m)
    else some { c with pc := c.reg m }

end Core

/-! ## Weakest preconditions -/

/-- The program runs to its end without a fault and `Q` holds there. -/
def wp (program : List Instr) (Q : Core → Prop) (c : Core) : Prop :=
  ∃ c', program.foldlM Core.exec c = some c' ∧ Q c'

variable {c : Core} {Q R : Core → Prop} {program program' : List Instr} {i : Instr}

@[simp] theorem wp_nil : wp [] Q c ↔ Q c := by simp [wp]

theorem wp_cons : wp (i :: program) Q c ↔ ∃ c', c.exec i = some c' ∧ wp program Q c' := by
  simp only [wp, List.foldlM_cons, Option.bind_eq_bind, Option.bind_eq_some_iff]
  constructor
  · rintro ⟨c'', ⟨c', first, rest⟩, holds⟩
    exact ⟨c', first, c'', rest, holds⟩
  · rintro ⟨c', first, c'', rest, holds⟩
    exact ⟨c'', ⟨c', first, rest⟩, holds⟩

theorem isSome_iff_wp : (program.foldlM Core.exec c).isSome ↔ wp program (fun _ => True) c := by
  simp [wp, Option.isSome_iff_exists]

theorem wp_of_exec {c' : Core} (first : c.exec i = some c') :
    wp (i :: program) Q c ↔ wp program Q c' := by
  simp [wp_cons, first]

theorem wp_of_exec_if {c' : Core} {p : Prop} [Decidable p]
    (first : c.exec i = if p then some c' else none) :
    wp (i :: program) Q c ↔ p ∧ wp program Q c' := by
  by_cases h : p <;> simp [wp_cons, first, h]

variable {d n t m : Reg} {s : Special} {f : Core → Core} {value : Word} {list : List Reg}

@[simp] theorem wp_mrs :
    wp (.mrs d s :: program) Q c ↔ wp program Q (c.set d (c.special s)) := wp_of_exec rfl

@[simp] theorem wp_msr :
    wp (.msr s n :: program) Q c ↔ wp program Q (c.setSpecial s (c.reg n)) := wp_of_exec rfl

@[simp] theorem wp_cpsid {j k : Bool} :
    wp (.cpsid j k :: program) Q c ↔
      wp program Q { c with primask := j || c.primask, faultmask := k || c.faultmask } :=
  wp_of_exec rfl

@[simp] theorem wp_cpsie {j k : Bool} :
    wp (.cpsie j k :: program) Q c ↔
      wp program Q { c with primask := !j && c.primask, faultmask := !k && c.faultmask } :=
  wp_of_exec rfl

@[simp] theorem wp_barrier : wp (.barrier :: program) Q c ↔ wp program Q c := wp_of_exec rfl

@[simp] theorem wp_literal :
    wp (.literal d value :: program) Q c ↔ wp program Q (c.set d value) := wp_of_exec rfl

@[simp] theorem wp_mov :
    wp (.mov d value :: program) Q c ↔ wp program Q (c.set d value) := wp_of_exec rfl

@[simp] theorem wp_orr :
    wp (.orr d value :: program) Q c ↔ wp program Q (c.set d (c.reg d ||| value)) :=
  wp_of_exec rfl

@[simp] theorem wp_ldr :
    wp (.ldr d n :: program) Q c ↔
      Aligned (c.reg n) ∧ wp program Q (c.set d (c.mem (c.reg n))) := wp_of_exec_if rfl

@[simp] theorem wp_str :
    wp (.str t n :: program) Q c ↔ Aligned (c.reg n) ∧
      wp program Q { c with mem := c.mem.store (c.reg n) (c.reg t) } := wp_of_exec_if rfl

@[simp] theorem wp_stmdb {n : Base} :
    wp (.stmdb n list :: program) Q c ↔
      Aligned (c.base n - 4 * BitVec.ofNat 32 list.length) ∧
        wp program Q { c.setBase n (c.base n - 4 * BitVec.ofNat 32 list.length) with
          mem := c.mem.storeAll (c.base n - 4 * BitVec.ofNat 32 list.length)
            (list.map c.reg) } := wp_of_exec_if rfl

@[simp] theorem wp_ldmia {n : Base} :
    wp (.ldmia n list :: program) Q c ↔ Aligned (c.base n) ∧
      wp program Q (Core.setBase
        { c with reg := setAll c.reg list (c.mem.loadAll (c.base n) list.length) } n
          (c.base n + 4 * BitVec.ofNat 32 list.length)) := wp_of_exec_if rfl

@[simp] theorem wp_bl : wp (.bl f :: program) Q c ↔ wp program Q (f c) := wp_of_exec rfl

/-- The exception return at the end of a handler. -/
theorem wp_bx_leave (handler : c.handler = true) (top : (c.reg m) >>> 28 = 0xf#32) :
    wp [.bx m] Q c ↔ ∃ c', c.leave (c.reg m) = some c' ∧ Q c' := by
  simp [wp_cons, Core.exec, handler, top]

/-- The return of a function. -/
theorem wp_bx_return (address : ¬ (c.handler = true ∧ (c.reg m) >>> 28 = 0xf#32)) :
    wp [.bx m] Q c ↔ Q { c with pc := c.reg m } := by
  simp [wp_cons, Core.exec, address]

/-! ## What the parts of the state hold after an update -/

namespace Core

variable {r : Reg} {v : Word}

@[simp] theorem set_reg : (c.set d v).reg = Function.update c.reg d v := rfl
@[simp] theorem set_pc : (c.set d v).pc = c.pc := rfl
@[simp] theorem set_xpsr : (c.set d v).xpsr = c.xpsr := rfl
@[simp] theorem set_msp : (c.set d v).msp = c.msp := rfl
@[simp] theorem set_psp : (c.set d v).psp = c.psp := rfl
@[simp] theorem set_basepri : (c.set d v).basepri = c.basepri := rfl
@[simp] theorem set_primask : (c.set d v).primask = c.primask := rfl
@[simp] theorem set_faultmask : (c.set d v).faultmask = c.faultmask := rfl
@[simp] theorem set_handler : (c.set d v).handler = c.handler := rfl
@[simp] theorem set_spsel : (c.set d v).spsel = c.spsel := rfl
@[simp] theorem set_mem : (c.set d v).mem = c.mem := rfl

theorem sp_of_handler (handler : c.handler = true) : c.sp = c.msp := by simp [sp, handler]

end Core

end TestSystem.Machine
