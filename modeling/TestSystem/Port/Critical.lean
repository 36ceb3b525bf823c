import TestSystem.Port.Mask
import TestSystem.Transition.Run

/-!
# Critical sections

`vPortEnterCritical` and `vPortExitCritical` of `src/vf610/port.c` count the sections
that are open in one variable for the whole system, and the context switch does not
save it. That is enough: the interrupts of the kernel are masked before the variable is
read for the first section and unmasked after it was written for the last one, so the
task that opened a section goes on until it is closed, and the variable counts for the
running task alone.

A task may be interrupted between any two statements, and within the increment and the
decrement, which read the variable and write it later. The handlers of the kernel's
interrupts run statement by statement too and nest.
-/

namespace TestSystem.Port

open TestSystem.Machine TestSystem.Transition

/-! ## The source -/

/-- The statements of the two functions. -/
inductive Statement
  /-- `portDISABLE_INTERRUPTS()`. -/
  | disable
  /-- `uxCriticalNesting++` reads the variable. -/
  | readUp
  /-- `uxCriticalNesting++` writes the variable. -/
  | writeUp
  /-- The assertion that no exception is handled, if the count is one. -/
  | assertThread
  /-- `CONFIG_ASSERT( uxCriticalNesting )`. -/
  | assertNesting
  /-- `uxCriticalNesting--` reads the variable. -/
  | readDown
  /-- `uxCriticalNesting--` writes the variable. -/
  | writeDown
  /-- `if( uxCriticalNesting == 0 )`. -/
  | test
  /-- `portENABLE_INTERRUPTS()`. -/
  | enable
  deriving DecidableEq

/-- `vPortEnterCritical`, after whose second statement the barriers stand. -/
def vPortEnterCritical : List Statement := [.disable, .readUp, .writeUp, .assertThread]

/-- `vPortExitCritical`; the branch of the test is put before what follows. -/
def vPortExitCritical : List Statement := [.assertNesting, .readDown, .writeDown, .test]

/-- The statements of an interrupt handler that uses the kernel. -/
inductive HandlerStatement
  /-- `portSET_INTERRUPT_MASK_FROM_ISR()`. -/
  | setMask
  /-- What the kernel does, which may ask for a switch. -/
  | work
  /-- `portCLEAR_INTERRUPT_MASK_FROM_ISR`, with a constant or with what was saved. -/
  | clearMask (value : Option Word)
  deriving DecidableEq

/-- `xPortSysTickHandler`, which does not restore what was set before. -/
def xPortSysTickHandler : List HandlerStatement := [.setMask, .work, .clearMask (some 0#32)]

/-- A handler between `portSET_INTERRUPT_MASK_FROM_ISR` and
`portCLEAR_INTERRUPT_MASK_FROM_ISR`, as the kernel's functions for interrupts have it. -/
def fromISR : List HandlerStatement := [.setMask, .work, .clearMask none]

/-- A handler that was entered: what it has still to do, and the mask it has saved. -/
structure Handler where
  rest : List HandlerStatement
  saved : Word
  deriving DecidableEq

/-- What the port keeps of the kernel's state, with the tasks and the handlers. -/
structure Kernel (T : Type*) where
  uxCriticalNesting : Word
  basepri : Word
  /-- `PendSV` is pending. -/
  pendSV : Bool
  current : T
  /-- What each task has still to do of the function that it has called. -/
  rest : T → List Statement
  /-- What each task has read and not written back. -/
  value : T → Word
  /-- The handlers that were entered, the running one first. -/
  handlers : List Handler

variable {T : Type*}

namespace Kernel

variable (maxSyscall : Word) (k : Kernel T)

/-- The old mask is the result. -/
def ulPortSetInterruptMask : Word × Kernel T := (k.basepri, { k with basepri := maxSyscall })

/-- The mask is overwritten. -/
def vPortClearInterruptMask (ulNewMaskValue : Word) : Kernel T :=
  { k with basepri := ulNewMaskValue }

/-- The switch is asked for. -/
def vPortYield : Kernel T := { k with pendSV := true }

/-- The code of the function does this to the register. -/
theorem wp_ulPortSetInterruptMask {c : Core} (called : Called c) (same : c.basepri = k.basepri) :
    wp (ulPortSetInterruptMaskCode maxSyscall)
      (fun c' => c'.reg .r0 = (k.ulPortSetInterruptMask maxSyscall).1 ∧
        c'.basepri = (k.ulPortSetInterruptMask maxSyscall).2.basepri) c := by
  rw [wp_ulPortSetInterruptMaskCode called]
  exact ⟨same, rfl⟩

theorem wp_vPortClearInterruptMask {c : Core} (called : Called c) :
    wp vPortClearInterruptMaskCode
      (fun c' => c'.basepri = (k.vPortClearInterruptMask (c.reg .r0)).basepri) c := by
  rw [wp_vPortClearInterruptMaskCode called]
  rfl

/-- The running handler executes a statement; `saved` is what it has saved, and `hs` are
the handlers that it interrupts. `required` is whether the kernel asks for a switch. -/
def perform (required : Bool) (rest : List HandlerStatement) (saved : Word) (hs : List Handler) :
    HandlerStatement → Kernel T
  | .setMask =>
    let (saved, k) := k.ulPortSetInterruptMask maxSyscall
    { k with handlers := ⟨rest, saved⟩ :: hs }
  | .work => { k with pendSV := k.pendSV || required, handlers := ⟨rest, saved⟩ :: hs }
  | .clearMask value =>
    { k.vPortClearInterruptMask (value.getD saved) with handlers := ⟨rest, saved⟩ :: hs }

/-- The running handler goes on, and returns after its last statement. -/
def handle (required : Bool) : Option (Kernel T) :=
  match k.handlers with
  | [] => none
  | ⟨[], _⟩ :: hs => some { k with handlers := hs }
  | ⟨statement :: rest, saved⟩ :: hs =>
    some (k.perform maxSyscall required rest saved hs statement)

section Tasks

variable [DecidableEq T]

/-- Task `t` has the given statements still to do. -/
def goOn (t : T) (rest : List Statement) : Kernel T :=
  { k with rest := Function.update k.rest t rest }

/-- Task `t` has read the variable. -/
def read (t : T) (rest : List Statement) : Kernel T :=
  { k.goOn t rest with value := Function.update k.value t k.uxCriticalNesting }

/-- Task `t` executes the first of its statements; `none` is a failed assertion. -/
def execute (t : T) (rest : List Statement) : Statement → Option (Kernel T)
  | .disable => some ((k.ulPortSetInterruptMask maxSyscall).2.goOn t rest)
  | .readUp => some (k.read t rest)
  | .writeUp => some { k.goOn t rest with uxCriticalNesting := k.value t + 1 }
  | .assertThread =>
    if k.uxCriticalNesting = 1#32 ∧ k.handlers ≠ [] then none else some (k.goOn t rest)
  | .assertNesting => if k.uxCriticalNesting = 0#32 then none else some (k.goOn t rest)
  | .readDown => some (k.read t rest)
  | .writeDown => some { k.goOn t rest with uxCriticalNesting := k.value t - 1 }
  | .test => some (k.goOn t (if k.uxCriticalNesting = 0#32 then .enable :: rest else rest))
  | .enable => some ((k.vPortClearInterruptMask 0#32).goOn t rest)

end Tasks

end Kernel

/-- What happens next: a task calls a function or goes on with it, an interrupt of the
kernel is taken, its handler goes on, or `PendSV` switches the task. -/
inductive Call (T : Type*)
  | enter (t : T)
  | exit (t : T)
  | statement (t : T) (statement : Statement)
  | yield (t : T)
  | take (handler : List HandlerStatement)
  | handle (required : Bool)
  | switch (next : T)
  deriving DecidableEq

section Calls

variable [DecidableEq T]

/-- The running task goes on when no handler runs. An interrupt of the kernel asks for an
open mask, and `PendSV`, which has the lowest priority, that no handler runs besides. -/
def callStep (maxSyscall : Word) (k : Kernel T) : Call T → Option (Kernel T)
  | .enter t =>
    if k.handlers = [] ∧ k.current = t ∧ k.rest t = [] then some (k.goOn t vPortEnterCritical)
    else none
  | .exit t =>
    if k.handlers = [] ∧ k.current = t ∧ k.rest t = [] then some (k.goOn t vPortExitCritical)
    else none
  | .statement t statement =>
    if k.handlers = [] ∧ k.current = t ∧ (k.rest t).head? = some statement then
      k.execute maxSyscall t (k.rest t).tail statement
    else none
  | .yield t =>
    if k.handlers = [] ∧ k.current = t ∧ k.rest t = [] then some k.vPortYield else none
  | .take handler =>
    if k.basepri = 0#32 ∧ (handler = xPortSysTickHandler ∨ handler = fromISR) then
      some { k with handlers := ⟨handler, 0#32⟩ :: k.handlers }
    else none
  | .handle required => k.handle maxSyscall required
  | .switch next =>
    if k.handlers = [] ∧ k.basepri = 0#32 ∧ k.pendSV = true then
      some { k with current := next, pendSV := false }
    else none

/-- The sections that task `t` has open: those it has counted, less those it has counted
down again. -/
def inside (calls : List (Call T)) (t : T) : ℤ :=
  calls.count (.statement t .writeUp) - calls.count (.statement t .writeDown)

/-- No task opens so many sections that the count would start again from zero. -/
def Countable (past : List (Call T)) : Call T → Prop
  | .statement t .writeUp => inside past t < 2 ^ 32 - 1
  | _ => True

/-! ## Where a task may stand -/

/-- The task is in its own code, or at the beginning of one of the functions. -/
def Outside (rest : List Statement) : Prop :=
  rest = [] ∨ rest = vPortEnterCritical ∨ rest = vPortExitCritical

instance (rest : List Statement) : Decidable (Outside rest) :=
  inferInstanceAs (Decidable (_ ∨ _ ∨ _))

/-- The task is between the two functions' first and last statements: what the variable
and the value read are there. -/
inductive Within (nesting value : Word) : List Statement → Prop
  | disabled : Within nesting value [.readUp, .writeUp, .assertThread]
  | readUp (same : value = nesting) : Within nesting value [.writeUp, .assertThread]
  | counted (some_open : nesting ≠ 0#32) : Within nesting value [.assertThread]
  | leaving (some_open : nesting ≠ 0#32) : Within nesting value [.readDown, .writeDown, .test]
  | readDown (some_open : nesting ≠ 0#32) (same : value = nesting) :
      Within nesting value [.writeDown, .test]
  | uncounted : Within nesting value [.test]
  | last (closed : nesting = 0#32) : Within nesting value [.enable]

/-- The running task has no section open, and is neither opening nor closing one. -/
def Kernel.Free (k : Kernel T) : Prop :=
  k.uxCriticalNesting = 0#32 ∧ Outside (k.rest k.current)

/-- The handler has not set the mask, or has restored it. -/
def Handler.Open (h : Handler) : Prop :=
  h.rest = xPortSysTickHandler ∨ h.rest = fromISR ∨ h.rest = []

/-- The handler has set the mask and will open it again. -/
def Handler.Masking (h : Handler) : Prop :=
  ∃ value, (h.rest = [.work, .clearMask value] ∨ h.rest = [.clearMask value]) ∧
    value.getD h.saved = 0#32

variable {maxSyscall : Word} {k k' : Kernel T} {calls : List (Call T)} {first t u : T}
  {call : Call T} {now : Statement}

theorem not_outside_of_within {nesting value : Word} {rest : List Statement}
    (within : Within nesting value rest) : ¬ Outside rest := by
  cases within <;> decide

theorem Handler.Masking.not_open {h : Handler} (masking : h.Masking) : ¬ h.Open := by
  obtain ⟨value, rest | rest, -⟩ := masking <;>
    simp [Handler.Open, rest, xPortSysTickHandler, fromISR]

/-! ## Counting -/

theorem inside_append (calls : List (Call T)) (t : T) (call : Call T) :
    inside (calls ++ [call]) t = inside calls t +
      (if call = .statement t .writeUp then 1 else 0) -
        if call = .statement t .writeDown then 1 else 0 := by
  simp only [inside, List.count_append, List.count_singleton, beq_iff_eq]
  split_ifs <;> push_cast <;> ring

/-- Nothing but the two writes counts. -/
theorem inside_of_other (calls : List (Call T)) (t : T) (up : ∀ u, call ≠ .statement u .writeUp)
    (down : ∀ u, call ≠ .statement u .writeDown) :
    inside (calls ++ [call]) t = inside calls t := by
  simp [inside_append, up t, down t]

/-! ## What every run keeps -/

/-- The variable counts for the running task, and the mask is open exactly while that
task is free and no handler has set it. -/
structure Counted (maxSyscall : Word) (calls : List (Call T)) (k : Kernel T) : Prop where
  others : ∀ t, t ≠ k.current → inside calls t = 0 ∧ Outside (k.rest t)
  own : inside calls k.current = k.uxCriticalNesting.toNat
  stands : Outside (k.rest k.current) ∨
    Within k.uxCriticalNesting (k.value k.current) (k.rest k.current)
  mask : k.Free ∧ (∀ h ∈ k.handlers, h.Open) ∧ k.basepri = 0#32 ∨
    ¬ (k.Free ∧ ∀ h ∈ k.handlers, h.Open) ∧ k.basepri = maxSyscall
  handlers : k.handlers ≠ [] → k.Free
  top : ∀ h ∈ k.handlers.head?, h.Open ∨ h.Masking
  below : ∀ h ∈ k.handlers.tail, h.Open

theorem Counted.open_iff (max : maxSyscall ≠ 0#32) (counted : Counted maxSyscall calls k) :
    k.basepri = 0#32 ↔ k.Free ∧ ∀ h ∈ k.handlers, h.Open := by
  rcases counted.mask with ⟨free, opened, zero⟩ | ⟨closed, masked⟩
  · exact iff_of_true zero ⟨free, opened⟩
  · exact iff_of_false (fun zero => max (masked.symm.trans zero)) closed

/-- Where the running task is not free, the mask is set and no handler runs. -/
theorem Counted.masked (counted : Counted maxSyscall calls k) (held : ¬ k.Free) :
    k.basepri = maxSyscall ∧ k.handlers = [] := by
  constructor
  · rcases counted.mask with ⟨free, -⟩ | ⟨-, masked⟩
    · exact absurd free held
    · exact masked
  · by_contra entered
    exact held (counted.handlers entered)

theorem Counted.masked_of_masking (counted : Counted maxSyscall calls k) {h : Handler}
    (member : h ∈ k.handlers) (masking : h.Masking) : k.basepri = maxSyscall := by
  rcases counted.mask with ⟨-, opened, -⟩ | ⟨-, masked⟩
  · exact absurd (opened h member) masking.not_open
  · exact masked

/-! ### The running task -/

/-- What a step of the running task has to keep. -/
theorem Counted.of_task (counted : Counted maxSyscall calls k) (idle : k'.handlers = [])
    (current : k'.current = k.current) (rest : ∀ u, u ≠ k.current → k'.rest u = k.rest u)
    (others : ∀ u, u ≠ k.current → inside (calls ++ [call]) u = inside calls u)
    (own : inside (calls ++ [call]) k.current = k'.uxCriticalNesting.toNat)
    (stands : Outside (k'.rest k.current) ∨
      Within k'.uxCriticalNesting (k'.value k.current) (k'.rest k.current))
    (mask : k'.basepri = if k'.uxCriticalNesting = 0#32 ∧ Outside (k'.rest k.current) then 0#32
      else maxSyscall) :
    Counted maxSyscall (calls ++ [call]) k' where
  others u other := by
    rw [current] at other
    rw [others u other, rest u other]
    exact counted.others u other
  own := by rw [current, own]
  stands := by
    rw [current]
    exact stands
  mask := by
    rw [Kernel.Free, current, idle, mask]
    split
    case isTrue free => exact .inl ⟨free, by simp, rfl⟩
    case isFalse held => exact .inr ⟨fun free => held free.1, rfl⟩
  handlers entered := absurd idle entered
  top := by simp [idle]
  below := by simp [idle]

/-- A step of the running task that writes no count. -/
theorem Counted.of_move (counted : Counted maxSyscall calls k) (idle : k'.handlers = [])
    (current : k'.current = k.current) (nesting : k'.uxCriticalNesting = k.uxCriticalNesting)
    {rest : List Statement} (moved : k'.rest = Function.update k.rest k.current rest)
    (up : ∀ u, call ≠ .statement u .writeUp) (down : ∀ u, call ≠ .statement u .writeDown)
    (stands : Outside rest ∨ Within k.uxCriticalNesting (k'.value k.current) rest)
    (mask : k'.basepri = if k.uxCriticalNesting = 0#32 ∧ Outside rest then 0#32 else maxSyscall) :
    Counted maxSyscall (calls ++ [call]) k' := by
  have here : k'.rest k.current = rest := by rw [moved, Function.update_self]
  apply counted.of_task idle current
  · intro u other
    rw [moved, Function.update_of_ne other]
  · exact fun u _ => inside_of_other calls u up down
  · rw [inside_of_other calls _ up down, nesting]
    exact counted.own
  · rw [here, nesting]
    exact stands
  · rw [here, nesting]
    exact mask

/-- Such a step with the mask set. -/
theorem Counted.of_within (counted : Counted maxSyscall calls k) (idle : k'.handlers = [])
    (current : k'.current = k.current) (nesting : k'.uxCriticalNesting = k.uxCriticalNesting)
    {rest : List Statement} (moved : k'.rest = Function.update k.rest k.current rest)
    (up : ∀ u, call ≠ .statement u .writeUp) (down : ∀ u, call ≠ .statement u .writeDown)
    (within : Within k.uxCriticalNesting (k'.value k.current) rest)
    (masked : k'.basepri = maxSyscall) : Counted maxSyscall (calls ++ [call]) k' :=
  counted.of_move idle current nesting moved up down (.inr within) (by
    rw [if_neg fun free => not_outside_of_within within free.2, masked])

/-- A step of the running task that writes the count. -/
theorem Counted.of_count (counted : Counted maxSyscall calls k) (idle : k.handlers = [])
    (nesting : Word) (rest : List Statement)
    (others : ∀ u, u ≠ k.current → inside (calls ++ [call]) u = inside calls u)
    (own : inside (calls ++ [call]) k.current = nesting.toNat)
    (within : Within nesting (k.value k.current) rest) (masked : k.basepri = maxSyscall) :
    Counted maxSyscall (calls ++ [call])
      { k.goOn k.current rest with uxCriticalNesting := nesting } := by
  have here : (k.goOn k.current rest).rest k.current = rest := Function.update_self _ _ _
  refine counted.of_task idle rfl ?_ others own ?_ ?_
  · intro u other
    exact Function.update_of_ne other _ _
  · rw [here]
    exact .inr within
  · rw [here, if_neg fun free => not_outside_of_within within free.2]
    exact masked

/-- The mask as it is while the task stays outside. -/
theorem Counted.mask_of_outside (counted : Counted maxSyscall calls k) (idle : k.handlers = [])
    (before : Outside (k.rest k.current)) {rest : List Statement} (after : Outside rest) :
    k.basepri = if k.uxCriticalNesting = 0#32 ∧ Outside rest then 0#32 else maxSyscall := by
  rcases counted.mask with ⟨free, -, zero⟩ | ⟨held, masked⟩
  · rw [if_pos ⟨free.1, after⟩, zero]
  · rw [if_neg fun free => held ⟨⟨free.1, before⟩, by simp [idle]⟩, masked]

/-- The task has read the count with the mask set, and writes one more. -/
theorem Counted.writeUp (counted : Counted maxSyscall calls k) (idle : k.handlers = [])
    (countable : Countable calls (.statement k.current .writeUp))
    (read : k.value k.current = k.uxCriticalNesting) (masked : k.basepri = maxSyscall) :
    Counted maxSyscall (calls ++ [.statement k.current .writeUp])
      { k.goOn k.current [.assertThread] with
        uxCriticalNesting := k.value k.current + 1#32 } := by
  have own := counted.own
  have bound : inside calls k.current < 2 ^ 32 - 1 := countable
  have next : (k.value k.current + 1#32).toNat = k.uxCriticalNesting.toNat + 1 := by
    rw [read]
    bv_omega
  have some_open : k.value k.current + 1#32 ≠ 0#32 := by bv_omega
  refine counted.of_count idle _ _ ?_ ?_ ?_ masked
  · intro u other
    simp [inside_append, other.symm]
  · simp only [inside_append, if_true, next, own]
    simp
  · exact .counted some_open

/-- The task has read the count of its sections, and writes one less. -/
theorem Counted.writeDown (counted : Counted maxSyscall calls k) (idle : k.handlers = [])
    (some_open : k.uxCriticalNesting ≠ 0#32)
    (read : k.value k.current = k.uxCriticalNesting) (masked : k.basepri = maxSyscall) :
    Counted maxSyscall (calls ++ [.statement k.current .writeDown])
      { k.goOn k.current [.test] with uxCriticalNesting := k.value k.current - 1#32 } := by
  have own := counted.own
  have pos : 0 < k.uxCriticalNesting.toNat := by bv_omega
  have next : (k.value k.current - 1#32).toNat = k.uxCriticalNesting.toNat - 1 := by
    rw [read]
    bv_omega
  refine counted.of_count idle _ _ ?_ ?_ ?_ masked
  · intro u other
    simp [inside_append, other.symm]
  · simp only [inside_append, if_true, next, own]
    simp
    omega
  · exact .uncounted

/-- The task executes the statement that it comes to. -/
theorem Counted.statement (counted : Counted maxSyscall calls k) (idle : k.handlers = [])
    (head : (k.rest k.current).head? = some now)
    (countable : Countable calls (.statement k.current now))
    (executed : k.execute maxSyscall k.current (k.rest k.current).tail now = some k') :
    Counted maxSyscall (calls ++ [.statement k.current now]) k' := by
  rcases counted.stands with (none | enters | exits) | within
  · simp [none] at head
  · -- The mask is set before the variable is read.
    rw [enters] at head executed
    obtain rfl := Option.some.inj head
    obtain rfl := Option.some.inj executed
    exact counted.of_within idle rfl rfl rfl (by simp) (by simp) .disabled rfl
  · -- The assertion holds, so a section is open and the mask is set.
    rw [exits] at head executed
    obtain rfl := Option.some.inj head
    by_cases closed : k.uxCriticalNesting = 0#32
    · simp [Kernel.execute, closed] at executed
    rw [Kernel.execute, if_neg closed] at executed
    obtain rfl := Option.some.inj executed
    have masked := (counted.masked fun free => closed free.1).1
    exact counted.of_within idle rfl rfl rfl (by simp) (by simp) (.leaving closed) masked
  · -- In between the mask is set, and the next statement follows from the place.
    have masked := (counted.masked fun free => not_outside_of_within within free.2).1
    generalize stands : k.rest k.current = rest at within head executed
    generalize read : k.value k.current = value at within
    cases within with
    | disabled =>
      obtain rfl := Option.some.inj head
      obtain rfl := Option.some.inj executed
      have same : (k.read k.current [.writeUp, .assertThread]).value k.current =
          k.uxCriticalNesting := Function.update_self _ _ _
      exact counted.of_within idle rfl rfl rfl (by simp) (by simp) (.readUp same) masked
    | readUp same =>
      obtain rfl := Option.some.inj head
      obtain rfl := Option.some.inj executed
      exact counted.writeUp idle countable (read.trans same) masked
    | counted some_open =>
      obtain rfl := Option.some.inj head
      rw [Kernel.execute, if_neg fun refused => refused.2 idle] at executed
      obtain rfl := Option.some.inj executed
      exact counted.of_move idle rfl rfl rfl (by simp) (by simp) (.inl (.inl rfl))
        (masked.trans (if_neg fun free => some_open free.1).symm)
    | leaving some_open =>
      obtain rfl := Option.some.inj head
      obtain rfl := Option.some.inj executed
      have same : (k.read k.current [.writeDown, .test]).value k.current =
          k.uxCriticalNesting := Function.update_self _ _ _
      exact counted.of_within idle rfl rfl rfl (by simp) (by simp) (.readDown some_open same)
        masked
    | readDown some_open same =>
      obtain rfl := Option.some.inj head
      obtain rfl := Option.some.inj executed
      exact counted.writeDown idle some_open (read.trans same) masked
    | uncounted =>
      obtain rfl := Option.some.inj head
      obtain rfl := Option.some.inj executed
      by_cases closed : k.uxCriticalNesting = 0#32
      · rw [if_pos closed]
        exact counted.of_within idle rfl rfl rfl (by simp) (by simp) (.last closed) masked
      · rw [if_neg closed]
        exact counted.of_move idle rfl rfl rfl (by simp) (by simp) (.inl (.inl rfl))
          (masked.trans (if_neg fun free => closed free.1).symm)
    | last closed =>
      obtain rfl := Option.some.inj head
      obtain rfl := Option.some.inj executed
      exact counted.of_move idle rfl rfl rfl (by simp) (by simp) (.inl (.inl rfl))
        (if_pos ⟨closed, .inl rfl⟩).symm

/-! ### The handlers -/

/-- What a step of the handlers has to keep: the task is free, and the mask is set exactly
while the running handler has set it. -/
theorem Counted.of_handlers (counted : Counted maxSyscall calls k) (k' : Kernel T)
    (call : Call T) (free : k.Free)
    (same : k'.uxCriticalNesting = k.uxCriticalNesting ∧ k'.current = k.current ∧
      k'.rest = k.rest ∧ k'.value = k.value)
    (up : ∀ u, call ≠ .statement u .writeUp) (down : ∀ u, call ≠ .statement u .writeDown)
    (below : ∀ h ∈ k'.handlers.tail, h.Open)
    (top : (∀ h ∈ k'.handlers.head?, h.Open) ∧ k'.basepri = 0#32 ∨
      (∃ h ∈ k'.handlers.head?, h.Masking) ∧ k'.basepri = maxSyscall) :
    Counted maxSyscall (calls ++ [call]) k' := by
  obtain ⟨nesting, current, rest, value⟩ := same
  have free' : k'.Free := by
    rw [Kernel.Free, nesting, current, rest]
    exact free
  exact
    { others := fun u other => by
        rw [inside_of_other calls u up down, rest]
        exact counted.others u (current ▸ other)
      own := by
        rw [inside_of_other calls _ up down, current, nesting]
        exact counted.own
      stands := by
        rw [current, nesting, rest, value]
        exact counted.stands
      mask := by
        rcases top with ⟨opened, zero⟩ | ⟨⟨h, first, masking⟩, masked⟩
        · refine .inl ⟨free', fun h member => ?_, zero⟩
          cases handlers : k'.handlers with
          | nil => simp [handlers] at member
          | cons h' hs =>
            rw [handlers] at member below opened
            rcases List.mem_cons.mp member with rfl | later
            · exact opened h rfl
            · exact below h later
        · exact .inr ⟨fun quiet => masking.not_open (quiet.2 h (List.mem_of_mem_head? first)),
            masked⟩
      handlers := fun _ => free'
      top := by
        rcases top with ⟨opened, -⟩ | ⟨⟨h, first, masking⟩, -⟩
        · exact fun h first => .inl (opened h first)
        · intro h' first'
          obtain rfl : h = h' := Option.some.inj (first.symm.trans first')
          exact .inr masking
      below := below }

/-- An interrupt of the kernel is taken. -/
theorem Counted.take (max : maxSyscall ≠ 0#32) (counted : Counted maxSyscall calls k)
    {handler : List HandlerStatement} (opened : k.basepri = 0#32)
    (known : handler = xPortSysTickHandler ∨ handler = fromISR) :
    Counted maxSyscall (calls ++ [.take handler])
      { k with handlers := ⟨handler, 0#32⟩ :: k.handlers } := by
  obtain ⟨free, all⟩ := (counted.open_iff max).mp opened
  refine counted.of_handlers _ _ free ⟨rfl, rfl, rfl, rfl⟩ (by simp) (by simp) all
    (.inl ⟨?_, opened⟩)
  rintro h ⟨⟩
  exact known.imp_right .inl

/-- The running handler goes on. -/
theorem Counted.handle (max : maxSyscall ≠ 0#32) (counted : Counted maxSyscall calls k)
    {required : Bool} (enabled : k.handle maxSyscall required = some k') :
    Counted maxSyscall (calls ++ [.handle required]) k' := by
  cases entered : k.handlers with
  | nil => simp [Kernel.handle, entered] at enabled
  | cons h hs =>
    have free := counted.handlers (by simp [entered])
    have below : ∀ h' ∈ hs, h'.Open := by simpa [entered] using counted.below
    have first : h ∈ k.handlers.head? := by simp [entered]
    have step := counted.of_handlers k' (.handle required) free
    rw [Kernel.handle, entered] at enabled
    obtain ⟨rest, saved⟩ := h
    rcases counted.top _ first with opened | ⟨value, start | start, restores⟩
    · -- No handler has set the mask, so what the next one saves is the open mask.
      have zero : k.basepri = 0#32 := by
        refine (counted.open_iff max).mpr ⟨free, ?_⟩
        rw [entered]
        exact List.forall_mem_cons.mpr ⟨opened, below⟩
      rcases opened with start | start | start <;> simp only at start <;> subst start <;>
        obtain rfl := Option.some.inj enabled
      · exact step ⟨rfl, rfl, rfl, rfl⟩ (by simp) (by simp) below
          (.inr ⟨⟨_, rfl, some 0#32, .inl rfl, rfl⟩, rfl⟩)
      · exact step ⟨rfl, rfl, rfl, rfl⟩ (by simp) (by simp) below
          (.inr ⟨⟨_, rfl, none, .inl rfl, zero⟩, rfl⟩)
      · exact step ⟨rfl, rfl, rfl, rfl⟩ (by simp) (by simp)
          (fun h' member => below h' (List.mem_of_mem_tail member))
          (.inl ⟨fun h' first => below h' (List.mem_of_mem_head? first), zero⟩)
    · -- The kernel's work, with the mask set.
      simp only at start restores
      subst start
      obtain rfl := Option.some.inj enabled
      have masked : k.basepri = maxSyscall :=
        counted.masked_of_masking (List.mem_of_mem_head? first) ⟨value, .inl rfl, restores⟩
      exact step ⟨rfl, rfl, rfl, rfl⟩ (by simp) (by simp) below
        (.inr ⟨⟨_, rfl, value, .inr rfl, restores⟩, masked⟩)
    · -- The mask is opened again.
      simp only at start restores
      subst start
      obtain rfl := Option.some.inj enabled
      refine step ⟨rfl, rfl, rfl, rfl⟩ (by simp) (by simp) below (.inl ⟨?_, restores⟩)
      rintro h ⟨⟩
      exact .inr (.inr rfl)

/-! ### All steps -/

/-- The task that is switched to has no section open, as the one that it follows. -/
theorem Counted.switch (max : maxSyscall ≠ 0#32) (counted : Counted maxSyscall calls k)
    (idle : k.handlers = []) (opened : k.basepri = 0#32) (next : T) :
    Counted maxSyscall (calls ++ [.switch next]) { k with current := next, pendSV := false } := by
  obtain ⟨⟨closed, outside⟩, -⟩ := (counted.open_iff max).mp opened
  have none (u : T) : inside calls u = 0 ∧ Outside (k.rest u) := by
    by_cases here : u = k.current
    · refine here ▸ ⟨?_, outside⟩
      rw [counted.own, closed]
      rfl
    · exact counted.others u here
  have same (u : T) : inside (calls ++ [.switch next]) u = inside calls u :=
    inside_of_other calls u (by simp) (by simp)
  exact
    { others := fun u _ => by rw [same]; exact none u
      own := by
        rw [same, (none next).1, closed]
        rfl
      stands := .inl (none next).2
      mask := .inl ⟨⟨closed, (none next).2⟩, by simp [idle], opened⟩
      handlers := fun entered => absurd idle entered
      top := by simp [idle]
      below := by simp [idle] }

theorem Counted.step (max : maxSyscall ≠ 0#32) (counted : Counted maxSyscall calls k)
    (countable : Countable calls call) (enabled : callStep maxSyscall k call = some k') :
    Counted maxSyscall (calls ++ [call]) k' := by
  cases call with
  | enter t =>
    obtain ⟨⟨idle, rfl, own⟩, called⟩ := Option.ite_none_right_eq_some.mp enabled
    obtain rfl := Option.some.inj called
    have outside : Outside vPortEnterCritical := .inr (.inl rfl)
    exact counted.of_move idle rfl rfl rfl (by simp) (by simp) (.inl outside)
      (counted.mask_of_outside idle (.inl own) outside)
  | exit t =>
    obtain ⟨⟨idle, rfl, own⟩, called⟩ := Option.ite_none_right_eq_some.mp enabled
    obtain rfl := Option.some.inj called
    have outside : Outside vPortExitCritical := .inr (.inr rfl)
    exact counted.of_move idle rfl rfl rfl (by simp) (by simp) (.inl outside)
      (counted.mask_of_outside idle (.inl own) outside)
  | statement t now =>
    obtain ⟨⟨idle, rfl, head⟩, executed⟩ := Option.ite_none_right_eq_some.mp enabled
    exact counted.statement idle head countable executed
  | yield t =>
    obtain ⟨⟨idle, rfl, own⟩, yielded⟩ := Option.ite_none_right_eq_some.mp enabled
    obtain rfl := Option.some.inj yielded
    exact counted.of_move idle rfl rfl (Function.update_eq_self _ _).symm (by simp) (by simp)
      (.inl (.inl own)) (counted.mask_of_outside idle (.inl own) (.inl own))
  | take handler =>
    obtain ⟨⟨opened, known⟩, taken⟩ := Option.ite_none_right_eq_some.mp enabled
    obtain rfl := Option.some.inj taken
    exact counted.take max opened known
  | handle required => exact counted.handle max enabled
  | switch next =>
    obtain ⟨⟨idle, opened, -⟩, switched⟩ := Option.ite_none_right_eq_some.mp enabled
    obtain rfl := Option.some.inj switched
    exact counted.switch max idle opened next

/-- The kernel when the first task starts. -/
def Kernel.started (first : T) : Kernel T where
  uxCriticalNesting := 0#32
  basepri := 0#32
  pendSV := false
  current := first
  rest _ := []
  value _ := 0#32
  handlers := []

theorem counted_started (maxSyscall : Word) (first : T) :
    Counted maxSyscall [] (.started first) where
  others _ _ := ⟨rfl, .inl rfl⟩
  own := rfl
  stands := .inl (.inl rfl)
  mask := .inl ⟨⟨rfl, .inl rfl⟩, by simp [Kernel.started], rfl⟩
  handlers entered := absurd rfl entered
  top := by simp [Kernel.started]
  below := by simp [Kernel.started]

theorem counted_of_run (max : maxSyscall ≠ 0#32)
    (run : Run (callStep maxSyscall) (.started first) calls k) (countable : Obeys Countable calls) :
    Counted maxSyscall calls k :=
  run.history countable (counted_started maxSyscall first)
    fun _ countable counted enabled => counted.step max countable enabled

theorem Counted.inside_eq_zero_iff (counted : Counted maxSyscall calls k) :
    inside calls k.current = 0 ↔ k.uxCriticalNesting = 0#32 := by
  rw [counted.own]
  constructor
  · intro zero
    exact BitVec.eq_of_toNat_eq (by simpa using zero)
  · intro zero
    simp [zero]

theorem Counted.nonneg (counted : Counted maxSyscall calls k) (t : T) : 0 ≤ inside calls t := by
  by_cases here : t = k.current
  · rw [here, counted.own]
    exact Int.natCast_nonneg _
  · rw [(counted.others t here).1]

/-- Task `t` has a section open, or is between the masking and the counting of the first
one, or between the counting and the unmasking of the last one. -/
def Holds (calls : List (Call T)) (k : Kernel T) (t : T) : Prop :=
  0 < inside calls t ∨ ¬ Outside (k.rest t)

theorem Counted.holds_iff (counted : Counted maxSyscall calls k) :
    Holds calls k k.current ↔ ¬ k.Free := by
  have zero := counted.inside_eq_zero_iff
  have nonneg := counted.nonneg k.current
  rw [Holds, Kernel.Free, not_and_or, ← zero]
  exact or_congr_left (nonneg.lt_iff_ne.trans ne_comm)

/-- Task 1 is interrupted by a tick before it masks the interrupts, and again between the
second section's masking and its counting, where nothing can be taken. -/
def tickAndNesting : List (Call ℕ) :=
  [.enter 1, .take xPortSysTickHandler, .handle true, .handle true, .handle true, .handle true,
    .statement 1 .disable, .statement 1 .readUp, .statement 1 .writeUp, .statement 1 .assertThread,
    .enter 1, .statement 1 .disable, .statement 1 .readUp]

end Calls

end TestSystem.Port
