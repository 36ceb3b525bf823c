import TestSystem.CanTest.Reports
import TestSystem.Queue.Bounded

/-!
# The echo of the CAN test

With `CONFIG_CAN_TEST_ECHO` the driver hands each message that passes a filter to
`can_test_msg_received` of `src/c28x/can_test.c`, in its interrupt. The callback puts
the message into a queue, sends it back and asserts that this succeeded; whether the
queue had room is ignored. The task takes the messages out of the queue and prints them,
between the statements that pass on the errors.
-/

namespace TestSystem.CanTest.Echo

open TestSystem.Queue TestSystem.Transition

/-- A slot of the queue was free. -/
def pdTRUE : Int32 := 1

/-- No slot of the queue was free. -/
def pdFALSE : Int32 := 0

variable {M : Type*} {w v n : ℕ}

/-- The task with the queue between the interrupt and it. -/
structure State (M : Type*) (w v n : ℕ) where
  task : CanTest.State w v
  /-- `can_test_messages`, with `CONFIG_CAN_TEST_ECHO_QUEUE_LENGTH` places. -/
  messages : Traffic M n
  /-- The local variable `msg`. -/
  msg : Option M
  shown : List M
  echoed : List M
  /-- An assertion has failed. -/
  stopped : Bool
  deriving DecidableEq

/-- The queue is empty and nothing was received. -/
def boot : State M w v n where
  task := CanTest.boot w v
  messages := .start
  msg := none
  shown := []
  echoed := []
  stopped := false

/-- What happens to the task of the echo build. -/
inductive Label (M : Type*) (w v : ℕ)
  /-- The task executes its next statement. -/
  | task
  /-- The driver has received a message; `can_sendISR` returns `ret`. -/
  | received (msg : M) (ret : Int32)
  /-- The driver reports an error. -/
  | report (err : BitVec w) (data : BitVec v)

/-- The callback of the driver: the message is queued if there is room, and sent back. -/
def canTestMsgReceived (msg : M) (ret : Int32) (s : State M w v n) : State M w v n :=
  { s with
    -- `(void) xQueueSendToBackFromISR(..)`.
    messages := s.messages.offer msg
    echoed := if ret = 0 then s.echoed ++ [msg] else s.echoed
    stopped := ret ≠ 0 }

/-- One statement of the echo loop. -/
def canTask (s : State M w v n) : State M w v n :=
  match s.task.place with
  | .transfer =>
    match s.messages.take with
    | some (msg, messages) =>
      { s with task := CanTest.canTask .echo pdTRUE s.task, messages := messages, msg := some msg }
    | none => { s with task := CanTest.canTask .echo pdFALSE s.task }
  | .showMessage ret =>
    { s with
      task := CanTest.canTask .echo 0 s.task
      shown := if ret = pdTRUE then s.shown ++ s.msg.toList else s.shown }
  | _ => { s with task := CanTest.canTask .echo 0 s.task }

/-- The interrupts are held back while they are disabled. -/
def step (s : State M w v n) (label : Label M w v) : Option (State M w v n) :=
  if s.stopped then none
  else
    match label with
    | .task => some (canTask s)
    | .received msg ret => if s.task.interrupts then some (canTestMsgReceived msg ret s) else none
    | .report err data =>
      if s.task.interrupts then some { s with task := canTestError err data s.task } else none

/-- The message that was taken and is printed next. -/
def State.inHand (s : State M w v n) : List M :=
  match s.task.place with
  | .showMessage ret => if ret = pdTRUE then s.msg.toList else []
  | _ => []

variable {s t : State M w v n} {labels : List (Label M w v)} {label : Label M w v}

/-! ## What each step does -/

/-- The guards of the three labels. -/
theorem step_cases (enabled : step s label = some t) : s.stopped = false ∧
    ((label = .task ∧ t = canTask s) ∨
      (∃ msg ret, label = .received msg ret ∧ t = canTestMsgReceived msg ret s) ∨
      ∃ err data, label = .report err data ∧ s.task.interrupts ∧
        t = { s with task := canTestError err data s.task }) := by
  unfold step at enabled
  cases stopped : s.stopped with
  | true => simp [stopped] at enabled
  | false =>
    refine ⟨rfl, ?_⟩
    simp only [stopped, Bool.false_eq_true, if_false] at enabled
    cases label with
    | task => exact .inl ⟨rfl, (Option.some.inj enabled).symm⟩
    | received msg ret =>
      obtain ⟨-, next⟩ := Option.ite_none_right_eq_some.mp enabled
      exact .inr (.inl ⟨msg, ret, rfl, (Option.some.inj next).symm⟩)
    | report err data =>
      obtain ⟨outside, next⟩ := Option.ite_none_right_eq_some.mp enabled
      refine .inr (.inr ⟨err, data, rfl, outside, ?_⟩)
      rw [← Option.some.inj next, ← stopped]

/-- What the loop is answered by its next statement: by `xQueueReceive`, whether a message
was waiting. -/
def State.answer (s : State M w v n) : Int32 :=
  match s.task.place with
  | .transfer => if s.messages.take.isSome then pdTRUE else pdFALSE
  | _ => 0

/-- A statement of the task changes none of what the interrupt keeps, and is a statement of
the loop without the queue. -/
theorem canTask_frame : (canTask s).messages.offered = s.messages.offered ∧
    (canTask s).messages.accepted = s.messages.accepted ∧ (canTask s).echoed = s.echoed ∧
      (canTask s).stopped = s.stopped ∧
        (canTask s).task = CanTest.canTask .echo s.answer s.task := by
  unfold canTask State.answer
  cases place : s.task.place with
  | transfer =>
    cases taken : s.messages.take with
    | none => exact ⟨rfl, rfl, rfl, rfl, rfl⟩
    | some pair =>
      obtain ⟨offered, accepted, -⟩ := Traffic.of_take taken
      exact ⟨offered, accepted, rfl, rfl, rfl⟩
  | _ => exact ⟨rfl, rfl, rfl, rfl, rfl⟩

/-- Only the receive statement leads to the one that prints a message. -/
theorem place_canTask {loop : Loop} {ret : Int32} {s : CanTest.State w v}
    (place : s.place ≠ .transfer) (ret' : Int32) :
    (CanTest.canTask loop ret s).place ≠ .showMessage ret' := by
  cases here : s.place with
  | transfer => exact absurd here place
  | test => by_cases clear : s.canErr = 0#w <;> cases loop <;>
      simp [CanTest.canTask, here, clear, Loop.afterErrors]
  | _ => cases loop <;> simp [CanTest.canTask, here, Loop.afterErrors]

theorem inHand_of_ne (elsewhere : ∀ ret, s.task.place ≠ .showMessage ret) : s.inHand = [] := by
  unfold State.inHand
  split
  case h_1 ret here => exact absurd here (elsewhere ret)
  case h_2 => rfl

theorem inHand_canTask (place : s.task.place ≠ .transfer) : (canTask s).inHand = [] := by
  obtain ⟨-, -, -, -, advanced⟩ := canTask_frame (s := s)
  apply inHand_of_ne
  rw [advanced]
  exact place_canTask place

/-- What was taken is printed, or printed next. -/
theorem shown_canTask (kept : s.shown ++ s.inHand = s.messages.taken) :
    (canTask s).shown ++ (canTask s).inHand = (canTask s).messages.taken := by
  cases place : s.task.place with
  | transfer =>
    rw [inHand_of_ne (by simp [place]), List.append_nil] at kept
    cases taken : s.messages.take with
    | none => simp [canTask, place, taken, State.inHand, CanTest.canTask, pdFALSE, pdTRUE, kept]
    | some pair =>
      obtain ⟨-, -, more, -⟩ := Traffic.of_take taken
      simp [canTask, place, taken, State.inHand, CanTest.canTask, kept, more]
  | showMessage ret =>
    have prints : (canTask s).shown = s.shown ++ s.inHand := by
      by_cases received : ret = pdTRUE <;> simp [canTask, place, State.inHand, received]
    rw [inHand_canTask (by simp [place]), List.append_nil, prints, kept]
    simp [canTask, place]
  | _ =>
    rw [inHand_of_ne (by simp [place])] at kept
    rw [inHand_canTask (by simp [place])]
    simpa [canTask, place] using kept

/-! ## Every message -/

/-- Where each message is that reached the callback. -/
structure Kept (s : State M w v n) : Prop where
  shown : s.shown ++ s.inHand = s.messages.taken
  echoed : s.stopped = false → s.echoed = s.messages.offered
  /-- The message whose echo failed is the last one. -/
  failed : s.stopped → ∃ msg, s.messages.offered = s.echoed ++ [msg]

theorem kept_boot : Kept (boot : State M w v n) where
  shown := rfl
  echoed _ := rfl
  failed stopped := by cases stopped

theorem Kept.task (kept : Kept s) : Kept (canTask s) := by
  obtain ⟨offered, -, echoed, stopped, -⟩ := canTask_frame (s := s)
  refine ⟨shown_canTask kept.shown, ?_, ?_⟩
  · rw [offered, echoed, stopped]
    exact kept.echoed
  · rw [offered, echoed, stopped]
    exact kept.failed

theorem Kept.received (kept : Kept s) (running : s.stopped = false) (msg : M) (ret : Int32) :
    Kept (canTestMsgReceived msg ret s) where
  shown := kept.shown.trans Traffic.taken_offer.symm
  echoed alive := by
    have sent : ret = 0 := by simpa [canTestMsgReceived] using alive
    simp [canTestMsgReceived, sent, kept.echoed running]
  failed stopped := by
    have refused : ret ≠ 0 := by simpa [canTestMsgReceived] using stopped
    exact ⟨msg, by simp [canTestMsgReceived, refused, kept.echoed running]⟩

theorem Kept.step (kept : Kept s) (enabled : step s label = some t) : Kept t := by
  obtain ⟨running, ⟨-, rfl⟩ | ⟨msg, ret, -, rfl⟩ | ⟨err, data, -, -, rfl⟩⟩ := step_cases enabled
  · exact kept.task
  · exact kept.received running msg ret
  · exact ⟨kept.shown, kept.echoed, kept.failed⟩

theorem kept_of_run (run : Run step boot labels s) : Kept s := by
  induction run with
  | nil => exact kept_boot
  | snoc _ enabled ih => exact ih.step enabled

/-- The messages that the driver hands to the callback. -/
def delivered (labels : List (Label M w v)) : List M :=
  labels.filterMap fun label =>
    match label with
    | .received msg _ => some msg
    | _ => none

theorem offered_of_run (run : Run step (boot : State M w v n) labels s) :
    s.messages.offered = delivered labels := by
  induction run with
  | nil => rfl
  | @snoc labels s label t _ enabled ih =>
    rw [delivered, List.filterMap_append, ← delivered, ← ih]
    obtain ⟨-, ⟨rfl, rfl⟩ | ⟨msg, ret, rfl, rfl⟩ | ⟨err, data, rfl, -, rfl⟩⟩ := step_cases enabled
    · simp [canTask_frame (s := s)]
    · exact Traffic.offered_offer
    · simp

/-- A message that arrives finds room in the queue. -/
def FindsRoom (s : State M w v n) : Label M w v → Prop
  | .received _ _ => s.messages.queue.HasRoom
  | _ => True

/-- The queue drops a message exactly when it is full. -/
theorem complete_step (enabled : step s label = some t) :
    t.messages.Complete ↔ s.messages.Complete ∧ FindsRoom s label := by
  obtain ⟨-, ⟨rfl, rfl⟩ | ⟨msg, ret, rfl, rfl⟩ | ⟨err, data, rfl, -, rfl⟩⟩ := step_cases enabled
  · obtain ⟨offered, accepted, -⟩ := canTask_frame (s := s)
    simp [Traffic.Complete, FindsRoom, offered, accepted]
  · exact Traffic.complete_offer_iff
  · simp [FindsRoom]

theorem complete_of_run (run : Run step boot labels s) :
    s.messages.Complete ↔ Along FindsRoom step (boot : State M w v n) labels := by
  induction run with
  | nil =>
    refine iff_of_true Traffic.complete_start ?_
    intro past a rest t split
    simp at split
  | snoc prior enabled ih => rw [along_append_singleton prior, complete_step enabled, ih]

/-- The message that finds room in the state in which it arrives. -/
def admitted (s : State M w v n) : Label M w v → Option M
  | .received msg _ => if s.messages.queue.HasRoom then some msg else none
  | _ => none

/-- The queue holds in turn what found room when it arrived. -/
theorem accepted_of_run (run : Run step (boot : State M w v n) labels s) :
    s.messages.accepted = observed admitted step (boot : State M w v n) labels := by
  induction run with
  | nil => rfl
  | @snoc labels s label t prior enabled ih =>
    rw [observed_append_singleton prior, ← ih]
    obtain ⟨-, ⟨rfl, rfl⟩ | ⟨msg, ret, rfl, rfl⟩ | ⟨err, data, rfl, -, rfl⟩⟩ := step_cases enabled
    · simp [canTask_frame (s := s), admitted]
    · have offered : (canTestMsgReceived msg ret s).messages.accepted = _ := Traffic.accepted_offer
      rw [offered, admitted]
      split <;> simp
    · simp [admitted]

/-- What the loop without the queue goes through: the statements with what they are answered,
and the reports. -/
def loopLabel (s : State M w v n) : Label M w v → Option (CanTest.Label w v)
  | .task => some (.task s.answer)
  | .received _ _ => none
  | .report err data => some (.report err data)

/-- What is known of the errors holds for the echo. -/
theorem run_loop (run : Run step (boot : State M w v n) labels s) :
    Run (CanTest.step .echo) (CanTest.boot w v)
      (observed loopLabel step (boot : State M w v n) labels) s.task := by
  induction run with
  | nil => exact .nil
  | @snoc labels s label t prior enabled ih =>
    rw [observed_append_singleton prior]
    obtain ⟨-, ⟨rfl, rfl⟩ | ⟨msg, ret, rfl, rfl⟩ | ⟨err, data, rfl, outside, rfl⟩⟩ :=
      step_cases enabled
    · obtain ⟨-, -, -, -, advanced⟩ := canTask_frame (s := s)
      exact ih.snoc (by rw [advanced]; rfl)
    · have same : (canTestMsgReceived msg ret s).task = s.task := rfl
      rw [same]
      simpa [loopLabel] using ih
    · exact ih.snoc (by simp [CanTest.step, outside])

/-! ## The queue is emptied -/

/-- Nothing waits to be printed. -/
def State.Idle (s : State M w v n) : Prop := s.messages.queue.items = [] ∧ s.inHand = []

/-- The statements before the next message is taken. -/
def ahead : Place → ℕ
  | .transfer => 0
  | .announce => 1
  | .delay => 2
  | .printCanError => 3
  | .eint => 4
  | .clearErrData => 5
  | .clearErr => 6
  | .readErrData => 7
  | .readErr => 8
  | .dint => 9
  | .test => 10
  | .showMessage _ => 11

/-- One round of the loop takes one message. -/
def State.rank (s : State M w v n) : ℕ := 12 * s.messages.queue.items.length + ahead s.task.place

theorem ahead_canTask {ret : Int32} {s : CanTest.State w v} (place : s.place ≠ .transfer) :
    ahead (CanTest.canTask .echo ret s).place < ahead s.place := by
  cases here : s.place with
  | transfer => exact absurd here place
  | test => by_cases clear : s.canErr = 0#w <;>
      simp [CanTest.canTask, here, clear, Loop.afterErrors, ahead]
  | _ => simp [CanTest.canTask, here, Loop.afterErrors, ahead]

theorem rank_canTask (waits : ¬ s.Idle) : (canTask s).rank < s.rank := by
  unfold State.rank
  cases place : s.task.place with
  | transfer =>
    cases taken : s.messages.take with
    | none =>
      have idle : s.Idle :=
        ⟨Traffic.of_take_none taken, inHand_of_ne fun ret => by simp [place]⟩
      exact absurd idle waits
    | some pair =>
      obtain ⟨-, -, -, fewer⟩ := Traffic.of_take taken
      simp only [canTask, place, taken, CanTest.canTask, ahead, fewer, List.length_cons]
      omega
  | _ =>
    have less : ahead (CanTest.canTask .echo 0 s.task).place < ahead s.task.place :=
      ahead_canTask (by simp [place])
    simpa [canTask, place] using less

/-- Once no more messages arrive, the task prints all that wait. -/
theorem exists_run_idle (kept : Kept s) (running : s.stopped = false) :
    ∃ labels t, Run step s labels t ∧ (∀ a ∈ labels, a = .task) ∧ t.Idle ∧
      t.shown = s.messages.accepted := by
  have printed (t : State M w v n) (kept : Kept t) (idle : t.Idle)
      (same : t.messages.accepted = s.messages.accepted) : t.shown = s.messages.accepted := by
    rw [← same, ← t.messages.balanced, ← kept.shown, idle.1, idle.2]
    simp
  by_cases idle : s.Idle
  · exact ⟨[], s, .nil, by simp, idle, printed s kept idle rfl⟩
  · apply exists_run_of_rank (I := fun n t => Kept t ∧ t.stopped = false ∧ ¬ t.Idle ∧ t.rank = n ∧
      t.messages.accepted = s.messages.accepted) ?_ ⟨kept, running, idle, rfl, rfl⟩
    rintro _ t ⟨kept, running, waits, rfl, same⟩
    obtain ⟨-, accepted, -, stopped, -⟩ := canTask_frame (s := t)
    refine ⟨.task, canTask t, rfl, by simp [Echo.step, running], ?_⟩
    by_cases idle : (canTask t).Idle
    · exact .inl ⟨idle, printed _ kept.task idle (accepted.trans same)⟩
    · exact .inr ⟨_, rank_canTask waits, kept.task, stopped.trans running, idle, rfl,
        accepted.trans same⟩

/-- **Every message is echoed once, and printed unless it found the queue full.** In
every run the messages are sent back in the order they arrived, up to the first that
`can_sendISR` refuses. What is printed, in hand or waiting is what found room when it
arrived, in the order of arrival, and is all printed once no more messages arrive. The
errors are treated as in a run of the loop without the queue, with the same reports between
the same statements. -/
theorem echo_keeps (run : Run step (boot : State M w v n) labels s) :
    (s.stopped = false → s.echoed = delivered labels) ∧
      (s.stopped → ∃ msg, delivered labels = s.echoed ++ [msg]) ∧
      s.shown ++ s.inHand ++ s.messages.queue.items =
        observed admitted step (boot : State M w v n) labels ∧
      (observed admitted step (boot : State M w v n) labels).Sublist (delivered labels) ∧
      (observed admitted step (boot : State M w v n) labels = delivered labels ↔
        Along FindsRoom step (boot : State M w v n) labels) ∧
      Run (CanTest.step .echo) (CanTest.boot w v)
        (observed loopLabel step (boot : State M w v n) labels) s.task ∧
      (s.stopped = false → ∃ labels' t, Run step s labels' t ∧ (∀ a ∈ labels', a = .task) ∧
        t.shown = observed admitted step (boot : State M w v n) labels) := by
  have kept := kept_of_run run
  rw [← offered_of_run run, ← accepted_of_run run]
  refine ⟨kept.echoed, kept.failed, ?_, s.messages.ordered, complete_of_run run,
    run_loop run, fun running => ?_⟩
  · rw [kept.shown]
    exact s.messages.balanced
  · obtain ⟨labels', t, more, tasks, -, shown⟩ := exists_run_idle kept running
    exact ⟨labels', t, more, tasks, shown⟩

/-- Two messages arrive before the task takes the first, but the queue has one place;
the echo of the third fails. -/
def threeMessages : List (Label ℕ 32 64) :=
  [.received 1 0, .received 2 0, .task, .task, .task, .received 3 (-1)]

theorem echo_keeps_threeMessages :
    ∃ s : State ℕ 32 64 1, Run step boot threeMessages s ∧ s.stopped ∧ s.echoed = [1, 2] ∧
      s.shown = [1] ∧ s.messages.queue.items = [3] ∧
      ¬ Along FindsRoom step (boot : State ℕ 32 64 1) threeMessages := by
  obtain ⟨s, run, stopped, echoed, shown, waits⟩ :
      ∃ s : State ℕ 32 64 1, Run step boot threeMessages s ∧ s.stopped ∧ s.echoed = [1, 2] ∧
        s.shown = [1] ∧ s.messages.queue.items = [3] :=
    ⟨_, run_iff_foldlM.mpr rfl, rfl, rfl, rfl, rfl⟩
  refine ⟨s, run, stopped, echoed, shown, waits, ?_⟩
  rw [← (echo_keeps run).2.2.2.2.1]
  decide

end TestSystem.CanTest.Echo
