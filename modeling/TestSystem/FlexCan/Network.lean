import TestSystem.Bus.Shared
import TestSystem.Mask.Field
import TestSystem.Transition.Run

/-!
# Boards on one CAN bus

`can_task` of `src/kv4x/flexcan.c` and of `src/s32k/flexcan.c`, each in two versions: with
`CONFIG_FLEXCAN_ECHO_TEST` the task sends the same message again and again and asserts that
what it receives is that message; else it sends on each message it receives, under another
identifier. Any number of boards is on the bus, with any other stations. A board sees what
is on the bus in order; its driver may lose messages, and may hand a board its own ones.

All versions receive through the same filter, and no message that is sent on passes it.
So the boards never answer each other's answers, and an echo test is not disturbed by the
boards that send messages on.
-/

namespace TestSystem.FlexCan

open TestSystem.Bus TestSystem.Mask TestSystem.Transition

/-- The fields of `struct can_msg` that the tasks read or write. -/
structure CanMsg where
  id : BitVec 32
  length : UInt8
  data : Vector UInt8 8
  deriving DecidableEq

/-- An acceptance filter of the driver. -/
structure CanFilter where
  id : BitVec 32
  mask : BitVec 32
  deriving DecidableEq

/-- What the driver lets through. -/
def CanFilter.Passes (filter : CanFilter) (msg : CanMsg) : Prop :=
  msg.id &&& filter.mask = filter.id &&& filter.mask

instance {filter : CanFilter} : DecidablePred filter.Passes :=
  fun _ => inferInstanceAs (Decidable (_ = _))

/-- The filter of all versions. -/
def filter : CanFilter := ⟨0x123#32, 0xFF0#32⟩

/-- The message of the echo test. -/
def echoMsg : CanMsg := ⟨0x123#32, 8, #v[0x01, 0x12, 0x34, 0x56, 0x78, 0x9A, 0xAB, 0xCD]⟩

/-- `memset(&msg, 0xFF, sizeof(struct can_msg))`. -/
def clearedMsg : CanMsg := ⟨0xFFFFFFFF#32, 0xFF, Vector.replicate 8 0xFF⟩

/-- The two boards with a FlexCAN test. -/
inductive Board
  | kv4x
  | s32k
  deriving DecidableEq

/-- What is added to the identifier of a message that is sent on. -/
def Board.idStep : Board → BitVec 32
  | .kv4x => -0x100#32
  | .s32k => 0x100#32

/-- A version of `can_task`. -/
structure Version where
  board : Board
  /-- `CONFIG_FLEXCAN_ECHO_TEST`. -/
  echoTest : Bool
  deriving DecidableEq

/-- The statement that is executed next. -/
inductive Place
  | registerFilter
  | up
  | send
  | recv
  deriving DecidableEq

/-- The assertions of the task, by what they are about. -/
inductive Assertion
  | filterID
  | up
  | send
  | recv
  | id
  | length
  | data (i : Fin 8)
  deriving DecidableEq

/-- A board on the bus. -/
structure Node where
  place : Place
  /-- The messages on the bus that were passed, received or not. -/
  next : ℕ
  msg : CanMsg
  stopped : Option Assertion
  deriving DecidableEq

namespace Version

/-- The echo test of the s32k registers its filter before `can_up`, the others after. -/
def filterFirst (v : Version) : Bool := v = ⟨.s32k, true⟩

/-- The first statement of the loop. -/
def loopStart (v : Version) : Place := if v.echoTest then .send else .recv

/-- A board before its first call of the driver. -/
def boot (v : Version) : Node where
  place := if v.filterFirst then .registerFilter else .up
  next := 0
  msg := if v.echoTest then echoMsg else clearedMsg
  stopped := none

end Version

/-- What the driver answers: the value a call returns, or `can_recv` returns 0 and hands
over the message at a position of the bus. -/
inductive Answer
  | ret (ret : Int32)
  | message (position : ℕ)
  deriving DecidableEq

/-- `CONFIG_ASSERT`; a task whose assertion fails makes no further step. -/
def Node.assert (holds : Bool) (assertion : Assertion) (place : Place) (s : Node) : Node :=
  if holds then { s with place := place } else { s with stopped := some assertion }

/-- The first of the comparisons of the echo test that fails. -/
def mismatch (received msg : CanMsg) : Option Assertion :=
  if received.id ≠ msg.id then some .id
  else if received.length ≠ msg.length then some .length
  else ((List.finRange 8).find? fun i => received.data[i] ≠ msg.data[i]).map .data

/-- The statements after a `can_recv` that succeeded. -/
def Version.received (v : Version) (msg : CanMsg) (s : Node) : Node :=
  if v.echoTest then
    match mismatch msg s.msg with
    | some assertion => { s with stopped := some assertion }
    | none => { s with place := .send }
  else
    { s with msg := { msg with id := msg.id + v.board.idStep }, place := .send }

/-- One statement of `can_task`, up to the next call of the driver, and the message that it
puts on the bus. -/
def canTask (v : Version) (bus : List CanMsg) (s : Node) :
    Answer → Option (Node × Option CanMsg)
  | .ret ret =>
    match s.place with
    | .registerFilter =>
      some (s.assert (ret ≠ -1) .filterID (if v.filterFirst then .up else v.loopStart), none)
    | .up =>
      some (s.assert (ret = 0) .up (if v.filterFirst then v.loopStart else .registerFilter), none)
    | .send => some (s.assert (ret = 0) .send .recv, if ret = 0 then some s.msg else none)
    | .recv => if ret = 0 then none else some (s.assert false .recv .recv, none)
  | .message position =>
    if s.place = .recv ∧ s.next ≤ position then
      match bus[position]? with
      | some msg =>
        if filter.Passes msg then
          some (v.received msg { s with next := position + 1 }, none)
        else none
      | none => none
    else none

/-- The boards that send on what they receive. -/
def forwarders {ι : Type*} [Fintype ι] (versions : ι → Version) : Finset ι :=
  Finset.univ.filter fun i => (versions i).echoTest = false

theorem mem_forwarders {ι : Type*} [Fintype ι] {versions : ι → Version} {i : ι} :
    i ∈ forwarders versions ↔ (versions i).echoTest = false := by
  simp [forwarders]

/-- All boards and the bus between them. -/
structure State (ι : Type*) where
  node : ι → Node
  bus : Log ι CanMsg

/-- Who acts next. -/
inductive Label (ι : Type*)
  /-- Another station sends a message. -/
  | outside (msg : CanMsg)
  /-- A board goes on, as its driver answers. -/
  | board (i : ι) (answer : Answer)

variable {ι : Type*} [DecidableEq ι] (versions : ι → Version)

/-- Every board is started and the bus is silent. -/
def boot : State ι := ⟨fun i => (versions i).boot, []⟩

/-- A message from outside or a step of one board; a board that has stopped takes none. -/
def step (s : State ι) : Label ι → Option (State ι)
  | .outside msg => some { s with bus := s.bus ++ [(none, msg)] }
  | .board i answer =>
    if (s.node i).stopped = none then
      (canTask (versions i) (contents s.bus) (s.node i) answer).map fun (node, sent) =>
        ⟨Function.update s.node i node, s.bus ++ sent.toList.map (some i, ·)⟩
    else none

/-! ## The filter -/

theorem passes_iff {msg : CanMsg} : filter.Passes msg ↔ msg.id.toNat / 16 % 256 = 0x12 := by
  have field : (msg.id &&& 0xFF0#32).toNat = msg.id.toNat / 2 ^ 4 % 2 ^ 8 * 2 ^ 4 :=
    toNat_and_field (by decide) msg.id
  have own : (filter.id &&& filter.mask).toNat = 0x12 * 2 ^ 4 := by decide
  rw [CanFilter.Passes, ← BitVec.toNat_inj, own, filter, field]
  omega

/-- The message that is sent on. -/
def Version.sentOn (v : Version) (msg : CanMsg) : CanMsg :=
  { msg with id := msg.id + v.board.idStep }

/-- A message that is sent on is out of the filter. -/
theorem not_passes_sentOn {v : Version} {msg : CanMsg} (passes : filter.Passes msg) :
    ¬ filter.Passes (v.sentOn msg) := by
  rw [passes_iff] at passes ⊢
  have small := msg.id.isLt
  rw [Version.sentOn, BitVec.toNat_add]
  cases v.board with
  | kv4x =>
    have idStep : (Board.kv4x.idStep).toNat = 2 ^ 32 - 0x100 := by decide
    rw [idStep]
    omega
  | s32k =>
    have idStep : (Board.s32k.idStep).toNat = 0x100 := by decide
    rw [idStep]
    omega

/-! ## What each step does -/

/-- The assertions that compare what was received with what was sent. -/
def Assertion.Compares : Assertion → Prop
  | .id | .length | .data _ => True
  | .filterID | .up | .send | .recv => False

/-- The message the task is about to send. -/
def Node.pending (s : Node) : List CanMsg := if s.place = .send then [s.msg] else []

variable {versions : ι → Version} {v : Version} {bus : List CanMsg} {n n' : Node}
  {answer : Answer} {sent : Option CanMsg}

/-- A step of a task that neither sends nor receives. -/
structure Quiet (v : Version) (n n' : Node) : Prop where
  next : n'.next = n.next
  msg : n'.msg = n.msg
  pending : v.echoTest = false → n'.pending = n.pending
  stopped : ∀ a, n'.stopped = some a → n.stopped = some a ∨ ¬ a.Compares

/-- An assertion about the driver's answer, on the way to a statement that does not
send. -/
theorem quiet_assert {holds : Bool} {a : Assertion} {place : Place} (driver : ¬ a.Compares)
    (leaves : holds → n.place ≠ .send) (enters : v.echoTest = false → place ≠ .send) :
    Quiet v n (n.assert holds a place) := by
  unfold Node.assert
  split
  case isTrue yes =>
    exact ⟨rfl, rfl, fun forwards => by simp [Node.pending, leaves yes, enters forwards],
      fun b stopped => .inl stopped⟩
  case isFalse no =>
    refine ⟨rfl, rfl, fun _ => rfl, fun b stopped => .inr ?_⟩
    obtain rfl : a = b := Option.some.inj stopped
    exact driver

theorem canTask_cases (enabled : canTask v bus n answer = some (n', sent)) :
    (sent = none ∧ Quiet v n n') ∨
      (n.place = .send ∧ sent = some n.msg ∧ n' = { n with place := .recv }) ∨
      ∃ position msg, n.place = .recv ∧ n.next ≤ position ∧ bus[position]? = some msg ∧
        filter.Passes msg ∧ sent = none ∧ n' = v.received msg { n with next := position + 1 } := by
  have loopStart : v.echoTest = false → v.loopStart ≠ .send := fun forwards => by
    simp [Version.loopStart, forwards]
  cases answer with
  | ret ret =>
    cases here : n.place with
    | registerFilter =>
      simp only [canTask, here, Option.some.injEq, Prod.mk.injEq] at enabled
      obtain ⟨rfl, rfl⟩ := enabled
      refine .inl ⟨rfl, quiet_assert (fun no => no) (fun _ => by simp [here]) fun forwards => ?_⟩
      split
      · simp
      · exact loopStart forwards
    | up =>
      simp only [canTask, here, Option.some.injEq, Prod.mk.injEq] at enabled
      obtain ⟨rfl, rfl⟩ := enabled
      refine .inl ⟨rfl, quiet_assert (fun no => no) (fun _ => by simp [here]) fun forwards => ?_⟩
      split
      · exact loopStart forwards
      · simp
    -- The message is on the bus if and only if the driver says so.
    | send =>
      simp only [canTask, here, Option.some.injEq, Prod.mk.injEq] at enabled
      obtain ⟨rfl, rfl⟩ := enabled
      by_cases success : ret = 0
      · exact .inr (.inl ⟨rfl, by simp [success], by simp [Node.assert, success]⟩)
      · exact .inl ⟨by simp [success], quiet_assert (fun no => no) (by simp [success]) (by simp)⟩
    | recv =>
      simp only [canTask, here] at enabled
      obtain ⟨-, failed⟩ := Option.ite_none_left_eq_some.mp enabled
      obtain ⟨rfl, rfl⟩ := Prod.mk.inj (Option.some.inj failed)
      exact .inl ⟨rfl, quiet_assert (fun no => no) (by simp) (by simp)⟩
  | message position =>
    simp only [canTask] at enabled
    obtain ⟨⟨here, later⟩, enabled⟩ := Option.ite_none_right_eq_some.mp enabled
    split at enabled
    case h_1 msg found =>
      obtain ⟨passes, handed⟩ := Option.ite_none_right_eq_some.mp enabled
      obtain ⟨rfl, rfl⟩ := Prod.mk.inj (Option.some.inj handed)
      exact .inr (.inr ⟨position, msg, here, later, found, passes, rfl, rfl⟩)
    case h_2 => cases enabled

variable {s t : State ι} {labels : List (Label ι)} {label : Label ι}

theorem step_cases (enabled : step versions s label = some t) :
    (∃ msg, label = .outside msg ∧ t = { s with bus := s.bus ++ [(none, msg)] }) ∨
      ∃ i answer n' sent, (s.node i).stopped = none ∧
        canTask (versions i) (contents s.bus) (s.node i) answer = some (n', sent) ∧
        t = ⟨Function.update s.node i n', s.bus ++ sent.toList.map (some i, ·)⟩ := by
  cases label with
  | outside msg => exact .inl ⟨msg, rfl, (Option.some.inj enabled).symm⟩
  | board i answer =>
    obtain ⟨running, enabled⟩ := Option.ite_none_right_eq_some.mp enabled
    obtain ⟨⟨n', sent⟩, moved, rfl⟩ := Option.map_eq_some_iff.mp enabled
    exact .inr ⟨i, answer, n', sent, running, moved, rfl⟩

/-! ## Sending on -/

/-- The board has sent on what it took, the last message perhaps excepted. -/
def SendsOn (versions : ι → Version) (s : State ι) (i : ι) : Prop :=
  ∃ taken, Reading filter.Passes (contents s.bus) (s.node i).next taken ∧
    sentBy i s.bus ++ (s.node i).pending = taken.map (versions i).sentOn

section SendsOn

variable {i : ι} {more : Log ι CanMsg}

theorem sendsOn_boot : SendsOn versions (FlexCan.boot versions) i := by
  refine ⟨[], .start, ?_⟩
  have quiet : ((versions i).boot).pending = [] := by
    rw [Node.pending, if_neg]
    dsimp only [Version.boot]
    split <;> simp
  simp [FlexCan.boot, quiet, sentBy, contents]

/-- What the others send, and a quiet step of the board, changes nothing. -/
theorem SendsOn.frame (sendsOn : SendsOn versions s i) (next : (t.node i).next = (s.node i).next)
    (pending : (t.node i).pending = (s.node i).pending) (bus : t.bus = s.bus ++ more)
    (others : sentBy i more = []) : SendsOn versions t i := by
  obtain ⟨taken, reading, sent⟩ := sendsOn
  refine ⟨taken, ?_, ?_⟩
  · rw [next, bus, contents_append]
    exact reading.grow _
  · rw [pending, bus, sentBy_append, others, List.append_nil, sent]

/-- What the board has sent, or is about to send, is out of the filter. -/
theorem SendsOn.not_passes (sendsOn : SendsOn versions s i) {msg : CanMsg}
    (member : msg ∈ sentBy i s.bus ++ (s.node i).pending) : ¬ filter.Passes msg := by
  obtain ⟨taken, reading, sent⟩ := sendsOn
  obtain ⟨received, took, rfl⟩ := List.mem_map.mp (sent ▸ member)
  exact not_passes_sentOn (reading.meets took)

theorem SendsOn.step (sendsOn : SendsOn versions s i) (forwards : (versions i).echoTest = false)
    (enabled : FlexCan.step versions s label = some t) : SendsOn versions t i := by
  obtain ⟨msg, -, rfl⟩ | ⟨j, answer, n', sent, running, moved, rfl⟩ := step_cases enabled
  · exact sendsOn.frame rfl rfl rfl (sentBy_other (by simp))
  by_cases own : j = i
  · subst own
    obtain ⟨rfl, quiet⟩ | ⟨here, rfl, rfl⟩ | ⟨k, msg, here, later, found, passes, rfl, rfl⟩ :=
      canTask_cases moved
    · exact sendsOn.frame (by simp [quiet.next]) (by simp [quiet.pending forwards]) rfl rfl
    · -- The message that was pending is on the bus.
      obtain ⟨taken, reading, whole⟩ := sendsOn
      refine ⟨taken, ?_, ?_⟩
      · simpa [contents_append] using reading.grow _
      · simpa [Node.pending, here, sentBy_append, sentBy_own] using whole
    · obtain ⟨taken, reading, whole⟩ := sendsOn
      have received : (versions j).received msg { s.node j with next := k + 1 } =
          { s.node j with
            next := k + 1, msg := (versions j).sentOn msg, place := .send } := by
        simp [Version.received, forwards, Version.sentOn]
      refine ⟨taken ++ [msg], ?_, ?_⟩
      · simpa [received] using reading.read later found passes
      · rw [Node.pending, if_neg (by simp [here]), List.append_nil] at whole
        simp [received, Node.pending, whole]
  · have still : Function.update s.node j n' i = s.node i :=
      Function.update_of_ne (Ne.symm own) _ _
    refine sendsOn.frame (congrArg Node.next still) (congrArg Node.pending still) rfl ?_
    cases sent with
    | none => rfl
    | some msg => exact sentBy_other (by simpa using own)

theorem sendsOn_of_run (run : Run (FlexCan.step versions) (FlexCan.boot versions) labels s)
    (forwards : (versions i).echoTest = false) : SendsOn versions s i := by
  induction run with
  | nil => exact sendsOn_boot
  | snoc _ enabled ih => exact ih.step forwards enabled

end SendsOn

variable [Fintype ι]

/-- **Nothing is sent on twice.** Whatever the boards and the order of their steps: no
message that is sent on passes the filter. Each board that sends on has sent, or is about to
send, the answers to some of the messages of the others that pass the filter, each once and
in their order. The bus never carries more than one answer of each of these boards to each
message of the others. -/
theorem sends_on_once (run : Run (step versions) (boot versions) labels s) :
    (∀ i ∈ forwarders versions,
      (∀ msg ∈ sentBy i s.bus ++ (s.node i).pending, ¬ filter.Passes msg) ∧
      ∃ taken : List CanMsg,
        taken.Sublist ((sentByOthers (forwarders versions) s.bus).filter filter.Passes) ∧
        sentBy i s.bus ++ (s.node i).pending = taken.map (versions i).sentOn) ∧
    s.bus.length ≤ ((forwarders versions).card + 1) *
      (sentByOthers (forwarders versions) s.bus).length := by
  choose! taken reading whole using fun i (member : i ∈ forwarders versions) =>
    sendsOn_of_run run (mem_forwarders.mp member)
  have answers : ∀ i ∈ forwarders versions, Answers filter.Passes (versions i).sentOn s.bus i
      (s.node i).next (taken i) := fun i member =>
    ⟨reading i member, _, whole i member⟩
  have leaves : ∀ i ∈ forwarders versions, ∀ msg, filter.Passes msg →
      ¬ filter.Passes ((versions i).sentOn msg) := fun _ _ _ => not_passes_sentOn
  refine ⟨fun i member => ⟨fun msg => ?_, taken i, ?_, whole i member⟩,
    length_le_of_answers answers leaves⟩
  · exact (sendsOn_of_run run (mem_forwarders.mp member)).not_passes
  · rw [← filter_contents answers leaves]
    exact (reading i member).sublist

/-- Two boards that send on, and two that test the echo. -/
def fourBoards : Fin 4 → Version :=
  ![⟨.kv4x, false⟩, ⟨.s32k, false⟩, ⟨.s32k, true⟩, ⟨.kv4x, true⟩]

/-- The message of the test is sent on by both, and one more by the first. -/
def answered : List (Label (Fin 4)) :=
  [.board 0 (.ret 0), .board 0 (.ret 0), .board 1 (.ret 0), .board 1 (.ret 0),
    .board 2 (.ret 0), .board 2 (.ret 0), .board 2 (.ret 0), .board 0 (.message 0),
    .board 1 (.message 0), .board 1 (.ret 0), .board 0 (.ret 0),
    .outside ⟨0x12F#32, 0, echoMsg.data⟩, .board 2 (.message 0), .board 0 (.message 3),
    .board 0 (.ret 0)]

theorem sends_on_once_fourBoards : ∃ s, Run (step fourBoards) (boot fourBoards) answered s ∧
    s.bus.length = 5 ∧ (sentBy 0 s.bus).map CanMsg.id = [0x023#32, 0x02F#32] ∧
    s.bus.length ≤ ((forwarders fourBoards).card + 1) *
      (sentByOthers (forwarders fourBoards) s.bus).length := by
  obtain ⟨s, run, check⟩ := exists_run_of_check (step fourBoards) (boot fourBoards) answered
    (fun s => s.bus.length = 5 ∧ (sentBy 0 s.bus).map CanMsg.id = [0x023#32, 0x02F#32])
    (by decide)
  obtain ⟨length, ids⟩ := of_decide_eq_true check
  exact ⟨s, run, length, ids, (sends_on_once run).2⟩

/-! ## The echo test -/

section EchoTest

omit [Fintype ι]

/-- The bus carries no message that could disturb an echo test, and none has failed by
comparing. -/
structure Undisturbed (versions : ι → Version) (s : State ι) : Prop where
  bus : ∀ msg ∈ contents s.bus, filter.Passes msg → msg = echoMsg
  msg : ∀ i, (versions i).echoTest → (s.node i).msg = echoMsg
  stopped : ∀ i a, (s.node i).stopped = some a → ¬ a.Compares

omit [DecidableEq ι] in
theorem undisturbed_boot : Undisturbed versions (boot versions) where
  bus msg member := by simp [boot, contents] at member
  msg i tests := by simp [boot, Version.boot, tests]
  stopped i a failed := by simp [boot, Version.boot] at failed

theorem mismatch_self (msg : CanMsg) : mismatch msg msg = none := by
  simp [mismatch]

/-- Where only the message of the echo test passes the filter, a step of a task changes
neither its message nor lets a comparison fail. -/
theorem canTask_undisturbed (moved : canTask v bus n answer = some (n', sent))
    (running : n.stopped = none) (clean : ∀ msg ∈ bus, filter.Passes msg → msg = echoMsg)
    (own : v.echoTest → n.msg = echoMsg) :
    (v.echoTest → n'.msg = echoMsg) ∧ ∀ a, n'.stopped = some a → ¬ a.Compares := by
  obtain ⟨-, quiet⟩ | ⟨-, -, rfl⟩ | ⟨k, msg, -, -, found, passes, -, rfl⟩ := canTask_cases moved
  · refine ⟨fun tests => quiet.msg.trans (own tests), fun a failed => ?_⟩
    obtain already | driver := quiet.stopped a failed
    · simp [running] at already
    · exact driver
  · exact ⟨own, fun a failed => by simp [running] at failed⟩
  · obtain rfl := clean msg (List.mem_of_getElem? found) passes
    cases tests : v.echoTest with
    | true =>
      have same : n.msg = echoMsg := own tests
      simp [Version.received, tests, same, mismatch_self, running]
    | false => simp [Version.received, tests, running]

theorem Undisturbed.step (undisturbed : Undisturbed versions s)
    (sendsOn : ∀ i, (versions i).echoTest = false → SendsOn versions s i)
    (peer : ∀ msg, label = .outside msg → filter.Passes msg → msg = echoMsg)
    (enabled : FlexCan.step versions s label = some t) : Undisturbed versions t := by
  obtain ⟨msg, rfl, rfl⟩ | ⟨j, answer, n', sent, running, moved, rfl⟩ := step_cases enabled
  · refine ⟨fun x member passes => ?_, undisturbed.msg, undisturbed.stopped⟩
    obtain old | rfl : x ∈ contents s.bus ∨ x = msg := by
      simpa [contents_append, contents] using member
    · exact undisturbed.bus x old passes
    · exact peer x rfl passes
  · obtain ⟨own, driver⟩ :=
      canTask_undisturbed moved running undisturbed.bus (undisturbed.msg j)
    refine ⟨fun x member passes => ?_, fun i tests => ?_, fun i a failed => ?_⟩
    · obtain old | new : x ∈ contents s.bus ∨ x ∈ sent.toList := by
        simpa [contents_append, contents] using member
      · exact undisturbed.bus x old passes
      · -- Only the pending message can be new.
        obtain ⟨rfl, -⟩ | ⟨here, rfl, -⟩ | ⟨-, -, -, -, -, -, rfl, -⟩ := canTask_cases moved
        · simp at new
        · obtain rfl : x = (s.node j).msg := by simpa using new
          cases tests : (versions j).echoTest with
          | true => exact undisturbed.msg j tests
          | false =>
            have pending : (s.node j).msg ∈ (s.node j).pending := by simp [Node.pending, here]
            exact absurd passes ((sendsOn j tests).not_passes (List.mem_append_right _ pending))
        · simp at new
    · by_cases same : i = j
      · subst same
        simpa using own tests
      · simpa [Function.update_of_ne same] using undisturbed.msg i tests
    · by_cases same : i = j
      · subst same
        exact driver a (by simpa using failed)
      · exact undisturbed.stopped i a (by simpa [Function.update_of_ne same] using failed)

/-- **The echo test is not disturbed.** If no other station sends a message that passes the
filter and is not the message of the test, no comparison of a test fails, whatever is sent
on by the boards on the bus. -/
theorem echo_not_disturbed (run : Run (FlexCan.step versions) (boot versions) labels s)
    (peers : ∀ msg, Label.outside msg ∈ labels → filter.Passes msg → msg = echoMsg) :
    ∀ i a, (s.node i).stopped = some a → ¬ a.Compares := by
  have undisturbed : Undisturbed versions s := by
    induction run with
    | nil => exact undisturbed_boot
    | snoc prior enabled ih =>
      refine (ih fun msg member => peers msg (by simp [member])).step
        (fun i forwards => sendsOn_of_run prior forwards) ?_ enabled
      rintro msg rfl
      exact peers msg (by simp)
  exact undisturbed.stopped

end EchoTest

/-- The board receives its own message, after a message of another station. -/
def comesBack : List (Label (Fin 4)) :=
  answered.take 11 ++ [.outside ⟨0x456#32, 0, echoMsg.data⟩, .board 2 (.message 0)]

theorem echo_not_disturbed_fourBoards :
    ∃ s, Run (step fourBoards) (boot fourBoards) comesBack s ∧ (s.node 2).next = 1 ∧
      ∀ i a, (s.node i).stopped = some a → ¬ a.Compares := by
  obtain ⟨s, run, check⟩ := exists_run_of_check (step fourBoards) (boot fourBoards) comesBack
    (fun s => (s.node 2).next = 1) (by decide)
  refine ⟨s, run, of_decide_eq_true check, echo_not_disturbed run ?_⟩
  intro msg member passes
  obtain rfl : msg = ⟨0x456#32, 0, echoMsg.data⟩ := by
    simpa [comesBack, answered] using member
  exact absurd passes (by decide)

end TestSystem.FlexCan
