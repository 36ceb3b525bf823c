import TestSystem.SdTest.Task
import TestSystem.Transition.Simulation

/-!
# What the card sees of the test

A card takes a command only in some of its modes, application commands only after the
command that announces them, and both sides have to agree on the number of data lines. A
`Slot` is a card with its controller: it says which calls may come next. Whatever is
answered, the test makes no call that may not come next.
-/

namespace TestSystem.SdTest

open TestSystem.Transition

/-! ## The card and its controller -/

/-- The modes of a card: three in which it is identified, and those in which it transfers
data. -/
inductive Mode
  | idle
  | ready
  | ident
  | stby
  | tran
  | data
  | rcv
  | prg
  deriving DecidableEq

/-- The address in an argument and in a response, above a status that does not matter. -/
def addressOf (word : BitVec 32) : BitVec 16 := word.extractLsb' 16 16

/-- A card programs what was written for no more milliseconds. -/
def programming : ℕ := 250

/-- A card with its controller. -/
structure Slot where
  mode : Mode
  /-- The next command is an application command. -/
  app : Bool
  /-- The address of the card, 0 before it has published one. -/
  rca : BitVec 16
  cardLines : ℕ
  hostLines : ℕ
  clock : ℕ
  blockSize : Option ℕ
  deriving DecidableEq

/-- A slot as `sdtest_init` sets the controller up, with the card in any mode. -/
def Slot.powered (mode : Mode) (app : Bool) (rca : BitVec 16) (cardLines : ℕ) : Slot where
  mode := mode
  app := app
  rca := rca
  cardLines := cardLines
  hostLines := 1
  clock := 400000
  blockSize := none

namespace Slot

/-- A card is identified at a low clock. -/
def Identifies (slot : Slot) (mode : Mode) : Prop :=
  slot.mode = mode ∧ slot.app = false ∧ slot.clock ≤ 400000

/-- Data can be transferred in blocks of a known size, over the same lines on both sides. -/
def Transfers (slot : Slot) : Prop :=
  slot.mode = .tran ∧ slot.app = false ∧ slot.cardLines = slot.hostLines ∧
    slot.blockSize = some 512

instance {slot : Slot} {mode : Mode} : Decidable (slot.Identifies mode) :=
  inferInstanceAs (Decidable (_ ∧ _))

instance {slot : Slot} : Decidable slot.Transfers := inferInstanceAs (Decidable (_ ∧ _))

variable {n : ℕ}

/-- A call that may come now, and what it does. -/
def call (slot : Slot) (answer : Answer n) : Call n → Option Slot
  | .sendCommand (.cmd 0) _ =>
    if slot.clock ≤ 400000 then
      some { slot with mode := .idle, app := false, rca := 0, cardLines := 1 }
    else none
  | .sendCommand (.cmd 8) _ => if slot.Identifies .idle then some slot else none
  | .sendCommand (.cmd 2) _ =>
    if slot.Identifies .ready then some { slot with mode := .ident } else none
  | .sendCommand (.cmd 3) _ =>
    if slot.Identifies .ident then
      some { slot with mode := .stby, rca := addressOf answer.response }
    else none
  | .sendCommand (.cmd 7) arg =>
    if slot.mode = .stby ∧ slot.app = false ∧ addressOf arg = slot.rca then
      some { slot with mode := .tran }
    else none
  | .sendCommand (.cmd 12) _ =>
    match slot.mode with
    | .data => some { slot with mode := .tran }
    | .rcv => some { slot with mode := .prg }
    | _ => none
  | .sendCommand (.cmd 55) arg =>
    if (slot.mode = .idle ∨ slot.mode = .tran) ∧ slot.app = false ∧ addressOf arg = slot.rca then
      some { slot with app := true }
    else none
  | .sendCommand (.acmd 41) _ =>
    if slot.mode = .idle ∧ slot.app = true ∧ slot.clock ≤ 400000 then
      some { slot with app := false, mode := if answer.response.getLsbD 31 then .ready else .idle }
    else none
  | .sendCommand (.acmd 6) arg =>
    if slot.mode = .tran ∧ slot.app = true then
      some { slot with app := false, cardLines := if arg = 2 then 4 else 1 }
    else none
  | .sendCommand _ _ => none
  | .read (.cmd 18) _ => if slot.Transfers then some { slot with mode := .data } else none
  | .write (.cmd 25) _ _ => if slot.Transfers then some { slot with mode := .rcv } else none
  | .read _ _ => none
  | .write _ _ _ => none
  -- The controller is set up anew only while no data is transferred.
  | .setBlockSize bytes =>
    if slot.mode = .tran then some { slot with blockSize := some bytes } else none
  | .setBusWide lines =>
    if slot.mode = .tran then some { slot with hostLines := lines } else none
  | .setClock hz => if slot.mode = .tran then some { slot with clock := hz } else none

/-- What was written is stored while the task waits, if it waits long enough. -/
def accept (slot : Slot) : Event n → Option Slot
  | .call call answer => slot.call answer call
  | .delay ms =>
    some (if slot.mode = .prg ∧ programming ≤ ms then { slot with mode := .tran } else slot)

end Slot

/-! ## The slot behind the task -/

namespace Place

/-- The mode the card is in when the task comes to a call. -/
def mode : Place → Mode
  | .reset | .condition | .appOpCond | .opCond => .idle
  | .cid => .ready
  | .address => .ident
  | .select => .stby
  | .test _ .stopRead | .test _ .stopBack => .data
  | .test _ .stopWrite => .rcv
  | .test _ .delay => .prg
  | .test _ _ | .appWide | .wide | .hostWide | .clock | .suspended => .tran

/-- How many data lines the card uses. -/
def cardLines : Place → ℕ
  | .hostWide | .test .wide _ | .clock | .test .fast _ | .suspended => 4
  | _ => 1

/-- How many data lines the host uses. -/
def hostLines : Place → ℕ
  | .test .wide _ | .clock | .test .fast _ | .suspended => 4
  | _ => 1

/-- The clock of the bus. -/
def hz : Place → ℕ
  | .test .fast _ | .suspended => 48000000
  | _ => 400000

/-- The block size that the host has set. -/
def blockSize : Place → Option ℕ
  | .reset | .condition | .appOpCond | .opCond | .cid | .address | .select
  | .test .first .blockSize => none
  | _ => some 512

/-- The card has published its address. -/
def addressed : Place → Bool
  | .reset | .condition | .appOpCond | .opCond | .cid | .address => false
  | _ => true

end Place

variable {n : ℕ} {s t : State n} {event : Event n} {events : List (Event n)} {rca : BitVec 32}

/-- The slot as the task sees it. -/
def State.slot (s : State n) : Slot where
  mode := s.place.mode
  app := s.place = .opCond ∨ s.place = .wide
  rca := if s.place.addressed then addressOf s.rca else 0
  cardLines := s.place.cardLines
  hostLines := s.place.hostLines
  clock := s.place.hz
  blockSize := s.place.blockSize

/-- The mask leaves the address as it is. -/
theorem addressOf_rcaMask (word : BitVec 32) : addressOf (word &&& rcaMask) = addressOf word := by
  have ones : addressOf rcaMask = BitVec.allOnes 16 := by decide
  have split : addressOf (word &&& rcaMask) = addressOf word &&& addressOf rcaMask := by
    ext i inside
    simp [addressOf]
  rw [split, ones, BitVec.and_allOnes]

/-- Before the first command the card may be in any mode; a task that has stopped makes no
further call. -/
def Behind (s : State n) (slot : Slot) : Prop :=
  s.stopped = none →
    if s.place = .reset then
      slot = .powered slot.mode slot.app slot.rca slot.cardLines
    else slot = s.slot

/-- The calls that were accepted, and the delays. -/
def Event.done : Event n → Bool
  | .call _ answer => answer.ret = 0
  | .delay _ => true

/-- A slot that is as the task sees it admits the next call. -/
theorem Behind.call {slot : Slot} {call : Call n} (behind : Behind s slot)
    (running : s.stopped = none) (made : s.call = some call) (answer : Answer n) :
    ∃ slot', slot.call answer call = some slot' ∧ Behind (s.accepted answer) slot' := by
  have seen := behind running
  obtain ⟨place, rca, data, data2, stopped⟩ := s
  obtain rfl : stopped = none := running
  cases place with
  | reset =>
    obtain rfl := Option.some.inj made
    rw [if_pos rfl] at seen
    rw [seen]
    refine ⟨_, rfl, fun _ => ?_⟩
    rfl
  | test round stage =>
    rw [if_neg (by simp)] at seen
    subst seen
    cases stage with
    | delay => cases made
    | stopBack =>
      obtain rfl := Option.some.inj made
      refine ⟨_, rfl, ?_⟩
      by_cases same : data = data2
      · intro _
        cases round <;> simp [State.accepted, same, Round.after, State.slot, Place.mode,
          Place.cardLines, Place.hostLines, Place.hz, Place.blockSize, Place.addressed]
      · intro alive
        simp [State.accepted, same] at alive
    | _ =>
      obtain rfl := Option.some.inj made
      cases round <;> exact ⟨_, rfl, fun _ => rfl⟩
  | suspended => cases made
  | condition =>
    rw [if_neg (by simp)] at seen
    subst seen
    obtain rfl := Option.some.inj made
    refine ⟨_, rfl, ?_⟩
    by_cases agrees : answer.response &&& 0xFFF#32 = SdTest.condition
    · rw [State.accepted, if_pos agrees]
      exact fun _ => rfl
    · intro alive
      simp [State.accepted, agrees] at alive
  | opCond =>
    rw [if_neg (by simp)] at seen
    subst seen
    obtain rfl := Option.some.inj made
    -- The card says by the same bit whether it has become ready.
    refine ⟨_, rfl, ?_⟩
    cases ready : answer.response.getLsbD 31 with
    | false =>
      simp only [State.accepted, ready]
      exact fun _ => rfl
    | true =>
      simp only [State.accepted, ready]
      exact fun _ => rfl
  | address =>
    rw [if_neg (by simp)] at seen
    subst seen
    obtain rfl := Option.some.inj made
    refine ⟨_, rfl, fun _ => ?_⟩
    simp only [State.accepted, State.slot, Place.addressed, if_true, addressOf_rcaMask]
    rfl
  | select =>
    rw [if_neg (by simp)] at seen
    subst seen
    obtain rfl := Option.some.inj made
    exact ⟨_, if_pos ⟨rfl, rfl, rfl⟩, fun _ => rfl⟩
  | appWide =>
    rw [if_neg (by simp)] at seen
    subst seen
    obtain rfl := Option.some.inj made
    exact ⟨_, if_pos ⟨.inr rfl, rfl, rfl⟩, fun _ => rfl⟩
  | _ =>
    rw [if_neg (by simp)] at seen
    subst seen
    obtain rfl := Option.some.inj made
    exact ⟨_, rfl, fun _ => rfl⟩

theorem Behind.delay {slot : Slot} {round : Round} (behind : Behind s slot)
    (running : s.stopped = none) (here : s.place = .test round .delay) :
    ∃ slot', slot.accept (.delay 500 : Event n) = some slot' ∧
      Behind { s with place := .test round .readBack } slot' := by
  have seen := behind running
  obtain ⟨place, rca, data, data2, stopped⟩ := s
  obtain rfl : place = .test round .delay := here
  rw [if_neg (by simp)] at seen
  subst seen
  cases round <;> exact ⟨_, rfl, fun _ => rfl⟩

/-- The slot goes along with the calls that succeed and with the delays. -/
theorem Behind.step {slot : Slot} (behind : Behind s slot)
    (enabled : SdTest.step s event = some t) :
    ∃ slot', Run Slot.accept slot ([event].filter Event.done) slot' ∧
      Behind t slot' := by
  obtain ⟨running, ⟨call, answer, rfl, -, failed, rfl⟩ | ⟨call, answer, rfl, made, success, rfl⟩ |
    ⟨round, rfl, here, rfl⟩⟩ := step_cases enabled
  · rw [List.filter_cons_of_neg (by simpa [Event.done] using failed)]
    refine ⟨slot, .nil, fun alive => ?_⟩
    cases alive
  · obtain ⟨slot', admitted, behind'⟩ := behind.call running made answer
    rw [List.filter_cons_of_pos (by simpa [Event.done] using success)]
    exact ⟨slot', .single admitted, behind'⟩
  · obtain ⟨slot', admitted, behind'⟩ := behind.delay running here
    exact ⟨slot', .single admitted, behind'⟩

/-! ## The length of a run -/

/-- The calls and delays before a round. -/
def Round.index : Round → ℕ
  | .first => 7
  | .wide => 18
  | .fast => 27

/-- The calls and delays of a round before a stage. -/
def Stage.index : Stage → ℕ
  | .blockSize => 0
  | .read => 1
  | .stopRead => 2
  | .write => 3
  | .stopWrite => 4
  | .delay => 5
  | .readBack => 6
  | .stopBack => 7

/-- The calls and delays before a place, if the card is ready at once. -/
def Place.index : Place → ℕ
  | .reset => 0
  | .condition => 1
  | .appOpCond => 2
  | .opCond => 3
  | .cid => 4
  | .address => 5
  | .select => 6
  | .test round stage => round.index + stage.index
  | .appWide => 15
  | .wide => 16
  | .hostWide => 17
  | .clock => 26
  | .suspended => 35

/-- The card answers that it is not ready yet. -/
def Event.busy : Event n → Bool
  | .call (.sendCommand (.acmd 41) _) answer => answer.ret = 0 ∧ answer.response.getLsbD 31 = false
  | _ => false

theorem Event.busy_of_failed {call : Call n} {answer : Answer n} (failed : answer.ret ≠ 0) :
    (Event.call call answer).busy = false := by
  unfold Event.busy
  split
  case h_1 same =>
    obtain ⟨-, rfl⟩ := Event.call.inj same
    simp [failed]
  case h_2 => rfl

/-- Every place but the last one is below it. -/
theorem index_lt_of_step (enabled : SdTest.step s event = some t) : s.place.index < 35 := by
  have going : s.place ≠ .suspended := by
    intro last
    obtain ⟨-, ⟨call, answer, -, made, -⟩ | ⟨call, answer, -, made, -⟩ | ⟨round, -, here, -⟩⟩ :=
      step_cases enabled
    · simp [State.call, last] at made
    · simp [State.call, last] at made
    · simp [last] at here
  cases place : s.place with
  | test round stage => cases round <;> cases stage <;> decide
  | suspended => exact absurd place going
  | _ => decide

/-- Each step goes on by one place, but for a card that is not ready and a failed
assertion. -/
theorem index_step (enabled : SdTest.step s event = some t) :
    t.place.index + (if event.busy then 2 else 0) + (if t.stopped = none then 0 else 1) =
      s.place.index + 1 := by
  obtain ⟨running, ⟨call, answer, rfl, -, failed, rfl⟩ | ⟨call, answer, rfl, made, success, rfl⟩ |
    ⟨round, rfl, here, rfl⟩⟩ := step_cases enabled
  · simp [Event.busy_of_failed failed]
  · obtain ⟨place, rca, data, data2, stopped⟩ := s
    obtain rfl : stopped = none := running
    cases place with
    | condition =>
      obtain rfl := Option.some.inj made
      by_cases agrees : answer.response &&& 0xFFF#32 = SdTest.condition <;>
        simp [State.accepted, agrees, Event.busy, Place.index]
    -- Back to `CMD55`: two calls for each time that the card is not ready.
    | opCond =>
      obtain rfl := Option.some.inj made
      cases ready : answer.response.getLsbD 31 <;>
        simp only [State.accepted, Event.busy, success, ready] <;> rfl
    | test round stage =>
      cases stage with
      | delay => cases made
      | stopBack =>
        obtain rfl := Option.some.inj made
        by_cases same : data = data2
        · cases round <;> simp [State.accepted, same, Round.after, Event.busy, Place.index,
            Round.index, Stage.index]
        · simp [State.accepted, same, Event.busy]
      | _ =>
        obtain rfl := Option.some.inj made
        rfl
    | suspended => cases made
    | _ =>
      obtain rfl := Option.some.inj made
      rfl
  · simp [here, running, Event.busy, Place.index, Stage.index]

/-- What the labels of a run are, one by one. -/
theorem length_events (run : Run SdTest.step (boot n rca) events s) :
    events.length =
      s.place.index + 2 * events.countP Event.busy + if s.stopped = none then 0 else 1 := by
  induction run with
  | nil => rfl
  | snoc prior enabled ih =>
    have one := index_step enabled
    obtain ⟨running, -⟩ := step_cases enabled
    rw [if_pos running, Nat.add_zero] at ih
    rw [List.length_append, List.countP_append, ih, List.length_singleton, List.countP_singleton]
    split_ifs at one ⊢ <;> omega

/-- A call that succeeds. -/
def Call.ok (call : Call n) (response : BitVec 32) : Event n :=
  .call call ⟨0, response, .replicate n 0⟩

/-- What `testReadWrite` does with a card that holds the bytes. -/
def roundTrip (held : Vector UInt8 n) : List (Event n) :=
  [(Call.setBlockSize 512).ok 0, .call (.read (.cmd 18) 0) ⟨0, 0, held⟩,
    (Call.sendCommand (.cmd 12) 0).ok 0, (Call.write (.cmd 25) 0 held).ok 0,
    (Call.sendCommand (.cmd 12) 0).ok 0, .delay 500, .call (.read (.cmd 18) 0) ⟨0, 0, held⟩,
    (Call.sendCommand (.cmd 12) 0).ok 0]

/-- The whole test with a card that is ready when it is asked again. -/
def wholeTest (held : Vector UInt8 n) : List (Event n) :=
  [(Call.sendCommand (.cmd 0) 0).ok 0, (Call.sendCommand (.cmd 8) condition).ok 0x142#32,
    (Call.sendCommand (.cmd 55) 0).ok 0, (Call.sendCommand (.acmd 41) opCond).ok 0,
    (Call.sendCommand (.cmd 55) 0).ok 0, (Call.sendCommand (.acmd 41) opCond).ok 0xC0000000#32,
    (Call.sendCommand (.cmd 2) 0).ok 0, (Call.sendCommand (.cmd 3) 0).ok 0x12340500#32,
    (Call.sendCommand (.cmd 7) 0x12340000#32).ok 0] ++ roundTrip held ++
  [(Call.sendCommand (.cmd 55) 0x12340000#32).ok 0, (Call.sendCommand (.acmd 6) 2).ok 0,
    (Call.setBusWide 4).ok 0] ++ roundTrip held ++
  [(Call.setClock 48000000).ok 0] ++ roundTrip held

/-- A block of four bytes. -/
def fourBytes : Vector UInt8 4 := #v[1, 2, 3, 4]

end TestSystem.SdTest
