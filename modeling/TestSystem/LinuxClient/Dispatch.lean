import TestSystem.LinuxClient.Client
import TestSystem.Transition.Projection

/-!
# What the Linux client does with its messages

`lcTask` reads a message, looks at its type and calls what is registered for it.
Other tasks, and the callbacks themselves, register callbacks in between. The table
is read twice for a message, once for the test that something is registered and once
for the call, and a null pointer that is registered between the two is called. As
long as that does not happen, each message is handed to the callback that was
registered last for its type, in the order of arrival. As long as only `lc_ping`
sends, the messages of type `LC_TYPE_ACT` come back as they were.
-/

namespace TestSystem.LinuxClient

open TestSystem.Transition

variable {κ : Type*}

/-- The arguments of `lc_registerCallback`; without a callback it is a null pointer. -/
structure Registration (κ : Type*) where
  type : Fin lcCount
  callback : Option (Callback κ)
  deriving DecidableEq, Repr

/-- What a callback of another file does with the client. -/
inductive Action (κ : Type*)
  | register (registration : Registration κ)
  | send (msg : LcMsg)
  | sendAct
  deriving DecidableEq, Repr

/-- What happens, as the loop and its callbacks see it. -/
inductive Event (κ : Type*)
  /-- `printf("Recv Buffer RX Error: %ld\n", ret)`. -/
  | readError (ret : Int32)
  | received (msg : LcMsg)
  /-- The loop looks at the table for the last time for this message. -/
  | examined (msg : LcMsg)
  /-- `printf("Recv Unkown Type: %d\n", msg.type)`. -/
  | unknownType (type : UInt8)
  | invoked (callback : Callback κ) (msg : LcMsg)
  | registered (registration : Registration κ)
  | wrote (msg : LcMsg)
  | notWritten (msg : LcMsg)
  /-- `printf("Can't not Send")`. -/
  | cannotSend
  deriving DecidableEq, Repr

/-- The statement of `lcTask` that is executed next. -/
inductive Place
  /-- `buffer_read`. -/
  | read
  /-- The tests of the type and of its entry in the table. -/
  | test (msg : LcMsg)
  /-- `lc->callbacks[msg.type](lc, &msg)`, which reads the entry again. -/
  | call (msg : LcMsg)
  /-- A null pointer was called. -/
  | fault
  deriving DecidableEq, Repr

/-- The client and its task, with all that has happened, oldest first. -/
structure State (κ : Type*) where
  lc : Lc κ
  place : Place
  /-- How often `buffer_write` was called. -/
  writes : ℕ
  log : List (Event κ)

/-- What the other callbacks do, and what other tasks register meanwhile, given all that
has happened before, and what each call of `buffer_write` returns. -/
structure Env (κ : Type*) where
  effect : κ → List (Event κ) → LcMsg → List (Action κ)
  bufferWrite : ℕ → Int32

/-- An event is added to the log. -/
def State.note (s : State κ) (e : Event κ) : State κ := { s with log := s.log ++ [e] }

/-- A call of `lc_registerCallback`, whoever makes it. -/
def State.register (s : State κ) (r : Registration κ) : State κ :=
  { s with lc := (lcRegisterCallback s.lc r.type r.callback).1 }.note (.registered r)

/-- `lc_send` writes one message into the outgoing buffer. -/
def lcSend (env : Env κ) (s : State κ) (msg : LcMsg) : State κ × Int32 :=
  let ret := env.bufferWrite s.writes
  let s : State κ := { s with writes := s.writes + 1 }
  (s.note (if ret < 0 then .notWritten msg else .wrote msg), ret)

/-- `lc_sendAct` sends a message of type `LC_TYPE_ACT`. -/
def lcSendAct (env : Env κ) (s : State κ) : State κ × Int32 :=
  lcSend env s { type := UInt8.ofNat lcTypeAct, data := Vector.replicate lcMsgSize 0 }

/-- The callback that `lc_init` registers sends the message back. -/
def lcPing (env : Env κ) (s : State κ) (msg : LcMsg) : State κ :=
  let sent := lcSend env s msg
  if sent.2 < 0 then sent.1.note .cannotSend else sent.1

/-- One call of the client's interface by a callback. -/
def perform (env : Env κ) (s : State κ) : Action κ → State κ
  | .register r => s.register r
  | .send msg => (lcSend env s msg).1
  | .sendAct => (lcSendAct env s).1

/-- A callback is called with a message and runs to its end. -/
def invoke (env : Env κ) (s : State κ) (callback : Callback κ) (msg : LcMsg) : State κ :=
  match callback with
  | .lcPing => lcPing env (s.note (.invoked .lcPing msg)) msg
  | .other name =>
    (env.effect name s.log msg).foldl (perform env) (s.note (.invoked (.other name) msg))

/-- The loop after `buffer_read` has returned `ret`. -/
def lcTaskRead (s : State κ) (ret : Int32) (msg : LcMsg) : State κ :=
  if ret < 0 then s.note (.readError ret)
  else { s with place := .test msg }.note (.received msg)

/-- The table is read for the message, and not again; the loop reads the next one. -/
def State.take (s : State κ) (msg : LcMsg) : State κ :=
  { s with place := .read }.note (.examined msg)

/-- `msg.type < LC_COUNT` and `lc->callbacks[msg.type] != NULL`, with the branch for
unknown types. -/
def lcTaskTest (s : State κ) (msg : LcMsg) : State κ :=
  if msg.type.toNat < lcCount then
    if s.lc.entry msg.type ≠ none then { s with place := .call msg } else s.take msg
  else
    (s.take msg).note (.unknownType msg.type)

/-- `lc->callbacks[msg.type](lc, &msg)`. The entry is read anew, and not tested. -/
def lcTaskCall (env : Env κ) (s : State κ) (msg : LcMsg) : State κ :=
  match s.lc.entry msg.type with
  | some callback => invoke env (s.take msg) callback msg
  | none => { s.take msg with place := .fault }

/-- The steps of the loop, and of the other tasks. -/
inductive Label (κ : Type*)
  /-- `buffer_read` returns; there is a message if `ret` is not negative. -/
  | read (ret : Int32) (msg : LcMsg)
  | test
  | call
  /-- Another task calls `lc_registerCallback`. -/
  | register (registration : Registration κ)
  deriving DecidableEq, Repr

/-- One step; nothing runs any more once a null pointer was called. -/
def step (env : Env κ) (s : State κ) : Label κ → Option (State κ)
  | .read ret msg =>
    match s.place with
    | .read => some (lcTaskRead s ret msg)
    | _ => none
  | .test =>
    match s.place with
    | .test msg => some (lcTaskTest s msg)
    | _ => none
  | .call =>
    match s.place with
    | .call msg => some (lcTaskCall env s msg)
    | _ => none
  | .register r => if s.place = .fault then none else some (s.register r)

/-- `lc_init` has returned `lc`, and its task runs. -/
def started (lc : Lc κ) : State κ :=
  { lc := lc, place := .read, writes := 0, log := [.registered ⟨lcTypeAct, some .lcPing⟩] }

/-! ## What should happen -/

/-- The message that an event receives. -/
def Event.asReceived : Event κ → Option LcMsg
  | .received msg => some msg
  | _ => none

/-- The message that an event examines. -/
def Event.asExamined : Event κ → Option LcMsg
  | .examined msg => some msg
  | _ => none

/-- The call that an event makes. -/
def Event.asInvoked : Event κ → Option (Callback κ × LcMsg)
  | .invoked callback msg => some (callback, msg)
  | _ => none

/-- The message that an event puts into the outgoing buffer. -/
def Event.asWrote : Event κ → Option LcMsg
  | .wrote msg => some msg
  | _ => none

/-- The callback registered for `type`, after one more event. -/
def registerIn (type : UInt8) (current : Option (Callback κ)) : Event κ → Option (Callback κ)
  | .registered r => if r.type = type.toNat then r.callback else current
  | _ => current

/-- The callback that was registered last for `type`. -/
def lastRegistered (log : List (Event κ)) (type : UInt8) : Option (Callback κ) :=
  log.foldl (registerIn type) none

/-- The callback that is to be called for a message, and the message. -/
def handOver (past : List (Event κ)) : Event κ → Option (Callback κ × LcMsg)
  | .examined msg => (lastRegistered past msg.type).map fun callback => (callback, msg)
  | _ => none

/-- The message that was read and not examined yet. -/
def State.inHand (s : State κ) : List LcMsg :=
  match s.place with
  | .read | .fault => []
  | .test msg | .call msg => [msg]

/-- The messages that were received. -/
def State.received (s : State κ) : List LcMsg := s.log.filterMap Event.asReceived

/-- The messages written to `tx`. -/
def State.written (s : State κ) : List LcMsg := s.log.filterMap Event.asWrote

/-- Each message but the one in hand was examined, in the order of arrival, and handed
to the callback that was registered last for its type. No null pointer was called, and
the loop goes on. -/
structure Dispatches (env : Env κ) (s : State κ) : Prop where
  inOrder : s.log.filterMap Event.asExamined ++ s.inHand = s.received
  handed : s.log.filterMap Event.asInvoked = collect handOver s.log
  running : s.place ≠ .fault
  reads : s.place = .read → ∀ ret msg, ∃ t, step env s (.read ret msg) = some t
  tests : ∀ msg, s.place = .test msg →
    ∃ t, step env s .test = some t ∧ (t.place = .read ∨ t.place = .call msg)
  calls : ∀ msg, s.place = .call msg →
    ∃ t, step env s .call = some t ∧ (t.place = .read ∨ t.place = .fault)

/-- The registration neither concerns `LC_TYPE_ACT` nor gives `lc_ping` another type. -/
def Registration.Quiet (r : Registration κ) : Prop :=
  r.type ≠ lcTypeAct ∧ r.callback ≠ some .lcPing

instance [DecidableEq κ] (r : Registration κ) : Decidable r.Quiet :=
  inferInstanceAs (Decidable (_ ∧ _))

/-- `LC_TYPE_ACT` is not registered again, no other callback sends, and
`buffer_write` succeeds. -/
structure Quiet (env : Env κ) (labels : List (Label κ)) : Prop where
  labels : ∀ r, .register r ∈ labels → r.Quiet
  effect : ∀ name log msg, ∀ action ∈ env.effect name log msg,
    ∃ r : Registration κ, action = .register r ∧ r.Quiet
  bufferWrite : ∀ n, ¬ env.bufferWrite n < 0

/-- The message is of type `LC_TYPE_ACT`. -/
def LcMsg.IsAct (msg : LcMsg) : Prop := msg.type.toNat = lcTypeAct

instance (msg : LcMsg) : Decidable msg.IsAct := inferInstanceAs (Decidable (_ = _))

/-- In every state along the labels the messages were dispatched, and as long as only
`lc_ping` sends, exactly those of type `LC_TYPE_ACT` were written to `tx`. -/
structure DispatchCorrect (env : Env κ) (lc : Lc κ) (labels : List (Label κ)) : Prop where
  dispatches : ∀ pre t, pre <+: labels → Run (step env) (started lc) pre t → Dispatches env t
  echoes : Quiet env labels → ∀ pre t, pre <+: labels → Run (step env) (started lc) pre t →
    t.written ++ t.inHand.filter (fun msg => msg.IsAct) =
      t.received.filter fun msg => msg.IsAct

/-- The message whose callback is called next. -/
def State.calling (s : State κ) : Option LcMsg :=
  match s.place with
  | .call msg => some msg
  | _ => none

/-- When the callback for a message is called, what was registered last for its type is
no null pointer. It was none at the test; so none was registered since, or another
callback after it. -/
def Guarded (s : State κ) (label : Label κ) : Prop :=
  label = .call → ∀ msg ∈ s.calling, (lastRegistered s.log msg.type).isSome

instance [DecidableEq κ] (s : State κ) (label : Label κ) : Decidable (Guarded s label) :=
  inferInstanceAs (Decidable (label = .call →
    ∀ msg ∈ s.calling, (lastRegistered s.log msg.type).isSome))

variable {env : Env κ} {s t u : State κ} {e : Event κ} {log : List (Event κ)} {type : UInt8}
  {msg : LcMsg}

/-! ## Events aside

What a callback does adds events that concern no message of the loop. -/

/-- The event concerns no message of the loop. -/
def Event.Aside : Event κ → Prop
  | .received _ => False
  | .examined _ => False
  | .invoked _ _ => False
  | _ => True

/-- The table holds what was registered last. -/
def Tracked (s : State κ) : Prop :=
  ∀ (type : UInt8) (known : type.toNat < lcCount),
    s.lc.callbackAt ⟨type.toNat, known⟩ = lastRegistered s.log type

/-- From `s` to `t` only events aside are added, and the table stays tracked. -/
structure Continues (s t : State κ) : Prop where
  place : t.place = s.place
  log : ∃ es, t.log = s.log ++ es ∧ ∀ e ∈ es, e.Aside
  tracked : Tracked s → Tracked t

@[simp] theorem log_note : (s.note e).log = s.log ++ [e] := rfl

@[simp] theorem place_note : (s.note e).place = s.place := rfl

@[simp] theorem lc_note : (s.note e).lc = s.lc := rfl

@[simp] theorem received_note : (s.note e).received = s.received ++ e.asReceived.toList := by
  cases h : e.asReceived with
  | none => simp [State.received, h]
  | some _ => simp [State.received, h]

@[simp] theorem written_note : (s.note e).written = s.written ++ e.asWrote.toList := by
  cases h : e.asWrote with
  | none => simp [State.written, h]
  | some _ => simp [State.written, h]

@[simp] theorem lastRegistered_append_singleton :
    lastRegistered (log ++ [e]) type = registerIn type (lastRegistered log type) e := by
  simp [lastRegistered]

theorem Continues.refl (s : State κ) : Continues s s :=
  ⟨rfl, ⟨[], by simp, by simp⟩, id⟩

theorem Continues.trans (first : Continues s t) (second : Continues t u) : Continues s u := by
  obtain ⟨es, hlog, haside⟩ := first.log
  obtain ⟨es', hlog', haside'⟩ := second.log
  refine ⟨second.place.trans first.place, ⟨es ++ es', ?_, ?_⟩, second.tracked ∘ first.tracked⟩
  · rw [hlog', hlog, List.append_assoc]
  · intro e member
    rcases List.mem_append.mp member with old | new
    · exact haside e old
    · exact haside' e new

/-- An event that registers nothing. -/
theorem Tracked.note (tracked : Tracked s)
    (silent : ∀ type current, registerIn type current e = current) : Tracked (s.note e) := by
  intro type known
  rw [lc_note, log_note, lastRegistered_append_singleton, silent]
  exact tracked type known

theorem continues_note (aside : e.Aside)
    (silent : ∀ type current, registerIn type current e = current) : Continues s (s.note e) :=
  ⟨rfl, ⟨[e], rfl, by simpa using aside⟩, fun tracked => tracked.note silent⟩

theorem continues_register (s : State κ) (r : Registration κ) : Continues s (s.register r) := by
  refine ⟨rfl, ⟨[.registered r], rfl, by simp [Event.Aside]⟩, ?_⟩
  intro tracked type known
  have hlc : (s.register r).lc = (lcRegisterCallback s.lc r.type r.callback).1 := rfl
  have hlog : (s.register r).log = s.log ++ [.registered r] := rfl
  rw [hlc, hlog, callbackAt_lcRegisterCallback, lastRegistered_append_singleton, tracked type known]
  simp only [registerIn, Fin.ext_iff, eq_comm]

theorem continues_lcSend (env : Env κ) (s : State κ) (msg : LcMsg) :
    Continues s (lcSend env s msg).1 := by
  let counted : State κ := { s with writes := s.writes + 1 }
  -- Counting the call adds no event.
  have count : Continues s counted := ⟨rfl, ⟨[], by simp [counted], by simp⟩, id⟩
  refine count.trans ?_
  simp only [lcSend]
  split
  · exact continues_note trivial fun _ _ => rfl
  · exact continues_note trivial fun _ _ => rfl

theorem continues_lcPing (env : Env κ) (s : State κ) (msg : LcMsg) :
    Continues s (lcPing env s msg) := by
  simp only [lcPing]
  split
  · exact (continues_lcSend env s msg).trans (continues_note trivial fun _ _ => rfl)
  · exact continues_lcSend env s msg

theorem continues_perform (env : Env κ) (s : State κ) (action : Action κ) :
    Continues s (perform env s action) := by
  cases action with
  | register r => exact continues_register s r
  | send msg => exact continues_lcSend env s msg
  | sendAct => exact continues_lcSend env s _

theorem continues_foldl_perform (env : Env κ) (s : State κ) (actions : List (Action κ)) :
    Continues s (actions.foldl (perform env) s) := by
  induction actions generalizing s with
  | nil => exact .refl s
  | cons action actions ih => exact (continues_perform env s action).trans (ih _)

/-- A call of a callback is recorded, and then the callback adds events aside. -/
theorem continues_invoke (env : Env κ) (s : State κ) (callback : Callback κ) (msg : LcMsg) :
    Continues (s.note (.invoked callback msg)) (invoke env s callback msg) := by
  cases callback with
  | lcPing => exact continues_lcPing env _ msg
  | other name => exact continues_foldl_perform env _ _

/-- An event aside is no message of the loop. -/
theorem Event.Aside.silent (aside : e.Aside) (past : List (Event κ)) :
    e.asReceived = none ∧ e.asExamined = none ∧ e.asInvoked = none ∧ handOver past e = none := by
  cases e with
  | received _ => exact aside.elim
  | examined _ => exact aside.elim
  | invoked _ _ => exact aside.elim
  | _ => exact ⟨rfl, rfl, rfl, rfl⟩

section Continues

variable (continues : Continues s t)

include continues

theorem Continues.received : t.received = s.received := by
  obtain ⟨es, hlog, aside⟩ := continues.log
  have none_received : es.filterMap Event.asReceived = [] :=
    List.filterMap_eq_nil_iff.mpr fun e member => ((aside e member).silent []).1
  simp [State.received, hlog, none_received]

theorem Continues.examined :
    t.log.filterMap Event.asExamined = s.log.filterMap Event.asExamined := by
  obtain ⟨es, hlog, aside⟩ := continues.log
  have none_examined : es.filterMap Event.asExamined = [] :=
    List.filterMap_eq_nil_iff.mpr fun e member => ((aside e member).silent []).2.1
  simp [hlog, none_examined]

theorem Continues.invoked :
    t.log.filterMap Event.asInvoked = s.log.filterMap Event.asInvoked := by
  obtain ⟨es, hlog, aside⟩ := continues.log
  have none_invoked : es.filterMap Event.asInvoked = [] :=
    List.filterMap_eq_nil_iff.mpr fun e member => ((aside e member).silent []).2.2.1
  simp [hlog, none_invoked]

theorem Continues.handOver : collect handOver t.log = collect handOver s.log := by
  obtain ⟨es, hlog, aside⟩ := continues.log
  rw [hlog]
  exact collect_append_of_silent fun past e member => ((aside e member).silent past).2.2.2

theorem Continues.inHand : t.inHand = s.inHand := by
  rw [State.inHand, continues.place, State.inHand]

end Continues

/-! ## The loop -/

/-- What a step can be: a registration, or one of the three parts of the loop. -/
theorem step_cases {a : Label κ} (enabled : step env s a = some t) :
    (∃ r, a = .register r ∧ t = s.register r) ∨
      (∃ ret msg, a = .read ret msg ∧ s.place = .read ∧ t = lcTaskRead s ret msg) ∨
      (∃ msg, a = .test ∧ s.place = .test msg ∧ t = lcTaskTest s msg) ∨
      (∃ msg, a = .call ∧ s.place = .call msg ∧ t = lcTaskCall env s msg) := by
  cases a with
  | register r =>
    obtain ⟨-, registered⟩ := Option.ite_none_left_eq_some.mp enabled
    exact .inl ⟨r, rfl, (Option.some.inj registered).symm⟩
  | read ret msg =>
    simp only [step] at enabled
    split at enabled
    · next place => exact .inr (.inl ⟨ret, msg, rfl, place, (Option.some.inj enabled).symm⟩)
    · cases enabled
  | test =>
    simp only [step] at enabled
    split at enabled
    · next msg place =>
      exact .inr (.inr (.inl ⟨msg, rfl, place, (Option.some.inj enabled).symm⟩))
    · cases enabled
  | call =>
    simp only [step] at enabled
    split at enabled
    · next msg place =>
      exact .inr (.inr (.inr ⟨msg, rfl, place, (Option.some.inj enabled).symm⟩))
    · cases enabled

theorem lastRegistered_of_unknown (unknown : ¬ type.toNat < lcCount) :
    lastRegistered log type = none := by
  induction log using List.reverseRecOn with
  | nil => rfl
  | append_singleton log e ih =>
    rw [lastRegistered_append_singleton, ih]
    cases e with
    | registered r =>
      -- Callbacks are registered for known types only.
      have hne : (r.type : ℕ) ≠ type.toNat := fun h => unknown (h ▸ r.type.isLt)
      simp [registerIn, hne]
    | _ => rfl

theorem tracked_take (tracked : Tracked s) : Tracked (s.take msg) := by
  have read : Tracked { s with place := .read } := tracked
  exact read.note fun _ _ => rfl

/-- The entry for a type is what was registered last; unknown types have none. -/
theorem Tracked.entry (tracked : Tracked s) (type : UInt8) :
    s.lc.entry type = lastRegistered s.log type := by
  unfold Lc.entry
  split
  · next known => exact tracked type known
  · next unknown => exact (lastRegistered_of_unknown unknown).symm

/-- The loop comes to the call exactly if something is registered. -/
theorem lcTaskTest_cases (msg : LcMsg) (tracked : Tracked s) :
    (lastRegistered s.log msg.type ≠ none ∧ lcTaskTest s msg = { s with place := .call msg }) ∨
    (lastRegistered s.log msg.type = none ∧ Continues (s.take msg) (lcTaskTest s msg)) := by
  unfold lcTaskTest
  rw [tracked.entry]
  split
  · split
    · next present => exact .inl ⟨present, rfl⟩
    · next absent => exact .inr ⟨not_not.mp absent, .refl _⟩
  · next unknown =>
    exact .inr ⟨lastRegistered_of_unknown unknown, continues_note trivial fun _ _ => rfl⟩

/-- The callback registered last is called, or a null pointer. -/
theorem lcTaskCall_cases (env : Env κ) (msg : LcMsg) (tracked : Tracked s) :
    (∃ callback, lastRegistered s.log msg.type = some callback ∧
      lcTaskCall env s msg = invoke env (s.take msg) callback msg ∧
      Continues ((s.take msg).note (.invoked callback msg)) (lcTaskCall env s msg)) ∨
    (lastRegistered s.log msg.type = none ∧
      lcTaskCall env s msg = { s.take msg with place := .fault }) := by
  unfold lcTaskCall
  rw [tracked.entry]
  cases lastRegistered s.log msg.type with
  | some callback => exact .inl ⟨callback, rfl, rfl, continues_invoke env _ callback msg⟩
  | none => exact .inr ⟨rfl, rfl⟩

/-- What every run keeps. -/
structure Sound (s : State κ) : Prop where
  tracked : Tracked s
  inOrder : s.log.filterMap Event.asExamined ++ s.inHand = s.received
  handed : s.log.filterMap Event.asInvoked = collect handOver s.log

theorem sound_started {lc : Lc κ}
    (callbacks : ∀ type, lc.callbackAt type = if type = lcTypeAct then some .lcPing else none) :
    Sound (started lc) := by
  refine ⟨?_, rfl, rfl⟩
  intro type known
  have hlc : (started lc).lc = lc := rfl
  rw [hlc, callbacks]
  simp only [started, lastRegistered, registerIn, List.foldl_cons, List.foldl_nil, Fin.ext_iff,
    eq_comm]

theorem Sound.of_continues (sound : Sound s) (continues : Continues s t) : Sound t := by
  refine ⟨continues.tracked sound.tracked, ?_, ?_⟩
  · rw [continues.examined, continues.inHand, continues.received]
    exact sound.inOrder
  · rw [continues.invoked, continues.handOver]
    exact sound.handed

theorem Sound.lcTaskRead (sound : Sound s) (place : s.place = .read) (ret : Int32) (msg : LcMsg) :
    Sound (lcTaskRead s ret msg) := by
  unfold LinuxClient.lcTaskRead
  split
  · exact sound.of_continues (continues_note trivial fun _ _ => rfl)
  · have idle : s.inHand = [] := by simp [State.inHand, place]
    have before := sound.inOrder
    rw [idle, List.append_nil] at before
    have reading : Tracked { s with place := .test msg } := sound.tracked
    refine ⟨reading.note fun _ _ => rfl, ?_, ?_⟩
    · simp [State.received, State.inHand, Event.asExamined, Event.asReceived, before]
    · simp [Event.asInvoked, handOver, sound.handed]

/-- The message in hand is the next that is examined. -/
theorem Sound.take (sound : Sound s) (inHand : s.inHand = [msg]) :
    Tracked (s.take msg) ∧
      (s.take msg).log.filterMap Event.asExamined = (s.take msg).received ∧
      (s.take msg).log.filterMap Event.asInvoked = collect handOver s.log := by
  have before := sound.inOrder
  have received : (s.take msg).received = s.received := by
    simp [State.received, State.take, Event.asReceived]
  refine ⟨tracked_take sound.tracked, ?_, ?_⟩
  · rw [received, ← before, inHand]
    simp [State.take, Event.asExamined]
  · rw [← sound.handed]
    simp [State.take, Event.asInvoked]

/-- With nothing registered the message is examined and nothing is called. -/
theorem Sound.take_of_none (sound : Sound s) (inHand : s.inHand = [msg])
    (none : lastRegistered s.log msg.type = none) : Sound (s.take msg) := by
  obtain ⟨tracked, inOrder, invoked⟩ := sound.take inHand
  have idle : (s.take msg).inHand = [] := rfl
  have taken : (s.take msg).log = s.log ++ [.examined msg] := rfl
  refine ⟨tracked, ?_, ?_⟩
  · rw [idle, List.append_nil]
    exact inOrder
  · rw [invoked, taken, collect_append_singleton]
    simp [LinuxClient.handOver, none]

theorem Sound.lcTaskTest (sound : Sound s) (place : s.place = .test msg) :
    Sound (lcTaskTest s msg) := by
  have inHand : s.inHand = [msg] := by simp [State.inHand, place]
  rcases lcTaskTest_cases msg sound.tracked with ⟨-, tested⟩ | ⟨none, continues⟩
  · rw [tested]
    have inOrder := sound.inOrder
    rw [inHand] at inOrder
    exact ⟨sound.tracked, inOrder, sound.handed⟩
  · exact (sound.take_of_none inHand none).of_continues continues

theorem Sound.lcTaskCall (sound : Sound s) (place : s.place = .call msg) (env : Env κ) :
    Sound (lcTaskCall env s msg) := by
  have inHand : s.inHand = [msg] := by simp [State.inHand, place]
  rcases lcTaskCall_cases env msg sound.tracked with ⟨callback, last, -, continues⟩ |
    ⟨none, faulted⟩
  · apply Sound.of_continues ?_ continues
    obtain ⟨tracked, inOrder, invoked⟩ := sound.take inHand
    have idle : ((s.take msg).note (.invoked callback msg)).inHand = [] := rfl
    have taken : (s.take msg).log = s.log ++ [.examined msg] := rfl
    refine ⟨tracked.note fun _ _ => rfl, ?_, ?_⟩
    · rw [idle, List.append_nil]
      simpa [State.received, List.filterMap_cons, Event.asExamined, Event.asReceived] using inOrder
    -- The call belongs to the message that was examined just before.
    · rw [log_note, List.filterMap_append, invoked, collect_append_singleton, taken,
        collect_append_singleton]
      simp [Event.asInvoked, LinuxClient.handOver, last]
  · rw [faulted]
    have examined := sound.take_of_none inHand none
    exact ⟨examined.tracked, examined.inOrder, examined.handed⟩

theorem Sound.step (sound : Sound s) {a : Label κ} (enabled : step env s a = some t) : Sound t := by
  rcases step_cases enabled with
    ⟨r, -, rfl⟩ | ⟨ret, msg, -, place, rfl⟩ | ⟨msg, -, place, rfl⟩ | ⟨msg, -, place, rfl⟩
  · exact sound.of_continues (continues_register s r)
  · exact sound.lcTaskRead place ret msg
  · exact sound.lcTaskTest place
  · exact sound.lcTaskCall place env

/-! ## The loop goes on -/

theorem place_lcTaskRead (place : s.place = .read) (ret : Int32) (msg : LcMsg) :
    (lcTaskRead s ret msg).place ≠ .fault := by
  unfold lcTaskRead
  split <;> simp [place]

theorem place_lcTaskTest (msg : LcMsg) (tracked : Tracked s) :
    (lcTaskTest s msg).place = .read ∨ (lcTaskTest s msg).place = .call msg := by
  rcases lcTaskTest_cases msg tracked with ⟨-, tested⟩ | ⟨-, continues⟩
  · exact .inr (by rw [tested])
  · exact .inl continues.place

theorem place_lcTaskCall (env : Env κ) (msg : LcMsg) (tracked : Tracked s) :
    (lcTaskCall env s msg).place =
      if lastRegistered s.log msg.type = none then .fault else .read := by
  rcases lcTaskCall_cases env msg tracked with ⟨callback, last, -, continues⟩ | ⟨none, faulted⟩
  · rw [last, if_neg (by simp)]
    exact continues.place
  · rw [none, if_pos rfl, faulted]

/-- A step comes to a null pointer exactly if it is not guarded. -/
theorem place_eq_fault_iff (sound : Sound s) (running : s.place ≠ .fault) {a : Label κ}
    (enabled : step env s a = some t) : t.place = .fault ↔ ¬ Guarded s a := by
  rcases step_cases enabled with
    ⟨r, rfl, rfl⟩ | ⟨ret, msg, rfl, place, rfl⟩ | ⟨msg, rfl, place, rfl⟩ | ⟨msg, rfl, place, rfl⟩
  · exact iff_of_false running fun unguarded => unguarded fun call => by cases call
  · exact iff_of_false (place_lcTaskRead place ret msg) fun unguarded =>
      unguarded fun call => by cases call
  · refine iff_of_false ?_ fun unguarded => unguarded fun call => by cases call
    rcases place_lcTaskTest msg sound.tracked with read | call <;> simp [*]
  · rw [place_lcTaskCall env msg sound.tracked]
    simp [Guarded, State.calling, place]

theorem Sound.dispatches (sound : Sound s) (running : s.place ≠ .fault) : Dispatches env s where
  inOrder := sound.inOrder
  handed := sound.handed
  running := running
  reads place ret msg := ⟨LinuxClient.lcTaskRead s ret msg, by simp only [LinuxClient.step, place]⟩
  tests msg place := ⟨LinuxClient.lcTaskTest s msg,
    by simp only [LinuxClient.step, place], place_lcTaskTest msg sound.tracked⟩
  calls msg place := ⟨LinuxClient.lcTaskCall env s msg, by simp only [LinuxClient.step, place], by
    rw [place_lcTaskCall env msg sound.tracked]
    split <;> simp⟩

/-! ## The echo -/

/-- `lc_ping` is what is registered for `LC_TYPE_ACT`, and for no other type. -/
def Pings (s : State κ) : Prop :=
  ∀ type, s.lc.callbackAt type = some .lcPing ↔ type = lcTypeAct

theorem Pings.register {r : Registration κ} (pings : Pings s) (quiet : r.Quiet) :
    Pings (s.register r) := by
  intro type
  have hlc : (s.register r).lc = (lcRegisterCallback s.lc r.type r.callback).1 := rfl
  rw [hlc, callbackAt_lcRegisterCallback]
  split
  · next same =>
    subst same
    exact iff_of_false quiet.2 quiet.1
  · exact pings type

theorem written_register (s : State κ) (r : Registration κ) :
    (s.register r).written = s.written := by
  have hwritten : (s.register r).written = s.written ++ [] := written_note
  rw [hwritten, List.append_nil]

theorem quiet_foldl_perform (env : Env κ) {actions : List (Action κ)}
    (quiet : ∀ action ∈ actions, ∃ r : Registration κ, action = .register r ∧ r.Quiet)
    (pings : Pings s) :
    (actions.foldl (perform env) s).written = s.written ∧
      Pings (actions.foldl (perform env) s) := by
  induction actions generalizing s with
  | nil => exact ⟨rfl, pings⟩
  | cons action actions ih =>
    obtain ⟨r, rfl, hr⟩ := quiet action List.mem_cons_self
    obtain ⟨written, pings⟩ :=
      ih (fun action member => quiet action (List.mem_cons_of_mem _ member)) (pings.register hr)
    exact ⟨written.trans (written_register s r), pings⟩

theorem lcPing_of_accepted (accepted : ∀ n, ¬ env.bufferWrite n < 0) (s : State κ) (msg : LcMsg) :
    (lcPing env s msg).written = s.written ++ [msg] ∧ (lcPing env s msg).lc = s.lc := by
  have hwritten : ({ s with writes := s.writes + 1 } : State κ).written = s.written := rfl
  simp [lcPing, lcSend, accepted, hwritten, Event.asWrote]

/-- The entry for a message is `lc_ping` exactly if it is to be sent back. -/
theorem Pings.entry_eq_iff (pings : Pings s) (msg : LcMsg) :
    s.lc.entry msg.type = some .lcPing ↔ msg.IsAct := by
  unfold Lc.entry
  split
  · next known =>
    rw [pings, Fin.ext_iff]
    rfl
  · next unknown =>
    exact iff_of_false (by simp) fun act => unknown (act ▸ lcTypeAct.isLt)

/-- A message without an entry is not to be sent back. -/
theorem Pings.not_isAct (pings : Pings s) (tracked : Tracked s)
    (none : lastRegistered s.log msg.type = none) : ¬ msg.IsAct := by
  intro act
  have entry := (pings.entry_eq_iff msg).mpr act
  rw [tracked.entry, none] at entry
  cases entry

theorem written_take (s : State κ) (msg : LcMsg) : (s.take msg).written = s.written := by
  have written : (s.take msg).written = s.written ++ [] := written_note
  rw [written, List.append_nil]

theorem received_take (s : State κ) (msg : LcMsg) : (s.take msg).received = s.received := by
  simp [State.received, State.take, Event.asReceived]

/-- A call writes the message exactly if it is of type `LC_TYPE_ACT`. -/
theorem written_invoke {labels : List (Label κ)} (quiet : Quiet env labels) (pings : Pings s)
    {callback : Callback κ} (entry : s.lc.entry msg.type = some callback) :
    (invoke env (s.take msg) callback msg).written =
        s.written ++ [msg].filter (fun msg => msg.IsAct) ∧
      Pings (invoke env (s.take msg) callback msg) := by
  have isAct := pings.entry_eq_iff msg
  have pingsTaken : Pings (s.take msg) := pings
  have taken := written_take s msg
  cases callback with
  | lcPing =>
    -- `lc_ping` is registered for `LC_TYPE_ACT` only, and sends the message back.
    have act := isAct.mp entry
    obtain ⟨written, hlc⟩ := lcPing_of_accepted quiet.bufferWrite
      ((s.take msg).note (.invoked .lcPing msg)) msg
    refine ⟨?_, ?_⟩
    · simpa [invoke, taken, act, Event.asWrote] using written
    · have same : (invoke env (s.take msg) .lcPing msg).lc = (s.take msg).lc := hlc
      intro type
      rw [same]
      exact pingsTaken type
  | other name =>
    have other : ¬ msg.IsAct := fun act => by simpa [entry] using isAct.mpr act
    -- A quiet callback does nothing but register.
    have pingsInvoked : Pings ((s.take msg).note (.invoked (.other name) msg)) := pingsTaken
    obtain ⟨written, after⟩ :=
      quiet_foldl_perform env (quiet.effect name (s.take msg).log msg) pingsInvoked
    refine ⟨?_, after⟩
    simpa [invoke, taken, other, Event.asWrote] using written

/-- What a run keeps while only `lc_ping` sends. -/
structure Echoes (s : State κ) : Prop where
  pings : Pings s
  echoed : s.written ++ s.inHand.filter (fun msg => msg.IsAct) =
    s.received.filter fun msg => msg.IsAct

theorem echoes_started {lc : Lc κ}
    (callbacks : ∀ type, lc.callbackAt type = if type = lcTypeAct then some .lcPing else none) :
    Echoes (started lc) := by
  refine ⟨fun type => ?_, rfl⟩
  have hlc : (started lc).lc = lc := rfl
  simp [hlc, callbacks]

theorem Echoes.lcTaskRead (echoes : Echoes s) (place : s.place = .read) (ret : Int32)
    (msg : LcMsg) : Echoes (lcTaskRead s ret msg) := by
  have echoed := echoes.echoed
  unfold LinuxClient.lcTaskRead
  split
  · have continues : Continues s (s.note (.readError ret)) :=
      continues_note trivial fun _ _ => rfl
    refine ⟨echoes.pings, ?_⟩
    rw [continues.inHand, continues.received]
    simpa [Event.asWrote] using echoed
  · have idle : s.inHand = [] := by simp [State.inHand, place]
    have written : ({ s with place := .test msg } : State κ).written = s.written := rfl
    rw [idle, List.filter_nil, List.append_nil] at echoed
    refine ⟨echoes.pings, ?_⟩
    -- The message is received, and in hand until it is examined.
    rw [received_note, written_note, written, echoed]
    simp [State.inHand, State.received, Event.asWrote, Event.asReceived]

/-- A message that nothing is registered for is dropped, and is none that comes back. -/
theorem Echoes.take (echoes : Echoes s) (sound : Sound s) (inHand : s.inHand = [msg])
    (none : lastRegistered s.log msg.type = none) : Echoes (s.take msg) := by
  have other := echoes.pings.not_isAct sound.tracked none
  have echoed := echoes.echoed
  have idle : (s.take msg).inHand = [] := rfl
  refine ⟨echoes.pings, ?_⟩
  rw [inHand] at echoed
  rw [written_take, received_take, idle, ← echoed]
  simp [other]

theorem Echoes.of_continues (echoes : Echoes s) (continues : Continues s t) (pings : Pings t)
    (written : t.written = s.written) : Echoes t := by
  refine ⟨pings, ?_⟩
  rw [written, continues.inHand, continues.received]
  exact echoes.echoed

theorem Echoes.lcTaskTest (echoes : Echoes s) (sound : Sound s) (place : s.place = .test msg) :
    Echoes (lcTaskTest s msg) := by
  have inHand : s.inHand = [msg] := by simp [State.inHand, place]
  have echoed := echoes.echoed
  unfold LinuxClient.lcTaskTest
  rw [sound.tracked.entry]
  split
  · split
    · refine ⟨echoes.pings, ?_⟩
      rw [inHand] at echoed
      exact echoed
    · next absent => exact echoes.take sound inHand (not_not.mp absent)
  · next unknown =>
    have taken := echoes.take sound inHand (lastRegistered_of_unknown unknown)
    exact taken.of_continues (continues_note trivial fun _ _ => rfl) taken.pings
      (by simp [Event.asWrote])

theorem Echoes.lcTaskCall {labels : List (Label κ)} (quiet : Quiet env labels)
    (sound : Sound s) (echoes : Echoes s) (place : s.place = .call msg) :
    Echoes (lcTaskCall env s msg) := by
  have inHand : s.inHand = [msg] := by simp [State.inHand, place]
  rcases lcTaskCall_cases env msg sound.tracked with ⟨callback, last, called, continues⟩ |
    ⟨none, faulted⟩
  · have entry : s.lc.entry msg.type = some callback := sound.tracked.entry _ ▸ last
    obtain ⟨written, pings⟩ := written_invoke quiet echoes.pings entry
    rw [← called] at written pings
    have idle : (LinuxClient.lcTaskCall env s msg).inHand = [] := continues.inHand
    have received : (LinuxClient.lcTaskCall env s msg).received = s.received := by
      rw [continues.received, received_note, received_take]
      simp [Event.asReceived]
    refine ⟨pings, ?_⟩
    rw [idle, List.filter_nil, List.append_nil, written, received, ← inHand]
    exact echoes.echoed
  · rw [faulted]
    have taken := echoes.take sound inHand none
    exact ⟨taken.pings, taken.echoed⟩

theorem Echoes.step {labels : List (Label κ)} (quiet : Quiet env labels) (sound : Sound s)
    (echoes : Echoes s) {a : Label κ} (member : a ∈ labels) (enabled : step env s a = some t) :
    Echoes t := by
  rcases step_cases enabled with
    ⟨r, rfl, rfl⟩ | ⟨ret, msg, -, place, rfl⟩ | ⟨msg, -, place, rfl⟩ | ⟨msg, -, place, rfl⟩
  · exact echoes.of_continues (continues_register s r)
      (echoes.pings.register (quiet.labels r member)) (written_register s r)
  · exact echoes.lcTaskRead place ret msg
  · exact echoes.lcTaskTest sound place
  · exact echoes.lcTaskCall quiet sound place

section Runs

variable {lc : Lc κ} {labels : List (Label κ)}
  (callbacks : ∀ type, lc.callbackAt type = if type = lcTypeAct then some .lcPing else none)

include callbacks

theorem sound_of_run (run : Run (step env) (started lc) labels s) : Sound s :=
  run.invariant (C := fun _ => True) (fun _ _ => trivial) (sound_started callbacks)
    fun _ sound enabled => sound.step enabled

/-- A guarded run does not come to a null pointer. -/
theorem running_of_run (run : Run (step env) (started lc) labels s)
    (guarded : Along Guarded (step env) (started lc) labels) : s.place ≠ .fault := by
  have start : Sound (started lc) ∧ (started lc).place ≠ .fault :=
    ⟨sound_started callbacks, by simp [started]⟩
  have both : Sound s ∧ s.place ≠ .fault :=
    run.along (I := fun s => Sound s ∧ s.place ≠ .fault) guarded start
      fun ok both enabled => ⟨both.1.step enabled, fun faulted =>
        (place_eq_fault_iff both.1 both.2 enabled).mp faulted ok⟩
  exact both.2

theorem echoes_of_run (quiet : Quiet env labels) (run : Run (step env) (started lc) labels s) :
    Echoes s := by
  -- Both invariants go through the run together.
  have start : Sound (started lc) ∧ Echoes (started lc) :=
    ⟨sound_started callbacks, echoes_started callbacks⟩
  have both : Sound s ∧ Echoes s :=
    run.invariant (C := (· ∈ labels)) (I := fun s => Sound s ∧ Echoes s) (fun _ member => member)
      start fun member both enabled =>
        ⟨both.1.step enabled, both.2.step quiet both.1 member enabled⟩
  exact both.2

end Runs

/-- What is quiet as a whole is quiet at its beginning. -/
theorem Quiet.of_prefix {labels pre : List (Label κ)} (quiet : Quiet env labels)
    (first : pre <+: labels) : Quiet env pre :=
  { quiet with labels := fun r member => quiet.labels r (first.subset member) }

/-- **The dispatch of the Linux client.** After `lc_init`, in any run of `lcTask` with
any calls of `lc_registerCallback` in between, the dispatch is correct exactly if no
null pointer is what was registered last for the type of a message when its callback is
called. Correct means: each message is handed once, in the order of arrival and
unchanged, to the callback registered last for its type, nothing stops the loop, and as
long as only `lc_ping` sends, exactly the messages of type `LC_TYPE_ACT` are written. -/
theorem dispatchCorrect_iff {lc : Lc κ} {motor : Option ℕ} {answer : InitAnswer}
    {labels : List (Label κ)} (created : lcInit zeroed motor answer = (lc, true, 1))
    (run : Run (step env) (started lc) labels s) :
    DispatchCorrect env lc labels ↔ Along Guarded (step env) (started lc) labels := by
  have callbacks := callbackAt_of_lcInit rfl created
  constructor
  · intro correct past a rest t split reached
    by_contra unguarded
    -- The step is taken in the run, and so is the null pointer.
    have whole : labels = (past ++ [a]) ++ rest := by simp [split]
    obtain ⟨u, first, -⟩ := run_append_iff.mp (whole ▸ run)
    obtain ⟨t', reached', last⟩ := run_append_iff.mp first
    obtain rfl := reached.unique reached'
    obtain ⟨u', enabled, stays⟩ := run_cons_iff.mp last
    obtain rfl : u' = u := Option.some.inj (run_iff_foldlM.mp stays)
    have before : past <+: labels := ⟨a :: rest, split.symm⟩
    have running := (correct.dispatches past t before reached).running
    have faulted :=
      (place_eq_fault_iff (sound_of_run callbacks reached) running enabled).mpr unguarded
    exact (correct.dispatches _ u' ⟨rest, whole.symm⟩ first).running faulted
  · intro guarded
    refine ⟨fun pre t first reached => ?_, fun quiet pre t first reached => ?_⟩
    · obtain ⟨rest, rfl⟩ := first
      exact (sound_of_run callbacks reached).dispatches
        (running_of_run callbacks reached guarded.of_append)
    · exact (echoes_of_run callbacks (quiet.of_prefix first) reached).echoed

/-- The other callbacks do nothing, and every write is accepted. -/
def silentEnv : Env Unit := { effect := fun _ _ _ => [], bufferWrite := fun _ => 0 }

/-- A message with this type. -/
def message (type : UInt8) : LcMsg := { type := type, data := Vector.replicate lcMsgSize 7 }

/-- The client after `lc_init`. -/
def initialised : Lc Unit := (lcInit zeroed none ⟨some 1, some 2, true⟩).1

theorem lcInit_initialised :
    lcInit (zeroed : Lc Unit) none ⟨some 1, some 2, true⟩ = (initialised, true, 1) := rfl

/-- A message arrives, and between the test and the call its callback is taken away. -/
def revokedLabels : List (Label Unit) :=
  [.read 0 (message 0), .test, .register ⟨lcTypeAct, none⟩, .call]

/-- The null pointer is called. -/
theorem not_dispatchCorrect_revoked :
    ¬ DispatchCorrect silentEnv initialised revokedLabels := by
  intro correct
  obtain ⟨s, run, checked⟩ := exists_run_of_check (step silentEnv) (started initialised)
    revokedLabels (fun s => s.place = .fault) (by decide +kernel)
  exact (correct.dispatches _ s (List.prefix_refl _) run).running (of_decide_eq_true checked)

/-- After an error two messages arrive; a callback is registered for a third type, and
another one between the test and the call. -/
def pingLabels : List (Label Unit) :=
  [.read (-1) (message 0), .read 0 (message 1), .test,
    .register ⟨⟨2, by decide⟩, some (.other ())⟩, .read 0 (message 2), .test,
    .register ⟨⟨2, by decide⟩, some (.other ())⟩, .call, .read 0 (message 0), .test, .call]

/-- The second message is handed over, and the one of type `LC_TYPE_ACT` comes back. -/
theorem dispatchCorrect_ping :
    DispatchCorrect silentEnv initialised pingLabels ∧
      ∃ s, Run (step silentEnv) (started initialised) pingLabels s ∧ s.written = [message 0] := by
  obtain ⟨s, run, checked⟩ := exists_run_of_check (step silentEnv) (started initialised)
    pingLabels (fun s => s.written = [message 0]) (by decide +kernel)
  refine ⟨(dispatchCorrect_iff lcInit_initialised run).mpr ?_, s, run, of_decide_eq_true checked⟩
  decide +kernel

end TestSystem.LinuxClient
