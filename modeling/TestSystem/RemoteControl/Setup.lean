import TestSystem.RemoteControl.Freshness
import TestSystem.Transition.Calls

/-!
# Setting up channels

A call of `rc_setup` claims the first free channel, installs the callback and
sets the period, and either driver call may fail. Two of the failures do damage:
a failed period leaves the channel claimed and the callback installed, and
without a free channel the variable that is returned has not been assigned.
Without these two every sequence of calls is all-or-nothing.
-/

namespace TestSystem.RemoteControl

open TestSystem.Transition

/-- A call of `rc_setup`, with what the driver answers to it. -/
structure SetupCall where
  answer : Answer
  capture : ℕ
  deriving DecidableEq, Repr

/-- The object, the driver, and what the calls so far have returned. -/
structure SetupState where
  rc : Rc
  captures : Captures
  returned : List Int32

/-- One call of `rc_setup`. -/
def SetupState.call (s : SetupState) (call : SetupCall) : SetupState :=
  let result := rcSetup call.answer s.rc s.captures call.capture
  { rc := result.1, captures := result.2.1, returned := s.returned ++ [result.2.2] }

/-- The object and the driver after the calls, in order. -/
def SetupState.calls (s : SetupState) (calls : List SetupCall) : SetupState :=
  calls.foldl SetupState.call s

/-- The object that `rc_init` has returned, for which no callback is installed. -/
def initialised (rc : Rc) (period : ℕ → Option ℕ) : SetupState :=
  { rc := rc, captures := { callback := fun _ => none, period := period }, returned := [] }

/-- What `call` returns. -/
def SetupState.ret (s : SetupState) (call : SetupCall) : Int32 :=
  (rcSetup call.answer s.rc s.captures call.capture).2.2

/-- One call: it returns an index exactly if a channel is free and the driver
accepts, and otherwise it leaves the channels alone and every callback aims at a
channel that a call has returned. -/
structure CallWhole (s : SetupState) (call : SetupCall) : Prop where
  success : ¬ s.ret call < 0 ↔ (∃ c, (s.rc.channelAt c).capture = none) ∧
    ¬ call.answer.setCallback < 0 ∧ ¬ call.answer.setPeriod < 0
  kept : s.ret call < 0 → ∀ c, (s.call call).rc.channelAt c = s.rc.channelAt c
  aimed : s.ret call < 0 → ∀ unit c, (s.call call).captures.callback unit = some c →
    Int32.ofNat c ∈ s.returned

/-- Every call of the sequence is all-or-nothing, and the indices that the calls
return are different and below `RC_MAX_CHANNELS`. -/
structure AllOrNothing (s : SetupState) (calls : List SetupCall) : Prop where
  whole : AtEvery CallWhole SetupState.call s calls
  distinct : ((s.calls calls).returned.filter fun ret => ¬ ret < 0).Nodup
  bounded : ∀ ret ∈ (s.calls calls).returned, ¬ ret < 0 → ret.toInt < rcMaxChannels

/-- The period of a claimed channel is accepted, and without a free channel the
unassigned variable happens to be negative. -/
def Harmless (s : SetupState) (call : SetupCall) : Prop :=
  if ∃ c, (s.rc.channelAt c).capture = none then
    ¬ call.answer.setCallback < 0 → ¬ call.answer.setPeriod < 0
  else call.answer.unassigned < 0

instance (s : SetupState) (call : SetupCall) : Decidable (Harmless s call) :=
  inferInstanceAs (Decidable (if ∃ c, (s.rc.channelAt c).capture = none then
    ¬ call.answer.setCallback < 0 → ¬ call.answer.setPeriod < 0 else call.answer.unassigned < 0))

/-! ## What one call does -/

section Call

variable {rc : Rc} {captures : Captures} {answer : Answer} {capture : ℕ} {c c' : Fin rcMaxChannels}

theorem channelAt_setChannel (rc : Rc) (c c' : Fin rcMaxChannels) (channel : RcChannel) :
    (rc.setChannel c channel).channelAt c' = if c' = c then channel else rc.channelAt c' := by
  simp [Rc.setChannel, Rc.channelAt, Vector.getElem_set, Fin.ext_iff, eq_comm]

theorem free_of_freeIndex (found : freeIndex rc = some c) : (rc.channelAt c).capture = none := by
  have := List.find?_some found
  simpa using this

theorem freeIndex_eq_none_iff : freeIndex rc = none ↔ ¬ ∃ c, (rc.channelAt c).capture = none := by
  simp [freeIndex, List.find?_eq_none, List.mem_finRange]

/-- The channel that is claimed. -/
def claimed (capture : ℕ) : RcChannel :=
  { capture := some capture, raw := 0, value := 0, retry := false, corret := false }

theorem rcSetup_of_full (full : freeIndex rc = none) :
    rcSetup answer rc captures capture = (rc, captures, answer.unassigned) := by
  simp [rcSetup, full]

/-- The callback is not accepted: the channel is free again. -/
theorem rcSetup_of_setCallback_neg (found : freeIndex rc = some c)
    (rejected : answer.setCallback < 0) :
    rcSetup answer rc captures capture =
      ((rc.setChannel c (claimed capture)).setChannel c { claimed capture with capture := none },
        captures, answer.setCallback) := by
  simp [rcSetup, found, rejected, claimed]

/-- The period is not accepted: the channel stays claimed and the callback installed. -/
theorem rcSetup_of_setPeriod_neg (found : freeIndex rc = some c)
    (callback : ¬ answer.setCallback < 0) (rejected : answer.setPeriod < 0) :
    rcSetup answer rc captures capture =
      (rc.setChannel c (claimed capture),
        { captures with callback := Function.update captures.callback capture (some c) },
        answer.setPeriod) := by
  simp [rcSetup, found, callback, rejected, claimed]

theorem rcSetup_of_accepted (found : freeIndex rc = some c) (callback : ¬ answer.setCallback < 0)
    (period : ¬ answer.setPeriod < 0) :
    rcSetup answer rc captures capture =
      (rc.setChannel c (claimed capture),
        { callback := Function.update captures.callback capture (some c)
          period := Function.update captures.period capture (some capturePeriod) },
        Int32.ofNat c) := by
  simp [rcSetup, found, callback, period, claimed]

end Call

/-! ## Indices as return values -/

theorem ofNat_index_nonneg : ∀ c : Fin rcMaxChannels, ¬ Int32.ofNat c < 0 := by decide

theorem toInt_ofNat_index : ∀ c : Fin rcMaxChannels, (Int32.ofNat c).toInt = c := by decide

theorem ofNat_index_inj {c c' : Fin rcMaxChannels} (same : Int32.ofNat c = Int32.ofNat c') :
    c = c' := by
  have hint : ((c : ℕ) : ℤ) = (c' : ℕ) := by
    rw [← toInt_ofNat_index, ← toInt_ofNat_index, same]
  exact Fin.ext (by exact_mod_cast hint)

/-! ## Calls without damage -/

/-- What calls without damage keep: a free channel is blank, callbacks aim at
channels that a call has returned, these are claimed, and no call has returned
an index of another. -/
structure Sound (s : SetupState) : Prop where
  blank : ∀ c, (s.rc.channelAt c).capture = none →
    s.rc.channelAt c = { capture := none, raw := 0, value := 0, retry := false, corret := false }
  aimed : ∀ unit c, s.captures.callback unit = some c → Int32.ofNat c ∈ s.returned
  occupied : ∀ c : Fin rcMaxChannels, Int32.ofNat c ∈ s.returned →
    (s.rc.channelAt c).capture ≠ none
  index : ∀ ret ∈ s.returned, ¬ ret < 0 → ∃ c : Fin rcMaxChannels, ret = Int32.ofNat c
  distinct : (s.returned.filter fun ret => ¬ ret < 0).Nodup

variable {s : SetupState} {call : SetupCall} {calls : List SetupCall} {rc : Rc}
  {period : ℕ → Option ℕ}

theorem sound_initialised (allocated : Bool) (ret : Int32)
    (created : rcInit allocated ret = some rc) :
    Sound (initialised rc period) := by
  obtain rfl : cleared = rc := by
    simp only [rcInit] at created
    split at created
    · cases created
    · split at created
      · cases created
      · exact Option.some.inj created
  refine ⟨?_, ?_, ?_, ?_, ?_⟩
  · intro c _
    simp [initialised, cleared, Rc.channelAt]
  all_goals simp [initialised]

/-- A call that fails without changing a channel or a callback. -/
theorem Sound.of_failed (sound : Sound s) {rc : Rc} {ret : Int32} (failed : ret < 0)
    (same : ∀ c, rc.channelAt c = s.rc.channelAt c) :
    Sound { s with rc := rc, returned := s.returned ++ [ret] } := by
  have earlier {c : Fin rcMaxChannels} (member : Int32.ofNat c ∈ s.returned ++ [ret]) :
      Int32.ofNat c ∈ s.returned := by
    rcases List.mem_append.mp member with old | new
    · exact old
    · exact absurd (List.mem_singleton.mp new ▸ failed) (ofNat_index_nonneg c)
  refine ⟨?_, ?_, ?_, ?_, ?_⟩
  · intro c free
    simp only [same] at free ⊢
    exact sound.blank c free
  · intro unit c target
    exact List.mem_append_left _ (sound.aimed unit c target)
  · intro c member
    simp only [same]
    exact sound.occupied c (earlier member)
  · intro ret' member nonneg
    rcases List.mem_append.mp member with old | new
    · exact sound.index ret' old nonneg
    · exact absurd (List.mem_singleton.mp new ▸ failed) nonneg
  · simpa [List.filter_append, failed] using sound.distinct

/-- A call that claims a free channel. -/
theorem Sound.of_accepted (sound : Sound s) {c : Fin rcMaxChannels} (unit : ℕ)
    (free : (s.rc.channelAt c).capture = none) (periods : ℕ → Option ℕ) :
    Sound { rc := s.rc.setChannel c (claimed unit)
            captures := { callback := Function.update s.captures.callback unit (some c)
                          period := periods }
            returned := s.returned ++ [Int32.ofNat c] } := by
  refine ⟨?_, ?_, ?_, ?_, ?_⟩
  · intro c' free'
    rw [channelAt_setChannel] at free' ⊢
    split at free'
    · cases free'
    · next other => rw [if_neg other, sound.blank c' free']
  · intro unit' c' target
    rw [List.mem_append]
    -- This unit aims at the channel that was free, every other where it aimed before.
    by_cases same : unit' = unit
    · subst same
      right
      obtain rfl : c = c' := by simpa using target
      exact List.mem_singleton_self _
    · left
      exact sound.aimed unit' c' (by simpa [same] using target)
  · intro c' member
    rw [channelAt_setChannel]
    split
    · simp [claimed]
    · next other =>
      rcases List.mem_append.mp member with old | new
      · exact sound.occupied c' old
      · exact absurd (ofNat_index_inj (List.mem_singleton.mp new)) other
  · intro ret member nonneg
    rcases List.mem_append.mp member with old | new
    · exact sound.index ret old nonneg
    · exact ⟨c, List.mem_singleton.mp new⟩
  · -- The index is new: the channels returned before are claimed, and this one was free.
    have fresh : Int32.ofNat c ∉ s.returned := fun member => sound.occupied c member free
    simp only [List.filter_append, List.filter_cons, ofNat_index_nonneg, not_false_eq_true,
      decide_true, if_true, List.filter_nil]
    refine List.nodup_append.mpr ⟨sound.distinct, List.nodup_singleton _, ?_⟩
    rintro ret member _ new rfl
    exact fresh (List.mem_singleton.mp new ▸ (List.mem_filter.mp member).1)

theorem call_of_eq {rc : Rc} {captures : Captures} {ret : Int32}
    (result : rcSetup call.answer s.rc s.captures call.capture = (rc, captures, ret)) :
    s.call call = { rc := rc, captures := captures, returned := s.returned ++ [ret] } ∧
      s.ret call = ret := by
  simp [SetupState.call, SetupState.ret, result]

/-- A call that fails without changing a channel or a callback is whole. -/
theorem callWhole_of_failed (sound : Sound s) {rc : Rc} (failed : s.ret call < 0)
    (same : ∀ c, rc.channelAt c = s.rc.channelAt c)
    (hcall : s.call call = { s with rc := rc, returned := s.returned ++ [s.ret call] })
    (rejected : ¬ ((∃ c, (s.rc.channelAt c).capture = none) ∧
      ¬ call.answer.setCallback < 0 ∧ ¬ call.answer.setPeriod < 0)) :
    CallWhole s call where
  success := iff_of_false (not_not_intro failed) rejected
  kept _ := by
    rw [hcall]
    exact same
  aimed _ := by
    rw [hcall]
    exact sound.aimed

theorem sound_call (sound : Sound s) (harmless : Harmless s call) :
    Sound (s.call call) ∧ CallWhole s call := by
  unfold Harmless at harmless
  cases found : freeIndex s.rc with
  | none =>
    have full := freeIndex_eq_none_iff.mp found
    rw [if_neg full] at harmless
    obtain ⟨hcall, hret⟩ := call_of_eq (rcSetup_of_full found)
    rw [← hret] at hcall harmless
    refine ⟨?_, callWhole_of_failed sound harmless (fun _ => rfl) hcall fun accepted =>
      full accepted.1⟩
    rw [hcall]
    exact sound.of_failed harmless fun _ => rfl
  | some c =>
    have free : ∃ c, (s.rc.channelAt c).capture = none := ⟨c, free_of_freeIndex found⟩
    rw [if_pos free] at harmless
    by_cases callback : call.answer.setCallback < 0
    · -- The channel is blank again, as it was before.
      have same (c' : Fin rcMaxChannels) : (((s.rc.setChannel c (claimed call.capture)).setChannel c
          { claimed call.capture with capture := none }).channelAt c') = s.rc.channelAt c' := by
        rw [channelAt_setChannel]
        split
        · next own => rw [own, sound.blank c (free_of_freeIndex found)]; rfl
        · next other => rw [channelAt_setChannel, if_neg other]
      obtain ⟨hcall, hret⟩ := call_of_eq (rcSetup_of_setCallback_neg found callback)
      have failed : s.ret call < 0 := hret ▸ callback
      rw [← hret] at hcall
      refine ⟨?_, callWhole_of_failed sound failed same hcall fun accepted =>
        accepted.2.1 callback⟩
      rw [hcall]
      exact sound.of_failed failed same
    · have period := harmless callback
      obtain ⟨hcall, hret⟩ := call_of_eq (rcSetup_of_accepted found callback period)
      have accepted : ¬ s.ret call < 0 := hret ▸ ofNat_index_nonneg c
      refine ⟨?_, iff_of_true accepted ⟨free, callback, period⟩, ?_, ?_⟩
      · rw [hcall]
        exact sound.of_accepted call.capture (free_of_freeIndex found) _
      · exact fun failed => absurd failed accepted
      · exact fun failed => absurd failed accepted

/-- Every other call does damage. -/
theorem harmless_of_callWhole (whole : CallWhole s call) : Harmless s call := by
  unfold Harmless
  cases found : freeIndex s.rc with
  | none =>
    have full := freeIndex_eq_none_iff.mp found
    obtain ⟨-, hret⟩ := call_of_eq (rcSetup_of_full found)
    rw [if_neg full, ← hret]
    -- A result that is not negative would mean that a channel is free.
    by_contra nonneg
    exact full (whole.success.mp nonneg).1
  | some c =>
    have free := free_of_freeIndex found
    rw [if_pos ⟨c, free⟩]
    intro callback period
    obtain ⟨hcall, hret⟩ := call_of_eq (rcSetup_of_setPeriod_neg found callback period)
    have kept := whole.kept (hret ▸ period) c
    -- The failed call leaves the channel claimed, though it was free.
    have stillClaimed : ((s.call call).rc.channelAt c).capture = some call.capture := by
      rw [hcall, channelAt_setChannel, if_pos rfl]
      rfl
    rw [kept, free] at stillClaimed
    cases stillClaimed

/-! ## Sequences of calls -/

theorem AllOrNothing.harmless (whole : AllOrNothing s calls) :
    AtEvery Harmless SetupState.call s calls :=
  fun pre call post split => harmless_of_callWhole (whole.whole pre call post split)

theorem allOrNothing_of_harmless (start : Sound s)
    (harmless : AtEvery Harmless SetupState.call s calls) : AllOrNothing s calls := by
  have sound : Sound (s.calls calls) :=
    harmless.foldl start fun before admitted => (sound_call before admitted).1
  refine ⟨?_, sound.distinct, ?_⟩
  · exact harmless.imp start (fun before admitted => (sound_call before admitted).1)
      fun before admitted => (sound_call before admitted).2
  · intro ret member nonneg
    obtain ⟨c, rfl⟩ := sound.index ret member nonneg
    rw [toInt_ofNat_index]
    exact_mod_cast c.isLt

/-- **When `rc_setup` is all-or-nothing.** A sequence of calls on the object that
`rc_init` returned is all-or-nothing exactly if no period is rejected for a channel
that was claimed, and no call without a free channel finds a value in the
unassigned variable that is not negative. -/
theorem allOrNothing_iff (allocated : Bool) (ret : Int32)
    (created : rcInit allocated ret = some rc) (calls : List SetupCall) :
    AllOrNothing (initialised rc period) calls ↔
      AtEvery Harmless SetupState.call (initialised rc period) calls :=
  ⟨AllOrNothing.harmless, allOrNothing_of_harmless (sound_initialised allocated ret created)⟩

/-- A call that is accepted, and one whose callback is rejected. -/
theorem allOrNothing_twoCalls :
    AllOrNothing (initialised cleared fun _ => none) [⟨⟨0, 0, 0⟩, 5⟩, ⟨⟨-1, 0, 0⟩, 4⟩] :=
  (allOrNothing_iff true 0 rfl _).mpr (by decide)

/-- A period that is rejected leaves the channel claimed, and the ninth accepted
call returns the value that the unassigned variable happens to have. -/
theorem not_allOrNothing :
    ¬ AllOrNothing (initialised cleared fun _ => none) [⟨⟨0, -1, 0⟩, 5⟩] ∧
      ¬ AllOrNothing (initialised cleared fun _ => none) (List.replicate 9 ⟨⟨0, 0, 0⟩, 5⟩) := by
  constructor
  · intro whole
    exact absurd whole.harmless (by decide)
  · intro whole
    exact absurd whole.harmless (by decide +kernel)

end TestSystem.RemoteControl
