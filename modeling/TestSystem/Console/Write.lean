import TestSystem.Text.Newline
import TestSystem.Transition.Latest

/-!
# Writing to the console

`stdio_dwrite` of `src/c28x/test.c` passes the characters of a buffer to
`uart_putc`, and before each line feed a carriage return. As soon as a call fails
it returns -1. So what has gone out is the expanded text, or a beginning of it, and
the returned value says which.
-/

namespace TestSystem.Console

open TestSystem.Text TestSystem.Transition

variable {w : ℕ}

/-- The character `'\r'`; a `char` has `w` bits. -/
def carriageReturn : BitVec w := 13

/-- The character `'\n'`. -/
def lineFeed : BitVec w := 10

/-- A call of `uart_putc`, and what it returned. -/
structure Putc (w : ℕ) where
  char : BitVec w
  ret : Int32
  deriving DecidableEq, Repr

/-- What each call of `uart_putc` returns, by the number of calls before it. -/
abbrev Uart := ℕ → Int32

/-- One call after those that were made; it fails with all of them, itself included. -/
def uartPutc (uart : Uart) (calls : List (Putc w)) (char : BitVec w) :
    Except (List (Putc w)) (List (Putc w)) :=
  let ret := uart calls.length
  if ret < 0 then .error (calls ++ [⟨char, ret⟩]) else .ok (calls ++ [⟨char, ret⟩])

/-- The body of the loop for the character `char`. -/
def putExpanded (uart : Uart) (calls : List (Putc w)) (char : BitVec w) :
    Except (List (Putc w)) (List (Putc w)) := do
  let calls ← if char = lineFeed then uartPutc uart calls carriageReturn else pure calls
  uartPutc uart calls char

/-- The calls of `uart_putc` and the returned value. -/
structure Written (w : ℕ) where
  calls : List (Putc w)
  ret : ℤ
  deriving DecidableEq, Repr

/-- The loop with the counter `i` and the pointer `buf` into `memory`. -/
def dwriteLoop (uart : Uart) (memory : ℕ → BitVec w) (count i buf : ℕ)
    (calls : List (Putc w)) : Written w :=
  if i < count then
    match putExpanded uart calls (memory buf) with
    | .error calls => { calls := calls, ret := -1 }
    | .ok calls => dwriteLoop uart memory count (i + 1) (buf + 1) calls
  else
    { calls := calls, ret := i }
termination_by count - i

/-- As `count` is at most `INT_MAX` the counter, an `int`, does not overflow. -/
def stdioDwrite (uart : Uart) (memory : ℕ → BitVec w) (buf count : ℕ) : Written w :=
  dwriteLoop uart memory count 0 buf []

/-- `buf[0..count)`. -/
def textAt (memory : ℕ → BitVec w) (buf count : ℕ) : List (BitVec w) :=
  (List.range count).map fun k => memory (buf + k)

/-- The characters that were sent. -/
def Written.sent (written : Written w) : List (BitVec w) :=
  (written.calls.filter fun call => ¬ call.ret < 0).map Putc.char

/-- The translation of `text` is sent as far as no call fails, and the returned value
says whether it is complete. -/
structure Translates (text : List (BitVec w)) (written : Written w) : Prop where
  sent : written.sent <+: expandNewlines carriageReturn lineFeed text
  complete : written.ret = text.length ↔
    written.sent = expandNewlines carriageReturn lineFeed text
  failed : written.ret = -1 ↔ ∃ call ∈ written.calls, call.ret < 0
  /-- After a call that fails nothing is sent. -/
  last : ∀ before call after, written.calls = before ++ call :: after → call.ret < 0 → after = []

variable {uart : Uart} {memory : ℕ → BitVec w} {calls : List (Putc w)} {count i buf : ℕ}
  {char : BitVec w} {text text' : List (BitVec w)}

/-- No call has failed. -/
def Accepted (calls : List (Putc w)) : Prop := ∀ call ∈ calls, ¬ call.ret < 0

theorem Accepted.append_singleton {call : Putc w} (accepted : Accepted calls)
    (success : ¬ call.ret < 0) : Accepted (calls ++ [call]) := by
  intro call' member
  rcases List.mem_append.mp member with old | new
  · exact accepted call' old
  · obtain rfl := List.mem_singleton.mp new
    exact success

/-- From `calls` on the characters of `chars` are sent, or the first of them until a
call fails. -/
inductive Sends (calls : List (Putc w)) (chars : List (BitVec w)) :
    Except (List (Putc w)) (List (Putc w)) → Prop
  | ok {calls' : List (Putc w)} (accepted : Accepted calls')
      (sent : calls'.map Putc.char = calls.map Putc.char ++ chars) : Sends calls chars (.ok calls')
  | error {calls' : List (Putc w)} {call : Putc w} (accepted : Accepted calls')
      (failed : call.ret < 0)
      (sent : calls'.map Putc.char ++ [call.char] <+: calls.map Putc.char ++ chars) :
      Sends calls chars (.error (calls' ++ [call]))

theorem Sends.append {chars more : List (BitVec w)}
    {result : Except (List (Putc w)) (List (Putc w))}
    {rest : List (Putc w) → Except (List (Putc w)) (List (Putc w))}
    (first : Sends calls chars result)
    (second : ∀ calls', Accepted calls' → Sends calls' more (rest calls')) :
    Sends calls (chars ++ more) (result >>= rest) := by
  cases first with
  | @ok calls' accepted sent =>
    have continued := second calls' accepted
    change Sends calls (chars ++ more) (rest calls')
    generalize rest calls' = result at continued ⊢
    cases continued with
    | ok accepted' sent' =>
      refine .ok accepted' ?_
      rw [sent', sent, List.append_assoc]
    | error accepted' failed sent' =>
      refine .error accepted' failed ?_
      rwa [← List.append_assoc, ← sent]
  | error accepted failed sent =>
    -- Nothing of the second part is sent.
    refine .error accepted failed (sent.trans ?_)
    rw [← List.append_assoc]
    exact List.prefix_append _ _

theorem sends_uartPutc (uart : Uart) (accepted : Accepted calls) (char : BitVec w) :
    Sends calls [char] (uartPutc uart calls char) := by
  unfold uartPutc
  dsimp only
  split
  · next failed =>
    have last : (⟨char, uart calls.length⟩ : Putc w).ret < 0 := failed
    exact .error accepted last (List.prefix_refl _)
  · next success =>
    refine .ok (accepted.append_singleton success) ?_
    simp

theorem sends_putExpanded (uart : Uart) (accepted : Accepted calls) (char : BitVec w) :
    Sends calls (expand carriageReturn lineFeed char) (putExpanded uart calls char) := by
  unfold putExpanded
  split
  · next newline =>
    subst newline
    rw [expand_lf]
    exact (sends_uartPutc uart accepted carriageReturn).append fun calls' accepted' =>
      sends_uartPutc uart accepted' lineFeed
  · next other =>
    rw [expand_of_ne other]
    exact sends_uartPutc uart accepted char

/-- The value returned after the loop, or after a call that fails. -/
def returning (count : ℕ) : Except (List (Putc w)) (List (Putc w)) → Written w
  | .ok calls => { calls := calls, ret := count }
  | .error calls => { calls := calls, ret := -1 }

theorem textAt_succ (memory : ℕ → BitVec w) (buf n : ℕ) :
    textAt memory buf (n + 1) = memory buf :: textAt memory (buf + 1) n := by
  simp only [textAt, List.range_succ_eq_map, List.map_cons, List.map_map, Nat.add_zero]
  congr 2
  funext k
  simp [Nat.add_assoc, Nat.add_comm 1]

/-- From any turn of the loop on, the rest of the buffer is sent. -/
theorem exists_sends_dwriteLoop (uart : Uart) (memory : ℕ → BitVec w) {n : ℕ} (buf : ℕ)
    (rest : count = i + n) (accepted : Accepted calls) :
    ∃ result, Sends calls (expandNewlines carriageReturn lineFeed (textAt memory buf n)) result ∧
      dwriteLoop uart memory count i buf calls = returning count result := by
  induction n generalizing i buf calls with
  | zero =>
    refine ⟨.ok calls, .ok accepted (by simp [textAt]), ?_⟩
    rw [dwriteLoop, if_neg (by omega), rest]
    rfl
  | succ n ih =>
    have turn := sends_putExpanded uart accepted (memory buf)
    rw [textAt_succ, expandNewlines_cons, dwriteLoop, if_pos (by omega)]
    -- The rest of the loop follows the two calls for this character.
    choose! result sends returned using fun calls (accepted : Accepted calls) =>
      ih (buf + 1) (show count = i + 1 + n by omega) accepted
    refine ⟨putExpanded uart calls (memory buf) >>= result, turn.append sends, ?_⟩
    generalize putExpanded uart calls (memory buf) = outcome at turn
    cases turn with
    | ok accepted' => exact returned _ accepted'
    | error => rfl

theorem sent_of_accepted (accepted : Accepted calls) (ret : ℤ) :
    Written.sent ⟨calls, ret⟩ = calls.map Putc.char := by
  have all : calls.filter (fun call => ¬ call.ret < 0) = calls :=
    List.filter_eq_self.mpr fun call member => decide_eq_true (accepted call member)
  rw [Written.sent, all]

theorem sent_append_failed {call : Putc w} (accepted : Accepted calls) (failed : call.ret < 0)
    (ret : ℤ) : Written.sent ⟨calls ++ [call], ret⟩ = calls.map Putc.char := by
  rw [← sent_of_accepted accepted ret]
  simp [Written.sent, failed]

/-- What the loop over the whole text leaves. -/
theorem Sends.translates {result : Except (List (Putc w)) (List (Putc w))}
    (sends : Sends [] (expandNewlines carriageReturn lineFeed text) result) :
    Translates text (returning text.length result) := by
  cases sends with
  | @ok calls' accepted sent =>
    have whole : (Written.sent ⟨calls', text.length⟩) =
        expandNewlines carriageReturn lineFeed text := (sent_of_accepted accepted _).trans sent
    refine ⟨?_, iff_of_true rfl whole, ?_, ?_⟩
    · exact whole ▸ List.prefix_refl _
    · refine iff_of_false ?_ ?_
      · simp only [returning]
        omega
      · rintro ⟨call, member, failed⟩
        exact accepted call member failed
    · rintro before call after rfl failed
      exact absurd failed (accepted call (by simp))
  | @error calls' call accepted failed sent =>
    have part : (Written.sent ⟨calls' ++ [call], -1⟩) = calls'.map Putc.char :=
      sent_append_failed accepted failed _
    refine ⟨?_, iff_of_false ?_ ?_, ?_, ?_⟩
    · rw [returning, part]
      exact (List.prefix_append _ _).trans sent
    · simp only [returning]
      omega
    · intro whole
      -- The character that failed is missing.
      have short := sent.length_le
      rw [returning, part] at whole
      rw [← whole] at short
      simp at short
    · exact iff_of_true rfl ⟨call, by simp [returning], failed⟩
    · intro before call' after split failed'
      rcases append_singleton_eq_iff.mp split with ⟨-, -, rfl⟩ | ⟨after, -, rfl⟩
      · rfl
      · exact absurd failed' (accepted call' (by simp))

theorem length_textAt (memory : ℕ → BitVec w) (buf count : ℕ) :
    (textAt memory buf count).length = count := by
  simp [textAt]

theorem carriageReturn_ne_lineFeed (wide : 8 ≤ w) :
    (carriageReturn : BitVec w) ≠ lineFeed := by
  intro same
  have limit : 2 ^ 8 ≤ 2 ^ w := Nat.pow_le_pow_right (by decide) wide
  have nat := congrArg BitVec.toNat same
  simp only [carriageReturn, lineFeed, BitVec.ofNat_eq_ofNat, BitVec.toNat_ofNat] at nat
  rw [Nat.mod_eq_of_lt (by omega), Nat.mod_eq_of_lt (by omega)] at nat
  omega

end TestSystem.Console
