import LinuxSampleDriver.Pegmatite.Watchdog

/-!
# The watchdog when calls overlap

Two places of `pegmatite-wdt` run on several threads at once.

`aps_watchdog_writel` makes three writes to the APS block, the magic pair and then the value,
under the static spinlock `__aps_writel_lock`. Here a thread's call, its taking of the lock and
each write are separate steps, and the steps of all threads interleave. The invariant `ApsInv`
says that the lock is held by exactly the thread that is writing and that the bus holds the
writes of whole calls and then the holder's writes so far (`ApsInv.run`). So under every
schedule no write comes between a magic pair and the write it unlocks (`apsSys_run_bus`), and
whenever the lock is free the bus holds what the sequential `apsWatchdogWritel` writes for the
calls of the schedule, taken in the order they took the lock (`apsSys_run_refines`).

`pegmatite_wdt_disable_pretimeout_irq` reads `wdt->irq_enabled` and, when it is set, calls
`disable_irq_nosync` and clears it; `pegmatite_wdt_enable_pretimeout_irq` does the converse with
`enable_irq`. `start` and `stop` run them under `wdt->lock`; the interrupt handler
`pegmatite_wdt_irq` runs the disable with no lock, once `watchdog_pretimeout_handle()` returns
(when the pretimeout is off). Its flow handler, `handle_remain_latched_and_eoi_irq`, ends the
interrupt before handling it "so other cores can also get it": several cores run the handler at
once. Two handlers that both read the flag set disable the interrupt twice and clear the flag
once (`irqSys_handlers_double_disable`). From then on the depth exceeds what the flag says by
one, every later sequence of calls keeps that (`IrqExcess.run`), and the pretimeout interrupt is
never delivered again, though a `start` with the pretimeout on sets the flag again
(`pretimeoutIrq_lost`).
-/

namespace LinuxSampleDriver

namespace Pegmatite

/-! ## The APS write lock -/

/-- Where a thread is in `aps_watchdog_writel`. -/
inductive ApsThread
  | idle
  /-- called with `v` and `off`, spinning on `__aps_writel_lock` -/
  | waiting (v : BitVec 32) (off : Nat)
  /-- holding the lock, with `k` of its three writes made -/
  | writing (v : BitVec 32) (off : Nat) (k : Nat)
  deriving DecidableEq, Repr

/-- The writes a thread has made since it took the lock. -/
def ApsThread.written : ApsThread → List ApsWrite
  | .writing v off k => (apsWrites v off).take k
  | _ => []

/-- The threads, the holder of `__aps_writel_lock`, and the writes on the APS bus in order. -/
structure ApsSys where
  thread : Nat → ApsThread
  lock : Option Nat
  bus : List ApsWrite

/-- One step of one thread in `aps_watchdog_writel`. -/
inductive ApsAct
  | call (t : Nat) (v : BitVec 32) (off : Nat)
  | acquire (t : Nat)
  | write (t : Nat)
  deriving DecidableEq, Repr

/-- A step; a thread not at the point where the step applies does nothing, and `acquire` waits
while another thread holds the lock. The third write releases it. -/
def ApsSys.next (s : ApsSys) : ApsAct → ApsSys
  | .call t v off =>
    if s.thread t = .idle then { s with thread := Function.update s.thread t (.waiting v off) }
    else s
  | .acquire t =>
    match s.thread t, s.lock with
    | .waiting v off, none =>
      { s with thread := Function.update s.thread t (.writing v off 0), lock := some t }
    | _, _ => s
  | .write t =>
    match s.thread t with
    | .writing v off 0 =>
      { s with thread := Function.update s.thread t (.writing v off 1),
               bus := s.bus ++ [(apsTmrWfar, apsTmrMagic1)] }
    | .writing v off 1 =>
      { s with thread := Function.update s.thread t (.writing v off 2),
               bus := s.bus ++ [(apsTmrWsar, apsTmrMagic2)] }
    | .writing v off _ =>
      { thread := Function.update s.thread t .idle, lock := none, bus := s.bus ++ [(off, v)] }
    | _ => s

/-- The steps in order. -/
def ApsSys.run (s : ApsSys) (acts : List ApsAct) : ApsSys := acts.foldl ApsSys.next s

/-- No thread inside `aps_watchdog_writel` and nothing written yet. -/
def ApsSys.init : ApsSys := ⟨fun _ => .idle, none, []⟩

/-- The writes of the lock's holder so far. -/
def ApsSys.pending (s : ApsSys) : List ApsWrite :=
  match s.lock with
  | some t => (s.thread t).written
  | none => []

/-- The writes of whole calls, in the order the calls took the lock. -/
def apsLog (calls : List ApsWrite) : List ApsWrite := (calls.map fun c => apsWrites c.2 c.1).flatten

@[simp] theorem apsLog_nil : apsLog [] = [] := rfl

@[simp] theorem apsLog_append (calls calls' : List ApsWrite) :
    apsLog (calls ++ calls') = apsLog calls ++ apsLog calls' := by
  simp [apsLog]

/-- The lock's invariant: the lock is held by exactly the thread that is writing, which has made
at most two writes, and the bus holds whole calls and then the holder's writes so far. -/
structure ApsInv (s : ApsSys) : Prop where
  holder : ∀ t, s.lock = some t ↔ ∃ v off k, s.thread t = .writing v off k
  writes_le : ∀ t v off k, s.thread t = .writing v off k → k ≤ 2
  bus : ∃ calls, s.bus = apsLog calls ++ s.pending

theorem ApsInv.init : ApsInv ApsSys.init where
  holder t := by simp [ApsSys.init]
  writes_le := by simp [ApsSys.init]
  bus := ⟨[], by simp [ApsSys.init, ApsSys.pending]⟩

/-- Changing the phase of a thread that does not hold the lock keeps the holder's writes. -/
theorem ApsSys.pending_update_of_ne {s : ApsSys} {t : Nat} (h : s.lock ≠ some t) (x : ApsThread) :
    { s with thread := Function.update s.thread t x }.pending = s.pending := by
  cases hl : s.lock with
  | none => simp only [ApsSys.pending, hl]
  | some t' =>
    have hne : t' ≠ t := fun e => h (e ▸ hl)
    simp only [ApsSys.pending, hl, Function.update_noteq hne]

theorem ApsInv.lock_ne_of_idle {s : ApsSys} (hinv : ApsInv s) {t : Nat}
    (hidle : s.thread t = .idle) : s.lock ≠ some t := fun h => by
  obtain ⟨v, off, k, hw⟩ := (hinv.holder t).1 h
  simp [hidle] at hw

theorem ApsInv.next_call {s : ApsSys} (hinv : ApsInv s) (t : Nat) (v : BitVec 32) (off : Nat) :
    ApsInv (s.next (.call t v off)) := by
  simp only [ApsSys.next]
  split
  · next hidle =>
    have hfree := hinv.lock_ne_of_idle hidle
    refine ⟨fun t' => ?_, fun t' v' off' k => ?_, ?_⟩
    · by_cases ht : t' = t
      · subst ht; simp [hfree]
      · simpa [Function.update_noteq ht] using hinv.holder t'
    · by_cases ht : t' = t
      · subst ht; simp
      · simpa [Function.update_noteq ht] using hinv.writes_le t' v' off' k
    · rw [ApsSys.pending_update_of_ne hfree]; exact hinv.bus
  · exact hinv

theorem ApsInv.next_acquire {s : ApsSys} (hinv : ApsInv s) (t : Nat) :
    ApsInv (s.next (.acquire t)) := by
  simp only [ApsSys.next]
  split
  · next v off hth hl =>
    refine ⟨fun t' => ?_, fun t' v' off' k => ?_, ?_⟩
    · by_cases ht : t' = t
      · subst ht; simp
      · simpa [Function.update_noteq ht, hl, Ne.symm ht] using hinv.holder t'
    · by_cases ht : t' = t
      · subst ht; simp; omega
      · simpa [Function.update_noteq ht] using hinv.writes_le t' v' off' k
    · obtain ⟨calls, hbus⟩ := hinv.bus
      refine ⟨calls, ?_⟩
      simp [ApsSys.pending, hbus, hl, ApsThread.written]
  · exact hinv

/-- Only the lock's holder is writing. -/
theorem ApsInv.eq_of_writing {s : ApsSys} (hinv : ApsInv s) {t t' : Nat} (hl : s.lock = some t)
    {v : BitVec 32} {off k : Nat} (hw : s.thread t' = .writing v off k) : t' = t :=
  Option.some.inj (((hinv.holder t').2 ⟨v, off, k, hw⟩).symm.trans hl)

/-- One of the two magic writes: the holder's writes so far grow by the write it makes. -/
theorem ApsInv.advance {s : ApsSys} (hinv : ApsInv s) {t : Nat} {v : BitVec 32} {off k : Nat}
    (hth : s.thread t = .writing v off k) (hk : k < 2) (w : ApsWrite)
    (hw : (apsWrites v off).take (k + 1) = (apsWrites v off).take k ++ [w]) :
    ApsInv { s with thread := Function.update s.thread t (.writing v off (k + 1)),
                    bus := s.bus ++ [w] } := by
  have hl := (hinv.holder t).2 ⟨v, off, k, hth⟩
  obtain ⟨calls, hbus⟩ := hinv.bus
  refine ⟨fun t' => ?_, fun t' v' off' k' => ?_, ⟨calls, ?_⟩⟩
  · by_cases ht : t' = t
    · subst ht; simp [hl]
    · simpa [Function.update_noteq ht] using hinv.holder t'
  · by_cases ht : t' = t
    · subst ht
      simp only [Function.update_same, ApsThread.writing.injEq]
      rintro ⟨-, -, rfl⟩
      omega
    · simpa [Function.update_noteq ht] using hinv.writes_le t' v' off' k'
  · simp [ApsSys.pending, hbus, hl, hth, ApsThread.written, hw]

/-- The third write: the call's three writes are whole on the bus, and the lock is free. -/
theorem ApsInv.release {s : ApsSys} (hinv : ApsInv s) {t : Nat} {v : BitVec 32} {off : Nat}
    (hth : s.thread t = .writing v off 2) :
    ApsInv ⟨Function.update s.thread t .idle, none, s.bus ++ [(off, v)]⟩ := by
  have hl := (hinv.holder t).2 ⟨v, off, 2, hth⟩
  obtain ⟨calls, hbus⟩ := hinv.bus
  refine ⟨fun t' => ?_, fun t' v' off' k' => ?_, ⟨calls ++ [(off, v)], ?_⟩⟩
  · by_cases ht : t' = t
    · subst ht; simp
    · simp only [Function.update_noteq ht, reduceCtorEq, false_iff, not_exists]
      exact fun v' off' k' hw => ht (hinv.eq_of_writing hl hw)
  · by_cases ht : t' = t
    · subst ht; simp
    · simpa [Function.update_noteq ht] using hinv.writes_le t' v' off' k'
  · simp [ApsSys.pending, hbus, hl, hth, ApsThread.written, apsLog, apsWrites]

theorem ApsInv.next_write {s : ApsSys} (hinv : ApsInv s) (t : Nat) :
    ApsInv (s.next (.write t)) := by
  cases hth : s.thread t with
  | idle | waiting => simp only [ApsSys.next, hth]; exact hinv
  | writing v off k =>
    have hk := hinv.writes_le t v off k hth
    rcases k with _ | _ | k <;> simp only [ApsSys.next, hth]
    · exact hinv.advance hth (by decide) _ rfl
    · exact hinv.advance hth (by decide) _ rfl
    · obtain rfl : k = 0 := by omega
      exact hinv.release hth

theorem ApsInv.next {s : ApsSys} (hinv : ApsInv s) : ∀ a : ApsAct, ApsInv (s.next a)
  | .call t v off => hinv.next_call t v off
  | .acquire t => hinv.next_acquire t
  | .write t => hinv.next_write t

theorem ApsInv.run {s : ApsSys} (hinv : ApsInv s) : ∀ acts : List ApsAct, ApsInv (s.run acts)
  | [] => hinv
  | a :: acts => (hinv.next a).run acts

/-- Under every schedule the bus holds the three writes of whole calls, one call after another,
then the first writes of the call that holds the lock: no write comes between a magic pair and
the write it unlocks. -/
theorem apsSys_run_bus (acts : List ApsAct) :
    ∃ (calls : List ApsWrite) (v : BitVec 32) (off k : Nat), k < 3 ∧
      (ApsSys.init.run acts).bus = apsLog calls ++ (apsWrites v off).take k := by
  have hinv := ApsInv.init.run acts
  obtain ⟨calls, hbus⟩ := hinv.bus
  cases hl : (ApsSys.init.run acts).lock with
  | none => exact ⟨calls, 0, 0, 0, by decide, by simp [hbus, ApsSys.pending, hl]⟩
  | some t =>
    obtain ⟨v, off, k, hth⟩ := (hinv.holder t).1 hl
    exact ⟨calls, v, off, k, by have := hinv.writes_le t v off k hth; omega,
      by simp [hbus, ApsSys.pending, hl, hth, ApsThread.written]⟩

/-- The sequential model's log after a list of calls of `aps_watchdog_writel`. -/
theorem foldl_apsWatchdogWritel_aps :
    ∀ (calls : List ApsWrite) (w : PegmatiteWdt),
      (calls.foldl (fun w c => apsWatchdogWritel w c.2 c.1) w).aps = w.aps ++ apsLog calls
  | [], w => by simp
  | c :: calls, w => by
    rw [List.foldl_cons, foldl_apsWatchdogWritel_aps calls]
    simp [apsWatchdogWritel, apsLog]

/-! ## The calls in the order they took the lock -/

/-- The call a step lets take `__aps_writel_lock`: the waiting thread's arguments at an `acquire`
that finds the lock free, in the order `apsWatchdogWritel` takes them. -/
def ApsSys.taken (s : ApsSys) : ApsAct → List ApsWrite
  | .acquire t =>
    match s.thread t, s.lock with
    | .waiting v off, none => [(off, v)]
    | _, _ => []
  | _ => []

/-- The calls of a schedule in the order they took the lock. -/
def ApsSys.acquired (s : ApsSys) : List ApsAct → List ApsWrite
  | [] => []
  | a :: acts => s.taken a ++ (s.next a).acquired acts

/-- The writes a thread has still to make under the lock. -/
def ApsThread.toWrite : ApsThread → List ApsWrite
  | .writing v off k => (apsWrites v off).drop k
  | _ => []

/-- The writes the lock's holder has still to make. -/
def ApsSys.remaining (s : ApsSys) : List ApsWrite :=
  match s.lock with
  | some t => (s.thread t).toWrite
  | none => []

/-- Every step adds to the bus, followed by what the holder has still to write, the three writes
of the call it lets take the lock. -/
theorem ApsInv.next_bus {s : ApsSys} (hinv : ApsInv s) (a : ApsAct) :
    (s.next a).bus ++ (s.next a).remaining = s.bus ++ s.remaining ++ apsLog (s.taken a) := by
  cases a with
  | call t v off =>
    simp only [ApsSys.next, ApsSys.taken, apsLog_nil, List.append_nil]
    split
    · next hidle =>
      cases hl : s.lock with
      | none => simp only [ApsSys.remaining, hl]
      | some t' =>
        have hne : t' ≠ t := fun e => hinv.lock_ne_of_idle hidle (e ▸ hl)
        simp only [ApsSys.remaining, hl, Function.update_noteq hne]
    · rfl
  | acquire t =>
    simp only [ApsSys.next, ApsSys.taken]
    split
    · next v off _ hl => simp [ApsSys.remaining, hl, ApsThread.toWrite, apsLog]
    · simp
  | write t =>
    cases hth : s.thread t with
    | idle | waiting => simp [ApsSys.next, ApsSys.taken, hth]
    | writing v off k =>
      have hl := (hinv.holder t).2 ⟨v, off, k, hth⟩
      have hk := hinv.writes_le t v off k hth
      obtain rfl | rfl | rfl : k = 0 ∨ k = 1 ∨ k = 2 := by omega
      all_goals
        simp [ApsSys.next, ApsSys.taken, hth, ApsSys.remaining, hl, ApsThread.toWrite, apsWrites]

/-- Over a run, the bus and the holder's remaining writes grow by the whole writes of the calls
that took the lock, in the order they took it. -/
theorem ApsInv.run_bus {s : ApsSys} (hinv : ApsInv s) : ∀ acts : List ApsAct,
    (s.run acts).bus ++ (s.run acts).remaining = s.bus ++ s.remaining ++ apsLog (s.acquired acts)
  | [] => by simp [ApsSys.run, ApsSys.acquired]
  | a :: acts => by
    rw [ApsSys.run, List.foldl_cons, ← ApsSys.run, (hinv.next a).run_bus acts, hinv.next_bus,
      ApsSys.acquired, apsLog_append, List.append_assoc]

/-- A thread waits with the arguments it waited with, or of the call it just made. -/
theorem ApsSys.next_waiting {s : ApsSys} {a : ApsAct} {t : Nat} {v : BitVec 32} {off : Nat}
    (hw : (s.next a).thread t = .waiting v off) :
    s.thread t = .waiting v off ∨ a = .call t v off := by
  cases a with
  | call t' v' off' =>
    simp only [ApsSys.next] at hw
    split at hw
    · simp only [Function.update_apply] at hw
      split_ifs at hw with ht
      · cases hw; exact .inr (by rw [ht])
      · exact .inl hw
    · exact .inl hw
  | acquire | write =>
    simp only [ApsSys.next] at hw
    split at hw <;> (try simp only [Function.update_apply] at hw; split_ifs at hw) <;> exact .inl hw

/-- The call an `acquire` lets take the lock is a waiting thread's. -/
theorem ApsSys.mem_taken {s : ApsSys} {a : ApsAct} {c : ApsWrite} (hc : c ∈ s.taken a) :
    ∃ t, s.thread t = .waiting c.2 c.1 := by
  cases a with
  | acquire t =>
    simp only [ApsSys.taken] at hc
    split at hc
    · next v off hth _ =>
      rw [List.mem_singleton.mp hc]
      exact ⟨t, hth⟩
    · cases hc
  | call | write => cases hc

/-- The calls that took the lock are calls of the schedule: a thread waits with the arguments of
its own call. -/
theorem ApsSys.acquired_mem_calls : ∀ (s : ApsSys) (acts calls : List ApsAct),
    (∀ t v off, s.thread t = .waiting v off → ∃ t', ApsAct.call t' v off ∈ calls) →
      ∀ c ∈ s.acquired acts, ∃ t, ApsAct.call t c.2 c.1 ∈ calls ++ acts
  | _, [], _, _, c, hc => nomatch hc
  | s, a :: acts, calls, hwait, c, hc => by
    rw [ApsSys.acquired, List.mem_append] at hc
    rcases hc with hc | hc
    · obtain ⟨t, hth⟩ := ApsSys.mem_taken hc
      obtain ⟨t', ht'⟩ := hwait t c.2 c.1 hth
      exact ⟨t', List.mem_append_left _ ht'⟩
    · have hwait' : ∀ t v off, (s.next a).thread t = .waiting v off →
          ∃ t', ApsAct.call t' v off ∈ calls ++ [a] := fun t v off hw => by
        rcases ApsSys.next_waiting hw with hw | rfl
        · obtain ⟨t', ht'⟩ := hwait t v off hw
          exact ⟨t', List.mem_append_left _ ht'⟩
        · exact ⟨t, by simp⟩
      obtain ⟨t, ht⟩ := ApsSys.acquired_mem_calls (s.next a) acts (calls ++ [a]) hwait' c hc
      exact ⟨t, by simpa using ht⟩

/-- Whenever the lock is free, the interleaved calls have written exactly what the sequential
`apsWatchdogWritel` writes for the calls of the schedule, taken in the order they took the lock. -/
theorem apsSys_run_refines (acts : List ApsAct) (hfree : (ApsSys.init.run acts).lock = none)
    (w : PegmatiteWdt) :
    (∀ c ∈ ApsSys.init.acquired acts, ∃ t, ApsAct.call t c.2 c.1 ∈ acts) ∧
      ((ApsSys.init.acquired acts).foldl (fun w c => apsWatchdogWritel w c.2 c.1) w).aps =
        w.aps ++ (ApsSys.init.run acts).bus := by
  refine ⟨fun c hc => ?_, ?_⟩
  · -- no thread waits at the start, so each call that took the lock is one of the schedule's
    simpa using ApsSys.acquired_mem_calls _ acts [] (fun _ _ _ h => ApsThread.noConfusion h) c hc
  · -- with the lock free no writes remain, and the bus is the calls' writes in lock order
    have hbus := ApsInv.init.run_bus acts
    simp only [ApsSys.remaining, hfree, List.append_nil] at hbus
    rw [foldl_apsWatchdogWritel_aps, hbus]
    rfl

/-- Thread 0 calls with 5 for `APS_TMR_WMR` and thread 1 with 7 for `APS_TMR_WSAR`; thread 1 takes
the lock first, thread 0 spins until it has written, then writes: the bus holds thread 1's call
and then thread 0's. -/
theorem apsSys_run_refines_wmr :
    let acts : List ApsAct := [.call 0 5 apsTmrWmr, .call 1 7 apsTmrWsar, .acquire 1, .acquire 0,
      .write 1, .write 1, .write 1, .acquire 0, .write 0, .write 0, .write 0]
    ApsSys.init.acquired acts = [(apsTmrWsar, 7), (apsTmrWmr, 5)] ∧
      (ApsSys.init.run acts).lock = none ∧
      (∀ c ∈ ApsSys.init.acquired acts, ∃ t, ApsAct.call t c.2 c.1 ∈ acts) ∧
      ((ApsSys.init.acquired acts).foldl (fun w c => apsWatchdogWritel w c.2 c.1)
          (⟨⟨0, 0, 0, 0⟩, [], 0, true, 0⟩ : PegmatiteWdt)).aps =
        [] ++ (ApsSys.init.run acts).bus :=
  ⟨by decide, by decide, apsSys_run_refines _ (by decide) ⟨⟨0, 0, 0, 0⟩, [], 0, true, 0⟩⟩

/-! ## The pretimeout interrupt's bookkeeping -/

/-- Where a thread is in the two helpers: after its read of `wdt->irq_enabled`, with the value
read and whether it holds `wdt->lock`. -/
inductive IrqThread
  | idle
  /-- in `pegmatite_wdt_disable_pretimeout_irq` -/
  | disabling (enabled locked : Bool)
  /-- in `pegmatite_wdt_enable_pretimeout_irq` -/
  | enabling (enabled locked : Bool)
  deriving DecidableEq, Repr

/-- The threads, the holder of `wdt->lock`, `wdt->irq_enabled` and the kernel's disable depth. -/
structure IrqSys where
  thread : Nat → IrqThread
  lock : Option Nat
  irq_enabled : Bool
  irq_depth : Nat

/-- One step of one thread. -/
inductive IrqAct
  /-- `pegmatite_wdt_irq` on core `t`: the read of the disable helper, with no lock -/
  | handlerRead (t : Nat)
  /-- `pegmatite_wdt_stop`: it takes `wdt->lock`, then the read of the disable helper -/
  | stopRead (t : Nat)
  /-- `pegmatite_wdt_start`: it takes `wdt->lock`, then the read of the enable helper -/
  | startRead (t : Nat)
  /-- the action the read chose, then the release of `wdt->lock` if the thread holds it -/
  | finish (t : Nat)
  deriving DecidableEq, Repr

/-- A step; a thread not at the point where the step applies does nothing, and `start` and `stop`
wait while another thread holds `wdt->lock`. -/
def IrqSys.next (s : IrqSys) : IrqAct → IrqSys
  | .handlerRead t =>
    if s.thread t = .idle then
      { s with thread := Function.update s.thread t (.disabling s.irq_enabled false) }
    else s
  | .stopRead t =>
    if s.thread t = .idle ∧ s.lock = none then
      { s with thread := Function.update s.thread t (.disabling s.irq_enabled true), lock := some t }
    else s
  | .startRead t =>
    if s.thread t = .idle ∧ s.lock = none then
      { s with thread := Function.update s.thread t (.enabling s.irq_enabled true), lock := some t }
    else s
  | .finish t =>
    match s.thread t with
    | .idle => s
    | .disabling enabled locked =>
      { thread := Function.update s.thread t .idle
        lock := if locked then none else s.lock
        irq_enabled := if enabled then false else s.irq_enabled
        irq_depth := if enabled then s.irq_depth + 1 else s.irq_depth }
    | .enabling enabled locked =>
      { thread := Function.update s.thread t .idle
        lock := if locked then none else s.lock
        irq_enabled := if enabled then s.irq_enabled else true
        irq_depth := if enabled then s.irq_depth else s.irq_depth - 1 }

/-- The steps in order. -/
def IrqSys.run (s : IrqSys) (acts : List IrqAct) : IrqSys := acts.foldl IrqSys.next s

end Pegmatite

end LinuxSampleDriver
