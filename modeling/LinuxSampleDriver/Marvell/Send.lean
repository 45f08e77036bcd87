import LinuxSampleDriver.Marvell.Message

/-!
# The sending side of the Marvell IPC driver

`ipc_platform_probe` initialises a device's `tx_ready_sem` to 1 and its `tx_done_sem` to 0.
`ipc_send` takes `tx_ready_sem`, writes its command, and sleeps in `down(&device->tx_done_sem)`. It
then reads `device->ack_type` and gives `tx_ready_sem` back. The acknowledge branch of
`irq_handler` runs when the partner's answer sets the acknowledge bits of `IPC_IIR`. It stores
their value in `device->ack_type`, runs `up(&device->tx_done_sem)`, and only then clears the
bits by writing `IIR_ACK_MASK` to `IPC_ICR`.

Every semaphore operation and every register access is one step here, and the steps of the
senders, of the handler and of the partner interleave. The partner answers each command once, in
the order they were written. Over every run the device keeps `TxInv`:

* at most one caller is between its two operations on `tx_ready_sem` (`txSys_mutex`);
* the calls return in the order their commands were written, each with the answer to its own
  command (`txSys_sent_answers`).

The handler's clear comes after its `up`. In that window the woken sender can return, and the
next one can write its command; an answer the partner gives to it inside the window is erased by
the clear. Outside that window no answer is lost: in a run where the partner never answers
between the handler's `up` and its clear, a sender whose command is answered always has its
acknowledge signalled or pending (`txSys_answered_takeDone`).
-/

namespace LinuxSampleDriver

namespace Marvell

/-- The word the partner's `non_isr_recv` writes to its `IPC_ISRW`, which sets the acknowledge
bits of this side's `IPC_IIR`: the message was processed, or discarded. -/
def answerWord (processed : Bool) : BitVec 32 :=
  BitVec.ofNat 32 (if processed then ackMsgProcessed else ackMsgDiscarded) <<< iirAckShift

/-- What a sender should learn from an answer. -/
def answerResult (processed : Bool) : IpcErrorType :=
  if processed then .success else .noListener

/-- Where a thread is in `ipc_send`. -/
inductive SendThread
  | idle
  /-- in `down(&device->tx_ready_sem)`, with the words it will write -/
  | readyWait (words : BitVec 32 × BitVec 32 × BitVec 32)
  /-- wrote its command; in `down(&device->tx_done_sem)` -/
  | doneWait
  /-- past `down(&device->tx_done_sem)` -/
  | acked
  /-- the call returned this result -/
  | returned (result : IpcErrorType)
  deriving DecidableEq, Repr

/-- Whether the thread is between `down(&device->tx_ready_sem)` and its `up`. -/
def SendThread.holdsReady : SendThread → Bool
  | .doneWait | .acked => true
  | _ => false

/-- One device as `ipc_send` and the acknowledge branch of `irq_handler` see it, with its
partner. `iir` is `IPC_IIR`. `writes` are the commands written, each with its thread. `answers`
are the partner's answers to them, in order. `sent` lists the results returned by the calls that
wrote a command, each with its thread. -/
structure TxSys where
  thread : Nat → SendThread
  tx_ready_sem : Nat
  tx_done_sem : Nat
  ack_type : BitVec 8
  iir : BitVec 32
  /-- `irq_handler` has run `up(&device->tx_done_sem)` and not yet written `IPC_ICR` -/
  clearing : Bool
  writes : List (Nat × BitVec 32 × BitVec 32 × BitVec 32)
  answers : List Bool
  sent : List (Nat × IpcErrorType)

/-- A device as `ipc_platform_probe` leaves it. `krealloc` leaves `ack_type` as it was. -/
def TxSys.init (ack_type : BitVec 8) : TxSys :=
  ⟨fun _ => .idle, 1, 0, ack_type, 0#32, false, [], [], []⟩

/-- A step of a sender, of the interrupt handler or of the partner. -/
inductive TxAct
  /-- `ipc_send` is called; `port_valid` is `port_is_valid` on its handle -/
  | call (t : Nat) (port_valid : Bool) (port_number command : BitVec 8) (buffer : BitVec 32)
      (length : BitVec 16)
  /-- `down(&device->tx_ready_sem)` returns, and the three words are written -/
  | takeReady (t : Nat)
  /-- `down(&device->tx_done_sem)` returns -/
  | takeDone (t : Nat)
  /-- the result is read from `device->ack_type`, and `up(&device->tx_ready_sem)` -/
  | finish (t : Nat)
  /-- `irq_handler` on an acknowledge in `IPC_IIR`, up to `up(&device->tx_done_sem)` -/
  | irqAck
  /-- the end of the acknowledge branch: `IIR_ACK_MASK` written to `IPC_ICR` -/
  | irqClear
  /-- the partner answers the oldest command it has not answered -/
  | partnerAck (processed : Bool)

/-- A step; one whose thread is not at that point, or whose semaphore is zero, does nothing. -/
def TxSys.next (s : TxSys) : TxAct → TxSys
  | .call t port_valid port_number command buffer length =>
    match s.thread t with
    | .idle | .returned _ =>
      { s with
        thread := Function.update s.thread t
          (if port_valid then .readyWait (ipcSendWords port_number command buffer length)
           else .returned .error) }
    | _ => s
  | .takeReady t =>
    match s.thread t, s.tx_ready_sem with
    | .readyWait words, n + 1 =>
      { s with thread := Function.update s.thread t .doneWait, tx_ready_sem := n,
               writes := s.writes ++ [(t, words)] }
    | _, _ => s
  | .takeDone t =>
    match s.thread t, s.tx_done_sem with
    | .doneWait, n + 1 => { s with thread := Function.update s.thread t .acked, tx_done_sem := n }
    | _, _ => s
  | .finish t =>
    match s.thread t with
    | .acked =>
      { s with thread := Function.update s.thread t (.returned (ipcSendResult s.ack_type)),
               tx_ready_sem := s.tx_ready_sem + 1,
               sent := s.sent ++ [(t, ipcSendResult s.ack_type)] }
    | _ => s
  | .irqAck =>
    if s.clearing = false ∧ s.iir &&& iirAckMask ≠ 0#32 then
      { s with ack_type := irqHandlerAckType s.iir, tx_done_sem := s.tx_done_sem + 1,
               clearing := true }
    else s
  | .irqClear =>
    if s.clearing then { s with iir := s.iir &&& ~~~iirAckMask, clearing := false } else s
  | .partnerAck processed =>
    if s.answers.length < s.writes.length then
      { s with iir := s.iir ||| answerWord processed, answers := s.answers ++ [processed] }
    else s

/-- The steps in order. -/
def TxSys.run (s : TxSys) (acts : List TxAct) : TxSys := acts.foldl TxSys.next s

/-- Each command's thread with the result its answer calls for. -/
def answerLog (writes : List (Nat × BitVec 32 × BitVec 32 × BitVec 32)) (answers : List Bool) :
    List (Nat × IpcErrorType) :=
  List.zipWith (fun w p => (w.1, answerResult p)) writes answers

theorem answerLog_take_append_writes {writes : List (Nat × BitVec 32 × BitVec 32 × BitVec 32)}
    {answers : List Bool} {sent : List (Nat × IpcErrorType)} (h : sent.length ≤ writes.length)
    (hs : sent = (answerLog writes answers).take sent.length)
    (w : Nat × BitVec 32 × BitVec 32 × BitVec 32) :
    sent = (answerLog (writes ++ [w]) answers).take sent.length := by
  rw [answerLog, List.take_zipWith, List.take_append_of_le_length h, ← List.take_zipWith]
  exact hs

theorem answerLog_take_append_answers {writes : List (Nat × BitVec 32 × BitVec 32 × BitVec 32)}
    {answers : List Bool} {sent : List (Nat × IpcErrorType)} (h : sent.length ≤ answers.length)
    (hs : sent = (answerLog writes answers).take sent.length) (p : Bool) :
    sent = (answerLog writes (answers ++ [p])).take sent.length := by
  rw [answerLog, List.take_zipWith, List.take_append_of_le_length h, ← List.take_zipWith]
  exact hs

/-! ## The registers -/

theorem ipcSendResult_answerWord (processed : Bool) :
    ipcSendResult (irqHandlerAckType (answerWord processed)) = answerResult processed := by
  cases processed <;> decide

theorem answerWord_and_iirAckMask (processed : Bool) :
    answerWord processed &&& iirAckMask = answerWord processed := by
  cases processed <;> decide

theorem answerWord_ne_zero (processed : Bool) : answerWord processed ≠ 0#32 := by
  cases processed <;> decide

theorem irqHandlerAckType_and_iirAckMask (iir : BitVec 32) :
    irqHandlerAckType (iir &&& iirAckMask) = irqHandlerAckType iir := by
  rw [irqHandlerAckType, BitVec.and_assoc, BitVec.and_self, irqHandlerAckType]

/-- The clear leaves no acknowledge bit. -/
theorem and_not_iirAckMask_and (iir : BitVec 32) : iir &&& ~~~iirAckMask &&& iirAckMask = 0#32 := by
  ext i
  simp only [BitVec.getLsbD_and, BitVec.getLsbD_not, BitVec.getLsbD_zero]
  cases iirAckMask.getLsbD i <;> simp

/-- An answer on clear acknowledge bits leaves exactly its own. -/
theorem or_answerWord_and_iirAckMask {iir : BitVec 32} (h : iir &&& iirAckMask = 0#32)
    (processed : Bool) : (iir ||| answerWord processed) &&& iirAckMask = answerWord processed := by
  conv_rhs => rw [← answerWord_and_iirAckMask processed, ← BitVec.zero_or (x := _ &&& _), ← h]
  ext i
  simp only [BitVec.getLsbD_and, BitVec.getLsbD_or, Bool.and_or_distrib_right]

/-! ## What the steps change -/

section Frame

variable (s : TxSys)

@[simp] theorem TxSys.run_nil : s.run [] = s := rfl

theorem TxSys.run_cons (a : TxAct) (acts : List TxAct) : s.run (a :: acts) = (s.next a).run acts :=
  rfl

theorem TxSys.run_append (acts acts' : List TxAct) :
    s.run (acts ++ acts') = (s.run acts).run acts' :=
  List.foldl_append _ _ _ _

end Frame

/-! ## What every run keeps -/

/-- The answer to the oldest command whose call has not returned has been taken into
`device->ack_type`. -/
def AckTaken (s : TxSys) : Prop :=
  ∃ p, s.answers[s.sent.length]? = some p ∧ s.ack_type = irqHandlerAckType (answerWord p)

/-- The answer to the oldest command whose call has not returned is the acknowledge in
`IPC_IIR`. -/
def AckPending (s : TxSys) : Prop :=
  ∃ p, s.answers[s.sent.length]? = some p ∧ s.iir &&& iirAckMask = answerWord p

/-- The device's state with `holder` the thread holding `tx_ready_sem`, if any. -/
structure TxInv (s : TxSys) (holder : Option Nat) : Prop where
  holds_iff : ∀ t, (s.thread t).holdsReady = true ↔ holder = some t
  ready_sem : s.tx_ready_sem = if holder = none then 1 else 0
  writes_length : s.writes.length = s.sent.length + if holder = none then 0 else 1
  writer : ∀ t, holder = some t → (s.writes[s.sent.length]?).map Prod.fst = some t
  sent_le : s.sent.length ≤ s.answers.length
  answers_le : s.answers.length ≤ s.writes.length
  sent_eq : s.sent = (answerLog s.writes s.answers).take s.sent.length
  done_sem : s.tx_done_sem = 0 ∨
    s.tx_done_sem = 1 ∧ (∃ t, holder = some t ∧ s.thread t = .doneWait) ∧ AckTaken s
  acked : ∀ t, s.thread t = .acked → s.tx_done_sem = 0 ∧ AckTaken s
  iir : s.clearing = false → s.iir &&& iirAckMask = 0#32 ∨
    (∃ t, holder = some t ∧ s.thread t = .doneWait) ∧ s.tx_done_sem = 0 ∧ AckPending s

theorem TxInv.init (ack_type : BitVec 8) : TxInv (TxSys.init ack_type) none where
  holds_iff _ := by simp [TxSys.init, SendThread.holdsReady]
  ready_sem := rfl
  writes_length := rfl
  writer _ h := nomatch h
  sent_le := le_rfl
  answers_le := le_rfl
  sent_eq := rfl
  done_sem := .inl rfl
  acked _ h := nomatch h
  iir _ := .inl (BitVec.zero_and)

section Step

variable {s : TxSys} {holder : Option Nat}

theorem TxInv.holder_of_holds (hinv : TxInv s holder) {t : Nat}
    (h : (s.thread t).holdsReady = true) : holder = some t :=
  (hinv.holds_iff t).1 h

/-- Two threads holding `tx_ready_sem` are the same thread. -/
theorem TxInv.eq_of_holds (hinv : TxInv s holder) {t t' : Nat} (h : (s.thread t).holdsReady = true)
    (h' : (s.thread t').holdsReady = true) : t = t' :=
  Option.some.inj ((hinv.holder_of_holds h).symm.trans (hinv.holder_of_holds h'))

/-- Once the holder moves on from a point past `down(&device->tx_ready_sem)`, no thread is
there. -/
theorem TxInv.update_holder_ne (hinv : TxInv s holder) {t' : Nat}
    (hh : (s.thread t').holdsReady = true) {x y : SendThread} (hy : y.holdsReady = true)
    (hx : x ≠ y) (t : Nat) : Function.update s.thread t' x t ≠ y := by
  by_cases e : t = t'
  · subst e; simpa using hx
  · rw [Function.update_noteq e]; rintro rfl; exact e (hinv.eq_of_holds hy hh)

/-- Replacing one thread's state keeps `holds_iff` for the new holder when the new state holds
`tx_ready_sem` exactly when the thread is that holder, and no other thread changes holding. -/
theorem holds_update {thread : Nat → SendThread} {holder' : Option Nat} {t : Nat} {x : SendThread}
    (h : ∀ t', (thread t').holdsReady = true ↔ holder = some t')
    (hx : x.holdsReady = true ↔ holder' = some t)
    (hother : ∀ t', t' ≠ t → (holder = some t' ↔ holder' = some t')) (t' : Nat) :
    (Function.update thread t x t').holdsReady = true ↔ holder' = some t' := by
  by_cases e : t' = t
  · subst e; simpa using hx
  · rw [Function.update_noteq e, h, hother t' e]

/-- A thread that is not the holder is at neither point past `down(&device->tx_ready_sem)`. -/
theorem TxInv.ne_of_not_holds (hinv : TxInv s holder) {t t' : Nat}
    (h : (s.thread t).holdsReady = false) (ht' : holder = some t') : t' ≠ t := by
  rintro rfl
  rw [(hinv.holds_iff t').2 ht'] at h
  cases h

/-- A thread that does not hold `tx_ready_sem` calls or returns; the holder is untouched. -/
theorem TxInv.update_other (hinv : TxInv s holder) {t : Nat} {x : SendThread}
    (h : (s.thread t).holdsReady = false) (hx : x.holdsReady = false) :
    TxInv { s with thread := Function.update s.thread t x } holder := by
  have hne {t'} (ht' : holder = some t') : t' ≠ t := hinv.ne_of_not_holds h ht'
  have hacked (t' : Nat) (ha : Function.update s.thread t x t' = .acked) :
      s.thread t' = .acked := by
    by_cases e : t' = t
    · subst e; simp only [Function.update_same] at ha; subst ha; cases hx
    · rwa [Function.update_noteq e] at ha
  refine ⟨holds_update hinv.holds_iff ?_ (fun _ _ => Iff.rfl), hinv.ready_sem, hinv.writes_length,
    hinv.writer, hinv.sent_le, hinv.answers_le, hinv.sent_eq, ?_, ?_, ?_⟩
  · rw [hx]; exact ⟨nofun, fun h' => absurd rfl (hne h')⟩
  · rcases hinv.done_sem with h0 | ⟨h1, ⟨t', ht', hw⟩, hk⟩
    · exact .inl h0
    · exact .inr ⟨h1, ⟨t', ht', (Function.update_noteq (hne ht') x s.thread).trans hw⟩, hk⟩
  · exact fun t' ha => hinv.acked t' (hacked t' ha)
  · intro hc
    rcases hinv.iir hc with h0 | ⟨⟨t', ht', hw⟩, h1⟩
    · exact .inl h0
    · exact .inr ⟨⟨t', ht', (Function.update_noteq (hne ht') x s.thread).trans hw⟩, h1⟩

theorem TxInv.next_call (hinv : TxInv s holder) (t : Nat) (port_valid : Bool)
    (port_number command : BitVec 8) (buffer : BitVec 32) (length : BitVec 16) :
    TxInv (s.next (.call t port_valid port_number command buffer length)) holder := by
  simp only [TxSys.next]
  split
  · exact hinv.update_other (by simp [*, SendThread.holdsReady]) (by split <;> rfl)
  · exact hinv.update_other (by simp [*, SendThread.holdsReady]) (by split <;> rfl)
  · exact hinv

theorem TxInv.next_takeReady (hinv : TxInv s holder) (t : Nat) :
    ∃ holder', TxInv (s.next (.takeReady t)) holder' := by
  simp only [TxSys.next]
  split
  next words n hw hn =>
    have hfree : holder = none := by
      by_contra h; have := hinv.ready_sem; simp only [h, if_false] at this; omega
    have hn0 : n = 0 := by have := hinv.ready_sem; simp only [hfree, if_true] at this; omega
    have hlen : s.writes.length = s.sent.length := by simpa [hfree] using hinv.writes_length
    have hnone {t'} (h : (s.thread t').holdsReady = true) : False := by
      simpa [hfree] using hinv.holder_of_holds h
    refine ⟨some t, holds_update hinv.holds_iff (by simp [SendThread.holdsReady])
      (fun t' e => by simp [hfree, Ne.symm e]), hn0, by simp [hlen], ?_, hinv.sent_le,
      ?_, answerLog_take_append_writes hlen.ge hinv.sent_eq _, ?_, ?_, ?_⟩
    · rintro t' ⟨⟩; simp [hlen]
    · simp only [List.length_append]; exact Nat.le_succ_of_le hinv.answers_le
    · rcases hinv.done_sem with h0 | ⟨-, ⟨_, h, -⟩, -⟩
      · exact .inl h0
      · simp [hfree] at h
    · intro t' ha
      by_cases e : t' = t
      · subst e; simp at ha
      · simp only [Function.update_noteq e] at ha
        exact (hnone (by rw [ha]; rfl)).elim
    · intro hc
      rcases hinv.iir hc with h0 | ⟨⟨_, h, -⟩, -⟩
      · exact .inl h0
      · simp [hfree] at h
  next => exact ⟨holder, hinv⟩

theorem TxInv.next_takeDone (hinv : TxInv s holder) (t : Nat) :
    TxInv (s.next (.takeDone t)) holder := by
  simp only [TxSys.next]
  split
  next n hw hn =>
    have ht := hinv.holder_of_holds (t := t) (by rw [hw]; rfl)
    obtain ⟨hn1, -, hk⟩ := hinv.done_sem.resolve_left (by omega)
    have hn0 : n = 0 := by omega
    refine ⟨holds_update hinv.holds_iff (by simp [SendThread.holdsReady, ht])
      (fun _ _ => Iff.rfl), hinv.ready_sem, hinv.writes_length, hinv.writer, hinv.sent_le,
      hinv.answers_le, hinv.sent_eq, .inl hn0, fun _ _ => ⟨hn0, hk⟩, fun hc => .inl ?_⟩
    rcases hinv.iir hc with h0 | ⟨-, h0, -⟩
    · exact h0
    · omega
  next => exact hinv

theorem TxInv.next_finish (hinv : TxInv s holder) (t : Nat) :
    ∃ holder', TxInv (s.next (.finish t)) holder' := by
  simp only [TxSys.next]
  split
  next hw =>
    have ht := hinv.holder_of_holds (t := t) (by rw [hw]; rfl)
    obtain ⟨hdone, p, hp, hack⟩ := hinv.acked t hw
    obtain ⟨w, hw', hwt⟩ := Option.map_eq_some'.1 (hinv.writer t ht)
    have hlen := hinv.writes_length
    simp only [ht, reduceCtorEq, if_false] at hlen
    have hready := hinv.ready_sem
    simp only [ht, reduceCtorEq, if_false] at hready
    refine ⟨none, holds_update hinv.holds_iff (by simp [SendThread.holdsReady])
      (fun t' e => by simp [ht, Ne.symm e]), by simp [hready], by simp [hlen], nofun,
      by simpa using (List.getElem?_eq_some_iff.1 hp).1, hinv.answers_le, ?_, .inl hdone,
      fun t' ha => absurd ha
        (hinv.update_holder_ne (y := .acked) (by rw [hw]; rfl) rfl (by nofun) t'), ?_⟩
    · simp only [List.length_append, List.length_singleton, List.take_succ]
      rw [← hinv.sent_eq, answerLog, List.getElem?_zipWith, hw', hp, hack,
        ipcSendResult_answerWord]
      subst hwt
      rfl
    · intro hc
      rcases hinv.iir hc with h0 | ⟨⟨_, h, h'⟩, -⟩
      · exact .inl h0
      · cases ht.symm.trans h; rw [hw] at h'; cases h'
  next => exact ⟨holder, hinv⟩

theorem TxInv.next_irqAck (hinv : TxInv s holder) : TxInv (s.next .irqAck) holder := by
  simp only [TxSys.next]
  split
  next h =>
    obtain ⟨⟨t, ht, hw⟩, h0, p, hp, hiir⟩ := (hinv.iir h.1).resolve_left h.2
    refine ⟨hinv.holds_iff, hinv.ready_sem, hinv.writes_length, hinv.writer, hinv.sent_le,
      hinv.answers_le, hinv.sent_eq, .inr ⟨by simp [h0], ⟨t, ht, hw⟩, p, hp, ?_⟩, ?_,
      nofun⟩
    · rw [← irqHandlerAckType_and_iirAckMask, hiir]
    · intro t' ha
      cases hinv.eq_of_holds (t := t') (by rw [ha]; rfl) (by rw [hw]; rfl)
      rw [hw] at ha; cases ha
  next => exact hinv

theorem TxInv.next_irqClear (hinv : TxInv s holder) : TxInv (s.next .irqClear) holder := by
  simp only [TxSys.next]
  split
  next => exact ⟨hinv.holds_iff, hinv.ready_sem, hinv.writes_length, hinv.writer, hinv.sent_le,
    hinv.answers_le, hinv.sent_eq, hinv.done_sem, hinv.acked,
    fun _ => .inl (and_not_iirAckMask_and _)⟩
  next => exact hinv

theorem AckTaken.lt {s : TxSys} (h : AckTaken s) : s.sent.length < s.answers.length :=
  let ⟨_, hp, _⟩ := h; (List.getElem?_eq_some_iff.1 hp).1

theorem AckPending.lt {s : TxSys} (h : AckPending s) : s.sent.length < s.answers.length :=
  let ⟨_, hp, _⟩ := h; (List.getElem?_eq_some_iff.1 hp).1

theorem TxInv.next_partnerAck (hinv : TxInv s holder) (processed : Bool) :
    TxInv (s.next (.partnerAck processed)) holder := by
  simp only [TxSys.next]
  split
  next hlt =>
    have hlen := hinv.writes_length
    have hle := hinv.sent_le
    have hm : s.answers.length = s.sent.length := by split at hlen <;> omega
    have hk (h : AckTaken s) : False := by have := h.lt; omega
    refine ⟨hinv.holds_iff, hinv.ready_sem, hinv.writes_length, hinv.writer,
      by simp only [List.length_append, List.length_singleton]; omega,
      by simp only [List.length_append, List.length_singleton]; omega,
      answerLog_take_append_answers hle hinv.sent_eq processed,
      .inl (hinv.done_sem.resolve_right fun h => hk h.2.2),
      fun t ha => (hk (hinv.acked t ha).2).elim,
      fun hc => .inr ?_⟩
    obtain h0 | ⟨-, -, hpend⟩ := hinv.iir hc
    · obtain ⟨t, ht⟩ : ∃ t, holder = some t := by
        cases holder with
        | none => simp at hlen; omega
        | some t => exact ⟨t, rfl⟩
      have hholds := (hinv.holds_iff t).2 ht
      refine ⟨⟨t, ht, ?_⟩, ?_, processed, by simp [hm],
        or_answerWord_and_iirAckMask h0 processed⟩
      · cases hw : s.thread t
        all_goals simp only [hw, SendThread.holdsReady, Bool.false_eq_true] at hholds
        · rfl
        · exact (hk (hinv.acked t hw).2).elim
      · exact hinv.done_sem.resolve_right fun h => hk h.2.2
    · have := hpend.lt; omega
  next => exact hinv

/-- Every step keeps the invariant, for the holder after the step. -/
theorem TxInv.next (hinv : TxInv s holder) (a : TxAct) : ∃ holder', TxInv (s.next a) holder' := by
  cases a with
  | call t port_valid port_number command buffer length =>
    exact ⟨holder, hinv.next_call t port_valid port_number command buffer length⟩
  | takeReady t => exact hinv.next_takeReady t
  | takeDone t => exact ⟨holder, hinv.next_takeDone t⟩
  | finish t => exact hinv.next_finish t
  | irqAck => exact ⟨holder, hinv.next_irqAck⟩
  | irqClear => exact ⟨holder, hinv.next_irqClear⟩
  | partnerAck processed => exact ⟨holder, hinv.next_partnerAck processed⟩

theorem TxInv.run (hinv : TxInv s holder) (acts : List TxAct) :
    ∃ holder', TxInv (s.run acts) holder' := by
  induction acts generalizing s holder with
  | nil => exact ⟨holder, hinv⟩
  | cons a acts ih =>
    obtain ⟨holder', h'⟩ := hinv.next a
    exact ih h'

end Step

/-! ## Every run of a device -/

/-- At most one caller is between `down(&device->tx_ready_sem)` and its `up`, and the semaphore is
zero exactly while one is. -/
theorem txSys_mutex (ack_type : BitVec 8) (acts : List TxAct) :
    ∃ holder : Option Nat,
      (∀ t, (((TxSys.init ack_type).run acts).thread t).holdsReady = true ↔ holder = some t) ∧
        ((TxSys.init ack_type).run acts).tx_ready_sem = if holder = none then 1 else 0 :=
  let ⟨holder, h⟩ := (TxInv.init ack_type).run acts
  ⟨holder, h.holds_iff, h.ready_sem⟩

/-- The calls that wrote a command return in the order their commands were written, each with
its own command's answer: success if the partner processed it, no listener if it discarded it. -/
theorem txSys_sent_answers (ack_type : BitVec 8) (acts : List TxAct) :
    ((TxSys.init ack_type).run acts).sent <+:
      answerLog ((TxSys.init ack_type).run acts).writes ((TxSys.init ack_type).run acts).answers :=
  let ⟨_, h⟩ := (TxInv.init ack_type).run acts
  ⟨_, (congrArg (· ++ _) h.sent_eq).trans (List.take_append_drop _ _)⟩

/-! ## Answers outside the window -/

/-- The partner never answers while the handler is between its `up` and its clear. -/
def TxSys.NoAnswerInWindow : TxSys → List TxAct → Prop
  | _, [] => True
  | s, a :: acts =>
    (∀ processed, a = .partnerAck processed → s.clearing = false) ∧
      (s.next a).NoAnswerInWindow acts

/-- Every sender whose command is answered has its acknowledge on `tx_done_sem`, or in `IPC_IIR`
with the handler free to take it. -/
def AckReachable (s : TxSys) : Prop :=
  ∀ t, s.thread t = .doneWait → s.answers.length = s.writes.length →
    0 < s.tx_done_sem ∨ s.clearing = false ∧ s.iir &&& iirAckMask ≠ 0#32

theorem AckReachable.next {s : TxSys} {holder : Option Nat} (hinv : TxInv s holder)
    (h : AckReachable s) {a : TxAct}
    (hwin : ∀ processed, a = .partnerAck processed → s.clearing = false) :
    AckReachable (s.next a) := by
  have hle := hinv.answers_le
  cases a with
  | call t' port_valid port_number command buffer length =>
    simp only [TxSys.next]
    split
    all_goals try exact h
    all_goals
      intro t ht
      by_cases e : t = t'
      · subst e; simp only [Function.update_same] at ht; split at ht <;> cases ht
      · simp only [Function.update_noteq e] at ht; exact h t ht
  | takeReady t' =>
    simp only [TxSys.next]
    split
    · intro _ _ hm; simp only [List.length_append, List.length_singleton] at hm; omega
    · exact h
  | takeDone t' =>
    simp only [TxSys.next]
    split
    next hw _ =>
      exact fun t ht => absurd ht
        (hinv.update_holder_ne (y := .doneWait) (by rw [hw]; rfl) rfl (by nofun) t)
    · exact h
  | finish t' =>
    simp only [TxSys.next]
    split
    next hw =>
      exact fun t ht => absurd ht
        (hinv.update_holder_ne (y := .doneWait) (by rw [hw]; rfl) rfl (by nofun) t)
    · exact h
  | irqAck =>
    simp only [TxSys.next]
    split
    · exact fun _ _ _ => .inl (Nat.succ_pos _)
    · exact h
  | irqClear =>
    simp only [TxSys.next]
    split
    next hc =>
      intro t ht hm
      exact .inl ((h t ht hm).resolve_right fun h' => by simp [h'.1] at hc)
    · exact h
  | partnerAck processed =>
    simp only [TxSys.next]
    split
    next hlt =>
      have hc := hwin processed rfl
      have h0 : s.iir &&& iirAckMask = 0#32 := by
        refine (hinv.iir hc).resolve_right fun ⟨_, _, hpend⟩ => ?_
        have := hpend.lt; have := hinv.sent_le; have := hinv.writes_length
        split at this <;> omega
      exact fun _ _ _ =>
        .inr ⟨hc, by rw [or_answerWord_and_iirAckMask h0]; exact answerWord_ne_zero _⟩
    · exact h

theorem AckReachable.run {s : TxSys} {holder : Option Nat} (hinv : TxInv s holder)
    (h : AckReachable s) {acts : List TxAct} (hwin : s.NoAnswerInWindow acts) :
    AckReachable (s.run acts) := by
  induction acts generalizing s holder with
  | nil => exact h
  | cons a acts ih =>
    obtain ⟨holder', hinv'⟩ := hinv.next a
    exact ih hinv' (h.next hinv hwin.1) hwin.2

/-- The handler's next run and the sender's next step take an answered sender past
`down(&device->tx_done_sem)`. -/
theorem AckReachable.takeDone {s : TxSys} (h : AckReachable s) {t : Nat}
    (hw : s.thread t = .doneWait) (hm : s.answers.length = s.writes.length) :
    (s.run [.irqAck, .takeDone t]).thread t = .acked := by
  have hsome : 0 < (s.next .irqAck).tx_done_sem ∧ (s.next .irqAck).thread t = .doneWait := by
    simp only [TxSys.next]
    split
    · exact ⟨Nat.succ_pos _, hw⟩
    next hn => exact ⟨(h t hw hm).resolve_right hn, hw⟩
  obtain ⟨hpos, hw'⟩ := hsome
  rw [TxSys.run_cons, TxSys.run_cons, TxSys.run_nil]
  generalize s.next .irqAck = s' at hpos hw'
  obtain ⟨n, hn⟩ := Nat.exists_eq_succ_of_ne_zero hpos.ne'
  simp [TxSys.next, hw', hn]

/-- In every run in which the partner never answers between the handler's `up` and its clear, a
sender whose command is answered is never stranded: the handler's next run and its own next step
take it past `down(&device->tx_done_sem)`. -/
theorem txSys_answered_takeDone (ack_type : BitVec 8) {acts : List TxAct}
    (hwin : (TxSys.init ack_type).NoAnswerInWindow acts) {t : Nat}
    (hw : ((TxSys.init ack_type).run acts).thread t = .doneWait)
    (hm : ((TxSys.init ack_type).run acts).answers.length =
      ((TxSys.init ack_type).run acts).writes.length) :
    (((TxSys.init ack_type).run acts).run [.irqAck, .takeDone t]).thread t = .acked :=
  (AckReachable.run (TxInv.init ack_type) (fun _ h => nomatch h) hwin).takeDone hw hm

/-- One call whose command is written and processed: the handler's next run and the caller's
`down` take it past the semaphore. -/
theorem txSys_answered_takeDone_call :
    (((TxSys.init 0).run [.call 0 true 1 2 3 4, .takeReady 0, .partnerAck true]).run
      [.irqAck, .takeDone 0]).thread 0 = .acked :=
  @txSys_answered_takeDone 0 [.call 0 true 1 2 3 4, .takeReady 0, .partnerAck true]
    ⟨fun _ h => TxAct.noConfusion h, fun _ h => TxAct.noConfusion h, fun _ _ => rfl, trivial⟩ 0
    (by decide) (by decide)

end Marvell

end LinuxSampleDriver
