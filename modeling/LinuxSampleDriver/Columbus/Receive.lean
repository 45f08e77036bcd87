import LinuxSampleDriver.Columbus.Channel

/-!
# Receiving on one channel

A partner DSP sends to the A7 on channel `k` one message after another: it puts the message in a
shared page and the `xxTOA7IPC*` header registers, sets bit `k` of `xxTOA7IPCSTS`, waits until the
A7 clears the bit by writing bit `k` of `xxTOA7IPCACK`, and then releases the page and reuses the
registers for its next message.

`columbus_ipc_receive_message` writes the ack first, then waits for the bit: in poll mode it reads
`xxTOA7IPCSTS` until the bit is set; in interrupt mode it enables the channel's interrupt and
sleeps until `columbus_ipc_irq_handler` completes `irq_done`, and the handler writes the ack itself
right after. Only then does the call read the header and copy the payload.

So the ack of a message is normally written by the next receive call, after the message was read.
Two orders break this: a partner that signals before the first receive call's ack has its message
cleared unread, and in interrupt mode the handler's ack lets the partner overwrite the registers
before the woken thread reads them. Either way the next message is returned in place of the one
the partner saw acknowledged (`receive_skips_message`). In poll mode, once the first call has
written its ack before the partner's first signal, every interleaving returns the messages in
order, one to one (`receive_poll_inOrder`).

Messages are named by their position in the partner's sequence; the header and the page are
written by one partner step, and read by one step of the receive call.
-/

namespace LinuxSampleDriver

namespace Columbus

/-- Where the partner's sender on channel `k` is with its current message. -/
inductive PartnerPc
  /-- about to put the message in a page and the header registers -/
  | write
  /-- written; about to set bit `k` through `xxTOA7IPCSET` -/
  | signal
  /-- bit `k` set; waiting until the A7 clears it -/
  | wait
  deriving DecidableEq, Repr

/-- Where the A7 thread holding channel `k` is. -/
inductive ReceivePc
  /-- not inside `columbus_ipc_receive_message` -/
  | idle
  /-- acked; reading `xxTOA7IPCSTS` until bit `k` is set (poll mode) -/
  | polling
  /-- acked; interrupt enabled, sleeping on `irq_done` (interrupt mode) -/
  | waiting
  /-- the bit was seen set, or `irq_done` completed; about to read the header and copy -/
  | reading
  deriving DecidableEq, Repr

/-- Channel `k` of one partner, in the direction partner to A7. -/
structure RecvSys where
  /-- bit `k` of `xxTOA7IPCSTS` -/
  sts : Bool
  /-- the message the header registers and its page hold -/
  mailbox : Option Nat
  /-- the partner's current message; those before it were acknowledged -/
  index : Nat
  partner : PartnerPc
  thread : ReceivePc
  /-- `columbus_ipc_irq_handler` has completed `irq_done` and not yet written the ack -/
  isr_ack : Bool
  /-- what the receive calls returned: a message, or `none` for `-ENOMEM` -/
  received : List (Option Nat)
  deriving DecidableEq, Repr

/-- One step of the partner, of the receive call, or of the interrupt handler. -/
inductive RecvAct
  | partnerWrite
  | partnerSignal
  /-- the partner sees bit `k` clear, releases the page and moves to its next message -/
  | partnerSeeAck
  /-- the ack that starts `columbus_ipc_receive_message` -/
  | receiveAck
  /-- one read of `xxTOA7IPCSTS` in the poll loop -/
  | receivePoll
  /-- `complete (irq_done)` in the handler -/
  | isrComplete
  /-- the handler's write of the ack -/
  | isrAck
  /-- the header read, `kmalloc` and the copy; `kmalloc_ok` is whether `kmalloc` returned memory -/
  | receiveRead (kmalloc_ok : Bool)
  deriving DecidableEq, Repr

/-- A step on a channel of wait mode `mode`; a step whose party is elsewhere does nothing. -/
def RecvSys.next (mode : Int) (s : RecvSys) : RecvAct → RecvSys
  | .partnerWrite =>
    if s.partner = .write then { s with mailbox := some s.index, partner := .signal } else s
  | .partnerSignal =>
    if s.partner = .signal then { s with sts := true, partner := .wait } else s
  | .partnerSeeAck =>
    if s.partner = .wait ∧ s.sts = false then { s with index := s.index + 1, partner := .write }
    else s
  | .receiveAck =>
    if s.thread = .idle then
      { s with sts := false, thread := if mode = ipcCommunicationInt then .waiting else .polling }
    else s
  | .receivePoll =>
    if s.thread = .polling ∧ s.sts = true then { s with thread := .reading } else s
  | .isrComplete =>
    if s.thread = .waiting ∧ s.sts = true ∧ s.isr_ack = false then
      { s with thread := .reading, isr_ack := true }
    else s
  | .isrAck =>
    if s.isr_ack = true then { s with sts := false, isr_ack := false } else s
  | .receiveRead kmalloc_ok =>
    if s.thread = .reading then
      { s with thread := .idle, received := s.received ++ [if kmalloc_ok then s.mailbox else none] }
    else s

/-- The steps in order. -/
def RecvSys.run (mode : Int) (s : RecvSys) (acts : List RecvAct) : RecvSys :=
  acts.foldl (RecvSys.next mode) s

/-- Nothing sent, nothing received, no receive call begun. -/
def RecvSys.init : RecvSys := ⟨false, none, 0, .write, .idle, false, []⟩

/-- The `j`-th value returned is the `j`-th message or `-ENOMEM`. -/
def InOrder (received : List (Option Nat)) : Prop :=
  ∀ j, j < received.length → received[j]? = some (some j) ∨ received[j]? = some none

theorem InOrder.nil : InOrder [] := fun _ h => absurd h (Nat.not_lt_zero _)

theorem InOrder.append {received : List (Option Nat)} (h : InOrder received) {x : Option Nat}
    (hx : x = some received.length ∨ x = none) : InOrder (received ++ [x]) := by
  intro j hj
  rw [List.length_append, List.length_singleton] at hj
  rcases Nat.lt_or_ge j received.length with hlt | hge
  · rw [List.getElem?_append_left hlt]
    exact h j hlt
  · obtain rfl : j = received.length := by omega
    rw [List.getElem?_append_right (Nat.le_refl _), Nat.sub_self]
    rcases hx with rfl | rfl
    · exact .inl rfl
    · exact .inr rfl

/-! ## Poll mode -/

/-- The joint places of the partner and of the receiving thread in poll mode, with what the
registers hold at each. `received.length` runs one ahead of `index` between the read of a message
and the partner seeing its ack. -/
def PollPhase (s : RecvSys) : Prop :=
  (s.thread = .polling ∧ s.received.length = s.index ∧
      (s.partner = .write ∧ s.sts = false ∨
        s.partner = .signal ∧ s.sts = false ∧ s.mailbox = some s.index ∨
        s.partner = .wait ∧ s.sts = true ∧ s.mailbox = some s.index)) ∨
    (s.thread = .polling ∧ s.received.length = s.index + 1 ∧ s.partner = .wait ∧ s.sts = false) ∨
    (s.thread = .reading ∧ s.received.length = s.index ∧ s.partner = .wait ∧ s.sts = true ∧
      s.mailbox = some s.index) ∨
    (s.thread = .idle ∧ s.received.length = s.index + 1 ∧ s.partner = .wait ∧ s.sts = true)

/-- What every poll-mode run from the first ack keeps. -/
structure PollInv (s : RecvSys) : Prop where
  isr_ack : s.isr_ack = false
  inOrder : InOrder s.received
  phase : PollPhase s

theorem PollInv.next {s : RecvSys} (h : PollInv s) (a : RecvAct) :
    PollInv (s.next ipcCommunicationPoll a) := by
  obtain ⟨hisr, hord, hph⟩ := h
  cases a with
  | receiveRead kmalloc_ok =>
    by_cases hr : s.thread = .reading
    · have hrd : s.received.length = s.index ∧ s.partner = .wait ∧ s.sts = true ∧
          s.mailbox = some s.index := by
        rcases hph with ⟨ht, -⟩ | ⟨ht, -⟩ | ⟨-, h⟩ | ⟨ht, -⟩
        · simp [hr] at ht
        · simp [hr] at ht
        · exact h
        · simp [hr] at ht
      obtain ⟨hlen, hp, hs, hm⟩ := hrd
      simp only [RecvSys.next, if_pos hr]
      refine ⟨hisr, hord.append ?_, Or.inr <| Or.inr <| Or.inr ⟨rfl, by simp [hlen], hp, hs⟩⟩
      cases kmalloc_ok
      · exact .inr rfl
      · exact .inl (by simp [hm, hlen])
    · simp only [RecvSys.next, if_neg hr]
      exact ⟨hisr, hord, hph⟩
  | _ =>
    simp only [RecvSys.next]
    split_ifs with hg
    all_goals first
      | exact ⟨hisr, hord, hph⟩
      | rcases hph with ⟨h1, h2, h3 | h3 | h3⟩ | h | h | h <;> refine ⟨?_, hord, ?_⟩ <;>
          simp_all [PollPhase, ipcCommunicationInt, ipcCommunicationPoll]

theorem PollInv.run {s : RecvSys} (h : PollInv s) (acts : List RecvAct) :
    PollInv (s.run ipcCommunicationPoll acts) := by
  induction acts generalizing s with
  | nil => exact h
  | cons a acts ih => exact ih (h.next a)

theorem PollPhase.length {s : RecvSys} (h : PollPhase s) :
    s.index ≤ s.received.length ∧ s.received.length ≤ s.index + 1 := by
  rcases h with ⟨-, h, -⟩ | ⟨-, h, -⟩ | ⟨-, h, -⟩ | ⟨-, h, -⟩ <;> omega

/-- The first receive call of a poll-mode channel has written its ack, and the partner has not
signalled yet. -/
def RecvSys.afterFirstAck : RecvSys := RecvSys.init.next ipcCommunicationPoll .receiveAck

theorem PollInv.afterFirstAck : PollInv RecvSys.afterFirstAck :=
  ⟨rfl, InOrder.nil, Or.inl ⟨rfl, rfl, Or.inl ⟨rfl, rfl⟩⟩⟩

/-- Poll mode, once the first receive call has written its ack before the partner's first
signal: over every interleaving, the `j`-th value the receive calls return is the partner's
`j`-th message or `-ENOMEM`, and they have returned every message the partner saw acknowledged,
and at most the next one besides. -/
theorem receive_poll_inOrder (acts : List RecvAct) :
    InOrder (RecvSys.afterFirstAck.run ipcCommunicationPoll acts).received ∧
      (RecvSys.afterFirstAck.run ipcCommunicationPoll acts).index ≤
        (RecvSys.afterFirstAck.run ipcCommunicationPoll acts).received.length ∧
      (RecvSys.afterFirstAck.run ipcCommunicationPoll acts).received.length ≤
        (RecvSys.afterFirstAck.run ipcCommunicationPoll acts).index + 1 := by
  have h := PollInv.afterFirstAck.run acts
  exact ⟨h.inOrder, h.phase.length⟩

/-! ## Two orders that skip a message -/

/-- Poll mode: the partner writes and signals message 0 before the first receive call's ack. -/
def earlySignalRun : RecvSys :=
  RecvSys.init.run ipcCommunicationPoll [.partnerWrite, .partnerSignal, .receiveAck, .partnerSeeAck,
    .partnerWrite, .partnerSignal, .receivePoll, .receiveRead true]

/-- Interrupt mode: the handler acks message 0, and the partner writes message 1 before the woken
thread reads. -/
def isrAckRun : RecvSys :=
  RecvSys.init.run ipcCommunicationInt [.receiveAck, .partnerWrite, .partnerSignal, .isrComplete,
    .isrAck, .partnerSeeAck, .partnerWrite, .receiveRead true]

/-- In both runs the partner saw message 0 acknowledged, and the first receive call returned
message 1. -/
theorem receive_skips_message :
    earlySignalRun.index = 1 ∧ earlySignalRun.received = [some 1] ∧
      isrAckRun.index = 1 ∧ isrAckRun.received = [some 1] := by
  decide

end Columbus

end LinuxSampleDriver
