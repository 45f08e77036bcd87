import LinuxSampleDriver.Columbus.Header

/-!
# Sending from several threads

`columbus_ipc_send_message` on channel `c` of a partner writes the partner's four `A7TOxxIPC*`
header registers, sets bit `c` of `A7TOxxIPCFLG` through `notify_partner`, and polls the flag
register until the partner's ack has cleared it. There is one set of header registers per partner,
shared by its sixteen channels, and no lock is held around these writes.

Senders on distinct channels therefore overwrite each other's header: a second send to the same
partner can write its header after the first has set its bit and before the partner has read it,
and the partner acks the first channel having read the second header (`send_overwrites_header`).
When the sends to one partner do not overlap between the header write and the return, the
registers keep each header until the send returns, and a set bit always belongs to the send
waiting on it (`sendSys_header_held`).

A header is written by one step here. The partner's read of the header and its ack are one step
too. The call's `ipc_sram_alloc` and copy come before the model's first step and its trailing ack
and `ipc_sram_free` after its last; the allocator is `AllocRace`.
-/

namespace LinuxSampleDriver

namespace Columbus

/-- `0x01 << channel_num`, the bit of channel `channel_num` in the flag, set and ack registers. -/
def channelBit (channel_num : Nat) : BitVec 32 := 1#32 <<< channel_num

theorem getLsbD_channelBit (channel_num i : Nat) :
    (channelBit channel_num).getLsbD i = (decide (channel_num < 32) && decide (channel_num = i)) :=
  BitVec.getLsbD_twoPow channel_num i

/-- Where a sending thread is. -/
inductive SendPc
  | idle
  /-- the message is in its pages; the header values are computed -/
  | ready (h : Handle) (hdr : IpcHeader)
  /-- the header is written; `notify_partner` is next -/
  | notifying (h : Handle) (hdr : IpcHeader)
  /-- the bit is set; polling `A7TOxxIPCFLG` -/
  | waiting (h : Handle) (hdr : IpcHeader)
  deriving DecidableEq, Repr

/-- The channel a thread sends on. -/
def SendPc.handle? : SendPc → Option Handle
  | .idle => none
  | .ready h _ => some h
  | .notifying h _ => some h
  | .waiting h _ => some h

/-- The header a thread has written and not yet finished with. -/
def SendPc.pending? : SendPc → Option (Handle × IpcHeader)
  | .notifying h hdr => some (h, hdr)
  | .waiting h hdr => some (h, hdr)
  | _ => none

/-- The outbound registers of both partners, the sending threads, and what the partners read. -/
structure SendSys where
  /-- `A7TORFIPC*` and `A7TOPLCIPC*` -/
  header : ChannelTable → IpcHeader
  /-- `A7TORFIPCFLG` and `A7TOPLCIPCFLG` -/
  flg : ChannelTable → BitVec 32
  thread : Nat → SendPc
  /-- each ack of a partner, with the channel and the header the partner read -/
  delivered : List (Handle × IpcHeader)

/-- One step of a sending thread or of a partner. -/
inductive SendAct
  /-- a send call on channel `h` reaches its header writes with the message of `len` bytes in
  page `page_num` -/
  | start (t : Nat) (h : Handle) (page_num len : Nat)
  | writeHeader (t : Nat)
  /-- `notify_partner` -/
  | notify (t : Nat)
  /-- one read of `A7TOxxIPCFLG` in the wait loop; the call returns once it reads 0 -/
  | poll (t : Nat)
  /-- the partner reads the header and acks channel `c` -/
  | partnerAck (table : ChannelTable) (c : Nat)
  deriving DecidableEq, Repr

/-- A step; a thread not at the point where the step applies does nothing, and a partner acks
only a set bit. -/
def SendSys.next (cfg : IpcInternal) (info : ColumbusIpcInfo) (s : SendSys) : SendAct → SendSys
  | .start t h page_num len =>
    match s.thread t with
    | .idle =>
      { s with thread := Function.update s.thread t (.ready h (sendHeader cfg info page_num len)) }
    | _ => s
  | .writeHeader t =>
    match s.thread t with
    | .ready h hdr =>
      { s with header := Function.update s.header h.table hdr,
               thread := Function.update s.thread t (.notifying h hdr) }
    | _ => s
  | .notify t =>
    match s.thread t with
    | .notifying h hdr =>
      { s with flg := Function.update s.flg h.table (s.flg h.table ||| channelBit h.index),
               thread := Function.update s.thread t (.waiting h hdr) }
    | _ => s
  | .poll t =>
    match s.thread t with
    | .waiting h _ =>
      if s.flg h.table = 0 then { s with thread := Function.update s.thread t .idle } else s
    | _ => s
  | .partnerAck table c =>
    if (s.flg table).getLsbD c then
      { s with flg := Function.update s.flg table (s.flg table &&& ~~~(channelBit c)),
               delivered := s.delivered ++ [(⟨table, c⟩, s.header table)] }
    else s

/-- The steps in order. -/
def SendSys.run (cfg : IpcInternal) (info : ColumbusIpcInfo) (s : SendSys) (acts : List SendAct) :
    SendSys :=
  acts.foldl (SendSys.next cfg info) s

/-- No send in progress and no bit set; the header registers hold anything. -/
def SendSys.init (header : ChannelTable → IpcHeader) : SendSys :=
  ⟨header, fun _ => 0, fun _ => .idle, []⟩

/-! ## Sends to one partner that do not overlap -/

/-- The callers' side: a send starts on one of the sixteen channels, one no other thread is
using (the channel tables hand a slot to one thread); and a thread writes its header only while
no other send to the same partner is between its header write and its return. The code ensures
the first and not the second. -/
def SendAct.Allowed (s : SendSys) : SendAct → Prop
  | .start t h _ _ => h.index < a7RfIpcChannelNum ∧ ∀ t', t' ≠ t → (s.thread t').handle? ≠ some h
  | .writeHeader t => ∀ t' p h, t' ≠ t → (s.thread t').pending? = some p →
      (s.thread t).handle? = some h → p.1.table ≠ h.table
  | _ => True

/-- The states allowed interleavings reach from no send in progress. -/
inductive SendSys.Reachable (cfg : IpcInternal) (info : ColumbusIpcInfo)
    (header : ChannelTable → IpcHeader) : SendSys → Prop
  | init : SendSys.Reachable cfg info header (SendSys.init header)
  | step {s : SendSys} (a : SendAct) :
      SendSys.Reachable cfg info header s → a.Allowed s →
        SendSys.Reachable cfg info header (s.next cfg info a)

/-- A written header stays in the registers until its send returns; a set bit belongs to the send
waiting on that channel; a channel has one sender, below sixteen. -/
structure SendInv (s : SendSys) : Prop where
  header : ∀ t h hdr, (s.thread t).pending? = some (h, hdr) → s.header h.table = hdr
  flag : ∀ table c, (s.flg table).getLsbD c = true →
    ∃ t hdr, s.thread t = .waiting ⟨table, c⟩ hdr
  exclusive : ∀ t t' h, t ≠ t' → (s.thread t).handle? = some h → (s.thread t').handle? ≠ some h
  bound : ∀ t h, (s.thread t).handle? = some h → h.index < a7RfIpcChannelNum

theorem SendInv.init (header : ChannelTable → IpcHeader) : SendInv (SendSys.init header) where
  header _ _ _ h := by cases h
  flag _ _ h := by simp [SendSys.init] at h
  exclusive _ _ _ _ h := by cases h
  bound _ _ h := by cases h

/-- A thread that moves without changing its channel leaves every thread's channel as it was. -/
theorem SendPc.handle?_update {thread : Nat → SendPc} {t : Nat} {x : SendPc}
    (hx : x.handle? = (thread t).handle?) (t' : Nat) :
    (Function.update thread t x t').handle? = (thread t').handle? := by
  by_cases ht : t' = t
  · subst ht; rw [Function.update_same, hx]
  · rw [Function.update_noteq ht]

/-- A thread that moves without writing or finishing a header leaves every pending header as it
was. -/
theorem SendPc.pending?_update {thread : Nat → SendPc} {t : Nat} {x : SendPc}
    (hx : x.pending? = (thread t).pending?) (t' : Nat) :
    (Function.update thread t x t').pending? = (thread t').pending? := by
  by_cases ht : t' = t
  · subst ht; rw [Function.update_same, hx]
  · rw [Function.update_noteq ht]

/-- A bit set before a step keeps its waiting sender when the thread that moves was not waiting. -/
theorem SendInv.flag_update {s : SendSys} (hinv : SendInv s) {t : Nat}
    (hnw : ∀ h hdr, s.thread t ≠ .waiting h hdr) (x : SendPc) {table : ChannelTable} {c : Nat}
    (hc : (s.flg table).getLsbD c = true) :
    ∃ t' hdr, Function.update s.thread t x t' = .waiting ⟨table, c⟩ hdr := by
  obtain ⟨t', hdr, hw⟩ := hinv.flag table c hc
  have ht : t' ≠ t := fun e => hnw _ _ (e ▸ hw)
  exact ⟨t', hdr, by rw [Function.update_noteq ht]; exact hw⟩

theorem SendInv.next_start {s : SendSys} (hinv : SendInv s) {cfg : IpcInternal}
    {info : ColumbusIpcInfo} {t : Nat} {h : Handle} {page_num len : Nat}
    (ha : (SendAct.start t h page_num len).Allowed s) :
    SendInv (s.next cfg info (.start t h page_num len)) := by
  obtain ⟨hb, hfree⟩ := ha
  simp only [SendSys.next]
  split
  · rename_i hidle
    have key : ∀ t', t' ≠ t → (Function.update s.thread t
        (.ready h (sendHeader cfg info page_num len)) t').handle? = (s.thread t').handle? :=
      fun t' ht => by rw [Function.update_noteq ht]
    constructor <;> dsimp only
    · intro t' h' hdr' hp
      rw [SendPc.pending?_update (by rw [hidle]; rfl)] at hp
      exact hinv.header t' h' hdr' hp
    · exact fun table c hc => hinv.flag_update (fun _ _ e => by rw [hidle] at e; cases e) _ hc
    · intro t₁ t₂ h' hne h₁ h₂
      by_cases ht₁ : t₁ = t
      · subst ht₁
        rw [Function.update_same] at h₁
        cases h₁
        exact hfree t₂ (Ne.symm hne) (by rwa [key t₂ (Ne.symm hne)] at h₂)
      · rw [key t₁ ht₁] at h₁
        by_cases ht₂ : t₂ = t
        · subst ht₂
          rw [Function.update_same] at h₂
          cases h₂
          exact hfree t₁ hne h₁
        · exact hinv.exclusive t₁ t₂ h' hne h₁ (by rwa [key t₂ ht₂] at h₂)
    · intro t' h' hh
      by_cases ht : t' = t
      · subst ht
        rw [Function.update_same] at hh
        cases hh
        exact hb
      · exact hinv.bound t' h' (by rwa [key t' ht] at hh)
  · exact hinv

theorem SendInv.next_writeHeader {s : SendSys} (hinv : SendInv s) {cfg : IpcInternal}
    {info : ColumbusIpcInfo} {t : Nat} (ha : (SendAct.writeHeader t).Allowed s) :
    SendInv (s.next cfg info (.writeHeader t)) := by
  simp only [SendSys.next]
  split
  · rename_i h hdr hready
    have hh : ∀ t', (Function.update s.thread t (.notifying h hdr) t').handle? =
        (s.thread t').handle? := SendPc.handle?_update (by rw [hready]; rfl)
    constructor <;> dsimp only
    · intro t' h' hdr' hp
      by_cases ht : t' = t
      · subst ht
        rw [Function.update_same] at hp
        cases hp
        exact Function.update_same _ _ _
      · rw [Function.update_noteq ht] at hp
        rw [Function.update_noteq (ha t' (h', hdr') h ht hp (by rw [hready]; rfl))]
        exact hinv.header t' h' hdr' hp
    · exact fun table c hc => hinv.flag_update (fun _ _ e => by rw [hready] at e; cases e) _ hc
    · exact fun t₁ t₂ h' hne h₁ h₂ => hinv.exclusive t₁ t₂ h' hne (hh t₁ ▸ h₁) (hh t₂ ▸ h₂)
    · exact fun t' h' h₁ => hinv.bound t' h' (hh t' ▸ h₁)
  · exact hinv

theorem SendInv.next_notify {s : SendSys} (hinv : SendInv s) {cfg : IpcInternal}
    {info : ColumbusIpcInfo} (t : Nat) : SendInv (s.next cfg info (.notify t)) := by
  simp only [SendSys.next]
  split
  · rename_i h hdr hnot
    have hh : ∀ t', (Function.update s.thread t (.waiting h hdr) t').handle? =
        (s.thread t').handle? := SendPc.handle?_update (by rw [hnot]; rfl)
    have hnw : ∀ h' hdr', s.thread t ≠ .waiting h' hdr' := fun _ _ e => by rw [hnot] at e; cases e
    constructor <;> dsimp only
    · intro t' h' hdr' hp
      rw [SendPc.pending?_update (by rw [hnot]; rfl)] at hp
      exact hinv.header t' h' hdr' hp
    · intro table c hc
      by_cases htab : table = h.table
      · subst htab
        rw [Function.update_same, BitVec.getLsbD_or, getLsbD_channelBit] at hc
        by_cases hold : (s.flg h.table).getLsbD c = true
        · exact hinv.flag_update hnw _ hold
        · simp only [hold, Bool.false_or, Bool.and_eq_true, decide_eq_true_eq] at hc
          obtain ⟨-, rfl⟩ := hc
          exact ⟨t, hdr, Function.update_same _ _ _⟩
      · rw [Function.update_noteq htab] at hc
        exact hinv.flag_update hnw _ hc
    · exact fun t₁ t₂ h' hne h₁ h₂ => hinv.exclusive t₁ t₂ h' hne (hh t₁ ▸ h₁) (hh t₂ ▸ h₂)
    · exact fun t' h' h₁ => hinv.bound t' h' (hh t' ▸ h₁)
  · exact hinv

theorem SendInv.next_poll {s : SendSys} (hinv : SendInv s) {cfg : IpcInternal}
    {info : ColumbusIpcInfo} (t : Nat) : SendInv (s.next cfg info (.poll t)) := by
  simp only [SendSys.next]
  split
  · rename_i h hdr hwait
    split_ifs with hzero
    · -- the thread returns: it drops its channel and its header
      have key : ∀ t', t' ≠ t → Function.update s.thread t .idle t' = s.thread t' :=
        fun t' ht => Function.update_noteq ht _ _
      constructor <;> dsimp only
      · intro t' h' hdr' hp
        by_cases ht : t' = t
        · subst ht; simp [SendPc.pending?] at hp
        · exact hinv.header t' h' hdr' (key t' ht ▸ hp)
      · intro table c hc
        obtain ⟨t', hdr', hw⟩ := hinv.flag table c hc
        have ht : t' ≠ t := fun e => by
          subst e
          rw [hwait] at hw
          cases hw
          simp [hzero] at hc
        exact ⟨t', hdr', by rw [key t' ht]; exact hw⟩
      · intro t₁ t₂ h' hne h₁ h₂
        by_cases ht₁ : t₁ = t
        · subst ht₁; simp [SendPc.handle?] at h₁
        · by_cases ht₂ : t₂ = t
          · subst ht₂; simp [SendPc.handle?] at h₂
          · exact hinv.exclusive t₁ t₂ h' hne (key t₁ ht₁ ▸ h₁) (key t₂ ht₂ ▸ h₂)
      · intro t' h' hh
        by_cases ht : t' = t
        · subst ht; simp [SendPc.handle?] at hh
        · exact hinv.bound t' h' (key t' ht ▸ hh)
    · exact hinv
  · exact hinv

theorem SendInv.next_partnerAck {s : SendSys} (hinv : SendInv s) {cfg : IpcInternal}
    {info : ColumbusIpcInfo} (table : ChannelTable) (c : Nat) :
    SendInv (s.next cfg info (.partnerAck table c)) := by
  simp only [SendSys.next]
  split_ifs
  · refine ⟨hinv.header, fun table' c' hc => ?_, hinv.exclusive, hinv.bound⟩
    dsimp only at hc
    by_cases htab : table' = table
    · subst htab
      rw [Function.update_same, BitVec.getLsbD_and, Bool.and_eq_true] at hc
      exact hinv.flag table' c' hc.1
    · rw [Function.update_noteq htab] at hc
      exact hinv.flag table' c' hc
  · exact hinv

theorem SendInv.next {s : SendSys} (hinv : SendInv s) {cfg : IpcInternal} {info : ColumbusIpcInfo}
    {a : SendAct} (ha : a.Allowed s) : SendInv (s.next cfg info a) := by
  cases a with
  | start t h page_num len => exact hinv.next_start ha
  | writeHeader t => exact hinv.next_writeHeader ha
  | notify t => exact hinv.next_notify t
  | poll t => exact hinv.next_poll t
  | partnerAck table c => exact hinv.next_partnerAck table c

theorem SendSys.Reachable.inv {cfg : IpcInternal} {info : ColumbusIpcInfo}
    {header : ChannelTable → IpcHeader} {s : SendSys} (hs : s.Reachable cfg info header) :
    SendInv s := by
  induction hs with
  | init => exact SendInv.init header
  | step a _ ha ih => exact ih.next ha

/-- Over every interleaving in which sends to one partner do not overlap: a send's header stays in
its partner's registers from its write until the send returns, and whenever the bit of a channel
is set, the registers hold the header of the send waiting on that channel, which is what the
partner reads when it acks. -/
theorem sendSys_header_held {cfg : IpcInternal} {info : ColumbusIpcInfo}
    {header : ChannelTable → IpcHeader} {s : SendSys} (hs : s.Reachable cfg info header) :
    (∀ t h hdr, (s.thread t).pending? = some (h, hdr) → s.header h.table = hdr) ∧
      ∀ table c, (s.flg table).getLsbD c = true →
        ∃ t hdr, s.thread t = .waiting ⟨table, c⟩ hdr ∧ s.header table = hdr := by
  have hinv := hs.inv
  refine ⟨hinv.header, fun table c hc => ?_⟩
  obtain ⟨t, hdr, hw⟩ := hinv.flag table c hc
  exact ⟨t, hdr, hw, hinv.header t ⟨table, c⟩ hdr (by rw [hw]; rfl)⟩

/-- From load, with every header register 0 and the two constants set to 0 and 1, thread 0 sends
100 bytes from page 0 on RF channel 0, writes its header and sets its bit. -/
def pendingRun : SendSys :=
  SendSys.run ⟨0, 1⟩ sampleInfo (SendSys.init fun _ => ⟨0, 0, 0, 0⟩)
    [.start 0 ⟨.rf, 0⟩ 0 100, .writeHeader 0, .notify 0]

theorem pendingRun_reachable : pendingRun.Reachable ⟨0, 1⟩ sampleInfo fun _ => ⟨0, 0, 0, 0⟩ := by
  refine .step (.notify 0) (.step (.writeHeader 0) (.step (.start 0 ⟨.rf, 0⟩ 0 100) .init ?_) ?_)
    trivial
  · exact ⟨by decide, fun t' _ => by simp [SendSys.init, SendPc.handle?]⟩
  · intro t' p h ht' hp _
    simp [SendSys.next, SendSys.init, Function.update_noteq ht', SendPc.pending?] at hp

/-- Thread 0's send is pending with bit 0 of the RF flag register set, and the registers hold its
header. -/
theorem sendSys_header_held_pending :
    pendingRun.thread 0 = .waiting ⟨.rf, 0⟩ (sendHeader ⟨0, 1⟩ sampleInfo 0 100) ∧
      (pendingRun.flg .rf).getLsbD 0 = true ∧
      (∀ t h hdr, (pendingRun.thread t).pending? = some (h, hdr) → pendingRun.header h.table = hdr) ∧
      ∀ table c, (pendingRun.flg table).getLsbD c = true →
        ∃ t hdr, pendingRun.thread t = .waiting ⟨table, c⟩ hdr ∧ pendingRun.header table = hdr :=
  ⟨by decide, by decide, sendSys_header_held pendingRun_reachable⟩

/-! ## The wait for the ack -/

/-- The wait loop of `columbus_ipc_send_message`, `while (ipc_flag) ipc_flag = ioread32(flag)`,
over the values `reads j` that successive reads of `A7TOxxIPCFLG` return: from `ipc_flag` with `n`
reads made and `fuel` more allowed, the number of reads made when the loop leaves, or `none` while
it is still waiting. The call enters it with `ipc_flag = 1 << channel_num` and no read made. -/
def sendWait (reads : Nat → BitVec 32) : (fuel : Nat) → (ipc_flag : BitVec 32) → (n : Nat) → Option Nat
  | 0, ipc_flag, n => if ipc_flag = 0 then some n else none
  | fuel + 1, ipc_flag, n => if ipc_flag = 0 then some n else sendWait reads fuel (reads n) (n + 1)

/-- What the loop does: it leaves at once on a zero `ipc_flag`, and otherwise after the `m`-th read,
where that read is the first to return the whole register as zero. -/
theorem sendWait_eq_some {reads : Nat → BitVec 32} {fuel : Nat} {ipc_flag : BitVec 32}
    {n m : Nat} :
    sendWait reads fuel ipc_flag n = some m ↔
      (ipc_flag = 0 ∧ m = n) ∨
        (ipc_flag ≠ 0 ∧ n < m ∧ m ≤ n + fuel ∧ reads (m - 1) = 0 ∧
          ∀ j, n ≤ j → j < m - 1 → reads j ≠ 0) := by
  induction fuel generalizing ipc_flag n with
  | zero =>
    by_cases h0 : ipc_flag = 0
    · simp [sendWait, h0, eq_comm]
    · rw [sendWait, if_neg h0]
      refine ⟨nofun, ?_⟩
      rintro (⟨h, -⟩ | ⟨-, hlt, hle, -⟩)
      · exact absurd h h0
      · omega
  | succ fuel ih =>
    by_cases h0 : ipc_flag = 0
    · simp [sendWait, h0, eq_comm]
    rw [sendWait, if_neg h0, ih]
    simp only [h0, false_and, false_or, ne_eq, not_false_eq_true, true_and]
    constructor
    · rintro (⟨hr, rfl⟩ | ⟨hr, hlt, hle, hz, hj⟩)
      · exact ⟨by omega, by omega, hr, fun j h1 h2 => by omega⟩
      · refine ⟨by omega, by omega, hz, fun j h1 h2 => ?_⟩
        rcases Nat.eq_or_lt_of_le h1 with rfl | h1
        · exact hr
        · exact hj j h1 h2
    · rintro ⟨hlt, hle, hz, hj⟩
      by_cases hm : m = n + 1
      · subst hm
        exact .inl ⟨hz, rfl⟩
      · exact .inr ⟨hj n le_rfl (by omega), by omega, by omega, hz, fun j h1 h2 => hj j (by omega) h2⟩

/-- The wait on channel `k` leaves only at a read of the whole flag register as zero: while another
channel's bit `k'` is set in every read, it never leaves, whatever bit `k` reads. -/
theorem sendWait_blocked_by_other_channel {k k' : Nat} (hk : k < 32) (reads : Nat → BitVec 32)
    (hset : ∀ j, (reads j).getLsbD k' = true) (fuel : Nat) :
    sendWait reads fuel (channelBit k) 0 = none := by
  have hbit : channelBit k ≠ 0 := fun h => by
    have := getLsbD_channelBit k k
    simp [h, hk] at this
  have hread : ∀ j, reads j ≠ 0 := fun j h => by simpa [h] using hset j
  cases hw : sendWait reads fuel (channelBit k) 0 with
  | none => rfl
  | some m =>
    rcases sendWait_eq_some.mp hw with ⟨h0, -⟩ | ⟨-, -, -, h0, -⟩
    · exact absurd h0 hbit
    · exact absurd h0 (hread _)

/-- Channel 0 waits while channel 1's send stays pending: bit 0 is clear in every read, and a
hundred reads do not end the wait. -/
theorem sendWait_blocked_channel0 :
    (channelBit 1).getLsbD 0 = false ∧ sendWait (fun _ => channelBit 1) 100 (channelBit 0) 0 = none :=
  ⟨by decide, @sendWait_blocked_by_other_channel 0 1 (by decide) _ (fun _ => by decide) 100⟩

/-! ## Two sends to one partner -/

/-- Thread 0 sends 100 bytes from page 0 on RF channel 0, thread 1 200 bytes from page 1 on RF
channel 1. Thread 1 writes its header after thread 0 has set its bit; the RF DSP then acks
channel 0. The two missing constants are set to `0` and `1`. -/
def overlapRun : SendSys :=
  SendSys.run ⟨0, 1⟩ sampleInfo (SendSys.init fun _ => ⟨0, 0, 0, 0⟩)
    [.start 0 ⟨.rf, 0⟩ 0 100, .start 1 ⟨.rf, 1⟩ 1 200, .writeHeader 0, .notify 0, .writeHeader 1,
      .partnerAck .rf 0]

/-- The RF DSP acks channel 0 having read thread 1's header, which names page 1 and 200 bytes, not
the header thread 0 wrote. -/
theorem send_overwrites_header :
    overlapRun.delivered = [(⟨.rf, 0⟩, sendHeader ⟨0, 1⟩ sampleInfo 1 200)] ∧
      sendHeader ⟨0, 1⟩ sampleInfo 1 200 ≠ sendHeader ⟨0, 1⟩ sampleInfo 0 100 := by
  decide

end Columbus

end LinuxSampleDriver
