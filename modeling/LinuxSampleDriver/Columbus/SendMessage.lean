import LinuxSampleDriver.Columbus.Send

/-!
# One call of `columbus_ipc_send_message`

`Send.lean` interleaves the header writes and the flag wait of several senders; this file follows
one call from its first line to its `return`, alone on the shared RAM. The call allocates a run
with `ipc_sram_alloc` at the pinned page or at one the allocator places, turns the address back
into a page with `pageaddr2pagenum`, clears the run and copies the message into it, writes the
partner's four header registers and the channel's bit through `notify_partner`, reads the flag
register until the partner's ack has cleared it, acks, and frees the run with `ipc_sram_free`.

The A7 is a 32-bit core: pointers and `size_t` are 32 bits, and `len` reaches `ipc_sram_alloc`'s
`int size` as two's complement (`sizeToInt`).

Every call that gets past its allocation and out of its wait loop returns `len`, passes every
`IPC_BUG` check on the way, and gives the status words back bit for bit, whether it pinned a page
or not. While the partner reads, the run at the A7-view address in `A7TOxxIPCADDR` holds the
`len` bytes of the message that `A7TOxxIPCDATA0` announces, the page in the low bits of
`A7TOxxIPCDATA1` is that run's, and no byte outside the run was written
(`columbusIpcSendMessage_returns`). A call placed by the allocator that finds no room changes
nothing and returns `-ENOSPC`. `MessageAttribute.lean` wraps the call in the sysfs handler that
makes it.
-/

namespace LinuxSampleDriver

namespace Columbus

/-- `ENOSPC`. -/
def enospc : Int := 28

/-- A `size_t` passed where the callee takes an `int`: its 32 bits read as two's complement. -/
def sizeToInt (len : Nat) : Int :=
  if len % 2 ^ 32 < 2 ^ 31 then (len % 2 ^ 32 : Nat) else ((len % 2 ^ 32 : Nat) : Int) - 2 ^ 32

/-- `pagenum2pageaddr`: `NULL` for page `-1`, otherwise the page's address as a 32-bit pointer. -/
def pagenum2pageaddr (info : ColumbusIpcInfo) (page_num : Int) : Nat :=
  if page_num = -1 then 0
  else (((info.sram : Int) + page_num * columbusIpcPageSize) % 2 ^ 32).toNat

/-- `pageaddr2pagenum`: the page of an address of the shared RAM, and whether its three
`IPC_BUG` checks hold. -/
def pageaddr2pagenum (info : ColumbusIpcInfo) (page_addr : Nat) : Nat × Bool :=
  ((page_addr - info.sram) / columbusIpcPageSize,
    decide (page_addr % columbusIpcPageSize = 0 ∧ info.sram ≤ page_addr ∧
      page_addr < info.sram + columbusIpcSramSize))

/-- Bytes `[off, off + len)` of the shared RAM, by offset from its start, set from `src`; the
others kept. -/
def writeBytes (mem : Nat → BitVec 8) (off len : Nat) (src : Nat → BitVec 8) : Nat → BitVec 8 :=
  fun a => if off ≤ a ∧ a < off + len then src (a - off) else mem a

/-- `memset(sram, 0, len)` on the run at offset `off`. -/
def memset (mem : Nat → BitVec 8) (off len : Nat) : Nat → BitVec 8 :=
  writeBytes mem off len fun _ => 0

/-- `memcpy(sram, message, len)` on the run at offset `off`. -/
def memcpy (mem : Nat → BitVec 8) (off : Nat) (message : Nat → BitVec 8) (len : Nat) :
    Nat → BitVec 8 :=
  writeBytes mem off len message

/-- The registers the call writes, of the partner of its channel: `A7TOxxIPCCOMM`,
`A7TOxxIPCADDR`, `A7TOxxIPCDATA0`, `A7TOxxIPCDATA1`, `A7TOxxIPCSET` (through `notify_partner`)
and `xxTOA7IPCACK`. -/
inductive SendReg
  | comm
  | addr
  | data0
  | data1
  | set
  | ack
  deriving DecidableEq, Repr

/-- What a call leaves and returns: the status words, the bytes of the shared RAM, the register
writes in order, whether every `IPC_BUG` check it met held, and the return value; `none` while
the call is still in its wait loop. -/
structure SendOutcome where
  regs : SramRegs
  mem : Nat → BitVec 8
  writes : List (SendReg × BitVec 32)
  checks : Bool
  ret : Option Int

/-- The header registers and the notify, in the order the call writes them. -/
def sendWrites (hdr : IpcHeader) (channel_num : Nat) : List (SendReg × BitVec 32) :=
  [(.comm, hdr.command), (.addr, hdr.address), (.data0, hdr.data0), (.data1, hdr.data1),
    (.set, channelBit channel_num)]

/-- `columbus_ipc_send_message` on channel `channel_num` (what `channel2num` gives for the
handle), with `reads` the successive values of the flag register and `fuel` reads allowed. -/
def columbusIpcSendMessage (cfg : IpcInternal) (info : ColumbusIpcInfo) (regs : SramRegs)
    (mem : Nat → BitVec 8) (channel_num : Nat) (message : Nat → BitVec 8) (len : Nat)
    (page_num : Int) (reads : Nat → BitVec 32) (fuel : Nat) : SendOutcome :=
  if len = 0 then ⟨regs, mem, [], true, some 0⟩
  else
    let a := ipcSramAlloc info regs (pagenum2pageaddr info page_num) (sizeToInt len)
    if a.2 = 0 then ⟨a.1, mem, [], true, some (-enospc)⟩
    else
      let p := pageaddr2pagenum info a.2
      let off := p.1 * columbusIpcPageSize
      let mem' := memcpy (memset mem off len) off message len
      let writes := sendWrites (sendHeader cfg info p.1 len) channel_num
      match sendWait reads fuel (channelBit channel_num) 0 with
      | none => ⟨a.1, mem', writes, p.2, none⟩
      | some _ =>
        let f := ipcSramFree info a.1 (pagenum2pageaddr info p.1) (sizeToInt len)
        ⟨f.1, mem', writes ++ [(.ack, channelBit channel_num)], p.2 && f.2, some (sizeToInt len)⟩

/-! ## The pieces -/

/-- A 32-bit `size_t` that reads as a positive `int` is its own value. -/
theorem sizeToInt_of_pos {len : Nat} (h32 : len < 2 ^ 32) (hpos : 0 < sizeToInt len) :
    sizeToInt len = len := by
  unfold sizeToInt at hpos ⊢
  rw [Nat.mod_eq_of_lt h32] at hpos ⊢
  split_ifs at hpos ⊢
  · rfl
  · omega

theorem pagenum2pageaddr_of_lt (info : ColumbusIpcInfo)
    (hsram : info.sram + columbusIpcSramSize ≤ 2 ^ 32) {page_num : Nat}
    (hp : page_num < sharedRamPageNum) :
    pagenum2pageaddr info page_num = info.sram + page_num * columbusIpcPageSize := by
  unfold pagenum2pageaddr
  rw [if_neg (by omega)]
  unfold columbusIpcSramSize sharedRamPageNum at *
  unfold columbusIpcPageSize
  omega

theorem pageaddr2pagenum_page (info : ColumbusIpcInfo) {page_num : Nat}
    (hp : page_num < sharedRamPageNum) :
    pageaddr2pagenum info (info.sram + page_num * columbusIpcPageSize) = (page_num, true) := by
  have hal := info.sram_aligned
  unfold pageaddr2pagenum
  unfold columbusIpcSramSize sharedRamPageNum columbusIpcPageSize at *
  simp only [Prod.mk.injEq, decide_eq_true_eq]
  omega

/-- The family member `memcpy` over `memset` is `memcpy` alone. -/
theorem memcpy_memset (mem : Nat → BitVec 8) (off : Nat) (message : Nat → BitVec 8) (len : Nat) :
    memcpy (memset mem off len) off message len = memcpy mem off message len := by
  funext a
  simp only [memcpy, memset, writeBytes]
  split_ifs <;> rfl

theorem memcpy_apply_of_lt (mem : Nat → BitVec 8) (off : Nat) (message : Nat → BitVec 8)
    {len i : Nat} (hi : i < len) : memcpy mem off message len (off + i) = message i := by
  simp only [memcpy, writeBytes]
  rw [if_pos (by omega), Nat.add_sub_cancel_left]

theorem memcpy_apply_of_outside (mem : Nat → BitVec 8) (off : Nat) (message : Nat → BitVec 8)
    {len a : Nat} (ha : a < off ∨ off + len ≤ a) : memcpy mem off message len a = mem a := by
  simp only [memcpy, writeBytes]
  rw [if_neg (by omega)]

/-! ## The allocation and its free -/

/-- A call of `ipc_sram_alloc` that returns an address, at a pinned page or at one the allocator
places: a size in `[1, 32768]`, and a run of pages inside the shared RAM, free before, the A7's
after, whose first page's address is returned. -/
theorem ipcSramAlloc_ne_zero {info : ColumbusIpcInfo} {regs : SramRegs} {addr : Nat} {size : Int}
    (hret : (ipcSramAlloc info regs addr size).2 ≠ 0) :
    0 < size ∧ size ≤ columbusIpcSramSize ∧
      ∃ s, (ipcSramAlloc info regs addr size).2 = info.sram + s * columbusIpcPageSize ∧
        s + (size.toNat + 1023) / 1024 ≤ sharedRamPageNum ∧
        (∀ k, k < (size.toNat + 1023) / 1024 → getSramPageOwnership regs (s + k) = .free) ∧
        RunSet regs (ipcSramAlloc info regs addr size).1 s ((size.toNat + 1023) / 1024) .a7 := by
  rcases hargs : ipcSramAllocArgs info addr size with _ | ⟨x, n⟩
  · simp [ipcSramAlloc, hargs] at hret
  obtain ⟨hpos, hle, rfl, hx⟩ := ipcSramAllocArgs_eq_some hargs
  refine ⟨hpos, hle, ?_⟩
  rcases hx with ⟨rfl, -⟩ | ⟨rfl, -⟩
  · cases hfind : findConsecutiveFreeSramPages regs ((size.toNat + 1023) / 1024) with
    | none => simp [ipcSramAlloc, hargs, tryToGrabSramPages, hfind] at hret
    | some s =>
      obtain ⟨hrun, hfree⟩ := findConsecutiveFreeSramPages_sound hfind
      rw [ipcSramAlloc_of_find hargs hfind]
      exact ⟨s, rfl, hrun, hfree, (grabSramRun_of_free regs hrun hfree).2⟩
  · rw [ipcSramAlloc_of_pinned hargs] at hret ⊢
    obtain ⟨-, hfree, -, hset⟩ := grabSramPages_spec regs ((addr - info.sram) / columbusIpcPageSize)
      ((size.toNat + 1023) / 1024)
    split_ifs at hret ⊢ with hall
    · rw [hall] at hfree hset
      have hlast := (hfree ((size.toNat + 1023) / 1024 - 1) (by omega)).1
      exact ⟨_, rfl, by omega, fun k hk => (hfree k hk).2, hset⟩
    · exact absurd rfl hret

/-- Freeing what a successful `ipc_sram_alloc` returned, with the same size, passes every check
and gives back the status words bit for bit, whether the run was pinned or placed. -/
theorem ipcSramFree_ipcSramAlloc (info : ColumbusIpcInfo) (regs : SramRegs) (addr : Nat)
    (size : Int) (hret : (ipcSramAlloc info regs addr size).2 ≠ 0) :
    ipcSramFree info (ipcSramAlloc info regs addr size).1 (ipcSramAlloc info regs addr size).2
      size = (regs, true) := by
  obtain ⟨hpos, hle, s, hs, hrun, hfree, hset⟩ := ipcSramAlloc_ne_zero hret
  rw [hs]
  have hal := info.sram_aligned
  unfold sharedRamPageNum at hrun
  unfold columbusIpcPageSize at hal
  have hpage : (info.sram + s * columbusIpcPageSize - info.sram) / columbusIpcPageSize = s := by
    unfold columbusIpcPageSize; rw [Nat.add_sub_cancel_left]; omega
  obtain ⟨hset', hok⟩ := freeSramPages_spec (ipcSramAlloc info regs addr size).1 s
    ((size.toNat + 1023) / 1024) (by unfold sharedRamPageNum; omega)
  have hallA7 : ∀ k, k < (size.toNat + 1023) / 1024 →
      getSramPageOwnership (ipcSramAlloc info regs addr size).1 (s + k) = .a7 :=
    fun k hk => by rw [hset.1, if_pos (by omega)]
  simp only [ipcSramFree, hpage, npages_eq_ceil, and_pageSize_sub_one]
  rw [RunSet.restore hset hset' hfree, hok.mpr hallA7]
  simp only [Prod.mk.injEq, true_and, Bool.and_true, decide_eq_true_eq]
  unfold columbusIpcPageSize columbusIpcSramSize at *
  omega

/-- A call without an address that returns `NULL` leaves the status words as they were: the scan
found no run, and a run it finds is free, so it is grabbed whole. -/
theorem ipcSramAlloc_null_placed {info : ColumbusIpcInfo} {regs : SramRegs} {size : Int}
    (h : (ipcSramAlloc info regs 0 size).2 = 0) : (ipcSramAlloc info regs 0 size).1 = regs := by
  rcases hargs : ipcSramAllocArgs info 0 size with _ | ⟨x, n⟩
  · simp [ipcSramAlloc, hargs]
  obtain ⟨-, -, -, ⟨rfl, -⟩ | ⟨-, -, hle, -⟩⟩ := ipcSramAllocArgs_eq_some hargs
  · cases hfind : findConsecutiveFreeSramPages regs n with
    | none => simp [ipcSramAlloc, hargs, tryToGrabSramPages, hfind]
    | some s =>
      rw [ipcSramAlloc_of_find hargs hfind] at h
      have := info.sram_pos
      simp only at h
      omega
  · have := info.sram_pos; omega

/-! ## The whole call -/

section Call

variable (cfg : IpcInternal) (info : ColumbusIpcInfo) (regs : SramRegs) (mem : Nat → BitVec 8)
  (channel_num : Nat) (message : Nat → BitVec 8) (len : Nat) (page_num : Int)
  (reads : Nat → BitVec 32) (fuel : Nat)

/-- A call that gets past its allocation and out of its wait loop, on a mapping of the shared RAM
inside the 32-bit address space: it returns `len`, every `IPC_BUG` check on its way holds, and
the status words are as it found them, pinned page or not. It wrote the four header registers,
the notify and the ack in that order; the header's A7-view address and the page in the low half
of `data1` name a run inside the shared RAM, `data0` is `len`, the run holds the message's `len`
bytes, and no other byte of the shared RAM changed. -/
theorem columbusIpcSendMessage_returns (hsram : info.sram + columbusIpcSramSize ≤ 2 ^ 32)
    (hend : cfg.ipc_end_msg < 2 ^ 16) (hlen : 0 < len) (hlen32 : len < 2 ^ 32) {r : Int}
    (hret : (columbusIpcSendMessage cfg info regs mem channel_num message len page_num reads
      fuel).ret = some r) (hr : r ≠ -enospc) :
    let o := columbusIpcSendMessage cfg info regs mem channel_num message len page_num reads fuel
    r = len ∧ o.regs = regs ∧ o.checks = true ∧
      ∃ s, s + (len + 1023) / 1024 ≤ sharedRamPageNum ∧
        o.writes = sendWrites (sendHeader cfg info s len) channel_num ++
          [(.ack, channelBit channel_num)] ∧
        (sendHeader cfg info s len).address.toNat = info.sram_phy + s * columbusIpcPageSize ∧
        (sendHeader cfg info s len).data0.toNat = len ∧
        (sendHeader cfg info s len).data1.toNat % 2 ^ 16 = s ∧
        (∀ i, i < len → o.mem (s * columbusIpcPageSize + i) = message i) ∧
        ∀ a, a < s * columbusIpcPageSize ∨ s * columbusIpcPageSize + len ≤ a → o.mem a = mem a := by
  intro o
  have hA : (ipcSramAlloc info regs (pagenum2pageaddr info page_num) (sizeToInt len)).2 ≠ 0 := by
    intro h0
    simp only [o, columbusIpcSendMessage, if_neg hlen.ne', h0, if_true, Option.some.injEq]
      at hret
    exact hr hret.symm
  obtain ⟨hpos, hle, s, hs, hrun, -, -⟩ := ipcSramAlloc_ne_zero hA
  have hsz : sizeToInt len = len := sizeToInt_of_pos hlen32 hpos
  rw [hsz] at hA hs hle hrun
  replace hrun : s + (len + 1023) / 1024 ≤ sharedRamPageNum := by simpa using hrun
  unfold columbusIpcSramSize at hle
  have hs32 : s < sharedRamPageNum := by unfold sharedRamPageNum at hrun ⊢; omega
  have hfreeA := ipcSramFree_ipcSramAlloc info regs _ _ hA
  rw [hs, ← pagenum2pageaddr_of_lt info hsram hs32] at hfreeA
  have hne : info.sram + s * columbusIpcPageSize ≠ 0 := by have := info.sram_pos; omega
  cases hw : sendWait reads fuel (channelBit channel_num) 0 with
  | none =>
    simp only [o, columbusIpcSendMessage, if_neg hlen.ne', hsz, hs, hne, if_false,
      pageaddr2pagenum_page info hs32, hw] at hret
    cases hret
  | some k =>
    have ho : o = ⟨regs, memcpy mem (s * columbusIpcPageSize) message len,
        sendWrites (sendHeader cfg info s len) channel_num ++ [(.ack, channelBit channel_num)],
        true, some len⟩ := by
      simp only [o, columbusIpcSendMessage, if_neg hlen.ne', hsz, hs, hne, if_false,
        pageaddr2pagenum_page info hs32, hw, hfreeA, memcpy_memset, Bool.and_true]
    replace hret : o.ret = some r := hret
    rw [ho] at hret ⊢
    obtain ⟨haddr, hdata0, hdata1⟩ := sendHeader_fields cfg info hs32
      (show len ≤ columbusIpcSramSize by unfold columbusIpcSramSize; omega) hend
    refine ⟨(Option.some.inj hret).symm, rfl, rfl, s, hrun, rfl, haddr, hdata0, ?_,
      fun i hi => memcpy_apply_of_lt _ _ _ hi, fun a ha => memcpy_apply_of_outside _ _ _ ha⟩
    rw [hdata1]
    unfold sharedRamPageNum at hs32
    omega

/-- A hundred bytes sent on channel 0 with every page free, the first read already showing the ack:
the call returns 100 with the status words all free again. -/
theorem columbusIpcSendMessage_returns_100 :
    let o := columbusIpcSendMessage ⟨0, 1⟩ sampleInfo SramRegs.allFree (fun _ => 0) 0
      (fun _ => 7) 100 (-1) (fun _ => 0) 1
    o.ret = some 100 ∧ o.regs = SramRegs.allFree ∧ o.checks = true :=
  have hret : (columbusIpcSendMessage ⟨0, 1⟩ sampleInfo SramRegs.allFree (fun _ => 0) 0
      (fun _ => 7) 100 (-1) (fun _ => 0) 1).ret = some 100 := by decide
  have h := columbusIpcSendMessage_returns ⟨0, 1⟩ sampleInfo SramRegs.allFree (fun _ => 0) 0
    (fun _ => 7) 100 (-1) (fun _ => 0) 1 (by decide) (by decide) (by decide) (by decide) hret
    (by decide)
  ⟨hret, h.2.1, h.2.2.1⟩

/-- A call whose run the allocator places and that finds no room returns `-ENOSPC` having
changed nothing: no register written, no byte of the shared RAM, and the status words as they
were. -/
theorem columbusIpcSendMessage_enospc
    (hret : (columbusIpcSendMessage cfg info regs mem channel_num message len (-1) reads
      fuel).ret = some (-enospc)) :
    let o := columbusIpcSendMessage cfg info regs mem channel_num message len (-1) reads fuel
    o.regs = regs ∧ o.mem = mem ∧ o.writes = [] := by
  intro o
  have hlen : len ≠ 0 := by
    rintro rfl
    simp only [o, columbusIpcSendMessage, if_true, Option.some.injEq] at hret
    cases hret
  have hpa : pagenum2pageaddr info (-1) = 0 := rfl
  by_cases hA : (ipcSramAlloc info regs 0 (sizeToInt len)).2 = 0
  · simp only [o, columbusIpcSendMessage, if_neg hlen, hpa, hA, if_true,
      ipcSramAlloc_null_placed hA, and_self]
  · have hpos := (ipcSramAlloc_ne_zero hA).1
    simp only [o, columbusIpcSendMessage, if_neg hlen, hpa, hA, if_false] at hret
    split at hret
    · cases hret
    · simp only [Option.some.injEq, enospc] at hret
      omega

/-- Every page A7-owned, each 2-bit field `01`: a send of a hundred bytes finds no room. -/
theorem columbusIpcSendMessage_enospc_busy :
    let o := columbusIpcSendMessage ⟨0, 1⟩ sampleInfo ⟨fun _ => 0x55555555#32⟩ (fun _ => 0) 0
      (fun _ => 7) 100 (-1) (fun _ => 0) 1
    o.ret = some (-enospc) ∧ o.regs = ⟨fun _ => 0x55555555#32⟩ ∧ o.mem = (fun _ => 0) ∧
      o.writes = [] :=
  have hret : (columbusIpcSendMessage ⟨0, 1⟩ sampleInfo ⟨fun _ => 0x55555555#32⟩ (fun _ => 0) 0
      (fun _ => 7) 100 (-1) (fun _ => 0) 1).ret = some (-enospc) := by decide
  ⟨hret, columbusIpcSendMessage_enospc ⟨0, 1⟩ sampleInfo _ _ 0 _ 100 _ 1 hret⟩

end Call

end Columbus

end LinuxSampleDriver
