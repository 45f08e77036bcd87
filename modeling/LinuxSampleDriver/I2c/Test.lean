import Mathlib.Data.BitVec
import Mathlib.Data.Int.Bitwise

/-!
# The i2c test driver `i2c-test.c`

The module tests the change to the i2c-pxa adapter that lets a transfer hold several read
messages, and reads that are not last. `i2c_test_repeated_read_write` writes two random blocks of
8 bytes to an STTS2002 EEPROM, at `0x10` with one message and at `0x20` with an offset message and
a data message sent with `I2C_M_NOSTART`, reads both back in one transfer of four messages, and
compares. The comparison it acts on is `cmp_0 | cmp_0`: the second block's `cmp_1` is computed
and never read. Then it saves the whole EEPROM.

The adapter and its devices are an `I2cTransfer` on a state. For the EEPROM (`eepromXfer`), a
write message sets the address pointer from its first byte and writes the rest from there, a
`I2C_M_NOSTART` message writes all its bytes from the pointer, and a read message reads from it;
each read byte passes through a `fault`, the identity on a sound device. On such an EEPROM the
test reads back both blocks through the fault and returns 3 exactly when the first block came
back changed, and 0 otherwise (`eepromTest_eq`): a sound EEPROM passes with both blocks read back
(`eepromTest_sound`), and a fault confined to the second block passes as well
(`eepromTest_second_block_unchecked`). The address is the module parameter, an `unsigned int`:
the test's messages carry its low 16 bits and the save's, through the `uint8_t` argument of
`i2c_test_msg_prepare`, its low 8, so these results are for addresses below 256.
-/

namespace LinuxSampleDriver

namespace I2c

/-- `struct i2c_msg`: `addr` is the `__u16` address, `buf` holds the bytes of a write, and a read
asks for `len` bytes. -/
structure I2cMsg where
  addr : Nat
  flags : Nat
  len : Nat
  buf : List (BitVec 8)
  deriving DecidableEq, Repr

/-- `I2C_M_RD` -/
def i2cMRd : Nat := 0x0001

/-- `I2C_M_NOSTART` -/
def i2cMNostart : Nat := 0x4000

/-- `I2C_M_STOP` -/
def i2cMStop : Nat := 0x8000

/-- `EIO` -/
def eio : Int := 5

/-- `I2C_TEST_EEPROM_SIZE` -/
def i2cTestEepromSize : Nat := 256

/-- `I2C_TEST_RDWR_LENGTH` -/
def i2cTestRdwrLength : Nat := 8

/-- `I2C_RDWR_POS_0` -/
def i2cRdwrPos0 : BitVec 8 := 0x10#8

/-- `I2C_RDWR_POS_1` -/
def i2cRdwrPos1 : BitVec 8 := 0x20#8

/-- `i2c_transfer` on an adapter and its devices in state `σ`: the state after, what it returns,
and the bytes each read message received, in order. -/
abbrev I2cTransfer (σ : Type) := σ → List I2cMsg → σ × Int × List (List (BitVec 8))

/-- `memcmp` over `n` bytes: 0, or the difference of the first two bytes that differ. -/
def memcmp : List (BitVec 8) → List (BitVec 8) → Nat → Int
  | a :: as, b :: bs, n + 1 => if a = b then memcmp as bs n else (a.toNat : Int) - b.toNat
  | _, _, _ => 0

/-- `i2c_test_msg_prepare`: a one-byte write of the offset, then a message of `operation`. Its
`uint8_t` address fits the `__u16` field. -/
def i2cTestMsgPrepare (i2c_dev_addr : Nat) (offset : BitVec 8) (buf : List (BitVec 8))
    (len operation : Nat) : List I2cMsg :=
  [⟨i2c_dev_addr, 0, 1, [offset]⟩, ⟨i2c_dev_addr, operation, len, buf⟩]

/-- `i2c_test_eeprom_save`: the return and the bytes read into `buffer`. It passes the module
parameter `i2c_dev_addr`, an `unsigned int`, as `i2c_test_msg_prepare`'s `uint8_t`: its low 8
bits. -/
def i2cTestEepromSave {σ : Type} (xfer : I2cTransfer σ) (s : σ) (i2c_dev_addr size : Nat) :
    σ × Int × List (BitVec 8) :=
  let r := xfer s (i2cTestMsgPrepare (i2c_dev_addr % 2 ^ 8) 0 [] size i2cMRd)
  (r.1, if r.2.1 ≠ 2 then -eio else 0, r.2.2.headD [])

/-- What `i2c_test_repeated_read_write` returns and leaves in the read buffers and `backup`. -/
structure I2cTestResult where
  ret : Int
  read_buf_0 : List (BitVec 8)
  read_buf_1 : List (BitVec 8)
  backup : List (BitVec 8)
  deriving DecidableEq, Repr

/-- `i2c_test_repeated_read_write`, with the random blocks `write_buf_0` and `write_buf_1`. Its
messages take the low 16 bits of the `unsigned int` `i2c_dev_addr`. -/
def i2cTestRepeatedReadWrite {σ : Type} (xfer : I2cTransfer σ) (s : σ) (i2c_dev_addr : Nat)
    (write_buf_0 write_buf_1 : List (BitVec 8)) : σ × I2cTestResult :=
  let addr := i2c_dev_addr % 2 ^ 16
  let r1 := xfer s [⟨addr, 0, i2cTestRdwrLength + 1, i2cRdwrPos0 :: write_buf_0⟩]
  if r1.2.1 ≠ 1 then (r1.1, ⟨1, [], [], []⟩) else
  let r2 := xfer r1.1 [⟨addr, 0, 1, [i2cRdwrPos1]⟩,
    ⟨addr, i2cMNostart, i2cTestRdwrLength, write_buf_1⟩]
  if r2.2.1 ≠ 2 then (r2.1, ⟨2, [], [], []⟩) else
  let r3 := xfer r2.1 [⟨addr, 0, 1, [i2cRdwrPos0]⟩,
    ⟨addr, i2cMRd ||| i2cMStop, i2cTestRdwrLength, []⟩,
    ⟨addr, 0, 1, [i2cRdwrPos1]⟩, ⟨addr, i2cMRd, i2cTestRdwrLength, []⟩]
  let read_buf_0 := r3.2.2.getD 0 []
  let read_buf_1 := r3.2.2.getD 1 []
  if r3.2.1 ≠ 4 then (r3.1, ⟨4, read_buf_0, read_buf_1, []⟩) else
  let cmp_0 := memcmp write_buf_0 read_buf_0 i2cTestRdwrLength
  -- `cmp_1` is computed and never read
  let _cmp_1 := memcmp write_buf_1 read_buf_1 i2cTestRdwrLength
  if Int.lor cmp_0 cmp_0 ≠ 0 then (r3.1, ⟨3, read_buf_0, read_buf_1, []⟩) else
  let r4 := i2cTestEepromSave xfer r3.1 i2c_dev_addr i2cTestEepromSize
  (r4.1, ⟨r4.2.1, read_buf_0, read_buf_1, r4.2.2⟩)

/-! ## The EEPROM -/

/-- The EEPROM's cells and its address pointer. -/
structure Eeprom where
  mem : Nat → BitVec 8
  ptr : Nat

/-- Bytes written from `ptr` on, the pointer wrapping at the EEPROM's size. -/
def eepromWrite : (Nat → BitVec 8) → Nat → List (BitVec 8) → (Nat → BitVec 8) × Nat
  | mem, ptr, [] => (mem, ptr)
  | mem, ptr, b :: bs =>
    eepromWrite (Function.update mem ptr b) ((ptr + 1) % i2cTestEepromSize) bs

/-- `n` bytes read from `ptr` on, each through `fault`. -/
def eepromRead (fault : Nat → BitVec 8 → BitVec 8) (mem : Nat → BitVec 8) :
    Nat → Nat → List (BitVec 8)
  | _, 0 => []
  | ptr, n + 1 => fault ptr (mem ptr) :: eepromRead fault mem ((ptr + 1) % i2cTestEepromSize) n

/-- The EEPROM's answer to one message: its state after, and the bytes of a read. -/
def eepromMsg (fault : Nat → BitVec 8 → BitVec 8) (e : Eeprom) (m : I2cMsg) :
    Eeprom × List (List (BitVec 8)) :=
  if m.flags &&& i2cMRd ≠ 0 then
    (⟨e.mem, (e.ptr + m.len) % i2cTestEepromSize⟩, [eepromRead fault e.mem e.ptr m.len])
  else if m.flags &&& i2cMNostart ≠ 0 then
    let w := eepromWrite e.mem e.ptr m.buf
    (⟨w.1, w.2⟩, [])
  else
    match m.buf with
    | [] => (e, [])
    | offset :: data =>
      let w := eepromWrite e.mem offset.toNat data
      (⟨w.1, w.2⟩, [])

/-- The messages of one transfer in order. -/
def eepromMsgs (fault : Nat → BitVec 8 → BitVec 8) : Eeprom → List I2cMsg →
    Eeprom × List (List (BitVec 8))
  | e, [] => (e, [])
  | e, m :: ms =>
    let r := eepromMsg fault e m
    let rest := eepromMsgs fault r.1 ms
    (rest.1, r.2 ++ rest.2)

/-- An adapter with the EEPROM at `i2c_dev_addr`: a transfer whose messages all name it completes
them all, and another fails with `-ENXIO`. -/
def eepromXfer (fault : Nat → BitVec 8 → BitVec 8) (i2c_dev_addr : Nat) : I2cTransfer Eeprom :=
  fun e msgs =>
    if msgs.all (fun m => m.addr = i2c_dev_addr) then
      let r := eepromMsgs fault e msgs
      (r.1, msgs.length, r.2)
    else (e, -6, [])

/-- The test run against the EEPROM. -/
def eepromTest (fault : Nat → BitVec 8 → BitVec 8) (e : Eeprom) (i2c_dev_addr : Nat)
    (write_buf_0 write_buf_1 : List (BitVec 8)) : I2cTestResult :=
  (i2cTestRepeatedReadWrite (eepromXfer fault i2c_dev_addr) e i2c_dev_addr write_buf_0
    write_buf_1).2

/-- The bytes `bs` as read back through `fault` from address `p` on. -/
def faultBytes (fault : Nat → BitVec 8 → BitVec 8) : Nat → List (BitVec 8) → List (BitVec 8)
  | _, [] => []
  | p, b :: bs => fault p b :: faultBytes fault (p + 1) bs

@[simp] theorem faultBytes_length (fault : Nat → BitVec 8 → BitVec 8) :
    ∀ (p : Nat) (bs : List (BitVec 8)), (faultBytes fault p bs).length = bs.length
  | _, [] => rfl
  | p, _ :: bs => congrArg Nat.succ (faultBytes_length fault (p + 1) bs)

theorem faultBytes_id : ∀ (p : Nat) (bs : List (BitVec 8)), faultBytes (fun _ b => b) p bs = bs
  | _, [] => rfl
  | p, b :: bs => congrArg (b :: ·) (faultBytes_id (p + 1) bs)

/-- A fault that leaves the cells of `bs` alone leaves the bytes read there alone. -/
theorem faultBytes_of_range {fault : Nat → BitVec 8 → BitVec 8} :
    ∀ (p : Nat) (bs : List (BitVec 8)), (∀ a b, p ≤ a → a < p + bs.length → fault a b = b) →
      faultBytes fault p bs = bs
  | _, [], _ => rfl
  | p, b :: bs, h => by
    simp only [List.length_cons] at h
    rw [faultBytes, h p b le_rfl (by omega),
      faultBytes_of_range (p + 1) bs fun a b h1 h2 => h a b (by omega) (by omega)]

/-! ### Cells and pointer -/

@[simp] theorem eepromWrite_nil (mem : Nat → BitVec 8) (p : Nat) : eepromWrite mem p [] = (mem, p) :=
  rfl

@[simp] theorem i2cRdwrPos0_toNat : i2cRdwrPos0.toNat = 16 := rfl

@[simp] theorem i2cRdwrPos1_toNat : i2cRdwrPos1.toNat = 32 := rfl

/-- A write that stays below the EEPROM's end leaves the cells outside its range alone. -/
theorem eepromWrite_of_not_mem :
    ∀ (mem : Nat → BitVec 8) (p : Nat) (bs : List (BitVec 8)) (a : Nat),
      p + bs.length < i2cTestEepromSize → a < p ∨ p + bs.length ≤ a →
        (eepromWrite mem p bs).1 a = mem a
  | _, _, [], _, _, _ => rfl
  | mem, p, b :: bs, a, hend, ha => by
    simp only [List.length_cons] at hend ha
    rw [eepromWrite, Nat.mod_eq_of_lt (by omega : p + 1 < i2cTestEepromSize),
      eepromWrite_of_not_mem _ (p + 1) bs a (by omega) (by omega),
      Function.update_noteq (by omega)]

theorem eepromWrite_ptr :
    ∀ (mem : Nat → BitVec 8) (p : Nat) (bs : List (BitVec 8)),
      p + bs.length < i2cTestEepromSize → (eepromWrite mem p bs).2 = p + bs.length
  | _, _, [], _ => rfl
  | mem, p, b :: bs, hend => by
    simp only [List.length_cons] at hend
    rw [eepromWrite, Nat.mod_eq_of_lt (by omega : p + 1 < i2cTestEepromSize),
      eepromWrite_ptr _ (p + 1) bs (by omega), List.length_cons]
    omega

/-- Reads see only the cells they cover. -/
theorem eepromRead_congr (fault : Nat → BitVec 8 → BitVec 8) {mem mem' : Nat → BitVec 8} :
    ∀ (p n : Nat), p + n < i2cTestEepromSize → (∀ a, p ≤ a → a < p + n → mem a = mem' a) →
      eepromRead fault mem p n = eepromRead fault mem' p n
  | _, 0, _, _ => rfl
  | p, n + 1, hend, h => by
    rw [eepromRead, eepromRead, Nat.mod_eq_of_lt (by omega : p + 1 < i2cTestEepromSize),
      h p le_rfl (by omega),
      eepromRead_congr fault (p + 1) n (by omega) fun a h1 h2 => h a (by omega) (by omega)]

/-- Reading back what was written gives the bytes through the fault. -/
theorem eepromRead_eepromWrite (fault : Nat → BitVec 8 → BitVec 8) :
    ∀ (mem : Nat → BitVec 8) (p : Nat) (bs : List (BitVec 8)),
      p + bs.length < i2cTestEepromSize →
        eepromRead fault (eepromWrite mem p bs).1 p bs.length = faultBytes fault p bs
  | _, _, [], _ => rfl
  | mem, p, b :: bs, hend => by
    simp only [List.length_cons] at hend
    have hp : (p + 1) % i2cTestEepromSize = p + 1 := Nat.mod_eq_of_lt (by omega)
    rw [List.length_cons, eepromRead, eepromWrite, hp,
      eepromWrite_of_not_mem _ (p + 1) bs p (by omega) (Or.inl (by omega)),
      Function.update_same, eepromRead_eepromWrite fault _ (p + 1) bs (by omega), faultBytes]

/-! ### Messages and transfers -/

section Msg

variable (fault : Nat → BitVec 8 → BitVec 8) (e : Eeprom) (addr len : Nat)

/-- A plain write message sets the pointer from its first byte and writes the rest. -/
theorem eepromMsg_offset (offset : BitVec 8) (data : List (BitVec 8)) :
    eepromMsg fault e ⟨addr, 0, len, offset :: data⟩ =
      (⟨(eepromWrite e.mem offset.toNat data).1, (eepromWrite e.mem offset.toNat data).2⟩, []) := by
  simp [eepromMsg]

/-- An `I2C_M_NOSTART` write continues at the pointer. -/
theorem eepromMsg_nostart (buf : List (BitVec 8)) :
    eepromMsg fault e ⟨addr, i2cMNostart, len, buf⟩ =
      (⟨(eepromWrite e.mem e.ptr buf).1, (eepromWrite e.mem e.ptr buf).2⟩, []) := by
  unfold eepromMsg
  rw [if_neg (show ¬i2cMNostart &&& i2cMRd ≠ 0 by decide),
    if_pos (show i2cMNostart &&& i2cMNostart ≠ 0 by decide)]

/-- A read message reads `len` bytes from the pointer. -/
theorem eepromMsg_read {flags : Nat} (h : flags &&& i2cMRd ≠ 0) (buf : List (BitVec 8)) :
    eepromMsg fault e ⟨addr, flags, len, buf⟩ =
      (⟨e.mem, (e.ptr + len) % i2cTestEepromSize⟩, [eepromRead fault e.mem e.ptr len]) :=
  if_pos h

end Msg

/-- A transfer whose messages all name the EEPROM completes them all. -/
theorem eepromXfer_of_addr (fault : Nat → BitVec 8 → BitVec 8) (e : Eeprom) {addr : Nat}
    {msgs : List I2cMsg} (h : ∀ m ∈ msgs, m.addr = addr) :
    eepromXfer fault addr e msgs =
      ((eepromMsgs fault e msgs).1, (msgs.length : Int), (eepromMsgs fault e msgs).2) := by
  simp only [eepromXfer, List.all_eq_true, decide_eq_true_eq]
  rw [if_pos h]

theorem memcmp_eq_zero_iff : ∀ (as bs : List (BitVec 8)) (n : Nat), as.length = n →
    bs.length = n → (memcmp as bs n = 0 ↔ as = bs)
  | [], [], 0, _, _ => by simp [memcmp]
  | a :: as, b :: bs, n + 1, ha, hb => by
    simp only [List.length_cons, Nat.add_right_cancel_iff] at ha hb
    by_cases hab : a = b
    · simp [memcmp, hab, memcmp_eq_zero_iff as bs n ha hb]
    · have hne : (a.toNat : Int) - b.toNat ≠ 0 := fun h => hab (BitVec.eq_of_toNat_eq (by omega))
      simp [memcmp, hab, hne]

theorem lor_self (x : Int) : Int.lor x x = x := by
  cases x <;> simp [Int.lor]

/-- The three transfers of the test and the save, on the EEPROM: the two blocks are written at
`0x10` and `0x20`, read back through the fault, and the whole EEPROM is read from 0. -/
theorem eepromTest_transfers (fault : Nat → BitVec 8 → BitVec 8) (e : Eeprom) (addr : Nat)
    {write_buf_0 write_buf_1 : List (BitVec 8)} (h0 : write_buf_0.length = 8)
    (h1 : write_buf_1.length = 8) :
    eepromXfer fault addr e
        [⟨addr, 0, i2cTestRdwrLength + 1, i2cRdwrPos0 :: write_buf_0⟩] =
      (⟨(eepromWrite e.mem 16 write_buf_0).1, 24⟩, 1, []) ∧
    eepromXfer fault addr ⟨(eepromWrite e.mem 16 write_buf_0).1, 24⟩
        [⟨addr, 0, 1, [i2cRdwrPos1]⟩, ⟨addr, i2cMNostart, i2cTestRdwrLength, write_buf_1⟩] =
      (⟨(eepromWrite (eepromWrite e.mem 16 write_buf_0).1 32 write_buf_1).1, 40⟩, 2, []) := by
  refine ⟨?_, ?_⟩
  · rw [eepromXfer_of_addr fault e (by simp)]
    simp only [eepromMsgs, eepromMsg_offset, List.append_nil, List.length_singleton]
    rw [i2cRdwrPos0_toNat, eepromWrite_ptr _ _ _ (by rw [h0]; decide)]
    simp [h0]
  · rw [eepromXfer_of_addr fault _ (by simp)]
    simp only [eepromMsgs, eepromMsg_offset, eepromMsg_nostart, List.append_nil, eepromWrite_nil,
      i2cRdwrPos1_toNat]
    rw [eepromWrite_ptr _ _ _ (by rw [h1]; decide)]
    simp [h1]

/-- The read-back transfer and the save, on any cells: each read message reads from the offset the
message before it set. -/
theorem eepromTest_reads (fault : Nat → BitVec 8 → BitVec 8) (mem : Nat → BitVec 8)
    (ptr addr : Nat) :
    eepromXfer fault addr ⟨mem, ptr⟩
        [⟨addr, 0, 1, [i2cRdwrPos0]⟩, ⟨addr, i2cMRd ||| i2cMStop, i2cTestRdwrLength, []⟩,
          ⟨addr, 0, 1, [i2cRdwrPos1]⟩, ⟨addr, i2cMRd, i2cTestRdwrLength, []⟩] =
      (⟨mem, 40⟩, 4, [eepromRead fault mem 16 8, eepromRead fault mem 32 8]) ∧
    eepromXfer fault addr ⟨mem, ptr⟩ (i2cTestMsgPrepare addr 0 [] i2cTestEepromSize i2cMRd) =
      (⟨mem, 0⟩, 2, [eepromRead fault mem 0 256]) := by
  refine ⟨?_, ?_⟩ <;> rw [eepromXfer_of_addr fault _ (by simp [i2cTestMsgPrepare])] <;>
    simp only [eepromMsgs, i2cTestMsgPrepare, eepromMsg_offset, eepromWrite_nil,
      eepromMsg_read fault _ _ _ (show (i2cMRd ||| i2cMStop) &&& i2cMRd ≠ 0 by decide),
      eepromMsg_read fault _ _ _ (show i2cMRd &&& i2cMRd ≠ 0 by decide)] <;> rfl

/-! ## What the test finds -/

/-- On the EEPROM the test reads both blocks back through the fault, and its verdict reads only
the first: it returns 3 when the first block came back changed, and otherwise saves the EEPROM and
returns 0, whatever the second block came back as. -/
theorem eepromTest_eq (fault : Nat → BitVec 8 → BitVec 8) (e : Eeprom) {i2c_dev_addr : Nat}
    (haddr : i2c_dev_addr < 2 ^ 8) {write_buf_0 write_buf_1 : List (BitVec 8)}
    (h0 : write_buf_0.length = 8)
    (h1 : write_buf_1.length = 8) :
    eepromTest fault e i2c_dev_addr write_buf_0 write_buf_1 =
      if faultBytes fault 16 write_buf_0 = write_buf_0 then
        ⟨0, faultBytes fault 16 write_buf_0, faultBytes fault 32 write_buf_1,
          eepromRead fault (eepromWrite (eepromWrite e.mem 16 write_buf_0).1 32 write_buf_1).1 0
            256⟩
      else ⟨3, faultBytes fault 16 write_buf_0, faultBytes fault 32 write_buf_1, []⟩ := by
  obtain ⟨hx1, hx2⟩ := eepromTest_transfers fault e i2c_dev_addr h0 h1
  obtain ⟨hx3, hx4⟩ := eepromTest_reads fault
    (eepromWrite (eepromWrite e.mem 16 write_buf_0).1 32 write_buf_1).1 40 i2c_dev_addr
  have hr0 : eepromRead fault (eepromWrite (eepromWrite e.mem 16 write_buf_0).1 32 write_buf_1).1
      16 8 = faultBytes fault 16 write_buf_0 := by
    rw [eepromRead_congr fault 16 8 (by decide) fun a _ ha =>
      eepromWrite_of_not_mem _ 32 write_buf_1 a (by rw [h1]; decide) (Or.inl (by omega))]
    simpa only [h0] using eepromRead_eepromWrite fault e.mem 16 write_buf_0 (by rw [h0]; decide)
  have hr1 : eepromRead fault (eepromWrite (eepromWrite e.mem 16 write_buf_0).1 32 write_buf_1).1
      32 8 = faultBytes fault 32 write_buf_1 := by
    simpa only [h1] using eepromRead_eepromWrite fault _ 32 write_buf_1 (by rw [h1]; decide)
  have hcmp : memcmp write_buf_0 (faultBytes fault 16 write_buf_0) i2cTestRdwrLength = 0 ↔
      faultBytes fault 16 write_buf_0 = write_buf_0 :=
    (memcmp_eq_zero_iff _ _ _ h0 (by rw [faultBytes_length, h0])).trans eq_comm
  have h16 : i2c_dev_addr % 2 ^ 16 = i2c_dev_addr := Nat.mod_eq_of_lt (by omega)
  have h8 : i2c_dev_addr % 2 ^ 8 = i2c_dev_addr := Nat.mod_eq_of_lt haddr
  unfold eepromTest i2cTestRepeatedReadWrite i2cTestEepromSave
  simp only [h16, h8, hx1, hx2, hx3, hx4, hr0, hr1, lor_self, ne_eq, not_true_eq_false, if_false,
    List.getD_cons_zero, List.getD_cons_succ, List.headD_cons, hcmp]
  split_ifs <;> rfl

/-- At an address that fits the `uint8_t` of `i2c_test_msg_prepare`, a sound EEPROM passes, with
both blocks read back as written. -/
theorem eepromTest_sound (e : Eeprom) {i2c_dev_addr : Nat} (haddr : i2c_dev_addr < 2 ^ 8)
    {write_buf_0 write_buf_1 : List (BitVec 8)} (h0 : write_buf_0.length = 8)
    (h1 : write_buf_1.length = 8) :
    eepromTest (fun _ b => b) e i2c_dev_addr write_buf_0 write_buf_1 =
      ⟨0, write_buf_0, write_buf_1,
        eepromRead (fun _ b => b) (eepromWrite (eepromWrite e.mem 16 write_buf_0).1 32 write_buf_1).1
          0 256⟩ := by
  rw [eepromTest_eq _ _ haddr h0 h1, faultBytes_id, faultBytes_id, if_pos rfl]

/-- A sound EEPROM of zeros at address `0x53`, with two blocks of eight bytes. -/
theorem eepromTest_sound_zeros :
    eepromTest (fun _ b => b) ⟨fun _ => 0#8, 0⟩ 0x53 [1, 2, 3, 4, 5, 6, 7, 8]
        [9, 10, 11, 12, 13, 14, 15, 16] =
      ⟨0, [1, 2, 3, 4, 5, 6, 7, 8], [9, 10, 11, 12, 13, 14, 15, 16],
        eepromRead (fun _ b => b) (eepromWrite (eepromWrite (fun _ => 0#8) 16
          [1, 2, 3, 4, 5, 6, 7, 8]).1 32 [9, 10, 11, 12, 13, 14, 15, 16]).1 0 256⟩ :=
  eepromTest_sound _ (by decide) rfl rfl

/-- Since the verdict tests `cmp_0 | cmp_0`, an EEPROM whose faults all lie at or after the
second block passes the test, whatever it returned for that block. -/
theorem eepromTest_second_block_unchecked {fault : Nat → BitVec 8 → BitVec 8}
    (hfault : ∀ a b, a < 0x20 → fault a b = b) (e : Eeprom) {i2c_dev_addr : Nat}
    (haddr : i2c_dev_addr < 2 ^ 8) {write_buf_0 write_buf_1 : List (BitVec 8)}
    (h0 : write_buf_0.length = 8)
    (h1 : write_buf_1.length = 8) :
    (eepromTest fault e i2c_dev_addr write_buf_0 write_buf_1).ret = 0 ∧
      (eepromTest fault e i2c_dev_addr write_buf_0 write_buf_1).read_buf_0 = write_buf_0 ∧
      (eepromTest fault e i2c_dev_addr write_buf_0 write_buf_1).read_buf_1 =
        faultBytes fault 32 write_buf_1 := by
  have hb0 : faultBytes fault 16 write_buf_0 = write_buf_0 :=
    faultBytes_of_range 16 write_buf_0 fun a b _ ha => hfault a b (by omega)
  rw [eepromTest_eq _ _ haddr h0 h1, if_pos hb0]
  exact ⟨rfl, hb0, rfl⟩

/-- An EEPROM whose cell `0x20`, the first of the second block, reads as 0. -/
theorem eepromTest_second_block_unchecked_cell20 :
    let fault : Nat → BitVec 8 → BitVec 8 := fun a b => if a = 0x20 then 0#8 else b
    (eepromTest fault ⟨fun _ => 0#8, 0⟩ 0x53 [1, 2, 3, 4, 5, 6, 7, 8]
        [9, 10, 11, 12, 13, 14, 15, 16]).ret = 0 ∧
      (eepromTest fault ⟨fun _ => 0#8, 0⟩ 0x53 [1, 2, 3, 4, 5, 6, 7, 8]
        [9, 10, 11, 12, 13, 14, 15, 16]).read_buf_0 = [1, 2, 3, 4, 5, 6, 7, 8] ∧
      (eepromTest fault ⟨fun _ => 0#8, 0⟩ 0x53 [1, 2, 3, 4, 5, 6, 7, 8]
        [9, 10, 11, 12, 13, 14, 15, 16]).read_buf_1 =
        faultBytes fault 32 [9, 10, 11, 12, 13, 14, 15, 16] :=
  eepromTest_second_block_unchecked (fun _ _ ha => if_neg (Nat.ne_of_lt ha)) _ (by decide) rfl rfl

/-- An EEPROM whose cell `0x20` reads as 0 passes, though the second block came back changed. -/
example : (eepromTest (fun a b => if a = 0x20 then 0#8 else b) ⟨fun _ => 0#8, 0⟩ 0x53
      [1#8, 2#8, 3#8, 4#8, 5#8, 6#8, 7#8, 8#8] [9#8, 10#8, 11#8, 12#8, 13#8, 14#8, 15#8, 16#8]).ret =
      0 ∧
    (eepromTest (fun a b => if a = 0x20 then 0#8 else b) ⟨fun _ => 0#8, 0⟩ 0x53
      [1#8, 2#8, 3#8, 4#8, 5#8, 6#8, 7#8, 8#8]
      [9#8, 10#8, 11#8, 12#8, 13#8, 14#8, 15#8, 16#8]).read_buf_1 ≠
      [9#8, 10#8, 11#8, 12#8, 13#8, 14#8, 15#8, 16#8] := by decide

end I2c

end LinuxSampleDriver
