import Mathlib.Data.BitVec

/-!
# Shared-RAM page ownership

The Columbus IPC block splits its 32 KiB shared RAM into 32 pages of 1 KiB. Each page belongs to
one of four parties, recorded in a 2-bit field: pages 0 to 15 in the status word `SRMSEL0`, pages
16 to 31 in `SRMSEL1`. The A7 reads a page's owner with `get_sram_page_ownership` and asks for a
change by writing a request word to the page's `A7SRPnnREQ` register.

`SramRegs` holds the status words as the A7 reads them, indexed the way the code computes the
register address (`SRMSEL0 + 4 * srmsel`): a page past 31 reads whichever register follows
`SRMSEL1`. `SramRegs.request` is the hardware side, the semaphore applying a request of the A7 to
the page's field and leaving every other bit alone. Two status maps are equal as soon as they agree
on every page and on the words past `SRMSEL1` (`SramRegs.ext_of_getSramPageOwnership`), which is
how the round-trip results of `Alloc` end in bit-for-bit equality.
-/

namespace LinuxSampleDriver

namespace Columbus

/-- `SHARED_RAM_PAGE_NUM`. -/
def sharedRamPageNum : Nat := 32

/-- `COLUMBUS_IPC_SRAM_SIZE`: 32 KiB of shared RAM. -/
def columbusIpcSramSize : Nat := 0x8000

/-- `COLUMBUS_IPC_PAGE_SIZE`: 1 KiB per page. -/
def columbusIpcPageSize : Nat := 0x400

/-- `enum ownership`: who holds a shared-RAM page. -/
inductive Ownership
  | free
  | a7
  | rf
  | plc
  deriving DecidableEq, Repr

namespace Ownership

/-- The enumerator's value, which is what the hardware keeps in the 2-bit field. -/
def toNat : Ownership → Nat
  | free => 0
  | a7 => 1
  | rf => 2
  | plc => 3

/-- The cast `(enum ownership)` of a decoded field. -/
def ofField : Nat → Ownership
  | 0 => free
  | 1 => a7
  | 2 => rf
  | _ => plc

@[simp] theorem ofField_toNat (o : Ownership) : ofField o.toNat = o := by
  cases o <;> rfl

theorem toNat_lt (o : Ownership) : o.toNat < 4 := by
  cases o <;> decide

theorem ofField_inj {m n : Nat} (hm : m < 4) (hn : n < 4) (h : ofField m = ofField n) : m = n := by
  match m, n, hm, hn with
  | 0, 0, _, _ | 1, 1, _, _ | 2, 2, _, _ | 3, 3, _, _ => rfl
  | 0, 1, _, _ | 0, 2, _, _ | 0, 3, _, _ | 1, 0, _, _ | 1, 2, _, _ | 1, 3, _, _
  | 2, 0, _, _ | 2, 1, _, _ | 2, 3, _, _ | 3, 0, _, _ | 3, 1, _, _ | 3, 2, _, _ => cases h

end Ownership

/-! ## The 2-bit fields of a status word -/

/-- The field of page `bit_position` in a status word, decoded as `get_sram_page_ownership` does:
`(status >> (bit_position << 1)) & 0x3`. -/
def pageField (status : BitVec 32) (bit_position : Nat) : BitVec 32 :=
  (status >>> (bit_position <<< 1)) &&& 3#32

/-- The status word with the field of page `bit_position` replaced by the low two bits of `v`. -/
def setPageField (status : BitVec 32) (bit_position : Nat) (v : BitVec 32) : BitVec 32 :=
  (status &&& ~~~(3#32 <<< (bit_position <<< 1))) ||| ((v &&& 3#32) <<< (bit_position <<< 1))

theorem getLsbD_three (n i : Nat) : (BitVec.ofNat n 3).getLsbD i = (decide (i < n) && decide (i < 2)) := by
  rw [BitVec.getLsbD_ofNat]
  rcases i with _ | _ | i
  · rfl
  · rfl
  · rw [Nat.testBit_lt_two_pow]
    · simp
    · calc 3 < 2 ^ 2 := by decide
        _ ≤ 2 ^ (i + 1 + 1) := Nat.pow_le_pow_right (by decide) (by omega)

/-- Bit `j` of a field is bit `2 * bit_position + j` of the word. -/
theorem getLsbD_pageField (status : BitVec 32) (bit_position : Nat)
    (j : Nat) :
    (pageField status bit_position).getLsbD j =
      (status.getLsbD (bit_position * 2 + j) && decide (j < 2)) := by
  simp only [pageField, BitVec.getLsbD_and, BitVec.getLsbD_ushiftRight, Nat.shiftLeft_eq,
    getLsbD_three, pow_one]
  by_cases hj : j < 2
  · simp [hj, show j < 32 by omega]
  · simp [hj]

theorem pageField_setPageField (status v : BitVec 32) {b c : Nat} (hb : b < 16) (hc : c < 16) :
    pageField (setPageField status b v) c = if c = b then v &&& 3#32 else pageField status c := by
  apply BitVec.eq_of_getLsbD_eq
  intro i
  simp only [pageField, setPageField, BitVec.getLsbD_and, BitVec.getLsbD_ushiftRight,
    BitVec.getLsbD_or, BitVec.getLsbD_not, BitVec.getLsbD_shiftLeft, Nat.shiftLeft_eq,
    getLsbD_three, pow_one]
  have hi32 := i.isLt
  by_cases hi : (i : Nat) < 2
  · have h1 : c * 2 + ↑i < 32 := by omega
    split_ifs with h
    · subst h
      have h2 : ¬ (c * 2 + ↑i < c * 2) := by omega
      have h3 : c * 2 + ↑i - c * 2 = i := by omega
      simp [h1, h2, h3, hi, BitVec.getLsbD_and, getLsbD_three]
    · rcases (by omega : c * 2 + ↑i < b * 2 ∨ 2 ≤ c * 2 + ↑i - b * 2) with h4 | h4
      · simp [h1, h4, hi, getLsbD_three]
      · simp [h1, Nat.not_lt.mpr h4, hi, getLsbD_three]
  · split_ifs <;> simp [hi, BitVec.getLsbD_and, getLsbD_three]

theorem pageField_toNat_lt (status : BitVec 32) (b : Nat) : (pageField status b).toNat < 4 := by
  simp only [pageField, BitVec.toNat_and]
  exact Nat.lt_of_le_of_lt Nat.and_le_right (by decide)

/-- A status word is determined by its sixteen fields. -/
theorem eq_of_pageField_eq {w w' : BitVec 32} (h : ∀ b, b < 16 → pageField w b = pageField w' b) :
    w = w' := by
  apply BitVec.eq_of_getLsbD_eq
  intro i
  have hi := i.isLt
  have hsplit : (i : Nat) = i / 2 * 2 + i % 2 := by omega
  have hw := getLsbD_pageField w (i / 2) (i % 2)
  have hw' := getLsbD_pageField w' (i / 2) (i % 2)
  rw [h (i / 2) (by omega), ← hsplit] at hw
  rw [← hsplit] at hw'
  have hlt : decide ((i : Nat) % 2 < 2) = true := by simp [Nat.mod_lt]
  rw [hlt, Bool.and_true] at hw hw'
  rw [← hw, hw']

/-! ## The status registers -/

/-- The ownership status words: `srmsel k` is the word at `SRMSEL0 + 4 * k`, so `srmsel 0` is
`SRMSEL0` and `srmsel 1` is `SRMSEL1`. -/
@[ext] structure SramRegs where
  srmsel : Nat → BitVec 32

/-- `get_sram_page_ownership`: the owner of `page_num` as its status word records it. -/
def getSramPageOwnership (regs : SramRegs) (page_num : Nat) : Ownership :=
  let srmsel := page_num / 16
  let bit_position := page_num % 16
  let status := regs.srmsel srmsel
  Ownership.ofField (pageField status bit_position).toNat

/-- The shared-RAM semaphore taking the A7 request word `(A7_REQ_KEY << 4) | o` written to
`A7SRP00REQ + page_num * 4`: the page's field becomes `o`, the value in the word's low two bits.
A page past 31 has no field (the write lands past `A7SRP31REQ`) and nothing changes. -/
def SramRegs.request (regs : SramRegs) (page_num : Nat) (o : Ownership) : SramRegs :=
  if page_num < sharedRamPageNum then
    ⟨Function.update regs.srmsel (page_num / 16)
      (setPageField (regs.srmsel (page_num / 16)) (page_num % 16) (BitVec.ofNat 32 o.toNat))⟩
  else regs

/-- Every page free: both status words zero. -/
def SramRegs.allFree : SramRegs := ⟨fun _ => 0#32⟩

theorem SramRegs.request_of_le (regs : SramRegs) {page_num : Nat}
    (h : sharedRamPageNum ≤ page_num) (o : Ownership) : regs.request page_num o = regs := by
  simp only [SramRegs.request, if_neg (Nat.not_lt.mpr h)]

/-- A request changes no word past `SRMSEL1`. -/
theorem SramRegs.request_srmsel_of_two_le (regs : SramRegs) (page_num : Nat) (o : Ownership)
    {k : Nat} (hk : 2 ≤ k) : (regs.request page_num o).srmsel k = regs.srmsel k := by
  unfold SramRegs.request
  split_ifs with h
  · simp only [sharedRamPageNum] at h
    exact Function.update_noteq (by omega) _ _
  · rfl

/-- A request of the A7 sets the owner of its page and of no other. -/
theorem getSramPageOwnership_request (regs : SramRegs) {page_num : Nat} (o : Ownership)
    (h : page_num < sharedRamPageNum) (q : Nat) :
    getSramPageOwnership (regs.request page_num o) q =
      if q = page_num then o else getSramPageOwnership regs q := by
  simp only [SramRegs.request, if_pos h, getSramPageOwnership]
  simp only [sharedRamPageNum] at h
  by_cases hw : q / 16 = page_num / 16
  · rw [hw, Function.update_same,
      pageField_setPageField _ _ (Nat.mod_lt _ (by decide)) (Nat.mod_lt _ (by decide))]
    by_cases hq : q = page_num
    · have hv : (BitVec.ofNat 32 o.toNat &&& 3#32).toNat = o.toNat := by
        rw [BitVec.toNat_and, BitVec.toNat_ofNat, Nat.mod_eq_of_lt (by have := o.toNat_lt; omega)]
        exact Nat.and_pow_two_sub_one_of_lt_two_pow (show o.toNat < 2 ^ 2 from o.toNat_lt)
      simp [hq, hv]
    · rw [if_neg (by omega), if_neg hq]
  · rw [Function.update_noteq hw, if_neg (fun hq => hw (by rw [hq]))]

/-- Two status maps agreeing on every page and on the words past `SRMSEL1` are equal. -/
theorem SramRegs.ext_of_getSramPageOwnership {r r' : SramRegs}
    (hpage : ∀ p, p < sharedRamPageNum → getSramPageOwnership r p = getSramPageOwnership r' p)
    (hword : ∀ k, 2 ≤ k → r.srmsel k = r'.srmsel k) : r = r' := by
  ext1
  funext k
  by_cases hk : 2 ≤ k
  · exact hword k hk
  apply eq_of_pageField_eq
  intro b hb
  have h := hpage (k * 16 + b) (by simp only [sharedRamPageNum]; omega)
  simp only [getSramPageOwnership] at h
  rw [show (k * 16 + b) / 16 = k by omega, show (k * 16 + b) % 16 = b by omega] at h
  exact BitVec.eq_of_toNat_eq
    (Ownership.ofField_inj (pageField_toNat_lt _ _) (pageField_toNat_lt _ _) h)

end Columbus

end LinuxSampleDriver
