import Mathlib.Order.Bounds.Basic
import LinuxSampleDriver.Columbus.Ownership

/-!
# Grabbing, releasing and finding shared-RAM pages

The page-level half of the shared-RAM allocator: `grab_one_sram_page` and
`release_one_sram_page` on one page, the loops of `try_to_grab_sram_pages` and `free_sram_pages`
over a run, and the scan of `find_consecutive_free_sram_pages` over the 64-bit word built from
both status registers.

Each function has one spec lemma stating everything a call does, and the later proofs cite these
instead of unfolding the code. The grab loop stops at the first page it cannot take, so its spec
is stated for the prefix it did take; nothing releases that prefix again, which is the leak of
`Alloc`. The scan is specified by the invariant of its loop (`FindInv`): the pages counted so far
are free and end at the current index.
-/

namespace LinuxSampleDriver

namespace Columbus

/-! ## One page -/

/-- `grab_one_sram_page`: the status words after the call and whether the page was taken (the
code's `return 1`). -/
def grabOneSramPage (regs : SramRegs) (page_num : Nat) : SramRegs × Bool :=
  if getSramPageOwnership regs page_num ≠ .free then (regs, false)
  else
    let regs := regs.request page_num .a7
    (regs, getSramPageOwnership regs page_num = .a7)

/-- `release_one_sram_page`: the status words after the call, and whether its two `IPC_BUG`
checks held (the page was the A7's before the request and is free after it), together with the
range checks of the two `get_sram_page_ownership` calls. -/
def releaseOneSramPage (regs : SramRegs) (page_num : Nat) : SramRegs × Bool :=
  let status := getSramPageOwnership regs page_num
  let regs' := regs.request page_num .free
  let status' := getSramPageOwnership regs' page_num
  (regs', decide (page_num < sharedRamPageNum) && status == .a7 && status' == .free)

/-- A free page in range is taken; any other page is refused and nothing changes. -/
theorem grabOneSramPage_eq (regs : SramRegs) (page_num : Nat) :
    grabOneSramPage regs page_num =
      if page_num < sharedRamPageNum ∧ getSramPageOwnership regs page_num = .free then
        (regs.request page_num .a7, true)
      else (regs, false) := by
  unfold grabOneSramPage
  by_cases hfree : getSramPageOwnership regs page_num = .free
  · by_cases hp : page_num < sharedRamPageNum
    · simp only [hfree, hp, getSramPageOwnership_request _ _ hp]
      simp
    · simp only [SramRegs.request_of_le regs (Nat.not_lt.mp hp), hfree, hp]
      simp
  · simp [hfree]

theorem releaseOneSramPage_eq (regs : SramRegs) {page_num : Nat}
    (hp : page_num < sharedRamPageNum) :
    releaseOneSramPage regs page_num =
      (regs.request page_num .free, getSramPageOwnership regs page_num == .a7) := by
  simp [releaseOneSramPage, hp, getSramPageOwnership_request _ _ hp]

/-! ## The grab and release loops -/

/-- The loop of `try_to_grab_sram_pages` over `page_num`, `page_num + 1`, ...: the status words
and the loop's final `i`, the number of pages taken before the first refusal. -/
def grabSramPages (regs : SramRegs) (page_num : Nat) : Nat → SramRegs × Nat
  | 0 => (regs, 0)
  | npages + 1 =>
    match grabOneSramPage regs page_num with
    | (regs, true) =>
      let r := grabSramPages regs (page_num + 1) npages
      (r.1, r.2 + 1)
    | (regs, false) => (regs, 0)

/-- The loop of `free_sram_pages`: the status words, and whether every `release_one_sram_page`
call passed its checks. -/
def freeSramPages (regs : SramRegs) (page_num : Nat) : Nat → SramRegs × Bool
  | 0 => (regs, true)
  | npages + 1 =>
    let r := releaseOneSramPage regs page_num
    let r' := freeSramPages r.1 (page_num + 1) npages
    (r'.1, r.2 && r'.2)

/-- The status map after the pages `page_num, ..., page_num + n - 1` were set to `o`, read page by
page. -/
def RunSet (regs regs' : SramRegs) (page_num n : Nat) (o : Ownership) : Prop :=
  (∀ q, getSramPageOwnership regs' q =
    if page_num ≤ q ∧ q < page_num + n then o else getSramPageOwnership regs q) ∧
  ∀ k, 2 ≤ k → regs'.srmsel k = regs.srmsel k

theorem RunSet.zero (regs : SramRegs) (page_num : Nat) (o : Ownership) :
    RunSet regs regs page_num 0 o :=
  ⟨fun q => by simp only [Nat.add_zero]; rw [if_neg (by omega)], fun _ _ => rfl⟩

/-- Setting the first page by a request and the rest of the run after it sets the whole run. -/
theorem RunSet.cons {regs regs' : SramRegs} {page_num n : Nat} {o : Ownership}
    (hp : page_num < sharedRamPageNum)
    (h : RunSet (regs.request page_num o) regs' (page_num + 1) n o) :
    RunSet regs regs' page_num (n + 1) o := by
  refine ⟨fun q => ?_, fun k hk => (h.2 k hk).trans (regs.request_srmsel_of_two_le _ _ hk)⟩
  rw [h.1 q, getSramPageOwnership_request regs o hp]
  by_cases hq : q = page_num
  · simp [hq]
  · by_cases hr : page_num + 1 ≤ q ∧ q < page_num + 1 + n
    · rw [if_pos hr, if_pos (by omega)]
    · rw [if_neg hr, if_neg hq, if_neg (by omega)]

/-- What the grab loop does: it takes the longest prefix of the run whose pages are in range and
free, and stops at the page after it. -/
theorem grabSramPages_spec (regs : SramRegs) (page_num npages : Nat) :
    let r := grabSramPages regs page_num npages
    r.2 ≤ npages ∧
      (∀ k, k < r.2 → page_num + k < sharedRamPageNum ∧
        getSramPageOwnership regs (page_num + k) = .free) ∧
      (r.2 < npages → ¬ (page_num + r.2 < sharedRamPageNum ∧
        getSramPageOwnership regs (page_num + r.2) = .free)) ∧
      RunSet regs r.1 page_num r.2 .a7 := by
  induction npages generalizing regs page_num with
  | zero => exact ⟨le_rfl, fun _ h => absurd h (Nat.not_lt_zero _), fun h => absurd h (by omega),
      RunSet.zero _ _ _⟩
  | succ n ih =>
    by_cases hg : page_num < sharedRamPageNum ∧ getSramPageOwnership regs page_num = .free
    · have hstep : grabSramPages regs page_num (n + 1) =
          ((grabSramPages (regs.request page_num .a7) (page_num + 1) n).1,
            (grabSramPages (regs.request page_num .a7) (page_num + 1) n).2 + 1) := by
        simp only [grabSramPages, grabOneSramPage_eq, if_pos hg]
      obtain ⟨hle, hfree, hstop, hset⟩ := ih (regs.request page_num .a7) (page_num + 1)
      rw [hstep]
      generalize grabSramPages (regs.request page_num .a7) (page_num + 1) n = r at hle hfree hstop hset
      have hold : ∀ k, getSramPageOwnership (regs.request page_num .a7) (page_num + 1 + k) =
          getSramPageOwnership regs (page_num + (k + 1)) := fun k => by
        rw [getSramPageOwnership_request _ _ hg.1, if_neg (by omega), Nat.add_right_comm,
          Nat.add_assoc]
      refine ⟨by omega, fun k hk => ?_, fun hlt => ?_, RunSet.cons hg.1 hset⟩
      · rcases k with _ | k
        · exact hg
        · have := hfree k (by omega)
          rw [hold] at this
          exact ⟨by omega, this.2⟩
      · have := hstop (by omega)
        rwa [hold, Nat.add_assoc, Nat.add_comm 1] at this
    · have hstep : grabSramPages regs page_num (n + 1) = (regs, 0) := by
        simp only [grabSramPages, grabOneSramPage_eq, if_neg hg]
      rw [hstep]
      exact ⟨Nat.zero_le _, fun _ h => absurd h (Nat.not_lt_zero _), fun _ => hg,
        RunSet.zero _ _ _⟩

/-- What the release loop does on a run inside the shared RAM: every page of it becomes free,
and the checks pass exactly when every page was the A7's. -/
theorem freeSramPages_spec (regs : SramRegs) (page_num npages : Nat)
    (hrun : page_num + npages ≤ sharedRamPageNum) :
    let r := freeSramPages regs page_num npages
    RunSet regs r.1 page_num npages .free ∧
      (r.2 = true ↔ ∀ k, k < npages → getSramPageOwnership regs (page_num + k) = .a7) := by
  induction npages generalizing regs page_num with
  | zero => exact ⟨RunSet.zero _ _ _, by simp [freeSramPages]⟩
  | succ n ih =>
    have hp : page_num < sharedRamPageNum := by omega
    obtain ⟨hset, hok⟩ := ih (regs.request page_num .free) (page_num + 1) (by omega)
    have hold : ∀ k, getSramPageOwnership (regs.request page_num .free) (page_num + 1 + k) =
        getSramPageOwnership regs (page_num + 1 + k) := fun k => by
      rw [getSramPageOwnership_request _ _ hp, if_neg (by omega)]
    simp only [freeSramPages, releaseOneSramPage_eq regs hp]
    refine ⟨RunSet.cons hp hset, ?_⟩
    rw [Bool.and_eq_true, hok, beq_iff_eq]
    constructor
    · rintro ⟨h0, hrest⟩ k hk
      rcases k with _ | k
      · exact h0
      · rw [show page_num + (k + 1) = page_num + 1 + k by omega, ← hold]
        exact hrest k (by omega)
    · intro h
      exact ⟨h 0 (by omega), fun k hk => by
        rw [hold, show page_num + 1 + k = page_num + (k + 1) by omega]; exact h (k + 1) (by omega)⟩

/-! ## The scan for a free run -/

/-- The 64-bit status that `find_consecutive_free_sram_pages` scans: `SRMSEL1` above `SRMSEL0`. -/
def sramOwnershipStatus (regs : SramRegs) : BitVec 64 :=
  ((regs.srmsel 1).setWidth 64 <<< 32) ||| (regs.srmsel 0).setWidth 64

/-- The owner of page `i` as the scan decodes it: `sram_ownership_status >> (i * 2) & 0x3`. -/
def scanPageStatus (status : BitVec 64) (i : Nat) : Ownership :=
  Ownership.ofField ((status >>> (i * 2)) &&& 3#64).toNat

/-- The scan loop of `find_consecutive_free_sram_pages` at index `i` with `fuel` iterations left,
its running `count` and `start` (`none` for `-1`); it breaks once `count` reaches `npages`. -/
def findLoop (status : BitVec 64) (npages : Nat) :
    (fuel i count : Nat) → Option Nat → Nat × Option Nat
  | 0, _, count, start => (count, start)
  | fuel + 1, i, count, start =>
    if scanPageStatus status i = .free then
      if count + 1 ≥ npages then (count + 1, some (start.getD i))
      else findLoop status npages fuel (i + 1) (count + 1) (some (start.getD i))
    else findLoop status npages fuel (i + 1) 0 none

/-- `find_consecutive_free_sram_pages`: the start of a run of `npages` free pages, if the scan
ends with `count == npages`. With `npages = 0`, which no caller passes, the code would report
success with start `-1` when no page is free; that case is folded into `none`. -/
def findConsecutiveFreeSramPages (regs : SramRegs) (npages : Nat) : Option Nat :=
  let r := findLoop (sramOwnershipStatus regs) npages 32 0 0 none
  if r.1 = npages then r.2 else none

/-- The scan's decoding of the 64-bit word agrees with `get_sram_page_ownership` on every page. -/
theorem scanPageStatus_eq (regs : SramRegs) {i : Nat} (hi : i < sharedRamPageNum) :
    scanPageStatus (sramOwnershipStatus regs) i = getSramPageOwnership regs i := by
  unfold sharedRamPageNum at hi
  have hbits : (sramOwnershipStatus regs >>> (i * 2)) &&& 3#64 =
      (pageField (regs.srmsel (i / 16)) (i % 16)).setWidth 64 := by
    apply BitVec.eq_of_getLsbD_eq
    intro j
    rw [BitVec.getLsbD_setWidth, getLsbD_pageField]
    simp only [sramOwnershipStatus, BitVec.getLsbD_and, BitVec.getLsbD_ushiftRight,
      BitVec.getLsbD_or, BitVec.getLsbD_shiftLeft, BitVec.getLsbD_setWidth, getLsbD_three]
    have hj := j.isLt
    by_cases hj2 : (j : Nat) < 2
    · by_cases hlow : i < 16
      · have hw : (regs.srmsel 0).getLsbD (i * 2 + j) = (regs.srmsel (i / 16)).getLsbD (i % 16 * 2 + j) := by
          rw [show i / 16 = 0 by omega, show i % 16 = i by omega]
        simp [hw, hj2, show i * 2 + (j : Nat) < 32 by omega, show i * 2 + (j : Nat) < 64 by omega]
      · have hw : (regs.srmsel 1).getLsbD (i * 2 + j - 32) = (regs.srmsel (i / 16)).getLsbD (i % 16 * 2 + j) := by
          rw [show i / 16 = 1 by omega, show i * 2 + (j : Nat) - 32 = i % 16 * 2 + j by omega]
        simp [hw, hj2, show ¬ (i * 2 + (j : Nat) < 32) by omega, show i * 2 + (j : Nat) < 64 by omega,
          show i * 2 + (j : Nat) - 32 < 64 by omega, BitVec.getLsbD_ge (regs.srmsel 0) (i * 2 + j) (by omega)]
    · simp [hj2]
  simp only [scanPageStatus, getSramPageOwnership, hbits, BitVec.toNat_setWidth]
  rw [Nat.mod_eq_of_lt (by have := pageField_toNat_lt (regs.srmsel (i / 16)) (i % 16); omega)]

/-- The invariant of the scan loop at index `i`: either no run is open (`count = 0`,
`start = -1`) or the open run starts at `i - count` and all its pages are free. -/
def FindInv (status : BitVec 64) (i count : Nat) (start : Option Nat) : Prop :=
  (count = 0 ∧ start = none) ∨
    (count ≤ i ∧ start = some (i - count) ∧
      ∀ k, k < count → scanPageStatus status (i - count + k) = .free)

/-- A free page extends the open run, or opens one at `i`. -/
theorem FindInv.free {status : BitVec 64} {i count : Nat} {start : Option Nat}
    (h : FindInv status i count start) (hfree : scanPageStatus status i = .free) :
    FindInv status (i + 1) (count + 1) (some (start.getD i)) := by
  refine .inr ⟨by rcases h with ⟨rfl, -⟩ | ⟨h, -⟩ <;> omega, ?_, fun k hk => ?_⟩
  · rcases h with ⟨rfl, rfl⟩ | ⟨hc, rfl, -⟩
    · rfl
    · simp only [Option.getD_some, Option.some.injEq]; omega
  · rcases h with ⟨rfl, -⟩ | ⟨hc, -, hrun⟩
    · rwa [show i + 1 - (0 + 1) + k = i by omega]
    · by_cases hk' : k = count
      · rwa [show i + 1 - (count + 1) + k = i by omega]
      · rw [show i + 1 - (count + 1) + k = i - count + k by omega]
        exact hrun k (by omega)

/-- The loop keeps its invariant and leaves at an index no further than its bound. -/
theorem findLoop_inv (status : BitVec 64) (npages : Nat) :
    ∀ fuel i count start, FindInv status i count start →
      ∃ i', i' ≤ i + fuel ∧ FindInv status i' (findLoop status npages fuel i count start).1
        (findLoop status npages fuel i count start).2
  | 0, i, _, _, h => ⟨i, by omega, h⟩
  | fuel + 1, i, count, start, h => by
    unfold findLoop
    split_ifs with hfree hstop
    · exact ⟨i + 1, by omega, h.free hfree⟩
    · obtain ⟨i', hi', h'⟩ := findLoop_inv status npages fuel (i + 1) _ _ (h.free hfree)
      exact ⟨i', by omega, h'⟩
    · obtain ⟨i', hi', h'⟩ := findLoop_inv status npages fuel (i + 1) 0 none (.inl ⟨rfl, rfl⟩)
      exact ⟨i', by omega, h'⟩

/-- A run the scan reports lies inside the shared RAM and all its pages are free. -/
theorem findConsecutiveFreeSramPages_sound {regs : SramRegs} {npages s : Nat}
    (h : findConsecutiveFreeSramPages regs npages = some s) :
    s + npages ≤ sharedRamPageNum ∧
      ∀ k, k < npages → getSramPageOwnership regs (s + k) = .free := by
  simp only [findConsecutiveFreeSramPages] at h
  obtain ⟨i', hi', hinv⟩ :=
    findLoop_inv (sramOwnershipStatus regs) npages 32 0 0 none (.inl ⟨rfl, rfl⟩)
  split_ifs at h with hc
  rw [hc, h] at hinv
  rcases hinv with ⟨-, hnone⟩ | ⟨hle, hs, hrun⟩
  · cases hnone
  · cases hs
    have hfit : i' - npages + npages ≤ sharedRamPageNum := by unfold sharedRamPageNum; omega
    refine ⟨hfit, fun k hk => ?_⟩
    rw [← scanPageStatus_eq regs (by omega)]
    exact hrun k hk

/-! ## The scan finds the least free run -/

/-- Pages `s, ..., s + n - 1` all decode as free in the scanned word. -/
def ScanRun (status : BitVec 64) (s n : Nat) : Prop :=
  ∀ k, k < n → scanPageStatus status (s + k) = .free

/-- Pages `s, ..., s + npages - 1` lie inside the shared RAM and are all free. -/
def FreeRun (regs : SramRegs) (npages s : Nat) : Prop :=
  s + npages ≤ sharedRamPageNum ∧ ∀ k, k < npages → getSramPageOwnership regs (s + k) = .free

theorem freeRun_iff_scanRun (regs : SramRegs) {npages s : Nat}
    (h : s + npages ≤ sharedRamPageNum) :
    FreeRun regs npages s ↔ ScanRun (sramOwnershipStatus regs) s npages := by
  simp only [FreeRun, ScanRun, h, true_and]
  exact forall₂_congr fun k hk => by rw [scanPageStatus_eq regs (by omega)]

/-- What the scan knows at index `i` while it has not broken out: `count` is the length of the
free run ending just before `i` (the page before the run is taken, or the run starts at page 0),
`count` is still short of `npages`, and no run of `npages` free pages ends at or before `i`. -/
structure ScanInv (status : BitVec 64) (npages i count : Nat) (start : Option Nat) : Prop where
  count_lt : count < npages
  count_le : count ≤ i
  start_getD : start.getD i = i - count
  run : ScanRun status (i - count) count
  maximal : count < i → scanPageStatus status (i - count - 1) ≠ .free
  none_before : ∀ s, s + npages ≤ i → ¬ ScanRun status s npages

theorem ScanInv.init (status : BitVec 64) {npages : Nat} (hpos : 0 < npages) :
    ScanInv status npages 0 0 none :=
  ⟨hpos, le_rfl, rfl, fun _ h => absurd h (Nat.not_lt_zero _), fun h => absurd h (Nat.lt_irrefl 0),
    fun _ hs _ => by omega⟩

section ScanStep

variable {status : BitVec 64} {npages i count : Nat} {start : Option Nat}

/-- A free page at `i` extends the run by one. -/
theorem ScanInv.run_succ (h : ScanInv status npages i count start)
    (hfree : scanPageStatus status i = .free) : ScanRun status (i + 1 - (count + 1)) (count + 1) := by
  intro k hk
  have hc := h.count_le
  by_cases hkc : k = count
  · rwa [show i + 1 - (count + 1) + k = i by omega]
  · rw [show i + 1 - (count + 1) + k = i - count + k by omega]
    exact h.run k (by omega)

/-- A free page that leaves the run short of `npages` keeps the invariant. -/
theorem ScanInv.extend (h : ScanInv status npages i count start)
    (hfree : scanPageStatus status i = .free) (hlt : count + 1 < npages) :
    ScanInv status npages (i + 1) (count + 1) (some (start.getD i)) := by
  have hc := h.count_le
  refine ⟨hlt, by omega, by rw [Option.getD_some, h.start_getD]; omega, h.run_succ hfree,
    fun hci => by rw [show i + 1 - (count + 1) - 1 = i - count - 1 by omega]; exact h.maximal (by omega),
    fun s hs hrun => ?_⟩
  by_cases hsi : s + npages ≤ i
  · exact h.none_before s hsi hrun
  · -- a run ending at `i + 1` would cover the taken page just before the current run
    have hk := hrun (i - count - 1 - s) (by omega)
    rw [show s + (i - count - 1 - s) = i - count - 1 by omega] at hk
    exact h.maximal (by omega) hk

/-- A page that is not free closes the run. -/
theorem ScanInv.reset (h : ScanInv status npages i count start)
    (hnf : scanPageStatus status i ≠ .free) : ScanInv status npages (i + 1) 0 none := by
  have hc := h.count_lt
  refine ⟨by omega, Nat.zero_le _, by simp, fun _ hk => absurd hk (Nat.not_lt_zero _),
    fun _ => by simpa using hnf, fun s hs hrun => ?_⟩
  by_cases hsi : s + npages ≤ i
  · exact h.none_before s hsi hrun
  · have hk := hrun (npages - 1) (by omega)
    rw [show s + (npages - 1) = i by omega] at hk
    exact hnf hk

end ScanStep

/-- From any index where `ScanInv` holds, the scan either breaks at the least run of `npages` free
pages ending within its remaining `fuel` pages, or ends with a count short of `npages` when there
is no such run. -/
theorem findLoop_spec (status : BitVec 64) (npages : Nat) :
    ∀ fuel i count start, ScanInv status npages i count start →
      (∃ s, s + npages ≤ i + fuel ∧ ScanRun status s npages ∧
          (∀ s', s' < s → ¬ ScanRun status s' npages) ∧
          findLoop status npages fuel i count start = (npages, some s)) ∨
        ((∀ s, s + npages ≤ i + fuel → ¬ ScanRun status s npages) ∧
          (findLoop status npages fuel i count start).1 < npages)
  | 0, _, _, _, h => .inr ⟨h.none_before, h.count_lt⟩
  | fuel + 1, i, count, start, h => by
    have e : i + 1 + fuel = i + (fuel + 1) := by omega
    unfold findLoop
    split_ifs with hfree hstop
    · have hn : count + 1 = npages := by have := h.count_lt; omega
      have hc := h.count_le
      refine .inl ⟨i + 1 - npages, by omega, hn ▸ h.run_succ hfree,
        fun s' hs' => h.none_before s' (by omega), ?_⟩
      rw [h.start_getD, hn]
      congr 2
      omega
    · rw [← e]
      exact findLoop_spec status npages fuel (i + 1) _ _ (h.extend hfree (by omega))
    · rw [← e]
      exact findLoop_spec status npages fuel (i + 1) 0 none (h.reset hfree)

/-- `find_consecutive_free_sram_pages` for a positive `npages`: the least start of a free run of
`npages` pages, or `none` when there is no such run. -/
theorem findConsecutiveFreeSramPages_cases (regs : SramRegs) {npages : Nat} (hpos : 0 < npages) :
    (∃ s, findConsecutiveFreeSramPages regs npages = some s ∧
        IsLeast {s | FreeRun regs npages s} s) ∨
      (findConsecutiveFreeSramPages regs npages = none ∧ ∀ s, ¬ FreeRun regs npages s) := by
  have hfit : ∀ s, s + npages ≤ 0 + 32 ↔ s + npages ≤ sharedRamPageNum := fun _ => Iff.rfl
  rcases findLoop_spec _ npages 32 0 0 none (ScanInv.init _ hpos) with
    ⟨s, hle, hrun, hmin, heq⟩ | ⟨hno, hlt⟩
  · refine .inl ⟨s, by simp [findConsecutiveFreeSramPages, heq],
      (freeRun_iff_scanRun regs hle).2 hrun, fun s' hs' => Nat.not_lt.mp fun hlt' => ?_⟩
    exact hmin s' hlt' ((freeRun_iff_scanRun regs hs'.1).1 hs')
  · refine .inr ⟨by simp [findConsecutiveFreeSramPages, hlt.ne], fun s hs => ?_⟩
    exact hno s ((hfit s).2 hs.1) ((freeRun_iff_scanRun regs hs.1).1 hs)

/-- `find_consecutive_free_sram_pages` for every pair of status words and every positive
`npages`: it reports start `s` exactly when `s` is the least start of a run of `npages` free
pages inside the shared RAM, and nothing exactly when there is no such run; and the 2-bit fields
it decodes from its 64-bit word are the owners `get_sram_page_ownership` reads. -/
theorem findConsecutiveFreeSramPages_least (regs : SramRegs) {npages : Nat} (hpos : 0 < npages) :
    (∀ s, findConsecutiveFreeSramPages regs npages = some s ↔
        IsLeast {s | FreeRun regs npages s} s) ∧
      (findConsecutiveFreeSramPages regs npages = none ↔ ∀ s, ¬ FreeRun regs npages s) ∧
      ∀ i, i < sharedRamPageNum →
        scanPageStatus (sramOwnershipStatus regs) i = getSramPageOwnership regs i := by
  refine ⟨fun s' => ?_, ?_, fun i hi => scanPageStatus_eq regs hi⟩
  · rcases findConsecutiveFreeSramPages_cases regs hpos with ⟨s, hs, hleast⟩ | ⟨hnone, hno⟩
    · rw [hs, Option.some.injEq]
      exact ⟨fun h => h ▸ hleast, fun h => (h.unique hleast).symm⟩
    · rw [hnone]
      exact ⟨nofun, fun h => absurd h.1 (hno s')⟩
  · rcases findConsecutiveFreeSramPages_cases regs hpos with ⟨s, hs, hleast⟩ | ⟨hnone, hno⟩
    · rw [hs]
      exact ⟨nofun, fun h => absurd hleast.1 (h s)⟩
    · exact ⟨fun _ => hno, fun _ => hnone⟩

/-- With every page free, a run of all 32 pages is reported at page 0, the least start. -/
theorem findConsecutiveFreeSramPages_least_allFree :
    findConsecutiveFreeSramPages SramRegs.allFree 32 = some 0 ↔
      IsLeast {s | FreeRun SramRegs.allFree 32 s} 0 :=
  (findConsecutiveFreeSramPages_least SramRegs.allFree (by decide)).1 0

end Columbus

end LinuxSampleDriver
