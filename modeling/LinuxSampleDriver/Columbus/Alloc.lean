import LinuxSampleDriver.Columbus.Pages

/-!
# `ipc_sram_alloc` and `ipc_sram_free`

The byte-level allocator over the shared RAM. `ipc_sram_alloc` checks the size and the requested
address, turns the size into a page count, and hands a pinned start page (or `-1`, for a run the
allocator places) to `try_to_grab_sram_pages`; `ipc_sram_free` recomputes the page count and the
start page from the address in separate code and releases the run.

The results are the round trip of an automatically placed allocation followed by its free, which
restores the status words bit for bit (`ipcSramAlloc_ipcSramFree`); what a failed allocation
leaves behind, which is a prefix of the pinned run, since nothing rolls back the pages already
grabbed (`ipcSramAlloc_null_runSet`); and the pinned request at page 31 whose loop walks past the
last page (`ipcSramAlloc_page31_grabs_page32`).
-/

namespace LinuxSampleDriver

namespace Columbus

/-- The fields of `struct columbus_ipc_info` that the shared-RAM code reads: the A7 virtual base
`sram` of the shared RAM and its physical base `sram_phy`. `devm_ioremap_resource` maps the
region at a nonzero, page-aligned address, and the region lies in the A7's 32-bit physical
address space. -/
structure ColumbusIpcInfo where
  sram : Nat
  sram_phy : Nat
  sram_pos : 0 < sram
  sram_aligned : sram % columbusIpcPageSize = 0
  sram_phy_fits : sram_phy + columbusIpcSramSize ≤ 2 ^ 32

/-- The part of `try_to_grab_sram_pages` under `ipc_sram_mutex`: the grab loop from `page_num`,
and `page_num` as the result if it took all `npages` pages, `-1` (`none`) otherwise. -/
def grabSramRun (regs : SramRegs) (page_num npages : Nat) : SramRegs × Option Nat :=
  let r := grabSramPages regs page_num npages
  (r.1, if r.2 = npages then some page_num else none)

/-- `try_to_grab_sram_pages`. With `page_num = none` (the code's `-1`) the run is placed by
`find_consecutive_free_sram_pages`, called before the mutex is taken. -/
def tryToGrabSramPages (regs : SramRegs) (page_num : Option Nat) (npages : Nat) :
    SramRegs × Option Nat :=
  match page_num with
  | some page_num => grabSramRun regs page_num npages
  | none =>
    match findConsecutiveFreeSramPages regs npages with
    | none => (regs, none)
    | some start_page => grabSramRun regs start_page npages

/-- The checks of `ipc_sram_alloc` before it calls `try_to_grab_sram_pages`: `none` when one of
them returns `NULL`, otherwise the start page (`none` for the code's `-1`) and `npages`. The
address is the 32-bit pointer as a number, `0` for `NULL`; `size` is the C `int`. -/
def ipcSramAllocArgs (info : ColumbusIpcInfo) (addr : Nat) (size : Int) :
    Option (Option Nat × Nat) :=
  if size ≤ 0 then none
  else if (columbusIpcSramSize : Int) < size then none
  else if addr &&& (columbusIpcPageSize - 1) ≠ 0 then none
  else
    let npages := size.toNat / columbusIpcPageSize +
      if size.toNat % columbusIpcPageSize ≠ 0 then 1 else 0
    if addr ≠ 0 then
      if addr < info.sram ∨ info.sram + columbusIpcSramSize ≤ addr then none
      else some (some ((addr - info.sram) / columbusIpcPageSize), npages)
    else some (none, npages)

/-- `ipc_sram_alloc`: the status words after the call and the address it returns, `0` for `NULL`. -/
def ipcSramAlloc (info : ColumbusIpcInfo) (regs : SramRegs) (addr : Nat) (size : Int) :
    SramRegs × Nat :=
  match ipcSramAllocArgs info addr size with
  | none => (regs, 0)
  | some (page_num, npages) =>
    match tryToGrabSramPages regs page_num npages with
    | (regs, some page_num) => (regs, info.sram + page_num * columbusIpcPageSize)
    | (regs, none) => (regs, 0)

/-- `ipc_sram_free`: the status words after the call, and whether none of its `IPC_BUG` checks
fired, nor any of the `release_one_sram_page` calls. Past a failed check the code goes on with
the page the pointer difference gives, which the model clips at 0; no result relies on it. -/
def ipcSramFree (info : ColumbusIpcInfo) (regs : SramRegs) (addr : Nat) (size : Int) :
    SramRegs × Bool :=
  let checks := decide (¬ size ≤ 0 ∧ ¬ (columbusIpcSramSize : Int) < size ∧ addr ≠ 0 ∧
    addr &&& (columbusIpcPageSize - 1) = 0 ∧
    ¬ (addr < info.sram ∨ info.sram + columbusIpcSramSize ≤ addr) ∧
    (addr - info.sram) % columbusIpcPageSize = 0)
  let page_num := (addr - info.sram) / columbusIpcPageSize
  let npages := size.toNat / columbusIpcPageSize +
    if size.toNat % columbusIpcPageSize ≠ 0 then 1 else 0
  let r := freeSramPages regs page_num npages
  (r.1, checks && r.2)

/-! ## Arithmetic of the checks -/

theorem and_pageSize_sub_one (addr : Nat) :
    addr &&& (columbusIpcPageSize - 1) = addr % columbusIpcPageSize :=
  Nat.and_pow_two_sub_one_eq_mod addr 10

/-- The page count both functions compute is the ceiling of `size / 1024`. -/
theorem npages_eq_ceil (size : Nat) :
    size / columbusIpcPageSize + (if size % columbusIpcPageSize ≠ 0 then 1 else 0) =
      (size + 1023) / 1024 := by
  unfold columbusIpcPageSize
  split_ifs <;> omega

/-- What the checks of `ipc_sram_alloc` let through: a size in `[1, 32768]` and its page count;
with an address, a page-aligned one in the shared RAM, whose page is the start page. -/
theorem ipcSramAllocArgs_eq_some {info : ColumbusIpcInfo} {addr : Nat} {size : Int}
    {x : Option Nat} {n : Nat} (h : ipcSramAllocArgs info addr size = some (x, n)) :
    0 < size ∧ size ≤ columbusIpcSramSize ∧ n = (size.toNat + 1023) / 1024 ∧
      (x = none ∧ addr = 0 ∨ x = some ((addr - info.sram) / columbusIpcPageSize) ∧
        addr % columbusIpcPageSize = 0 ∧ info.sram ≤ addr ∧
        addr < info.sram + columbusIpcSramSize) := by
  unfold ipcSramAllocArgs at h
  rw [npages_eq_ceil, and_pageSize_sub_one] at h
  split_ifs at h with h0 h1 h2 h3 h4 <;> cases h
  · exact ⟨by omega, by omega, rfl, .inr ⟨rfl, by omega, by omega, by omega⟩⟩
  · exact ⟨by omega, by omega, rfl, .inl ⟨rfl, by simpa using h3⟩⟩

/-- The checks on the size do not depend on the address: a call that passes them with an address
passes them without one, with the same page count. -/
theorem ipcSramAllocArgs_null {info : ColumbusIpcInfo} {addr : Nat} {size : Int}
    {x : Option Nat} {n : Nat} (h : ipcSramAllocArgs info addr size = some (x, n)) :
    ipcSramAllocArgs info 0 size = some (none, n) := by
  obtain ⟨h0, h1, rfl, -⟩ := ipcSramAllocArgs_eq_some h
  simp only [ipcSramAllocArgs, npages_eq_ceil]
  rw [if_neg (by omega), if_neg (by omega)]
  simp

/-- A run of in-range free pages is grabbed whole. -/
theorem grabSramRun_of_free (regs : SramRegs) {page_num npages : Nat}
    (hrun : page_num + npages ≤ sharedRamPageNum)
    (hfree : ∀ k, k < npages → getSramPageOwnership regs (page_num + k) = .free) :
    (grabSramRun regs page_num npages).2 = some page_num ∧
      RunSet regs (grabSramRun regs page_num npages).1 page_num npages .a7 := by
  obtain ⟨hle, -, hstop, hset⟩ := grabSramPages_spec regs page_num npages
  have hall : (grabSramPages regs page_num npages).2 = npages := by
    by_contra hne
    exact hstop (by omega) ⟨by omega, hfree _ (by omega)⟩
  rw [hall] at hset
  simp only [grabSramRun, hall, if_true]
  exact ⟨trivial, hset⟩

/-- Setting a run and then setting it back to what every page of it held restores the status
words. -/
theorem RunSet.restore {regs regs' regs'' : SramRegs} {page_num n : Nat} {o o' : Ownership}
    (h : RunSet regs regs' page_num n o) (h' : RunSet regs' regs'' page_num n o')
    (hold : ∀ k, k < n → getSramPageOwnership regs (page_num + k) = o') : regs'' = regs := by
  refine SramRegs.ext_of_getSramPageOwnership (fun q _ => ?_) (fun k hk => (h'.2 k hk).trans (h.2 k hk))
  rw [h'.1 q, h.1 q]
  split_ifs with hq
  · rw [show q = page_num + (q - page_num) by omega]
    exact (hold _ (by omega)).symm
  · rfl

/-- An automatically placed call whose scan found `s`: the run from `s` is grabbed and its
address returned. -/
theorem ipcSramAlloc_of_find {info : ColumbusIpcInfo} {regs : SramRegs} {addr : Nat} {size : Int}
    {npages s : Nat} (hargs : ipcSramAllocArgs info addr size = some (none, npages))
    (hfind : findConsecutiveFreeSramPages regs npages = some s) :
    ipcSramAlloc info regs addr size =
      ((grabSramRun regs s npages).1, info.sram + s * columbusIpcPageSize) := by
  obtain ⟨hrun, hfree⟩ := findConsecutiveFreeSramPages_sound hfind
  have hgot := (grabSramRun_of_free regs hrun hfree).1
  simp only [ipcSramAlloc, hargs, tryToGrabSramPages, hfind]
  generalize grabSramRun regs s npages = g at hgot ⊢
  obtain ⟨r, o⟩ := g
  cases hgot
  rfl

/-- A pinned call: the grab loop runs from the pinned page, and the address is returned only if
it took the whole run. -/
theorem ipcSramAlloc_of_pinned {info : ColumbusIpcInfo} {regs : SramRegs} {addr : Nat}
    {size : Int} {page_num npages : Nat}
    (hargs : ipcSramAllocArgs info addr size = some (some page_num, npages)) :
    ipcSramAlloc info regs addr size =
      ((grabSramPages regs page_num npages).1,
        if (grabSramPages regs page_num npages).2 = npages then
          info.sram + page_num * columbusIpcPageSize else 0) := by
  simp only [ipcSramAlloc, hargs, tryToGrabSramPages, grabSramRun]
  split_ifs <;> rfl

/-! ## The round trip -/

/-- An allocation placed by the allocator is a run of free pages inside the shared RAM, turned
A7-owned and nothing else; freeing it with the same size passes every check and gives back the
status words bit for bit. -/
theorem ipcSramAlloc_ipcSramFree (info : ColumbusIpcInfo) (regs : SramRegs) (size : Int)
    (hsize : 1 ≤ size ∧ size ≤ 32768) (hret : (ipcSramAlloc info regs 0 size).2 ≠ 0) :
    ∃ s, (ipcSramAlloc info regs 0 size).2 = info.sram + s * columbusIpcPageSize ∧
      s + (size.toNat + 1023) / 1024 ≤ sharedRamPageNum ∧
      (∀ k, k < (size.toNat + 1023) / 1024 → getSramPageOwnership regs (s + k) = .free) ∧
      RunSet regs (ipcSramAlloc info regs 0 size).1 s ((size.toNat + 1023) / 1024) .a7 ∧
      ipcSramFree info (ipcSramAlloc info regs 0 size).1 (ipcSramAlloc info regs 0 size).2 size =
        (regs, true) := by
  have hargs : ipcSramAllocArgs info 0 size = some (none, (size.toNat + 1023) / 1024) := by
    simp only [ipcSramAllocArgs, npages_eq_ceil, columbusIpcSramSize]
    rw [if_neg (by omega), if_neg (by omega)]
    simp
  cases hfind : findConsecutiveFreeSramPages regs ((size.toNat + 1023) / 1024) with
  | none =>
    simp [ipcSramAlloc, hargs, tryToGrabSramPages, hfind] at hret
  | some s =>
    obtain ⟨hrun, hfree⟩ := findConsecutiveFreeSramPages_sound hfind
    have hset := (grabSramRun_of_free regs hrun hfree).2
    have halloc : ipcSramAlloc info regs 0 size = _ := ipcSramAlloc_of_find hargs hfind
    rw [halloc]
    refine ⟨s, rfl, hrun, hfree, hset, ?_⟩
    have hpos := info.sram_pos
    have hal := info.sram_aligned
    unfold sharedRamPageNum at hrun
    unfold columbusIpcPageSize at hal
    have hn : 1 ≤ (size.toNat + 1023) / 1024 := by omega
    have hpage : (info.sram + s * columbusIpcPageSize - info.sram) / columbusIpcPageSize = s := by
      unfold columbusIpcPageSize; rw [Nat.add_sub_cancel_left]; omega
    obtain ⟨hset', hok⟩ := freeSramPages_spec (grabSramRun regs s ((size.toNat + 1023) / 1024)).1
      s ((size.toNat + 1023) / 1024) (by unfold sharedRamPageNum; omega)
    have hallA7 : ∀ k, k < (size.toNat + 1023) / 1024 →
        getSramPageOwnership (grabSramRun regs s ((size.toNat + 1023) / 1024)).1 (s + k) = .a7 :=
      fun k hk => by rw [hset.1]; rw [if_pos (by omega)]
    simp only [ipcSramFree, hpage, npages_eq_ceil, and_pageSize_sub_one]
    rw [RunSet.restore hset hset' hfree, hok.mpr hallA7]
    simp only [Prod.mk.injEq, true_and, Bool.and_true, decide_eq_true_eq]
    unfold columbusIpcPageSize columbusIpcSramSize
    omega

/-- A mapping of the shared RAM for the concrete runs below. -/
def sampleInfo : ColumbusIpcInfo := ⟨0xf0000000, 0x40000000, by decide, by decide, by decide⟩

theorem ipcSramAlloc_ipcSramFree_1000 :
    ipcSramFree sampleInfo (ipcSramAlloc sampleInfo SramRegs.allFree 0 1000).1
      (ipcSramAlloc sampleInfo SramRegs.allFree 0 1000).2 1000 = (SramRegs.allFree, true) :=
  (ipcSramAlloc_ipcSramFree sampleInfo SramRegs.allFree 1000 (by decide) (by decide)).elim
    fun _ h => h.2.2.2.2

/-! ## A failed allocation -/

/-- What a call returning `NULL` leaves behind: with no address nothing at all; with a pinned
start page, the pages it grabbed before the first refusal, a prefix of the requested run that
was free and is now A7-owned. Nothing rolls them back. -/
theorem ipcSramAlloc_null_runSet (info : ColumbusIpcInfo) (regs : SramRegs) (addr : Nat)
    (size : Int) (hnull : (ipcSramAlloc info regs addr size).2 = 0) :
    (addr = 0 → (ipcSramAlloc info regs addr size).1 = regs) ∧
      ∃ j, (∀ k, k < j → getSramPageOwnership regs ((addr - info.sram) / columbusIpcPageSize + k) =
          .free) ∧
        RunSet regs (ipcSramAlloc info regs addr size).1
          ((addr - info.sram) / columbusIpcPageSize) j .a7 := by
  have hpos := info.sram_pos
  rcases hargs : ipcSramAllocArgs info addr size with _ | ⟨_ | p, n⟩
  · have h : ipcSramAlloc info regs addr size = (regs, 0) := by simp [ipcSramAlloc, hargs]
    rw [h]
    exact ⟨fun _ => rfl, 0, fun _ hk => absurd hk (Nat.not_lt_zero _), RunSet.zero _ _ _⟩
  · cases hfind : findConsecutiveFreeSramPages regs n with
    | none =>
      have h : ipcSramAlloc info regs addr size = (regs, 0) := by
        simp [ipcSramAlloc, hargs, tryToGrabSramPages, hfind]
      rw [h]
      exact ⟨fun _ => rfl, 0, fun _ hk => absurd hk (Nat.not_lt_zero _), RunSet.zero _ _ _⟩
    | some s =>
      rw [ipcSramAlloc_of_find hargs hfind] at hnull
      simp only at hnull
      omega
  · have hne : addr ≠ 0 ∧ p = (addr - info.sram) / columbusIpcPageSize := by
      unfold ipcSramAllocArgs at hargs
      split_ifs at hargs <;> cases hargs <;> exact ⟨by assumption, rfl⟩
    obtain ⟨hne, rfl⟩ := hne
    obtain ⟨-, hfree, -, hset⟩ := grabSramPages_spec regs ((addr - info.sram) / columbusIpcPageSize) n
    rw [ipcSramAlloc_of_pinned hargs] at hnull ⊢
    split_ifs at hnull
    · simp only at hnull
      omega
    · exact ⟨fun h => absurd h hne, _, fun k hk => (hfree k hk).2, hset⟩

theorem ipcSramAlloc_null_runSet_page2 :
    ∃ j, (∀ k, k < j → getSramPageOwnership (SramRegs.allFree.request 3 .a7)
          ((sampleInfo.sram + 2 * columbusIpcPageSize - sampleInfo.sram) / columbusIpcPageSize + k) =
          .free) ∧
      RunSet (SramRegs.allFree.request 3 .a7)
        (ipcSramAlloc sampleInfo (SramRegs.allFree.request 3 .a7)
          (sampleInfo.sram + 2 * columbusIpcPageSize) 2000).1
        ((sampleInfo.sram + 2 * columbusIpcPageSize - sampleInfo.sram) / columbusIpcPageSize) j .a7 :=
  (ipcSramAlloc_null_runSet sampleInfo (SramRegs.allFree.request 3 .a7)
    (sampleInfo.sram + 2 * columbusIpcPageSize) 2000 (by decide)).2

/-- With page 3 held, a pinned request for pages 2 and 3 returns `NULL` and keeps page 2. -/
theorem ipcSramAlloc_null_keeps_page2 :
    (ipcSramAlloc sampleInfo (SramRegs.allFree.request 3 .a7)
        (sampleInfo.sram + 2 * columbusIpcPageSize) 2000).2 = 0 ∧
      getSramPageOwnership (SramRegs.allFree.request 3 .a7) 2 = .free ∧
      getSramPageOwnership (ipcSramAlloc sampleInfo (SramRegs.allFree.request 3 .a7)
        (sampleInfo.sram + 2 * columbusIpcPageSize) 2000).1 2 = .a7 := by
  decide

/-! ## A pinned run past the last page -/

/-- Pinned at page 31 with 2000 bytes, `ipc_sram_alloc` passes its checks and asks for two
pages; after taking page 31 the grab loop goes on to `grab_one_sram_page (32)`. In the model the
hardware has no page 32, so that grab fails, and the call returns `NULL` still holding page 31. -/
theorem ipcSramAlloc_page31_grabs_page32 (info : ColumbusIpcInfo) :
    ipcSramAllocArgs info (info.sram + 31 * columbusIpcPageSize) 2000 = some (some 31, 2) ∧
      grabSramPages SramRegs.allFree 31 2 =
        ((grabSramPages (SramRegs.allFree.request 31 .a7) 32 1).1,
          (grabSramPages (SramRegs.allFree.request 31 .a7) 32 1).2 + 1) ∧
      ipcSramAlloc info SramRegs.allFree (info.sram + 31 * columbusIpcPageSize) 2000 =
        (SramRegs.allFree.request 31 .a7, 0) := by
  have hpos := info.sram_pos
  have hal := info.sram_aligned
  unfold columbusIpcPageSize at hal
  have hargs : ipcSramAllocArgs info (info.sram + 31 * columbusIpcPageSize) 2000 =
      some (some 31, 2) := by
    unfold ipcSramAllocArgs
    rw [and_pageSize_sub_one]
    unfold columbusIpcPageSize columbusIpcSramSize
    rw [if_neg (by decide), if_neg (by decide), if_neg (by omega), if_pos (by omega),
      if_neg (by omega)]
    have hpage : (info.sram + 31 * 1024 - info.sram) / 1024 = 31 := by omega
    rw [hpage]
    rfl
  have hgrab31 : grabOneSramPage SramRegs.allFree 31 = (SramRegs.allFree.request 31 .a7, true) := by
    rw [grabOneSramPage_eq, if_pos (by decide)]
  have hgrab32 : grabOneSramPage (SramRegs.allFree.request 31 .a7) 32 =
      (SramRegs.allFree.request 31 .a7, false) := by
    rw [grabOneSramPage_eq, if_neg (by unfold sharedRamPageNum; omega)]
  have hgrab : grabSramPages SramRegs.allFree 31 2 = (SramRegs.allFree.request 31 .a7, 1) := by
    simp only [grabSramPages, hgrab31, Nat.reduceAdd, hgrab32]
  refine ⟨hargs, by rw [hgrab]; simp only [grabSramPages, hgrab32], ?_⟩
  rw [ipcSramAlloc_of_pinned hargs, hgrab]
  rfl

end Columbus

end LinuxSampleDriver
