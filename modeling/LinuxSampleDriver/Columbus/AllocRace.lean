import LinuxSampleDriver.Columbus.Alloc

/-!
# Allocations from several threads

`ipc_sram_alloc (NULL, size)` places its run with `find_consecutive_free_sram_pages` before it
takes `ipc_sram_mutex`, then grabs the run under the mutex; with an address the call skips the
scan and grabs the run from the pinned page; `ipc_sram_free` releases a run under the mutex. Each
of these sections is one step here, and the steps of different threads interleave. No DSP changes
an ownership, and the hardware grants A7's requests on free pages.

What every run keeps (`AllocInv`): an outstanding allocation is a run inside the shared RAM, all
of it A7-owned, and no two outstanding allocations share a page. What it does not keep: between a
thread's scan and its grab, other threads can allocate and free so that the start of its run is
free and a later page taken. The grab loop then takes the first pages, stops at the taken one,
and the call returns `NULL` holding them, with no allocation left to free them
(`allocRace_leaks_page`).
-/

namespace LinuxSampleDriver

namespace Columbus

/-- Where a thread is in `ipc_sram_alloc` and the `ipc_sram_free` of its result. -/
inductive AllocThread
  | idle
  /-- the scan placed the run of `npages` pages at `page_num`; the mutex is not taken yet -/
  | found (page_num npages : Nat) (size : Int)
  /-- the call returned `sram + page_num * 1024`, not freed yet -/
  | holding (page_num npages : Nat) (size : Int)
  deriving DecidableEq, Repr

/-- The status words and the threads. -/
structure AllocSys where
  regs : SramRegs
  thread : Nat → AllocThread

/-- One section of one thread. -/
inductive AllocAct
  /-- `ipc_sram_alloc (NULL, size)` up to and including the scan -/
  | find (t : Nat) (size : Int)
  /-- the grab loop under `ipc_sram_mutex` and the return -/
  | grab (t : Nat)
  /-- `ipc_sram_alloc (addr, size)` with an address: the checks, then the grab loop from the
  pinned page under `ipc_sram_mutex`, with no scan before it, and the return -/
  | pin (t addr : Nat) (size : Int)
  /-- `ipc_sram_free` of the thread's result, with the size it asked for -/
  | free (t : Nat)
  deriving DecidableEq, Repr

/-- The thread that takes a step. -/
def AllocAct.thread : AllocAct → Nat
  | .find t _ => t
  | .grab t => t
  | .pin t _ _ => t
  | .free t => t

/-- The grab loop of thread `t` from `page_num` under `ipc_sram_mutex`, and the return: the thread
holds the run if the loop took all of it, and is idle after returning `NULL` otherwise. -/
def AllocSys.grabRun (s : AllocSys) (t page_num npages : Nat) (size : Int) : AllocSys :=
  let r := grabSramRun s.regs page_num npages
  ⟨r.1, Function.update s.thread t
    (match r.2 with
      | some page_num => .holding page_num npages size
      | none => .idle)⟩

/-- A step; a thread not at the point where the step applies does nothing. A call without an
address is a `find` and a `grab`; a `pin` with a `NULL` address does nothing. -/
def AllocSys.next (info : ColumbusIpcInfo) (s : AllocSys) : AllocAct → AllocSys
  | .find t size =>
    match s.thread t, ipcSramAllocArgs info 0 size with
    | .idle, some (_, npages) =>
      match findConsecutiveFreeSramPages s.regs npages with
      | some page_num => { s with thread := Function.update s.thread t (.found page_num npages size) }
      | none => s
    | _, _ => s
  | .grab t =>
    match s.thread t with
    | .found page_num npages size => s.grabRun t page_num npages size
    | _ => s
  | .pin t addr size =>
    match s.thread t, ipcSramAllocArgs info addr size with
    | .idle, some (some page_num, npages) => s.grabRun t page_num npages size
    | _, _ => s
  | .free t =>
    match s.thread t with
    | .holding page_num _ size =>
      ⟨(ipcSramFree info s.regs (info.sram + page_num * columbusIpcPageSize) size).1,
        Function.update s.thread t .idle⟩
    | _ => s

/-- The steps in order. -/
def AllocSys.run (info : ColumbusIpcInfo) (s : AllocSys) (acts : List AllocAct) : AllocSys :=
  acts.foldl (AllocSys.next info) s

/-- No thread is inside a call. -/
def AllocSys.Quiescent (s : AllocSys) : Prop :=
  ∀ t, s.thread t = .idle ∨ ∃ page_num npages size, s.thread t = .holding page_num npages size

/-! ## Frame and inversion -/

theorem AllocSys.grabRun_thread_of_ne (s : AllocSys) {t t' : Nat} (h : t' ≠ t)
    (page_num npages : Nat) (size : Int) : (s.grabRun t page_num npages size).thread t' = s.thread t' :=
  Function.update_noteq h _ _

/-- A step changes only the thread that takes it. -/
theorem AllocSys.next_thread_of_ne (info : ColumbusIpcInfo) (s : AllocSys) {a : AllocAct}
    {t : Nat} (h : a.thread ≠ t) : (s.next info a).thread t = s.thread t := by
  have h' : ∀ t', a.thread = t' → t ≠ t' := fun t' ht' => ht' ▸ Ne.symm h
  cases a with
  | find t' size =>
    simp only [AllocSys.next]
    split
    · split <;> simp [Function.update_noteq (h' t' rfl)]
    · rfl
  | grab t' =>
    simp only [AllocSys.next]
    split
    · exact s.grabRun_thread_of_ne (h' t' rfl) _ _ _
    · rfl
  | pin t' addr size =>
    simp only [AllocSys.next]
    split
    · exact s.grabRun_thread_of_ne (h' t' rfl) _ _ _
    · rfl
  | free t' =>
    simp only [AllocSys.next]
    split <;> simp [Function.update_noteq (h' t' rfl)]

theorem AllocSys.run_thread_of_forall_ne (info : ColumbusIpcInfo) {t : Nat} :
    ∀ (s : AllocSys) (acts : List AllocAct), (∀ a ∈ acts, a.thread ≠ t) →
      (s.run info acts).thread t = s.thread t
  | _, [], _ => rfl
  | s, a :: acts, h => by
    rw [AllocSys.run, List.foldl_cons, ← AllocSys.run,
      AllocSys.run_thread_of_forall_ne info _ acts fun b hb => h b (List.mem_cons_of_mem a hb),
      s.next_thread_of_ne info (h a (List.mem_cons_self a acts))]

/-- The checks of a call without an address: a size in `[1, 32768]` and its page count. -/
theorem ipcSramAllocArgs_zero {info : ColumbusIpcInfo} {size : Int} {x : Option Nat} {n : Nat}
    (h : ipcSramAllocArgs info 0 size = some (x, n)) :
    x = none ∧ 0 < size ∧ size ≤ columbusIpcSramSize ∧
      n = size.toNat / columbusIpcPageSize + if size.toNat % columbusIpcPageSize ≠ 0 then 1 else 0 := by
  unfold ipcSramAllocArgs at h
  by_cases h0 : size ≤ 0
  · rw [if_pos h0] at h; cases h
  by_cases h1 : (columbusIpcSramSize : Int) < size
  · rw [if_neg h0, if_pos h1] at h; cases h
  simp only [if_neg h0, if_neg h1, Nat.zero_and, ne_eq, not_true_eq_false, if_false,
    Option.some.injEq, Prod.mk.injEq] at h
  exact ⟨h.1.symm, by omega, by omega, h.2.symm⟩

/-- Freeing a call's own result releases the run its checks computed. -/
theorem ipcSramFree_fst_of_args {info : ColumbusIpcInfo} (regs : SramRegs) {size : Int}
    {x : Option Nat} {n : Nat} (page_num : Nat) (h : ipcSramAllocArgs info 0 size = some (x, n)) :
    (ipcSramFree info regs (info.sram + page_num * columbusIpcPageSize) size).1 =
      (freeSramPages regs page_num n).1 := by
  obtain ⟨-, -, -, rfl⟩ := ipcSramAllocArgs_zero h
  have hpage : (info.sram + page_num * columbusIpcPageSize - info.sram) / columbusIpcPageSize =
      page_num := by
    unfold columbusIpcPageSize; omega
  simp only [ipcSramFree, hpage]

/-! ## What every run keeps -/

/-- A page already set to `o` stays so when a run is set to `o`. -/
theorem RunSet.get_of_eq {regs regs' : SramRegs} {page_num n : Nat} {o : Ownership}
    (h : RunSet regs regs' page_num n o) {q : Nat} (hq : getSramPageOwnership regs q = o) :
    getSramPageOwnership regs' q = o := by
  rw [h.1 q]
  split_ifs
  · rfl
  · exact hq

/-- A page outside the run keeps its ownership. -/
theorem RunSet.get_of_not_mem {regs regs' : SramRegs} {page_num n : Nat} {o : Ownership}
    (h : RunSet regs regs' page_num n o) {q : Nat} (hq : ¬ (page_num ≤ q ∧ q < page_num + n)) :
    getSramPageOwnership regs' q = getSramPageOwnership regs q := by
  rw [h.1 q, if_neg hq]

/-- A placed run belongs to a call whose checks passed; an outstanding allocation in addition lies
in the shared RAM and is A7-owned, and two of them share no page. -/
structure AllocInv (info : ColumbusIpcInfo) (s : AllocSys) : Prop where
  found : ∀ t p n size, s.thread t = .found p n size → ipcSramAllocArgs info 0 size = some (none, n)
  holding : ∀ t p n size, s.thread t = .holding p n size →
    p + n ≤ sharedRamPageNum ∧ ipcSramAllocArgs info 0 size = some (none, n) ∧
      ∀ k, k < n → getSramPageOwnership s.regs (p + k) = .a7
  disjoint : ∀ t t' p n size p' n' size', t ≠ t' → s.thread t = .holding p n size →
    s.thread t' = .holding p' n' size' → ∀ q, p ≤ q → q < p + n → ¬ (p' ≤ q ∧ q < p' + n')

theorem AllocInv.idle (info : ColumbusIpcInfo) (regs : SramRegs) :
    AllocInv info ⟨regs, fun _ => .idle⟩ where
  found _ _ _ _ h := by cases h
  holding _ _ _ _ h := by cases h
  disjoint _ _ _ _ _ _ _ _ _ h := by cases h

/-- A page of an outstanding allocation is A7-owned. -/
theorem AllocInv.a7_of_mem {info : ColumbusIpcInfo} {s : AllocSys} (hinv : AllocInv info s)
    {t p n : Nat} {size : Int} (ht : s.thread t = .holding p n size) {q : Nat}
    (hq : p ≤ q ∧ q < p + n) : getSramPageOwnership s.regs q = .a7 := by
  have h := (hinv.holding t p n size ht).2.2 (q - p) (by omega)
  rwa [Nat.add_sub_cancel' hq.1] at h

/-- The one shape every step has: the status words change and one thread moves. The invariant
survives when the other allocations stay A7-owned and the moved thread's new run, if any, is
checked, in range, and, if outstanding, A7-owned and clear of the others. -/
theorem AllocInv.update {info : ColumbusIpcInfo} {s : AllocSys} (hinv : AllocInv info s) {t : Nat}
    {regs' : SramRegs} {x : AllocThread}
    (hkeep : ∀ t' p n size, t' ≠ t → s.thread t' = .holding p n size →
      ∀ k, k < n → getSramPageOwnership regs' (p + k) = .a7)
    (hfound : ∀ p n size, x = .found p n size → ipcSramAllocArgs info 0 size = some (none, n))
    (hholding : ∀ p n size, x = .holding p n size →
      p + n ≤ sharedRamPageNum ∧ ipcSramAllocArgs info 0 size = some (none, n) ∧
        (∀ k, k < n → getSramPageOwnership regs' (p + k) = .a7) ∧
        ∀ t' p' n' size', t' ≠ t → s.thread t' = .holding p' n' size' →
          ∀ q, p ≤ q → q < p + n → ¬ (p' ≤ q ∧ q < p' + n')) :
    AllocInv info ⟨regs', Function.update s.thread t x⟩ where
  found t' p n size h := by
    by_cases ht : t' = t
    · subst ht
      exact hfound p n size (by simpa using h)
    · exact hinv.found t' p n size (by simpa [ht] using h)
  holding t' p n size h := by
    by_cases ht : t' = t
    · subst ht
      obtain ⟨hrun, hargs, ha7, -⟩ := hholding p n size (by simpa using h)
      exact ⟨hrun, hargs, ha7⟩
    · have h' : s.thread t' = .holding p n size := by simpa [ht] using h
      obtain ⟨hrun, hargs, -⟩ := hinv.holding t' p n size h'
      exact ⟨hrun, hargs, hkeep t' p n size ht h'⟩
  disjoint t₁ t₂ p n sz p' n' sz' hne h₁ h₂ q hq₁ hq₂ := by
    by_cases ht₁ : t₁ = t
    · subst ht₁
      have h₂' : s.thread t₂ = .holding p' n' sz' := by simpa [Ne.symm hne] using h₂
      exact (hholding p n sz (by simpa using h₁)).2.2.2 t₂ p' n' sz' (Ne.symm hne) h₂' q hq₁ hq₂
    · have h₁' : s.thread t₁ = .holding p n sz := by simpa [ht₁] using h₁
      by_cases ht₂ : t₂ = t
      · subst ht₂
        exact fun ⟨hq₃, hq₄⟩ =>
          (hholding p' n' sz' (by simpa using h₂)).2.2.2 t₁ p n sz hne h₁' q hq₃ hq₄ ⟨hq₁, hq₂⟩
      · exact hinv.disjoint t₁ t₂ p n sz p' n' sz' hne h₁' (by simpa [ht₂] using h₂) q hq₁ hq₂

theorem AllocInv.next_find {info : ColumbusIpcInfo} {s : AllocSys} (hinv : AllocInv info s)
    (t : Nat) (size : Int) : AllocInv info (s.next info (.find t size)) := by
  simp only [AllocSys.next]
  split
  · rename_i npages hargs
    split
    · rename_i page_num hfind
      obtain ⟨rfl, -⟩ := ipcSramAllocArgs_zero hargs
      refine hinv.update (fun t' p n size' _ h => (hinv.holding t' p n size' h).2.2) ?_ ?_
      · rintro p n size' ⟨⟩
        exact hargs
      · rintro p n size' ⟨⟩
    · exact hinv
  · exact hinv

/-- The grab loop, from a placed or a pinned page, keeps the invariant: a run it takes whole was
in range and free, so it lies inside the shared RAM, is A7-owned now and meets no other
allocation; the pages of a run it gives up on stay A7-owned and belong to no thread. -/
theorem AllocInv.grabRun {info : ColumbusIpcInfo} {s : AllocSys} (hinv : AllocInv info s)
    (t p n : Nat) {size : Int} (hargs : ipcSramAllocArgs info 0 size = some (none, n)) :
    AllocInv info (s.grabRun t p n size) := by
  obtain ⟨hpos, -, hnpages, -⟩ := ipcSramAllocArgs_eq_some hargs
  have hn : 0 < n := by omega
  obtain ⟨-, hfree, -, hset⟩ := grabSramPages_spec s.regs p n
  have hrun : s.grabRun t p n size = ⟨(grabSramPages s.regs p n).1, Function.update s.thread t
      (if (grabSramPages s.regs p n).2 = n then .holding p n size else .idle)⟩ := by
    simp only [AllocSys.grabRun, grabSramRun]
    split_ifs <;> rfl
  rw [hrun]
  refine hinv.update (fun t' p' n' size' _ h k hk => hset.get_of_eq
    ((hinv.holding t' p' n' size' h).2.2 k hk)) (fun p' n' size' h => ?_) (fun p' n' size' h => ?_)
  · split_ifs at h
  · split_ifs at h with hall
    cases h
    rw [hall] at hfree hset
    refine ⟨by have := (hfree (n - 1) (by omega)).1; omega, hargs, fun k hk => ?_,
      fun t' p'' n'' size'' _ h' q hq₁ hq₂ hq => ?_⟩
    · rw [hset.1, if_pos (by omega)]
    · have hq' := (hfree (q - p) (by omega)).2
      rw [Nat.add_sub_cancel' hq₁, (hinv.a7_of_mem h' hq)] at hq'
      cases hq'

theorem AllocInv.next_grab {info : ColumbusIpcInfo} {s : AllocSys} (hinv : AllocInv info s)
    (t : Nat) : AllocInv info (s.next info (.grab t)) := by
  simp only [AllocSys.next]
  split
  · rename_i p n size ht
    exact hinv.grabRun t p n (hinv.found t p n size ht)
  · exact hinv

theorem AllocInv.next_pin {info : ColumbusIpcInfo} {s : AllocSys} (hinv : AllocInv info s)
    (t addr : Nat) (size : Int) : AllocInv info (s.next info (.pin t addr size)) := by
  simp only [AllocSys.next]
  split
  · rename_i page_num npages _ hargs
    exact hinv.grabRun t page_num npages (ipcSramAllocArgs_null hargs)
  · exact hinv

theorem AllocInv.next_free {info : ColumbusIpcInfo} {s : AllocSys} (hinv : AllocInv info s)
    (t : Nat) : AllocInv info (s.next info (.free t)) := by
  rcases ht : s.thread t with _ | ⟨p, n, size⟩ | ⟨p, n, size⟩
  case holding =>
    obtain ⟨hrun, hargs, -⟩ := hinv.holding t p n size ht
    have hnext : s.next info (.free t) =
        ⟨(freeSramPages s.regs p n).1, Function.update s.thread t .idle⟩ := by
      simp only [AllocSys.next, ht, ipcSramFree_fst_of_args s.regs p hargs]
    rw [hnext]
    have hset := (freeSramPages_spec s.regs p n hrun).1
    refine hinv.update (fun t' p' n' size' hne h k hk => ?_) (by rintro _ _ _ ⟨⟩)
      (by rintro _ _ _ ⟨⟩)
    rw [hset.get_of_not_mem fun hq =>
      hinv.disjoint t t' p n size p' n' size' (Ne.symm hne) ht h (p' + k) hq.1 hq.2 ⟨by omega, by omega⟩]
    exact (hinv.holding t' p' n' size' h).2.2 k hk
  all_goals
    have hnext : s.next info (.free t) = s := by simp only [AllocSys.next, ht]
    rw [hnext]
    exact hinv

theorem AllocInv.next {info : ColumbusIpcInfo} {s : AllocSys} (hinv : AllocInv info s)
    (a : AllocAct) : AllocInv info (s.next info a) := by
  cases a with
  | find t size => exact hinv.next_find t size
  | grab t => exact hinv.next_grab t
  | pin t addr size => exact hinv.next_pin t addr size
  | free t => exact hinv.next_free t

theorem AllocInv.run {info : ColumbusIpcInfo} {s : AllocSys} (hinv : AllocInv info s)
    (acts : List AllocAct) : AllocInv info (s.run info acts) := by
  induction acts generalizing s with
  | nil => exact hinv
  | cons a acts ih => exact ih (hinv.next a)

/-- From no allocation at all, over every interleaving of allocations, with or without an
address, and frees: each outstanding allocation is a run inside the shared RAM, all of it
A7-owned, and two outstanding allocations share no page. -/
theorem allocSys_run_disjoint (info : ColumbusIpcInfo) (regs : SramRegs) (acts : List AllocAct) :
    let s := AllocSys.run info ⟨regs, fun _ => .idle⟩ acts
    (∀ t p n size, s.thread t = .holding p n size →
      p + n ≤ sharedRamPageNum ∧ ∀ k, k < n → getSramPageOwnership s.regs (p + k) = .a7) ∧
    ∀ t t' p n size p' n' size', t ≠ t' → s.thread t = .holding p n size →
      s.thread t' = .holding p' n' size' → ∀ q, p ≤ q → q < p + n → ¬ (p' ≤ q ∧ q < p' + n') := by
  have hinv := (AllocInv.idle info regs).run acts
  exact ⟨fun t p n size h => ⟨(hinv.holding t p n size h).1, (hinv.holding t p n size h).2.2⟩,
    hinv.disjoint⟩

/-! ## A failed grab that keeps its pages -/

/-- Thread 0 places two pages at page 0; thread 2 takes page 0 and thread 1 page 1; thread 2 frees
page 0; thread 0 then grabs page 0, is refused page 1 and returns `NULL`. -/
def leakRun : AllocSys :=
  AllocSys.run sampleInfo ⟨SramRegs.allFree, fun _ => .idle⟩
    [.find 0 2048, .find 2 1000, .grab 2, .find 1 1000, .grab 1, .free 2, .grab 0]

theorem leakRun_thread (t : Nat) :
    leakRun.thread t = if t = 1 then .holding 1 1 1000 else .idle := by
  rcases (show t = 0 ∨ t = 1 ∨ t = 2 ∨ 3 ≤ t by omega) with rfl | rfl | rfl | ht
  · decide
  · decide
  · decide
  · rw [if_neg (by omega)]
    exact AllocSys.run_thread_of_forall_ne sampleInfo _ _ (by simp [AllocAct.thread]; omega)

/-- The run ends with no call in progress and one outstanding allocation, page 1, while pages 0
and 1 are both A7-owned: page 0 belongs to no allocation. -/
theorem allocRace_leaks_page :
    leakRun.Quiescent ∧ (∀ t p n size, leakRun.thread t = .holding p n size → p = 1 ∧ n = 1) ∧
      getSramPageOwnership leakRun.regs 0 = .a7 ∧ getSramPageOwnership leakRun.regs 1 = .a7 := by
  refine ⟨fun t => ?_, fun t p n size h => ?_, by decide, by decide⟩
  · rw [leakRun_thread]
    split_ifs
    · exact .inr ⟨1, 1, 1000, rfl⟩
    · exact .inl rfl
  · rw [leakRun_thread] at h
    split_ifs at h
    cases h
    exact ⟨rfl, rfl⟩

end Columbus

end LinuxSampleDriver
