import Mathlib.Data.BitVec

/-!
# The arithmetic of the pegmatite clock callbacks

The `recalc_rate`, `round_rate` and `set_rate` callbacks of the pegmatite clock drivers compute
rates in the C types of a 32-bit ARM kernel: `unsigned int` and `unsigned long` are 32 bits wide,
`u64` and `unsigned long long` 64, and `int` and `long` are 32-bit two's complement. The kernel is
built with `-fno-strict-overflow`, so signed arithmetic wraps as unsigned arithmetic does. Rates
are `Nat` values below `2 ^ 32` here, reduced with `u32` or `u64` wherever the code's arithmetic
can wrap, and an `int` is held as its 32-bit pattern and read with `toLong`. A `round_rate`
returns a `long`: `s32` of the unsigned rate it computes, negative from `2 ^ 31` on.

A callback runs in `ClkM`. Every `/`, `%`, `do_div`, `div64_ul` and `div_s64` whose divisor is not
a constant is `cdiv`, `cmod` or `divS64`, which fault on a zero divisor, and every `while` loop is
`whileLoop`, which takes a bound on its passes and faults when the bound is spent. Dividing by zero
and running for ever are then both outcomes of the model: the first for some bound, the second for
every bound. The rules of `whileLoop` proved here, for a loop that ends, for a loop along a known
trace and for a loop that never ends, are how the loops of `clkfd.c` and `pll.c` are reasoned
about.

The register drivers test one bit of a 32-bit register with a mask such as `CLK_EN_MASK`; such a
test reads the bit (`and_ofNat_two_pow_ne_zero_iff`).
-/

namespace LinuxSampleDriver

namespace Pegmatite

/-- Why a callback returned no rate. -/
inductive ClkFault
  /-- a division by zero -/
  | divideByZero
  /-- a loop still running when its bound on passes was spent -/
  | outOfFuel
  deriving DecidableEq, Repr

/-- A computation of a clock callback. -/
abbrev ClkM := Except ClkFault

/-- Outcomes of callbacks are compared by value, so that a run on given rates is decided. -/
instance instDecidableEqClkM {α : Type} [DecidableEq α] : DecidableEq (ClkM α)
  | .ok a, .ok b => if h : a = b then isTrue (h ▸ rfl) else isFalse fun e => h (Except.ok.inj e)
  | .error a, .error b =>
    if h : a = b then isTrue (h ▸ rfl) else isFalse fun e => h (Except.error.inj e)
  | .ok _, .error _ => isFalse nofun
  | .error _, .ok _ => isFalse nofun

/-- An `unsigned int` or `unsigned long` result: the low 32 bits. -/
def u32 (n : Nat) : Nat := n % 2 ^ 32

/-- A `u64` result: the low 64 bits. -/
def u64 (n : Nat) : Nat := n % 2 ^ 64

/-- `a - b` on `unsigned long` values. -/
def usub (a b : Nat) : Nat := u32 (a + (2 ^ 32 - u32 b))

/-- A 32-bit pattern read as an `int` or a `long`. -/
def toLong (n : Nat) : Int := if n < 2 ^ 31 then n else (n : Int) - 2 ^ 32

/-- An integer converted to `int` or `long` (`s32`): its low 32 bits, read as an `int`. A
`round_rate` callback returns its `unsigned long` rate through this conversion. -/
def s32 (x : Int) : Int := toLong (x % 2 ^ 32).toNat

/-- An integer converted to `unsigned int`: its low 32 bits. -/
def ofInt32 (x : Int) : Nat := (x % 2 ^ 32).toNat

/-- The kernel's `abs()` of an `unsigned long`: the value read as a `long`, negated when negative;
`LONG_MIN` negates to itself. -/
def kabs (n : Nat) : Int := toLong (if n < 2 ^ 31 then n else 2 ^ 32 - n)

/-- `a / b`, `do_div` and `div64_ul` on unsigned values: a fault when `b` is zero. -/
def cdiv (a b : Nat) : ClkM Nat := if b = 0 then throw .divideByZero else pure (a / b)

/-- `a % b` on unsigned values. -/
def cmod (a b : Nat) : ClkM Nat := if b = 0 then throw .divideByZero else pure (a % b)

/-- `div_s64(dividend, divisor)`: the divisor is passed as an `s32`, and the quotient rounds toward
zero. -/
def divS64 (dividend divisor : Int) : ClkM Int :=
  if s32 divisor = 0 then throw .divideByZero else pure (dividend.tdiv (s32 divisor))

/-- `while (cond s) s = body s;`, testing `cond` at most `fuel` times. -/
def whileLoop {σ : Type} (cond : σ → ClkM Bool) (body : σ → ClkM σ) : Nat → σ → ClkM σ
  | 0, _ => throw .outOfFuel
  | fuel + 1, s => do
    if (← cond s) then whileLoop cond body fuel (← body s) else pure s

@[simp] theorem cdiv_zero (a : Nat) : cdiv a 0 = throw .divideByZero := rfl

theorem cdiv_of_pos (a : Nat) {b : Nat} (hb : 0 < b) : cdiv a b = pure (a / b) := by
  simp [cdiv, Nat.pos_iff_ne_zero.mp hb]

@[simp] theorem cmod_zero (a : Nat) : cmod a 0 = throw .divideByZero := rfl

/-- A callback's steps taken apart: a bind returns `b` exactly when its first step returns some
`a` and the rest returns `b` from it. -/
theorem bind_eq_ok {α β : Type} {x : ClkM α} {f : α → ClkM β} {b : β} :
    x >>= f = .ok b ↔ ∃ a, x = .ok a ∧ f a = .ok b := by
  cases x <;> simp [bind, Except.bind]

@[simp] theorem ok_bind {α β : Type} (a : α) (f : α → ClkM β) : (Except.ok a : ClkM α) >>= f = f a :=
  rfl

theorem cdiv_eq_ok {a b q : Nat} : cdiv a b = .ok q ↔ 0 < b ∧ q = a / b := by
  unfold cdiv
  split_ifs with hb
  · simp [hb, throw, throwThe, MonadExceptOf.throw]
  · simp [Nat.pos_iff_ne_zero.mpr hb, pure, Except.pure, eq_comm]

theorem u32_of_lt {n : Nat} (h : n < 2 ^ 32) : u32 n = n := Nat.mod_eq_of_lt h

theorem u64_of_lt {n : Nat} (h : n < 2 ^ 64) : u64 n = n := Nat.mod_eq_of_lt h

/-- An `unsigned long` converted to `long` keeps its bit pattern. -/
theorem s32_natCast {n : Nat} (h : n < 2 ^ 32) : s32 n = toLong n := by
  rw [s32, Int.emod_eq_of_lt (by omega) (by omega), Int.toNat_natCast]

/-- A `long` made from an `unsigned long` converts back to it. -/
theorem ofInt32_s32 {n : Nat} (h : n < 2 ^ 32) : ofInt32 (s32 n) = n := by
  rw [s32_natCast h, ofInt32, toLong]
  split_ifs <;> omega

/-- Of two values below `LONG_MAX`, `abs` of their `unsigned long` difference is the distance
between them. -/
theorem kabs_usub {a b : Nat} (ha : a < 2 ^ 31) (hb : b < 2 ^ 31) :
    kabs (usub a b) = ((a : Int) - b).natAbs := by
  unfold kabs usub u32 toLong
  rw [Nat.mod_eq_of_lt (show b < 2 ^ 32 by omega)]
  by_cases hab : b ≤ a
  · rw [show a + (2 ^ 32 - b) = (a - b) + 2 ^ 32 by omega, Nat.add_mod_right,
      Nat.mod_eq_of_lt (by omega)]
    simp only [show a - b < 2 ^ 31 by omega, if_true]
    omega
  · rw [Nat.mod_eq_of_lt (show a + (2 ^ 32 - b) < 2 ^ 32 by omega)]
    simp only [show ¬ (a + (2 ^ 32 - b) < 2 ^ 31) by omega, if_false,
      show 2 ^ 32 - (a + (2 ^ 32 - b)) < 2 ^ 31 by omega, if_true]
    omega

/-! ## The rules of `whileLoop` -/

section Loop

variable {σ : Type} {cond : σ → ClkM Bool} {body : σ → ClkM σ}

theorem whileLoop_succ (fuel : Nat) (s : σ) :
    whileLoop cond body (fuel + 1) s =
      (cond s).bind fun b => if b then (body s).bind (whileLoop cond body fuel) else .ok s := rfl

/-- A pass: the test holds, and the body's result is where the loop goes on. -/
theorem whileLoop_succ_of_true {fuel : Nat} {s s' : σ} (hc : cond s = .ok true)
    (hb : body s = .ok s') : whileLoop cond body (fuel + 1) s = whileLoop cond body fuel s' := by
  simp only [whileLoop, hc, hb]
  rfl

/-- The exit: the test fails, and the loop ends where it is. -/
theorem whileLoop_succ_of_false {fuel : Nat} {s : σ} (hc : cond s = .ok false) :
    whileLoop cond body (fuel + 1) s = .ok s := by
  simp only [whileLoop, hc]
  rfl

/-- What the body keeps, the loop keeps: a loop started in `P` that ends, ends in `P`. -/
theorem whileLoop_inv (P : σ → Prop) (hbody : ∀ s s', P s → body s = .ok s' → P s') :
    ∀ fuel s s', P s → whileLoop cond body fuel s = .ok s' → P s'
  | 0, _, _, _, h => nomatch h
  | fuel + 1, s, s', hs, h => by
    rw [whileLoop_succ] at h
    cases hc : cond s with
    | error e => rw [hc] at h; nomatch h
    | ok b =>
      rw [hc] at h
      cases b with
      | false => cases h; exact hs
      | true =>
        cases hb : body s with
        | error e => rw [hb] at h; nomatch h
        | ok s'' =>
          rw [hb] at h
          exact whileLoop_inv P hbody fuel s'' s' (hbody s s'' hs hb) h

/-- A loop that ends: if every state satisfying `P` either fails the test, or passes it and moves
by the body to a state satisfying `P` with a smaller `measure`, then from such a state, with more
passes than its measure, the loop ends in a state satisfying `P` that fails the test. -/
theorem whileLoop_terminates (P : σ → Prop) (measure : σ → Nat)
    (hstep : ∀ s, P s → cond s = .ok false ∨
      (cond s = .ok true ∧ ∃ s', body s = .ok s' ∧ P s' ∧ measure s' < measure s)) :
    ∀ fuel s, P s → measure s < fuel →
      ∃ s', whileLoop cond body fuel s = .ok s' ∧ P s' ∧ cond s' = .ok false
  | 0, _, _, h => absurd h (Nat.not_lt_zero _)
  | fuel + 1, s, hs, hfuel => by
    rcases hstep s hs with hc | ⟨hc, s', hb, hs', hlt⟩
    · exact ⟨s, whileLoop_succ_of_false hc, hs, hc⟩
    · rw [whileLoop_succ_of_true hc hb]
      exact whileLoop_terminates P measure hstep fuel s' hs' (by omega)

/-- A loop along a known trace `f 0, f 1, ..., f n`: before `n` the test holds and the body moves
to the next state, and at `f n` the test fails. With more than `n` passes the loop ends at `f n`. -/
theorem whileLoop_trace (f : Nat → σ) (n : Nat)
    (hpass : ∀ j, j < n → cond (f j) = .ok true ∧ body (f j) = .ok (f (j + 1)))
    (hexit : cond (f n) = .ok false) :
    ∀ fuel, n < fuel → whileLoop cond body fuel (f 0) = .ok (f n) := by
  suffices h : ∀ fuel k, k ≤ n → n - k < fuel → whileLoop cond body fuel (f k) = .ok (f n) from
    fun fuel hf => h fuel 0 (Nat.zero_le _) (by omega)
  intro fuel
  induction fuel with
  | zero => intro k _ h; omega
  | succ fuel ih =>
    intro k hk hf
    rcases Nat.lt_or_ge k n with hlt | hge
    · obtain ⟨hc, hb⟩ := hpass k hlt
      rw [whileLoop_succ_of_true hc hb]
      exact ih (k + 1) hlt (by omega)
    · obtain rfl : k = n := le_antisymm hk hge
      exact whileLoop_succ_of_false hexit

/-- A loop that never ends: if every state satisfying `P` passes the test and moves by the body to
a state satisfying `P`, then from such a state no bound on the passes is enough. -/
theorem whileLoop_diverges (P : σ → Prop)
    (hstep : ∀ s, P s → cond s = .ok true ∧ ∃ s', body s = .ok s' ∧ P s') :
    ∀ fuel s, P s → whileLoop cond body fuel s = throw .outOfFuel
  | 0, _, _ => rfl
  | fuel + 1, s, hs => by
    obtain ⟨hc, s', hb, hs'⟩ := hstep s hs
    rw [whileLoop_succ_of_true hc hb]
    exact whileLoop_diverges P hstep fuel s' hs'

end Loop

/-! ## One-bit masks of 32-bit registers -/

theorem getLsbD_ofNat_two_pow {k : Nat} (hk : k < 32) (i : Nat) :
    (BitVec.ofNat 32 (2 ^ k)).getLsbD i = decide (i = k) := by
  rw [BitVec.getLsbD_ofNat, Nat.testBit_two_pow]
  by_cases h : i = k
  · subst h; simp [hk]
  · simp [h, Ne.symm h]

theorem and_ofNat_two_pow_ne_zero_iff (v : BitVec 32) {k : Nat} (hk : k < 32) :
    v &&& BitVec.ofNat 32 (2 ^ k) ≠ 0 ↔ v.getLsbD k = true := by
  constructor
  · intro h
    by_contra h1
    apply h
    ext i
    by_cases hi : (i : Nat) = k <;> simp [getLsbD_ofNat_two_pow hk, hi, h1]
  · intro h h0
    simpa [getLsbD_ofNat_two_pow hk, h] using congrArg (fun x => x.getLsbD k) h0

end Pegmatite

end LinuxSampleDriver
