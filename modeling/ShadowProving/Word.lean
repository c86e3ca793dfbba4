import Mathlib

/-!
# Words, byte strings and the two `u64` arithmetics

The shadow-proving pipeline handles three kinds of machine values: Rust's `u64`
(block numbers, batch indices, transaction counts, the two admission ceilings),
alloy's `U256` (an event topic read as a number, the `blockNumber` a rollup
contract call returns) and alloy's fixed and variable byte strings (`B256` for
topics, hashes and the six commitment fields, `Bytes` for calldata and the batch
header).  This module fixes their representation and the operations the code
applies to them.

## Design notes

**Panics are values.**  A Rust panic unwinds out of `sync_batch` and out of the
`main` loop, which is what a statement about "never panics" is about; so every
fallible step of the model returns `Except Panic _`, and a `Panic` names the
Rust operation that raised it.

**Overflow is a build setting.**  Whether `a + b` on `u64` panics or wraps is
decided by the profile's `overflow-checks`, not by the source.  The two
arithmetics are one function with a `checks : Bool` argument; every theorem of
the project either holds for both values or says which one it is about.

**Slicing is partial, defaults are explicit.**  `bytes.get(a..b)` is an
`Option`, and the source's `unwrap_or_default` chains are spelled out where the
source has them, so that a zero-filled field is visible in the model.
-/

namespace ShadowProving

/-- Why a cycle unwinds instead of returning: the panics the pipeline's own code
can raise. -/
inductive Panic
  /-- `Option::unwrap` or `Result::unwrap` on a missing value. -/
  | unwrapFailed
  /-- `topics()[1]` on a log with fewer than two topics. -/
  | indexOutOfBounds
  /-- `Uint::to::<u64>()` of a value that does not fit in 64 bits. -/
  | conversionOverflow
  /-- `u64` `+` or `-` leaving the range, in a build with overflow checks. -/
  | arithmeticOverflow
  deriving DecidableEq, Repr

/-! ## `u64` and `U256` -/

/-- Rust's `u64`. -/
abbrev U64 := Fin (2 ^ 64)

/-- alloy's `U256`. -/
abbrev U256 := Fin (2 ^ 256)

/-- `a + b` on `u64`: a panic on overflow when the build has overflow checks,
the sum modulo `2^64` otherwise. -/
def u64Add (checks : Bool) (a b : U64) : Except Panic U64 :=
  if checks ∧ 2 ^ 64 ≤ a.val + b.val then .error .arithmeticOverflow else .ok (a + b)

/-- `a - b` on `u64`: a panic on underflow when the build has overflow checks,
the difference modulo `2^64` otherwise. -/
def u64Sub (checks : Bool) (a b : U64) : Except Panic U64 :=
  if checks ∧ a < b then .error .arithmeticOverflow else .ok (a - b)

/-- A non-zero `u64` is at least one. -/
theorem one_le_of_ne_zero {x : U64} (h : x ≠ 0) : 1 ≤ x := by
  rw [Fin.le_def]; have := Fin.val_ne_of_ne h; simp at this ⊢; omega

/-- The span `e - s + 1` of a range whose start `s` lies after its end `e`, in
wrapping arithmetic: `0` for an empty range (`s = e + 1`), and
`2^64 - (s - e - 1)` for an inverted one. -/
theorem val_sub_add_one_of_lt {e s : U64} (h : e < s) :
    (e - s + 1).val = (2 ^ 64 - (s.val - e.val - 1)) % 2 ^ 64 := by
  have h' : e.val < s.val := h
  rw [Fin.val_add, Fin.coe_sub]
  simp only [Fin.val_one', Nat.one_mod]
  omega

/-- An addition that stays in range succeeds, in both builds. -/
theorem u64Add_of_lt {checks : Bool} {a b : U64} (h : a.val + b.val < 2 ^ 64) :
    u64Add checks a b = .ok (a + b) := by
  rw [u64Add, if_neg (by omega)]

/-- A subtraction that stays in range succeeds, in both builds. -/
theorem u64Sub_of_le {checks : Bool} {a b : U64} (h : b ≤ a) :
    u64Sub checks a b = .ok (a - b) := by
  rw [u64Sub, if_neg (fun hc => absurd h (Fin.not_le.mpr hc.2))]

/-- In range, the sum is the exact sum. -/
theorem val_add_of_lt {a b : U64} (h : a.val + b.val < 2 ^ 64) : (a + b).val = a.val + b.val := by
  rw [Fin.val_add, Nat.mod_eq_of_lt h]

/-- In range, the successor is the exact successor. -/
theorem val_add_one_of_lt {x : U64} (h : x.val + 1 < 2 ^ 64) : (x + 1).val = x.val + 1 :=
  val_add_of_lt (by simpa using h)

/-- What a successful addition returns: the wrapped sum, which is the exact sum
whenever the build checks overflow. -/
theorem u64Add_eq_ok {checks : Bool} {a b r : U64} (h : u64Add checks a b = .ok r) :
    r.val = (a.val + b.val) % 2 ^ 64 ∧ (checks = true → a.val + b.val < 2 ^ 64) := by
  unfold u64Add at h
  split at h
  · cases h
  · cases h
    refine ⟨Fin.val_add _ _, fun hc => ?_⟩
    simp_all

/-- What a successful subtraction returns: `a - b` wrapped, and in a build with
overflow checks only when `b ≤ a`. -/
theorem u64Sub_eq_ok {checks : Bool} {a b r : U64} (h : u64Sub checks a b = .ok r) :
    r = a - b ∧ (checks = true → b ≤ a) := by
  unfold u64Sub at h
  split at h
  · cases h
  · cases h
    exact ⟨rfl, fun hc => by simp_all⟩

/-- With overflow checks, a subtraction below zero panics. -/
theorem u64Sub_checked_of_lt {a b : U64} (h : a < b) :
    u64Sub true a b = .error .arithmeticOverflow := by
  simp [u64Sub, h]

/-- `U256::from(x)` for a `u64`. -/
def U256.ofU64 (x : U64) : U256 := Fin.castLE (Nat.pow_le_pow_right (by decide) (by decide)) x

/-- `Uint::to::<u64>()`: the value itself when it fits, a panic otherwise. -/
def U256.to (x : U256) : Except Panic U64 :=
  if h : x.val < 2 ^ 64 then .ok ⟨x.val, h⟩ else .error .conversionOverflow

@[simp] theorem U256.to_eq_ok {x : U256} {r : U64} : x.to = .ok r ↔ x.val = r.val := by
  unfold U256.to
  split
  · exact ⟨fun h => by cases h; rfl, fun h => by congr⟩
  · simp only [reduceCtorEq, false_iff]
    omega

@[simp] theorem U256.to_ofU64 (x : U64) : (U256.ofU64 x).to = .ok x :=
  U256.to_eq_ok.mpr rfl

/-! ## Big-endian byte strings -/

/-- alloy's `Bytes`: a variable-length byte string. -/
abbrev Bytes := List UInt8

/-- The unsigned integer a big-endian byte string denotes, as
`U256::from_be_slice` and `u64::from_be_bytes` read it. -/
def beValue : List UInt8 → Nat
  | [] => 0
  | b :: bs => b.toNat * 256 ^ bs.length + beValue bs

theorem beValue_lt (bs : List UInt8) : beValue bs < 256 ^ bs.length := by
  induction bs with
  | nil => simp [beValue]
  | cons b bs ih =>
    have hb : b.toNat + 1 ≤ 256 := b.val.isLt
    calc b.toNat * 256 ^ bs.length + beValue bs
        < (b.toNat + 1) * 256 ^ bs.length := by rw [Nat.succ_mul]; omega
      _ ≤ 256 * 256 ^ bs.length := Nat.mul_le_mul_right _ hb
      _ = 256 ^ (b :: bs).length := by rw [List.length_cons, Nat.pow_succ, Nat.mul_comm]

/-- `n` as `w` big-endian bytes, its low `8 w` bits (`u64::to_be_bytes` for
`w = 8`). -/
def beBytes : Nat → Nat → List UInt8
  | 0, _ => []
  | w + 1, n => (n / 256 ^ w % 256).toUInt8 :: beBytes w n

@[simp] theorem length_beBytes (w n : Nat) : (beBytes w n).length = w := by
  induction w with
  | zero => rfl
  | succ w ih => simp [beBytes, ih]

/-- Reading `w` big-endian bytes back gives the number they were written from,
modulo `256^w`. -/
theorem beValue_beBytes (w n : Nat) : beValue (beBytes w n) = n % 256 ^ w := by
  induction w with
  | zero => simp [beBytes, beValue, Nat.mod_one]
  | succ w ih =>
    have hbyte : (n / 256 ^ w % 256).toUInt8.toNat = n / 256 ^ w % 256 := by
      simp [Nat.toUInt8, UInt8.toNat, UInt8.ofNat, Fin.ofNat]
    rw [beBytes, beValue, length_beBytes, ih, hbyte, Nat.mod_pow_succ, Nat.mul_comm, Nat.add_comm]

/-- `bytes.get(a..b)`: the bytes from `a` up to `b`, when `a ≤ b ≤ len`. -/
def sliceGet (bs : Bytes) (a b : Nat) : Option Bytes :=
  if a ≤ b ∧ b ≤ bs.length then some ((bs.drop a).take (b - a)) else none

/-- alloy's `B256`, a fixed 32-byte string. -/
structure B256 where
  bytes : List UInt8
  length_bytes : bytes.length = 32
  deriving DecidableEq

namespace B256

/-- `B256::default()`: 32 zero bytes. -/
def zero : B256 := ⟨List.replicate 32 0, List.length_replicate 32 0⟩

instance : Inhabited B256 := ⟨zero⟩

/-- `<[u8; 32]>::try_from(slice)`: succeeds exactly on 32-byte slices. -/
def tryFrom (bs : Bytes) : Option B256 :=
  if h : bs.length = 32 then some ⟨bs, h⟩ else none

/-- `U256::from_be_slice(word.as_slice())`. -/
def toU256 (w : B256) : U256 :=
  ⟨beValue w.bytes, by simpa [w.length_bytes] using beValue_lt w.bytes⟩

/-- The 32-byte big-endian word of `n` (mod `2^256`), as an event topic carries
an indexed `uint256`. -/
def ofNat (n : Nat) : B256 := ⟨beBytes 32 n, length_beBytes 32 n⟩

end B256

end ShadowProving
