import ShadowProving.Chain

/-!
# Batch bounds: `batch_blocks_inspect`

Given a candidate batch index `k`, `batch_blocks_inspect` reads the rollup's
`batchDataStore` anchors of `k - 1` and `k`, takes the L2 blocks strictly after
the first and up to the second as the batch's range, and sums their transaction
counts one block at a time.

Two things about the loop matter to the admission check downstream.  A count
read that fails is `unwrap_or_default`ed to `0` rather than failing the cycle,
so the total is the volume *of the blocks that could be read*; and the running
total is a `u64`, so in a build without overflow checks it wraps.  `txnVolume`
is the total as an unbounded natural: `sumTxnCounts_eq` says the loop returns
it modulo `2^64`, or panics in a checked build exactly when it reaches `2^64`,
and `batchBlocksInspect_wrapped_total` lifts that to the whole function.

Nothing checks that the anchors increase.  For an empty or inverted pair
`a(k) ≤ a(k-1)` the loop runs over no block and the range `(a(k-1) + 1, a(k))`
comes back with total `0` (`batchBlocksInspect_of_anchors_le`); only the log
line's `current_bn - prev_bn` can object, by panicking in a checked build.
-/

namespace ShadowProving

/-! ## The per-block loop -/

/-- The count the loop adds for block `i`:
`get_block_transaction_count_by_number(i).unwrap_or_default().unwrap_or_default()`,
so a failed read and an unknown block both count `0`. -/
def txnCount (l2Provider : L2Provider) (i : U64) : U64 :=
  match l2Provider.getBlockTransactionCountByNumber i with
  | .ok (some n) => n
  | .ok none => 0
  | .error _ => 0

/-- The `for i in lo..hi` loop of `batch_blocks_inspect`: from block `i`, with
`n` blocks to go and `total` added so far. -/
def sumTxnCounts (checks : Bool) (l2Provider : L2Provider) : U64 → Nat → U64 → Except Panic U64
  | _, 0, total => .ok total
  | i, n + 1, total => do
    let total ← u64Add checks total (txnCount l2Provider i)
    sumTxnCounts checks l2Provider (i + 1) n total

/-- The volume the loop adds up: the counts read for blocks `i`, …, `i + n - 1`,
summed as unbounded naturals. -/
def txnVolume (l2Provider : L2Provider) : U64 → Nat → Nat
  | _, 0 => 0
  | i, n + 1 => (txnCount l2Provider i).val + txnVolume l2Provider (i + 1) n

/-- **The loop computes the volume.**  Whenever the volume fits in a `u64`, the
loop returns it exactly, in both builds: no count is dropped and nothing wraps. -/
theorem sumTxnCounts_eq_of_lt (checks : Bool) (l2Provider : L2Provider) :
    ∀ (n : Nat) (i total : U64) (h : total.val + txnVolume l2Provider i n < 2 ^ 64),
      sumTxnCounts checks l2Provider i n total =
        .ok ⟨total.val + txnVolume l2Provider i n, h⟩ := by
  intro n
  induction n with
  | zero => intro i total h; rfl
  | succ n ih =>
    intro i total h
    have hv : txnVolume l2Provider i (n + 1) =
        (txnCount l2Provider i).val + txnVolume l2Provider (i + 1) n := rfl
    have hstep : total.val + (txnCount l2Provider i).val < 2 ^ 64 := by omega
    have hrest : total.val + (txnCount l2Provider i).val + txnVolume l2Provider (i + 1) n
        < 2 ^ 64 := by omega
    have hsum : (total + txnCount l2Provider i).val = total.val + (txnCount l2Provider i).val :=
      val_add_of_lt hstep
    simp only [sumTxnCounts, u64Add_of_lt hstep, bind, Except.bind, ih (i + 1) _ (hsum ▸ hrest)]
    exact congrArg Except.ok (Fin.ext (by simp only [hv, hsum]; omega))

/-- **The loop in both builds.**  The loop returns the volume added to `total`,
wrapped to 64 bits; in a build with overflow checks it panics instead, exactly
when that sum reaches `2^64`.  The counts are never negative, so the running
total first leaves the range at the step where the whole sum does. -/
theorem sumTxnCounts_eq (checks : Bool) (l2Provider : L2Provider) :
    ∀ (n : Nat) (i total : U64), sumTxnCounts checks l2Provider i n total =
      if checks ∧ 2 ^ 64 ≤ total.val + txnVolume l2Provider i n then .error .arithmeticOverflow
      else .ok ⟨(total.val + txnVolume l2Provider i n) % 2 ^ 64, Nat.mod_lt _ (by norm_num)⟩ := by
  intro n
  induction n with
  | zero =>
    intro i total
    simp only [sumTxnCounts, txnVolume, Nat.add_zero, Nat.mod_eq_of_lt total.isLt]
    rw [if_neg (by have := total.isLt; omega)]
  | succ n ih =>
    intro i total
    have hv : txnVolume l2Provider i (n + 1) =
        (txnCount l2Provider i).val + txnVolume l2Provider (i + 1) n := rfl
    simp only [sumTxnCounts, bind, Except.bind, u64Add, hv]
    by_cases hc : checks = true ∧ 2 ^ 64 ≤ total.val + (txnCount l2Provider i).val
    · rw [if_pos hc, if_pos ⟨hc.1, by omega⟩]
    · rw [if_neg hc]
      dsimp only
      rw [ih, Fin.val_add]
      cases checks
      · simp only [Bool.false_eq_true, false_and, if_false, Nat.mod_add_mod, Nat.add_assoc]
      · have hlt : total.val + (txnCount l2Provider i).val < 2 ^ 64 := by simpa using hc
        simp only [true_and, Nat.mod_eq_of_lt hlt, Nat.add_assoc]

/-! ## `batch_blocks_inspect` -/

/-- `batch_blocks_inspect`: the anchors of `batchIndex - 1` and `batchIndex`,
the range `(prev_bn + 1, current_bn)` and its transaction total, or `None` when
an anchor read fails.  `prev_bn + 1` is evaluated three times in the source
(loop, log line, result); all three succeed or panic together and give the same
value, so it is evaluated once here.  The log line's `current_bn - prev_bn` is
kept: it can panic on its own. -/
def batchBlocksInspect (cfg : Config) (s : BatchSyncer) (batchIndex : U64) :
    Except Panic (Option ((U64 × U64) × U64)) := do
  let c := cfg.overflowChecks
  match s.l1Rollup.batchDataStore (← u64Sub c batchIndex 1) with
  | .error _ => return none
  | .ok prevStore =>
  let prevBn ← prevStore.to
  match s.l1Rollup.batchDataStore batchIndex with
  | .error _ => return none
  | .ok currentStore =>
  let currentBn ← currentStore.to
  let lo ← u64Add c prevBn 1
  let hi ← u64Add c currentBn 1
  let totalTxCount ← sumTxnCounts c s.l2Provider lo (hi.val - lo.val) 0
  let _blocksLen ← u64Sub c currentBn prevBn
  return some ((lo, currentBn), totalTxCount)

/-- **What a resolved range is made of.**  A range `(lo, hi)` comes from two
successful anchor reads `a(k - 1)` and `a(k)`: `lo` is `a(k - 1) + 1` (wrapped in
a build without overflow checks) and `hi` is `a(k)`; the total is what the loop
returned over the blocks from `lo` up to `hi + 1`. -/
theorem batchBlocksInspect_eq_some {cfg : Config} {s : BatchSyncer} {batchIndex lo hi t : U64}
    (h : batchBlocksInspect cfg s batchIndex = .ok (some ((lo, hi), t))) :
    ∃ a b, s.l1Rollup.batchDataStore (batchIndex - 1) = .ok a ∧
      s.l1Rollup.batchDataStore batchIndex = .ok b ∧ a.val < 2 ^ 64 ∧
      lo.val = (a.val + 1) % 2 ^ 64 ∧ hi.val = b.val ∧
      sumTxnCounts cfg.overflowChecks s.l2Provider lo ((hi + 1).val - lo.val) 0 = .ok t := by
  simp only [batchBlocksInspect, bind, Except.bind, pure, Except.pure] at h
  split at h; · cases h
  rename_i j hj
  obtain ⟨rfl, -⟩ := u64Sub_eq_ok hj
  split at h; · cases h
  rename_i a ha
  split at h; · cases h
  rename_i p hp
  split at h; · cases h
  rename_i b hb
  split at h; · cases h
  rename_i c hc
  split at h; · cases h
  rename_i l hl
  split at h; · cases h
  rename_i m hm
  split at h; · cases h
  rename_i total htotal
  split at h; · cases h
  simp only [Except.ok.injEq, Option.some.injEq, Prod.mk.injEq] at h
  obtain ⟨⟨rfl, rfl⟩, rfl⟩ := h
  have hm' : m = c + 1 := Fin.ext ((u64Add_eq_ok hm).1.trans (Fin.val_add _ _).symm)
  refine ⟨a, b, ha, hb, U256.to_eq_ok.mp hp ▸ p.isLt, ?_, (U256.to_eq_ok.mp hc).symm, hm' ▸ htotal⟩
  rw [(u64Add_eq_ok hl).1, ← U256.to_eq_ok.mp hp]
  rfl

/-- **Past the emptiness check the total is zero.**  A range whose start lies
after its end has no block for the loop to visit, so its total is `0`, in either
build and whatever the L2 provider answers. -/
theorem batchBlocksInspect_total_of_lt {cfg : Config} {s : BatchSyncer} {batchIndex lo hi t : U64}
    (h : batchBlocksInspect cfg s batchIndex = .ok (some ((lo, hi), t))) (hlt : hi < lo) : t = 0 := by
  obtain ⟨-, -, -, -, -, -, -, hsum⟩ := batchBlocksInspect_eq_some h
  have hlt' : hi.val < lo.val := hlt
  rw [val_add_one_of_lt (by omega), show hi.val + 1 - lo.val = 0 by omega] at hsum
  exact (Except.ok.inj hsum).symm

/-- `batch_blocks_inspect` on two successful anchor reads `prev < cur` below
`2^64 - 1`, when the range's volume fits: the range `(prev + 1, cur)` with its
volume, in both builds. -/
theorem batchBlocksInspect_of_reads (cfg : Config) (s : BatchSyncer)
    {batchIndex prev cur : U64} {a b : U256} (hidx : batchIndex ≠ 0)
    (hprev : s.l1Rollup.batchDataStore (batchIndex - 1) = .ok a) (ha : a.val = prev.val)
    (hcur : s.l1Rollup.batchDataStore batchIndex = .ok b) (hb : b.val = cur.val)
    (hlt : prev < cur) (hcur_lt : cur.val < 2 ^ 64 - 1)
    (hvol : txnVolume s.l2Provider (prev + 1) (cur.val - prev.val) < 2 ^ 64) :
    ∃ t : U64, batchBlocksInspect cfg s batchIndex = .ok (some ((prev + 1, cur), t)) ∧
      t.val = txnVolume s.l2Provider (prev + 1) (cur.val - prev.val) := by
  have hlt' : prev.val < cur.val := hlt
  have h1 : (1 : U64) ≤ batchIndex := one_le_of_ne_zero hidx
  have hlo : prev.val + (1 : U64).val < 2 ^ 64 := by simp; omega
  have hhi : cur.val + (1 : U64).val < 2 ^ 64 := by simp; omega
  have hn : (cur + 1).val - (prev + 1).val = cur.val - prev.val := by
    rw [val_add_of_lt hlo, val_add_of_lt hhi]; omega
  simp only [batchBlocksInspect, bind, Except.bind, u64Sub_of_le h1, hprev, hcur,
    U256.to_eq_ok.mpr ha, U256.to_eq_ok.mpr hb, u64Add_of_lt hlo, u64Add_of_lt hhi, hn,
    sumTxnCounts_eq_of_lt _ _ _ _ 0 (by simpa using hvol), u64Sub_of_le (Fin.le_of_lt hlt)]
  exact ⟨_, rfl, by simp⟩

/-- **Empty and inverted anchor pairs.**  When the anchors read `prev` and
`cur ≤ prev`, the loop runs over no block: `batch_blocks_inspect` returns the
range `(prev + 1, cur)`, whose start lies after its end, with total `0`.  In a
build with overflow checks and `cur < prev`, the log line's
`current_bn - prev_bn` panics first. -/
theorem batchBlocksInspect_of_anchors_le (cfg : Config) (s : BatchSyncer)
    {batchIndex prev cur : U64} (hidx : batchIndex ≠ 0)
    (hprev : s.l1Rollup.batchDataStore (batchIndex - 1) = .ok (U256.ofU64 prev))
    (hcur : s.l1Rollup.batchDataStore batchIndex = .ok (U256.ofU64 cur))
    (hle : cur ≤ prev) (hfit : prev.val + 1 < 2 ^ 64) :
    batchBlocksInspect cfg s batchIndex =
      if cfg.overflowChecks ∧ cur < prev then .error .arithmeticOverflow
      else .ok (some ((prev + 1, cur), 0)) := by
  have hle' : cur.val ≤ prev.val := hle
  have hlo : prev.val + (1 : U64).val < 2 ^ 64 := by simpa using hfit
  have hhi : cur.val + (1 : U64).val < 2 ^ 64 := by simp; omega
  have hn : (cur + 1).val - (prev + 1).val = 0 := by
    rw [val_add_of_lt hlo, val_add_of_lt hhi]; omega
  simp only [batchBlocksInspect, bind, Except.bind, u64Sub_of_le (one_le_of_ne_zero hidx), hprev,
    hcur, U256.to_ofU64, u64Add_of_lt hlo, u64Add_of_lt hhi, hn, sumTxnCounts]
  by_cases hc : cfg.overflowChecks = true ∧ cur < prev <;> simp [u64Sub, hc, pure, Except.pure]

/-- **The total is the volume of the range returned.**  For anchors
`prev < cur < 2^64 - 1`, `batch_blocks_inspect` returns `None` exactly when an
anchor read fails; when both reads succeed it returns the range `(prev + 1, cur)`
with the volume of exactly that range, whenever the volume fits in a `u64`.  The
volume counts a block whose count read failed as `0`: the admission check bounds
what could be read, not what the blocks hold. -/
theorem batchBlocksInspect_range_total (cfg : Config) (s : BatchSyncer)
    {batchIndex prev cur : U64} (hidx : batchIndex ≠ 0)
    (hprev : ∀ a, s.l1Rollup.batchDataStore (batchIndex - 1) = .ok a → a.val = prev.val)
    (hcur : ∀ a, s.l1Rollup.batchDataStore batchIndex = .ok a → a.val = cur.val)
    (hlt : prev < cur) (hcur_lt : cur.val < 2 ^ 64 - 1)
    (hvol : txnVolume s.l2Provider (prev + 1) (cur.val - prev.val) < 2 ^ 64) :
    ((∃ e, s.l1Rollup.batchDataStore (batchIndex - 1) = .error e) ∨
        ∃ e, s.l1Rollup.batchDataStore batchIndex = .error e) ∧
      batchBlocksInspect cfg s batchIndex = .ok none ∨
    (∃ a b, s.l1Rollup.batchDataStore (batchIndex - 1) = .ok a ∧
        s.l1Rollup.batchDataStore batchIndex = .ok b) ∧
      ∃ t : U64, batchBlocksInspect cfg s batchIndex = .ok (some ((prev + 1, cur), t)) ∧
        t.val = txnVolume s.l2Provider (prev + 1) (cur.val - prev.val) := by
  have h1 : (1 : U64) ≤ batchIndex := one_le_of_ne_zero hidx
  cases hp : s.l1Rollup.batchDataStore (batchIndex - 1) with
  | error e =>
    left
    exact ⟨.inl ⟨e, rfl⟩, by
      simp [batchBlocksInspect, bind, Except.bind, u64Sub_of_le h1, hp, pure, Except.pure]⟩
  | ok a =>
    cases hc : s.l1Rollup.batchDataStore batchIndex with
    | error e =>
      left
      exact ⟨.inr ⟨e, rfl⟩, by
        simp [batchBlocksInspect, bind, Except.bind, u64Sub_of_le h1, hp, hc, pure, Except.pure,
          U256.to_eq_ok.mpr (hprev a hp)]⟩
    | ok b =>
      exact .inr ⟨⟨a, b, rfl, rfl⟩, batchBlocksInspect_of_reads cfg s hidx hp (hprev a hp) hc
        (hcur b hc) hlt hcur_lt hvol⟩

/-- A ledger whose rollup anchors are `a(k) = k`, so batch `1` is the single L2
block `1`; every L2 count read fails. -/
def failedCountSyncer : BatchSyncer where
  l1Provider := ⟨.error ⟨"unused"⟩, fun _ => .error ⟨"unused"⟩, fun _ => .error ⟨"unused"⟩⟩
  l2Provider := ⟨fun _ => .error ⟨"timeout"⟩⟩
  l1Rollup := ⟨fun k => .ok (U256.ofU64 k), fun _ => none⟩
  l1ShadowRollup := ⟨fun _ => .error ⟨"unused"⟩, fun _ _ => .error ⟨"unused"⟩⟩

/-- Batch `1` of `failedCountSyncer` is the range `(1, 1)` with a total of `0`,
the volume of its unreadable block. -/
theorem batchBlocksInspect_range_total_failedCount :
    ((∃ e, failedCountSyncer.l1Rollup.batchDataStore (1 - 1) = .error e) ∨
        ∃ e, failedCountSyncer.l1Rollup.batchDataStore 1 = .error e) ∧
      batchBlocksInspect { overflowChecks := true } failedCountSyncer 1 = .ok none ∨
    (∃ a b, failedCountSyncer.l1Rollup.batchDataStore (1 - 1) = .ok a ∧
        failedCountSyncer.l1Rollup.batchDataStore 1 = .ok b) ∧
      ∃ t : U64, batchBlocksInspect { overflowChecks := true } failedCountSyncer 1 =
          .ok (some ((0 + 1, 1), t)) ∧
        t.val = txnVolume failedCountSyncer.l2Provider (0 + 1) ((1 : U64).val - (0 : U64).val) :=
  batchBlocksInspect_range_total _ _ (by decide) (fun a h => by cases h; rfl)
    (fun a h => by cases h; rfl) (by decide) (by decide) (by decide)

/-- Whatever block `1` holds (five transactions, say), its count read fails, and
`batch_blocks_inspect` reports the batch's total as `0`. -/
theorem batchBlocksInspect_failed_read_counts_zero :
    failedCountSyncer.l2Provider.getBlockTransactionCountByNumber 1 = .error ⟨"timeout"⟩ ∧
      batchBlocksInspect { overflowChecks := true } failedCountSyncer 1 =
        .ok (some ((1, 1), 0)) :=
  ⟨rfl, rfl⟩

/-- **The total of a non-empty range, in both builds.**  For anchors
`prev < cur < 2^64 - 1`, `batch_blocks_inspect` returns the range
`(prev + 1, cur)` with the range's readable volume wrapped to 64 bits; in a
build with overflow checks it panics instead once that volume reaches `2^64`. -/
theorem batchBlocksInspect_wrapped_total (cfg : Config) (s : BatchSyncer)
    {batchIndex prev cur : U64} (hidx : batchIndex ≠ 0)
    (hprev : s.l1Rollup.batchDataStore (batchIndex - 1) = .ok (U256.ofU64 prev))
    (hcur : s.l1Rollup.batchDataStore batchIndex = .ok (U256.ofU64 cur))
    (hlt : prev < cur) (hcur_lt : cur.val < 2 ^ 64 - 1) :
    batchBlocksInspect cfg s batchIndex =
      if cfg.overflowChecks ∧ 2 ^ 64 ≤ txnVolume s.l2Provider (prev + 1) (cur.val - prev.val) then
        .error .arithmeticOverflow
      else .ok (some ((prev + 1, cur),
        ⟨txnVolume s.l2Provider (prev + 1) (cur.val - prev.val) % 2 ^ 64, Nat.mod_lt _ (by norm_num)⟩)) := by
  have hlt' : prev.val < cur.val := hlt
  have hlo : prev.val + (1 : U64).val < 2 ^ 64 := by simp; omega
  have hhi : cur.val + (1 : U64).val < 2 ^ 64 := by simp; omega
  have hn : (cur + 1).val - (prev + 1).val = cur.val - prev.val := by
    rw [val_add_of_lt hlo, val_add_of_lt hhi]; omega
  simp only [batchBlocksInspect, bind, Except.bind, u64Sub_of_le (one_le_of_ne_zero hidx), hprev,
    hcur, U256.to_ofU64, u64Add_of_lt hlo, u64Add_of_lt hhi, hn, sumTxnCounts_eq, Fin.val_zero,
    Nat.zero_add, u64Sub_of_le (Fin.le_of_lt hlt)]
  split_ifs <;> rfl

/-- A ledger whose rollup anchors are `a(k) = 2k`, so batch `1` is the L2
blocks `1` and `2`, each holding `2^63` transactions: the batch's volume is
`2^64`, one more than a `u64` holds. -/
def saturatedCountSyncer : BatchSyncer :=
  { failedCountSyncer with
    l2Provider := ⟨fun _ => .ok (some (2 ^ 63))⟩
    l1Rollup := ⟨fun k => .ok (U256.ofU64 (k + k)), fun _ => none⟩ }

/-- Batch `1` of `saturatedCountSyncer`: a build with overflow checks panics in
the loop, and a build without wraps the total to `0`. -/
theorem batchBlocksInspect_wrapped_total_saturated :
    batchBlocksInspect { overflowChecks := true } saturatedCountSyncer 1 =
        .error .arithmeticOverflow ∧
      batchBlocksInspect { overflowChecks := false } saturatedCountSyncer 1 =
        .ok (some ((1, 2), 0)) :=
  ⟨(@batchBlocksInspect_wrapped_total { overflowChecks := true } saturatedCountSyncer 1 0 2
      (by decide) rfl rfl (by decide) (by decide)).trans rfl,
    (@batchBlocksInspect_wrapped_total { overflowChecks := false } saturatedCountSyncer 1 0 2
      (by decide) rfl rfl (by decide) (by decide)).trans rfl⟩

end ShadowProving
