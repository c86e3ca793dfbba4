import ShadowProving.SyncBatch

/-!
# Which batches are replayed

The emptiness check in `get_committed_batch` is written the wrong way round:
`if blocks.0 <= blocks.1 { return Err("blocks is empty") }` rejects every range
that has a block in it.  This module follows that through a whole cycle.

* In a build without overflow checks, a cycle that syncs a batch always syncs an
  empty range: `info` is `{k, a(k-1) + 1, a(k)}` with `a(k) = a(k-1)`, unless
  `a(k) < a(k-1)` by so much that the wrapped span `a(k) - a(k-1) - 1 + 1` is
  within `max_block` (`syncBatch_synced_range_inverted`); and every such range
  whose batch is unproven and whose header and commit go through is synced
  (`syncBatch_synced_of_anchors_le`).
* In a build with overflow checks, the span of such a range underflows, so no
  cycle ever submits a commitment or syncs a batch
  (`syncBatch_checked_no_commit`), and an empty or inverted anchor pair for the
  candidate panics (`syncBatch_checked_empty_anchors_panic`).
* A candidate whose range has a block in it ends the cycle in `Ok(None)` with
  nothing submitted (`syncBatch_nonempty_range_noop`); in particular every
  ledger on which a batch is genuinely eligible — at least two blocks, within
  both ceilings, unproven, with a decodable header and a shadow ledger that
  accepts the commit — does (`syncBatch_eligible_dropped`).

`Candidate` names what the scan has to give for a batch index to be chosen, and
`Eligible` what the spec asks of a batch to be replayed.  The same cycle can also
panic, which stops `main`: a pending log without a block number, a short topic
list, an index or anchor above `2^64`, an underflow in a checked build, or a
failed receipt poll.
-/

namespace ShadowProving

/-! ## The two builds -/

/-- **Only empty or inverted ranges are synced.**  A cycle that returns
`Ok(Some(info))` ran in a build without overflow checks, read both anchors of
`info.batchIndex`, and has `info = {k, a(k-1) + 1, a(k)}` where either
`a(k) = a(k-1)`, an empty range, or `a(k) < a(k-1)` by so much that the wrapped
span `2^64 - (a(k-1) - a(k))` is within `max_block`. -/
theorem syncBatch_synced_range_inverted {cfg : Config} {s : BatchSyncer} {info : BatchInfo}
    (hs : (syncBatch cfg s).result = .ok (.ok (some info))) :
    cfg.overflowChecks = false ∧ ∃ a b,
      s.l1Rollup.batchDataStore (info.batchIndex - 1) = .ok a ∧
      s.l1Rollup.batchDataStore info.batchIndex = .ok b ∧
      info.startBlock.val = a.val + 1 ∧ info.endBlock.val = b.val ∧
      (b.val = a.val ∨ 2 ^ 64 ≤ a.val - b.val + cfg.maxBlock.val) := by
  obtain ⟨_, _, -, hc, -, -⟩ := syncBatch_result_eq_some hs
  obtain ⟨_, -, hcl⟩ := getCommittedBatch_eq_some hc
  obtain ⟨-, hchecks, -, hlt, hspan, _, _, _, _, -, -, -, hr, -⟩ := committedBatchOfLogs_eq_some hcl
  obtain ⟨a, b, ha, hb, hafit, hlo, hhi, -⟩ := batchBlocksInspect_eq_some hr
  have hlt' : info.endBlock.val < info.startBlock.val := hlt
  have hspan' : (info.endBlock - info.startBlock + 1).val ≤ cfg.maxBlock.val := hspan
  rw [val_sub_add_one_of_lt hlt] at hspan'
  exact ⟨hchecks, a, b, ha, hb, by omega, hhi, by omega⟩

/-- **With overflow checks, nothing is ever committed.**  Every candidate that
passes the emptiness check has an inverted range, whose span underflows; so in a
build with overflow checks no cycle submits a shadow commitment or returns a
synced batch. -/
theorem syncBatch_checked_no_commit {cfg : Config} {s : BatchSyncer}
    (hchk : cfg.overflowChecks = true) :
    (syncBatch cfg s).commit = none ∧ ∀ info, (syncBatch cfg s).result ≠ .ok (.ok (some info)) := by
  have hno : ∀ latest r, getCommittedBatch cfg s latest ≠ .ok (.ok (some r)) := by
    intro latest r hc
    obtain ⟨_, -, hcl⟩ := getCommittedBatch_eq_some hc
    exact absurd (committedBatchOfLogs_eq_some hcl).2.1 (by simp [hchk])
  refine ⟨?_, fun info hs => ?_⟩
  · cases hcommit : (syncBatch cfg s).commit with
    | none => rfl
    | some p =>
      obtain ⟨_, info, h, -, hc, -⟩ := syncBatch_commit_eq_some hcommit
      exact absurd hc (hno _ _)
  · obtain ⟨_, h, -, hc, -⟩ := syncBatch_result_eq_some hs
    exact absurd hc (hno _ _)

/-- In the release build, batch 2 of `threeCommitsSyncer`, whose anchors are
`a(1) = a(2) = 10`, is committed and handed to the prover as the range
`(11, 10)`: its start lies after its end. -/
theorem syncBatch_threeCommits_inverted_range :
    threeCommitsSyncer.l1Rollup.batchDataStore 1 = .ok 10 ∧
      threeCommitsSyncer.l1Rollup.batchDataStore 2 = .ok 10 ∧
      syncBatch { overflowChecks := false } threeCommitsSyncer =
        ⟨some (2, ⟨B256.zero, B256.zero, B256.zero, B256.zero, B256.zero, B256.zero⟩),
          .ok (.ok (some ⟨2, 11, 10⟩))⟩ :=
  ⟨rfl, rfl, rfl⟩

/-! ## Candidates -/

/-- The scan of a cycle selects batch `idx` as its candidate: the height and
the scan are read, the scan holds at least three logs and sorts, and the
second-to-last log in block order carries `idx ≠ 0`. -/
structure Candidate (s : BatchSyncer) (latest : U64) (logs sorted : List Log) (log : Log)
    (idx : U64) : Prop where
  getBlockNumber_eq : s.l1Provider.getBlockNumber = .ok latest
  getLogs_eq : s.l1Provider.getLogs (scanStart latest) = .ok logs
  three_le_length : 3 ≤ logs.length
  sortLogs_eq : sortLogs logs = .ok sorted
  candidate_eq : sorted.get? (sorted.length - 2) = some log
  logBatchIndex_eq : logBatchIndex log = .ok idx
  idx_ne_zero : idx ≠ 0

/-- The scan a candidate comes from is the one `get_committed_batch` reads. -/
theorem Candidate.getCommittedBatch_eq {cfg : Config} {s : BatchSyncer} {latest : U64}
    {logs sorted : List Log} {log : Log} {idx : U64} (hc : Candidate s latest logs sorted log idx) :
    getCommittedBatch cfg s latest = committedBatchOfLogs cfg s logs := by
  simp only [getCommittedBatch, hc.getLogs_eq]

/-- **With overflow checks, an empty or inverted anchor pair stops the
process.**  When the candidate's anchors read `a(idx-1) = prev` and
`a(idx) = cur ≤ prev`, a build with overflow checks panics: in the log line of
`batch_blocks_inspect` when `cur < prev`, and in the span of the empty range
`(prev + 1, prev)` when `cur = prev`. -/
theorem syncBatch_checked_empty_anchors_panic {cfg : Config} {s : BatchSyncer} {latest : U64}
    {logs sorted : List Log} {log : Log} {idx prev cur : U64}
    (hc : Candidate s latest logs sorted log idx) (hchk : cfg.overflowChecks = true)
    (hprev : s.l1Rollup.batchDataStore (idx - 1) = .ok (U256.ofU64 prev))
    (hcur : s.l1Rollup.batchDataStore idx = .ok (U256.ofU64 cur))
    (hle : cur ≤ prev) (hfit : prev.val + 1 < 2 ^ 64) :
    syncBatch cfg s = ⟨none, .error .arithmeticOverflow⟩ := by
  have hr := batchBlocksInspect_of_anchors_le cfg s hc.idx_ne_zero hprev hcur hle hfit
  have hcb : committedBatchOfLogs cfg s logs = .error .arithmeticOverflow := by
    rcases Fin.lt_or_eq_of_le hle with hlt | rfl
    · exact committedBatchOfLogs_of_inspect_panic hc.three_le_length hc.sortLogs_eq
        hc.candidate_eq hc.logBatchIndex_eq hc.idx_ne_zero (by simp [hr, hchk, hlt])
    · have hlt : cur < cur + 1 := Fin.lt_def.mpr (by rw [val_add_one_of_lt hfit]; omega)
      exact committedBatchOfLogs_checked_inverted hc.three_le_length hc.sortLogs_eq
        hc.candidate_eq hc.logBatchIndex_eq hc.idx_ne_zero
        (show batchBlocksInspect cfg s idx = .ok (some ((cur + 1, cur), 0)) by simp [hr]) hlt hchk
  simp [syncBatch, hc.getBlockNumber_eq, hc.getCommittedBatch_eq, hcb]

/-- `threeCommitsSyncer` with the anchors of its candidate, batch `2`, moved to
`a(1) = prev` and `a(2) = cur`. -/
def anchorPairSyncer (prev cur : U64) : BatchSyncer :=
  { threeCommitsSyncer with
    l1Rollup := { threeCommitsSyncer.l1Rollup with
      batchDataStore := fun k => .ok (U256.ofU64 (if k = 1 then prev else cur)) } }

/-- With overflow checks, batch 2 stops the process both when its anchors are
equal (`threeCommitsSyncer`, `a(1) = a(2) = 10`: the span underflows) and when
they are inverted (`a(1) = 20`, `a(2) = 10`: the log line underflows). -/
theorem syncBatch_checked_empty_anchors_panic_threeCommits :
    syncBatch { overflowChecks := true } threeCommitsSyncer = ⟨none, .error .arithmeticOverflow⟩ ∧
      syncBatch { overflowChecks := true } (anchorPairSyncer 20 10) =
        ⟨none, .error .arithmeticOverflow⟩ :=
  ⟨@syncBatch_checked_empty_anchors_panic _ _ 500
    [commitLog 1 1 101, commitLog 2 2 102, commitLog 3 3 103]
    [commitLog 1 1 101, commitLog 2 2 102, commitLog 3 3 103] (commitLog 2 2 102) 2 10 10
    ⟨rfl, rfl, by decide, rfl, rfl, rfl, by decide⟩ rfl rfl rfl (le_refl _) (by decide),
  @syncBatch_checked_empty_anchors_panic _ _ 500
    [commitLog 1 1 101, commitLog 2 2 102, commitLog 3 3 103]
    [commitLog 1 1 101, commitLog 2 2 102, commitLog 3 3 103] (commitLog 2 2 102) 2 20 10
    ⟨rfl, rfl, by decide, rfl, rfl, rfl, by decide⟩ rfl rfl rfl (by decide) (by decide)⟩

/-- **Which empty and inverted ranges are synced.**  The converse of
`syncBatch_synced_range_inverted`: in a build without overflow checks, a
candidate whose anchors read `prev` and `cur ≤ prev`, with `cur = prev` or a
wrapped span within `max_block`, is synced whenever its proof state reads
`false`, its header decodes and the shadow ledger accepts the commit.  The cycle
commits the projection of the header and returns `{idx, prev + 1, cur}`. -/
theorem syncBatch_synced_of_anchors_le {cfg : Config} {s : BatchSyncer} {latest : U64}
    {logs sorted : List Log} {log last : Log} {idx prev cur : U64} {h : Bytes}
    {pendingTx : PendingTransaction}
    (hc : Candidate s latest logs sorted log idx) (hrel : cfg.overflowChecks = false)
    (hprev : s.l1Rollup.batchDataStore (idx - 1) = .ok (U256.ofU64 prev))
    (hcur : s.l1Rollup.batchDataStore idx = .ok (U256.ofU64 cur))
    (hle : cur ≤ prev) (hfit : prev.val + 1 < 2 ^ 64)
    (hspan : cur = prev ∨ 2 ^ 64 ≤ prev.val - cur.val + cfg.maxBlock.val)
    (hlast : sorted.getLast? = some last)
    (hh : batchHeaderInspect s.l1Rollup s.l1Provider (headerTxHash last) = some h)
    (hunproved : isProveSuccess s.l1ShadowRollup idx = some false)
    (hsend : s.l1ShadowRollup.commitBatch idx (batchStoreOf h) = .ok pendingTx)
    (hreceipt : pendingTx.getReceipt = .ok ⟨true⟩) :
    syncBatch cfg s = ⟨some (idx, batchStoreOf h), .ok (.ok (some ⟨idx, prev + 1, cur⟩))⟩ := by
  have hle' : cur.val ≤ prev.val := hle
  have hlt : cur < prev + 1 := Fin.lt_def.mpr (by rw [val_add_one_of_lt hfit]; omega)
  have hr : batchBlocksInspect cfg s idx = .ok (some ((prev + 1, cur), 0)) := by
    rw [batchBlocksInspect_of_anchors_le cfg s hc.idx_ne_zero hprev hcur hle hfit, hrel]; rfl
  have hspan' : ¬cur - (prev + 1) + 1 > cfg.maxBlock := by
    rw [gt_iff_lt, Fin.not_lt, Fin.le_def, val_sub_add_one_of_lt hlt, val_add_one_of_lt hfit]
    rcases hspan with rfl | hspan <;> omega
  have hcb : committedBatchOfLogs cfg s logs = .ok (.ok (some (⟨idx, prev + 1, cur⟩, h))) := by
    simp only [committedBatchOfLogs, bind, Except.bind, pure, Except.pure,
      isEmpty_eq_false_of_three_le hc.three_le_length, if_neg (Nat.not_lt.mpr hc.three_le_length),
      hc.sortLogs_eq, hc.candidate_eq, hc.logBatchIndex_eq, hc.idx_ne_zero, hr,
      if_neg (Fin.not_le.mpr hlt), hrel, u64Sub, u64Add, Bool.false_eq_true, false_and, if_false,
      hspan', hlast, hh]
    rw [if_neg (Fin.not_lt.mpr (Fin.zero_le' _))]
  simp [syncBatch, hc.getBlockNumber_eq, hc.getCommittedBatch_eq, hcb, hunproved, commitAndConfirm,
    hsend, hreceipt]

/-- In the release build, batch 2 is synced as the empty range `(11, 10)` when
its anchors are `a(1) = a(2) = 10`, and as the inverted range `(2^64 - 1, 0)`
when they are `a(1) = 2^64 - 2` and `a(2) = 0`, whose wrapped span is `2`. -/
theorem syncBatch_synced_of_anchors_le_threeCommits :
    syncBatch { overflowChecks := false } threeCommitsSyncer =
        ⟨some (2, batchStoreOf (B256.ofNat 103).bytes), .ok (.ok (some ⟨2, 10 + 1, 10⟩))⟩ ∧
      syncBatch { overflowChecks := false } (anchorPairSyncer 18446744073709551614 0) =
        ⟨some (2, batchStoreOf (B256.ofNat 103).bytes),
          .ok (.ok (some ⟨2, 18446744073709551614 + 1, 0⟩))⟩ :=
  ⟨@syncBatch_synced_of_anchors_le _ _ 500 [commitLog 1 1 101, commitLog 2 2 102, commitLog 3 3 103]
    [commitLog 1 1 101, commitLog 2 2 102, commitLog 3 3 103] (commitLog 2 2 102)
    (commitLog 3 3 103) 2 10 10 (B256.ofNat 103).bytes ⟨.ok ⟨true⟩⟩
    ⟨rfl, rfl, by decide, rfl, rfl, rfl, by decide⟩ rfl rfl rfl (le_refl _) (by decide) (.inl rfl)
    rfl rfl rfl rfl rfl,
  @syncBatch_synced_of_anchors_le _ _ 500 [commitLog 1 1 101, commitLog 2 2 102, commitLog 3 3 103]
    [commitLog 1 1 101, commitLog 2 2 102, commitLog 3 3 103] (commitLog 2 2 102)
    (commitLog 3 3 103) 2 18446744073709551614 0 (B256.ofNat 103).bytes ⟨.ok ⟨true⟩⟩
    ⟨rfl, rfl, by decide, rfl, rfl, rfl, by decide⟩ rfl rfl rfl (by decide) (by decide)
    (.inr (by decide)) rfl rfl rfl rfl rfl⟩

/-! ## Eligible batches are dropped -/

/-- A ledger on which the candidate `idx` is eligible for replay: the scan's
logs have distinct block numbers, the anchors are `a(idx-1) = prev` and
`a(idx) = cur` with `prev + 1 < cur < 2^64 - 1` and a span of at most
`maxBlock`, every count read of the range succeeds and the counts add up to at
most `maxTxn`, the proof state reads `false`, the last log's transaction
decodes, and the shadow ledger accepts the commit with a successful receipt. -/
structure Eligible (cfg : Config) (s : BatchSyncer) (latest : U64) (logs sorted : List Log)
    (log : Log) (idx prev cur : U64) extends Candidate s latest logs sorted log idx : Prop where
  blockNumbers_nodup : (logs.map (·.blockNumber)).Nodup
  prev_anchor : s.l1Rollup.batchDataStore (idx - 1) = .ok (U256.ofU64 prev)
  cur_anchor : s.l1Rollup.batchDataStore idx = .ok (U256.ofU64 cur)
  two_blocks : prev.val + 1 < cur.val
  cur_lt : cur.val < 2 ^ 64 - 1
  span_le : cur.val - prev.val ≤ cfg.maxBlock.val
  counts_read : ∀ i : U64, prev.val < i.val → i.val ≤ cur.val →
    ∃ n, s.l2Provider.getBlockTransactionCountByNumber i = .ok (some n)
  volume_le : txnVolume s.l2Provider (prev + 1) (cur.val - prev.val) ≤ cfg.maxTxn.val
  unproved : isProveSuccess s.l1ShadowRollup idx = some false
  committed : ∃ last h pendingTx, sorted.getLast? = some last ∧
    batchHeaderInspect s.l1Rollup s.l1Provider (headerTxHash last) = some h ∧
    s.l1ShadowRollup.commitBatch idx (batchStoreOf h) = .ok pendingTx ∧
    pendingTx.getReceipt = .ok ⟨true⟩

/-- **Every eligible batch is dropped.**  On every ledger where batch `idx` is
eligible, the cycle returns `Ok(None)` and submits nothing: the range
`(prev + 1, cur)` has a block in it, and the emptiness check rejects it. -/
theorem syncBatch_eligible_dropped {cfg : Config} {s : BatchSyncer} {latest : U64}
    {logs sorted : List Log} {log : Log} {idx prev cur : U64}
    (he : Eligible cfg s latest logs sorted log idx prev cur) :
    syncBatch cfg s = ⟨none, .ok (.ok none)⟩ := by
  have h2 := he.two_blocks
  have hvol : txnVolume s.l2Provider (prev + 1) (cur.val - prev.val) < 2 ^ 64 :=
    lt_of_le_of_lt he.volume_le cfg.maxTxn.isLt
  obtain ⟨t, hr, -⟩ := batchBlocksInspect_of_reads cfg s he.idx_ne_zero he.prev_anchor rfl
    he.cur_anchor rfl (Fin.lt_def.mpr (by omega)) he.cur_lt hvol
  have hle : prev + 1 ≤ cur := Fin.le_def.mpr (by rw [val_add_one_of_lt (by omega)]; omega)
  exact syncBatch_of_no_candidate he.getBlockNumber_eq (.inr ⟨_, he.getCommittedBatch_eq.trans
    (committedBatchOfLogs_nonempty_range he.three_le_length he.sortLogs_eq he.candidate_eq
      he.logBatchIndex_eq he.idx_ne_zero hr hle)⟩)

/-- The spec's scenario B: commits of batches 41, 42, 43 in L1 blocks 100, 150,
200, inside the scan window of the L1 height `500`; anchors `a(41) = 1000000` and `a(42) = 1000002`, so batch 42 is the L2
blocks `1000001` and `1000002`, holding one transaction; batch 42 is unproven. -/
def scenarioBSyncer : BatchSyncer where
  l1Provider := ⟨.ok 500, fun _ => .ok [commitLog 100 41 141, commitLog 150 42 142,
    commitLog 200 43 143], fun h => .ok (some ⟨h.bytes⟩)⟩
  l2Provider := ⟨fun i => .ok (some (if i = 1000001 then 1 else 0))⟩
  l1Rollup := ⟨fun k => .ok (if k = 41 then 1000000 else 1000002), fun c => some ⟨⟨c⟩⟩⟩
  l1ShadowRollup := ⟨fun _ => .ok false, fun _ _ => .ok ⟨.ok ⟨true⟩⟩⟩

/-- Scenario B is eligible, and its cycle ends in `Ok(None)` with no commit. -/
theorem syncBatch_eligible_dropped_scenarioB :
    syncBatch { overflowChecks := false } scenarioBSyncer = ⟨none, .ok (.ok none)⟩ :=
  @syncBatch_eligible_dropped _ _ 500
    [commitLog 100 41 141, commitLog 150 42 142, commitLog 200 43 143]
    [commitLog 100 41 141, commitLog 150 42 142, commitLog 200 43 143]
    (commitLog 150 42 142) 42 1000000 1000002
    { getBlockNumber_eq := rfl
      getLogs_eq := rfl
      three_le_length := by decide
      blockNumbers_nodup := by decide
      sortLogs_eq := rfl
      candidate_eq := rfl
      logBatchIndex_eq := rfl
      idx_ne_zero := by decide
      prev_anchor := rfl
      cur_anchor := rfl
      two_blocks := by decide
      cur_lt := by decide
      span_le := by decide
      counts_read := fun _ _ _ => ⟨_, rfl⟩
      volume_le := by decide
      unproved := rfl
      committed := ⟨_, _, _, rfl, rfl, rfl, rfl⟩ }

/-- **No non-empty range is synced.**  A cycle whose candidate's range
`(lo, hi)` has `lo ≤ hi` ends in `Ok(None)` with nothing submitted, in either
build and whatever the range's span and volume, the proof state and the header:
the emptiness check rejects the range, and `sync_batch` logs the error.  This is
the spec's scenario C, and every batch with a block in it. -/
theorem syncBatch_nonempty_range_noop {cfg : Config} {s : BatchSyncer} {latest : U64}
    {logs sorted : List Log} {log : Log} {idx lo hi total : U64}
    (hc : Candidate s latest logs sorted log idx)
    (hr : batchBlocksInspect cfg s idx = .ok (some ((lo, hi), total))) (hle : lo ≤ hi) :
    syncBatch cfg s = ⟨none, .ok (.ok none)⟩ :=
  syncBatch_of_no_candidate hc.getBlockNumber_eq (.inr ⟨_, hc.getCommittedBatch_eq.trans
    (committedBatchOfLogs_nonempty_range hc.three_le_length hc.sortLogs_eq hc.candidate_eq
      hc.logBatchIndex_eq hc.idx_ne_zero hr hle)⟩)

/-- Scenario B's candidate, the range `(1000001, 1000002)`, syncs nothing. -/
theorem syncBatch_nonempty_range_noop_scenarioB :
    syncBatch { overflowChecks := false } scenarioBSyncer = ⟨none, .ok (.ok none)⟩ :=
  @syncBatch_nonempty_range_noop _ _ 500
    [commitLog 100 41 141, commitLog 150 42 142, commitLog 200 43 143]
    [commitLog 100 41 141, commitLog 150 42 142, commitLog 200 43 143]
    (commitLog 150 42 142) 42 1000001 1000002 1
    ⟨rfl, rfl, by decide, rfl, rfl, rfl, by decide⟩ rfl (by decide)

/-! ## Panics -/

/-- **A pending log stops the process.**  In either build, a scan of at least
three logs one of which has no block number, as a pending log has none, makes
the sort's `block_number.unwrap()` panic; the panic leaves `sync_batch` before
anything is submitted. -/
theorem syncBatch_of_pending_log {cfg : Config} {s : BatchSyncer} {latest : U64}
    {logs : List Log} (hl : s.l1Provider.getBlockNumber = .ok latest)
    (hlogs : s.l1Provider.getLogs (scanStart latest) = .ok logs) (hlen : 3 ≤ logs.length)
    (hpend : ∃ l ∈ logs, l.blockNumber = none) :
    syncBatch cfg s = ⟨none, .error .unwrapFailed⟩ := by
  obtain ⟨l, hmem, hnone⟩ := hpend
  have hsort : sortLogs logs = .error .unwrapFailed :=
    if_neg fun hall => by simpa [hnone] using List.all_eq_true.mp hall l hmem
  have hc : committedBatchOfLogs cfg s logs = .error .unwrapFailed := by
    simp only [committedBatchOfLogs, bind, Except.bind, pure, Except.pure,
      isEmpty_eq_false_of_three_le hlen, if_neg (Nat.not_lt.mpr hlen), hsort, Bool.false_eq_true,
      if_false]
  simp [syncBatch, hl, getCommittedBatch, hlogs, hc]

/-- A scan whose first log has no block number, as a pending log has none. -/
def pendingLogSyncer : BatchSyncer :=
  flatAnchorSyncer [⟨none, some (B256.ofNat 101), [B256.zero, B256.ofNat 1]⟩,
    commitLog 2 2 102, commitLog 3 3 103] id

/-- **A failed receipt poll stops the process.**  A cycle whose commit is sent
but whose receipt cannot be fetched has submitted the commitment, and then
panics in `get_receipt().await.unwrap()`; unlike a failed `send()`, this error is
not logged. -/
theorem syncBatch_of_receipt_error {cfg : Config} {s : BatchSyncer} {latest : U64}
    {info : BatchInfo} {h : Bytes} {pendingTx : PendingTransaction} {e : RpcError}
    (hl : s.l1Provider.getBlockNumber = .ok latest)
    (hc : getCommittedBatch cfg s latest = .ok (.ok (some (info, h))))
    (hp : isProveSuccess s.l1ShadowRollup info.batchIndex = some false)
    (hsend : s.l1ShadowRollup.commitBatch info.batchIndex (batchStoreOf h) = .ok pendingTx)
    (hreceipt : pendingTx.getReceipt = .error e) :
    syncBatch cfg s = ⟨some (info.batchIndex, batchStoreOf h), .error .unwrapFailed⟩ := by
  simp [syncBatch, hl, hc, hp, commitAndConfirm, hsend, hreceipt]

/-- `threeCommitsSyncer` on which the shadow commit is sent but every poll for
its receipt fails. -/
def receiptTimeoutSyncer : BatchSyncer :=
  { threeCommitsSyncer with
    l1ShadowRollup := { threeCommitsSyncer.l1ShadowRollup with
      commitBatch := fun _ _ => .ok ⟨.error ⟨"receipt timeout"⟩⟩ } }

/-- In the release build, a failed receipt poll after the shadow commit of batch
`2` panics in `get_receipt().await.unwrap()`; in either build, a pending log in
the scan makes the sort's `block_number.unwrap()` panic.  Both panics leave
`sync_batch`. -/
theorem syncBatch_unwrap_panics (checks : Bool) :
    syncBatch { overflowChecks := false } receiptTimeoutSyncer =
        ⟨some (2, batchStoreOf (B256.ofNat 103).bytes), .error .unwrapFailed⟩ ∧
      syncBatch { overflowChecks := checks } pendingLogSyncer = ⟨none, .error .unwrapFailed⟩ :=
  ⟨@syncBatch_of_receipt_error _ _ 500 ⟨2, 11, 10⟩ _ _ ⟨"receipt timeout"⟩ rfl rfl rfl rfl rfl,
    syncBatch_of_pending_log rfl rfl (by decide) ⟨_, List.mem_cons_self _ _, rfl⟩⟩

end ShadowProving
