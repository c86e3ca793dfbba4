import ShadowProving.Header
import ShadowProving.Blocks
import ShadowProving.Scan

/-!
# Candidate selection: `get_committed_batch`

`get_committed_batch` is the part of a cycle that decides *which* batch to
replay: it scans the commit logs, picks the candidate, resolves its block range,
applies the two admission ceilings and fetches the candidate's header from the
next commit's calldata.  Its result is `Ok(Some((info, header)))` for a batch to
replay, `Ok(None)` for "nothing this cycle", and `Err(msg)` for a failure that
`sync_batch` logs and also turns into "nothing this cycle".

## What the code checks, and what it checks the other way round

The emptiness check on the resolved range reads `if blocks.0 <= blocks.1 {
return Err("blocks is empty") }`.  Its message says it rejects an empty range;
its comparison rejects every *non-empty* one.  So the only ranges that get past
it are empty or inverted (`a(k) ≤ a(k-1)`), and for those the span
`blocks.1 - blocks.0 + 1` underflows: it panics in a build with overflow checks,
and wraps in one without.  `committedBatchOfLogs_eq_some` records all of this
in one place, and every result about a replayed batch is read off it:

* the batch index is the second-to-last sorted log's, and is not `0`;
* the range is the one `batch_blocks_inspect` returned, and `end < start`;
* its span, computed with wrapping, is within `max_block`, and its total
  within `max_txn`;
* the build has no overflow checks;
* the header is the one carried by the last sorted log's transaction.
-/

namespace ShadowProving

/-- `get_committed_batch` from the log scan on: `logs` is what `get_logs`
returned for the scan window. -/
def committedBatchOfLogs (cfg : Config) (s : BatchSyncer) (logs : List Log) :
    Except Panic (Except String (Option (BatchInfo × Bytes))) := do
  if logs.isEmpty then return .ok none
  if logs.length < 3 then return .ok none
  let logs ← sortLogs logs
  match logs.get? (logs.length - 2) with
  | none => return .error "find commit_batch log error"
  | some log =>
  let batchIndex ← logBatchIndex log
  if batchIndex = 0 then return .error "batch_index is 0"
  match ← batchBlocksInspect cfg s batchIndex with
  | none => return .error "batch_blocks_inspect none"
  | some (blocks, totalTxnCount) =>
  if blocks.1 ≤ blocks.2 then return .error "blocks is empty"
  let span ← u64Add cfg.overflowChecks (← u64Sub cfg.overflowChecks blocks.2 blocks.1) 1
  if span > cfg.maxBlock then return .ok none
  if totalTxnCount > cfg.maxTxn then return .ok none
  let batchInfo : BatchInfo := ⟨batchIndex, blocks.1, blocks.2⟩
  match logs.getLast? with
  | none => return .error "find commit_batch log error"
  | some log =>
  match batchHeaderInspect s.l1Rollup s.l1Provider (headerTxHash log) with
  | none => return .error "Failed to inspect batch header"
  | some batchHeader => return .ok (some (batchInfo, batchHeader))

/-- `get_committed_batch`: the `CommitBatch` logs of the scan window, then
`committedBatchOfLogs`. -/
def getCommittedBatch (cfg : Config) (s : BatchSyncer) (latest : U64) :
    Except Panic (Except String (Option (BatchInfo × Bytes))) :=
  match s.l1Provider.getLogs (scanStart latest) with
  | .error _ => .ok (.error "l1_rollup.commit_batch.get_logs provider error")
  | .ok logs => committedBatchOfLogs cfg s logs

/-- A candidate comes from the logs of the scan window. -/
theorem getCommittedBatch_eq_some {cfg : Config} {s : BatchSyncer} {latest : U64}
    {r : BatchInfo × Bytes} (h : getCommittedBatch cfg s latest = .ok (.ok (some r))) :
    ∃ logs, s.l1Provider.getLogs (scanStart latest) = .ok logs ∧
      committedBatchOfLogs cfg s logs = .ok (.ok (some r)) := by
  unfold getCommittedBatch at h
  split at h
  · cases h
  · exact ⟨_, ‹_›, h⟩

/-! ## What a replayed candidate satisfies -/

/-- **Everything a replayed candidate went through.**  When
`get_committed_batch` returns a batch and its header, the scan had at least
three logs; the index is the second-to-last sorted log's and is not `0`; the
range is `batch_blocks_inspect`'s and is *inverted* (`end < start`), because the
emptiness check lets only those through; the build has no overflow checks,
because with them the span of an inverted range underflows; the wrapped span
and the total passed the two ceilings; and the header is the one in the last
sorted log's transaction. -/
theorem committedBatchOfLogs_eq_some {cfg : Config} {s : BatchSyncer} {logs : List Log}
    {info : BatchInfo} {h : Bytes}
    (hc : committedBatchOfLogs cfg s logs = .ok (.ok (some (info, h)))) :
    3 ≤ logs.length ∧ cfg.overflowChecks = false ∧ info.batchIndex ≠ 0 ∧
      info.endBlock < info.startBlock ∧ info.endBlock - info.startBlock + 1 ≤ cfg.maxBlock ∧
      ∃ sorted log last total, sortLogs logs = .ok sorted ∧
        sorted.get? (sorted.length - 2) = some log ∧ logBatchIndex log = .ok info.batchIndex ∧
        batchBlocksInspect cfg s info.batchIndex =
          .ok (some ((info.startBlock, info.endBlock), total)) ∧ total ≤ cfg.maxTxn ∧
        sorted.getLast? = some last ∧
        batchHeaderInspect s.l1Rollup s.l1Provider (headerTxHash last) = some h := by
  simp only [committedBatchOfLogs, bind, Except.bind, pure, Except.pure] at hc
  split at hc; · simp at hc
  split at hc; · simp at hc
  rename_i hlen
  split at hc; · simp at hc
  rename_i sorted hsort
  split at hc; · simp at hc
  rename_i log hlog
  split at hc; · simp at hc
  rename_i idx hidx
  split at hc; · simp at hc
  rename_i hidx0
  split at hc; · simp at hc
  rename_i r hr
  split at hc; · simp at hc
  rename_i blocks total
  split at hc; · simp at hc
  rename_i hempty
  split at hc; · simp at hc
  rename_i d hd
  split at hc; · simp at hc
  rename_i span hspan
  split at hc; · simp at hc
  rename_i hspan_le
  split at hc; · simp at hc
  rename_i htotal
  split at hc; · simp at hc
  rename_i last hlast
  split at hc; · simp at hc
  rename_i hdr hhdr
  simp only [Except.ok.injEq, Option.some.injEq, Prod.mk.injEq] at hc
  obtain ⟨rfl, rfl⟩ := hc
  have hlt : blocks.2 < blocks.1 := Fin.not_le.mp hempty
  have hchecks : cfg.overflowChecks = false := by
    cases hb : cfg.overflowChecks
    · rfl
    · exact absurd ((u64Sub_eq_ok hd).2 hb) (Fin.not_le.mpr hlt)
  have hspan_eq : span = blocks.2 - blocks.1 + 1 := by
    rw [← (u64Sub_eq_ok hd).1]
    exact Fin.ext ((u64Add_eq_ok hspan).1.trans (Fin.val_add _ _).symm)
  exact ⟨by omega, hchecks, hidx0, hlt, hspan_eq ▸ Fin.not_lt.mp hspan_le, sorted, log, last,
    total, hsort, hlog, hidx, hr, Fin.not_lt.mp htotal, hlast, hhdr⟩

/-! ## After the candidate is chosen -/

/-- A scan of three logs or more is not empty. -/
theorem isEmpty_eq_false_of_three_le {logs : List Log} (h : 3 ≤ logs.length) :
    logs.isEmpty = false :=
  List.isEmpty_eq_false.mpr (List.ne_nil_of_length_pos (by omega))

section Candidate

variable {cfg : Config} {s : BatchSyncer} {logs sorted : List Log} {log : Log} {idx : U64}
  (hlen : 3 ≤ logs.length) (hsort : sortLogs logs = .ok sorted)
  (hlog : sorted.get? (sorted.length - 2) = some log) (hidx : logBatchIndex log = .ok idx)
  (hidx0 : idx ≠ 0)
include hlen hsort hlog hidx hidx0

/-- **A non-empty range is rejected as empty.**  Once the candidate's range
`(lo, hi)` has `lo ≤ hi`, `get_committed_batch` fails with `"blocks is empty"`,
whatever the ceilings and the header. -/
theorem committedBatchOfLogs_nonempty_range {lo hi total : U64}
    (hr : batchBlocksInspect cfg s idx = .ok (some ((lo, hi), total))) (hle : lo ≤ hi) :
    committedBatchOfLogs cfg s logs = .ok (.error "blocks is empty") := by
  simp only [committedBatchOfLogs, bind, Except.bind, pure, Except.pure,
    isEmpty_eq_false_of_three_le hlen, if_neg (Nat.not_lt.mpr hlen), hsort, hlog, hidx, hidx0, hr,
    hle, Bool.false_eq_true, if_false, if_true]

/-- A panic of `batch_blocks_inspect` for the candidate leaves
`get_committed_batch`. -/
theorem committedBatchOfLogs_of_inspect_panic {p : Panic}
    (hr : batchBlocksInspect cfg s idx = .error p) : committedBatchOfLogs cfg s logs = .error p := by
  simp only [committedBatchOfLogs, bind, Except.bind, pure, Except.pure,
    isEmpty_eq_false_of_three_le hlen, if_neg (Nat.not_lt.mpr hlen), hsort, hlog, hidx, hidx0, hr,
    Bool.false_eq_true, if_false]

/-- **With overflow checks, a range that passes the emptiness check panics.**
An inverted range `hi < lo` gets past `if blocks.0 <= blocks.1`, and its span
`blocks.1 - blocks.0 + 1` underflows. -/
theorem committedBatchOfLogs_checked_inverted {lo hi total : U64}
    (hr : batchBlocksInspect cfg s idx = .ok (some ((lo, hi), total))) (hlt : hi < lo)
    (hchk : cfg.overflowChecks = true) :
    committedBatchOfLogs cfg s logs = .error .arithmeticOverflow := by
  simp only [committedBatchOfLogs, bind, Except.bind, pure, Except.pure,
    isEmpty_eq_false_of_three_le hlen, if_neg (Nat.not_lt.mpr hlen), hsort, hlog, hidx, hidx0, hr,
    if_neg (Fin.not_le.mpr hlt), Bool.false_eq_true, if_false, hchk, u64Sub_checked_of_lt hlt]

end Candidate

/-! ## The order `get_logs` returns -/

/-- **Only the order within a block matters.**  On a ledger whose scan returns
`l₁`, `get_committed_batch` computes exactly what it computes from any `l₂`
holding each block's logs in the same relative order: the same candidate, the
same header transaction, the same result. -/
theorem getCommittedBatch_blockwise_order (cfg : Config) (s : BatchSyncer) (latest : U64)
    {l₁ l₂ : List Log} (hlogs : s.l1Provider.getLogs (scanStart latest) = .ok l₁)
    (hsame : ∀ k, l₁.filter (blockKey · = k) = l₂.filter (blockKey · = k)) :
    getCommittedBatch cfg s latest = committedBatchOfLogs cfg s l₂ := by
  have hperm := perm_of_filter_key_eq blockKey hsame
  have hempty : l₁.isEmpty = l₂.isEmpty := by
    cases l₁ <;> cases l₂ <;> simp_all [List.Perm.nil_eq, List.Perm.eq_nil]
  simp only [getCommittedBatch, hlogs]
  unfold committedBatchOfLogs
  rw [hempty, hperm.length_eq, sortLogs_congr hsame]

/-- A ledger on which every rollup anchor is `10` and every L2 block is empty;
the L1 height is `500`, so the scan window starts at block `1`; the scan returns
`logs` (all below block `500`), a transaction's calldata is its own hash, and the
rollup binding decodes calldata `c` to a `commitBatch` whose parent header is
`header c`.  The shadow contract holds no proofs and confirms every commit. -/
def flatAnchorSyncer (logs : List Log) (header : Bytes → Bytes) : BatchSyncer where
  l1Provider := ⟨.ok 500, fun _ => .ok logs, fun h => .ok (some ⟨h.bytes⟩)⟩
  l2Provider := ⟨fun _ => .ok (some 0)⟩
  l1Rollup := ⟨fun _ => .ok 10, fun input => some ⟨⟨header input⟩⟩⟩
  l1ShadowRollup := ⟨fun _ => .ok false, fun _ _ => .ok ⟨.ok ⟨true⟩⟩⟩

/-- Logs from three different blocks, returned out of block order, select what
the block-ordered list selects. -/
theorem getCommittedBatch_blockwise_order_flat :
    getCommittedBatch { overflowChecks := false }
        (flatAnchorSyncer [commitLog 7 3 103, commitLog 5 1 101, commitLog 6 2 102] id) 500 =
      committedBatchOfLogs { overflowChecks := false }
        (flatAnchorSyncer [commitLog 7 3 103, commitLog 5 1 101, commitLog 6 2 102] id)
        [commitLog 5 1 101, commitLog 6 2 102, commitLog 7 3 103] :=
  getCommittedBatch_blockwise_order _ _ _ rfl fun k => by
    simp only [List.filter_cons, List.filter_nil]
    split_ifs <;> simp_all [commitLog, blockKey] <;> omega

/-- Three commits in one L1 block: `get_logs` returning them in two orders makes
`get_committed_batch` pick batch `2` with the header from transaction `103` in
one, and batch `3` with the header from transaction `102` in the other. -/
theorem getCommittedBatch_same_block_order :
    [commitLog 5 1 101, commitLog 5 3 103, commitLog 5 2 102].Perm
        [commitLog 5 1 101, commitLog 5 2 102, commitLog 5 3 103] ∧
      getCommittedBatch { overflowChecks := false }
          (flatAnchorSyncer [commitLog 5 1 101, commitLog 5 2 102, commitLog 5 3 103] id) 500 =
        .ok (.ok (some (⟨2, 11, 10⟩, (B256.ofNat 103).bytes))) ∧
      getCommittedBatch { overflowChecks := false }
          (flatAnchorSyncer [commitLog 5 1 101, commitLog 5 3 103, commitLog 5 2 102] id) 500 =
        .ok (.ok (some (⟨3, 11, 10⟩, (B256.ofNat 102).bytes))) :=
  ⟨by decide, rfl, rfl⟩

end ShadowProving
