import ShadowProving.CommittedBatch

/-!
# One cycle: `sync_batch`

`BatchSyncer::sync_batch` is the orchestrator of a cycle.  It reads the L1
height, lets `get_committed_batch` choose a candidate, skips it when the shadow
contract already holds a successful proof for it (or the proof state cannot be
read), and otherwise submits the candidate's commitment to the shadow contract
and waits for the receipt.

A cycle's observable behaviour is a `Cycle`: the one `commitBatch` transaction
it submitted, if it got that far, and its result.  The result is a panic, or
what `sync_batch` returns: `Err` only when the height read fails, `Ok(None)` for
"nothing this cycle", `Ok(Some(info))` for a batch to hand to the prover.

## Main results

* `syncBatch_commit_eq_some` — what a submitted commitment went through: a
  candidate from `get_committed_batch` whose proof state read `false`, and the
  projection of its header.
* `syncBatch_of_proved` — a candidate whose proof state reads `true`, or cannot
  be read, is skipped with nothing submitted.
* `syncBatch_result_eq_some` — a synced batch is the candidate whose commitment
  this cycle submitted.
* `syncBatch_error_iff` — `sync_batch` fails only when the height read fails.
* `syncBatch_commit_guarded`, `syncBatch_commit_header` — which batch index is
  committed, and whose header it is.
* `syncBatch_commit_words` — what is committed for a header of any length: a
  word the header lacks is committed as 32 zero bytes.  So a header shorter than
  217 bytes is committed with zero-filled roots
  (`syncBatch_short_header_committed`), although the comment on that code says
  it assembles "a batche of the same commitment".
-/

namespace ShadowProving

/-- What one `sync_batch` cycle did: the shadow `commitBatch(batchIndex,
batchStore)` it submitted with `send()`, if it got that far (whether or not the
send succeeded), and what it returned or the panic it raised. -/
structure Cycle where
  commit : Option (U64 × BatchStore)
  result : Except Panic (Except RpcError (Option BatchInfo))

/-- `is_prove_success`: the shadow contract's proof state for a batch, `None`
when the read fails. -/
def isProveSuccess (shadow : ShadowRollupInstance) (batchIndex : U64) : Option Bool :=
  match shadow.isProveSuccess batchIndex with
  | .ok x => some x
  | .error _ => none

/-- The submit-and-confirm tail of `sync_batch`: `send()` of the shadow
`commitBatch`, then the receipt.  A failed send is logged and becomes `Ok(None)`;
a failed receipt poll is `unwrap()`ed; a failed status becomes `Ok(None)`. -/
def commitAndConfirm (shadow : ShadowRollupInstance) (batchInfo : BatchInfo)
    (batchStore : BatchStore) : Except Panic (Except RpcError (Option BatchInfo)) :=
  match shadow.commitBatch batchInfo.batchIndex batchStore with
  | .error _ => .ok (.ok none)
  | .ok pendingTx =>
    match pendingTx.getReceipt with
    | .error _ => .error .unwrapFailed
    | .ok receipt => if !receipt.status then .ok (.ok none) else .ok (.ok (some batchInfo))

/-- What the shadow committer can report as synced is its own batch. -/
theorem commitAndConfirm_eq_some {shadow : ShadowRollupInstance} {batchInfo info : BatchInfo}
    {batchStore : BatchStore}
    (h : commitAndConfirm shadow batchInfo batchStore = .ok (.ok (some info))) : info = batchInfo := by
  unfold commitAndConfirm at h
  split at h; · cases h
  split at h; · cases h
  split at h
  · cases h
  · simp only [Except.ok.injEq, Option.some.injEq] at h
    exact h.symm

/-- The submit-and-confirm tail never returns an error: it logs it. -/
theorem commitAndConfirm_ne_error {shadow : ShadowRollupInstance} {batchInfo : BatchInfo}
    {batchStore : BatchStore} {e : RpcError} :
    commitAndConfirm shadow batchInfo batchStore ≠ .ok (.error e) := by
  unfold commitAndConfirm
  split
  · simp
  · split
    · simp
    · split <;> simp

/-- `BatchSyncer::sync_batch`.  A `get_committed_batch` error is logged and
becomes `Ok(None)`; a failed proof-state read counts as proven
(`unwrap_or(true)`). -/
def syncBatch (cfg : Config) (s : BatchSyncer) : Cycle :=
  match s.l1Provider.getBlockNumber with
  | .error e => ⟨none, .ok (.error e)⟩
  | .ok latest =>
    match getCommittedBatch cfg s latest with
    | .error p => ⟨none, .error p⟩
    | .ok (.error _) => ⟨none, .ok (.ok none)⟩
    | .ok (.ok none) => ⟨none, .ok (.ok none)⟩
    | .ok (.ok (some (batchInfo, batchHeader))) =>
      if (isProveSuccess s.l1ShadowRollup batchInfo.batchIndex).getD true then
        ⟨none, .ok (.ok none)⟩
      else
        let batchStore := batchStoreOf batchHeader
        ⟨some (batchInfo.batchIndex, batchStore),
          commitAndConfirm s.l1ShadowRollup batchInfo batchStore⟩

/-! ## The cycle, case by case -/

section Cases

variable {cfg : Config} {s : BatchSyncer} {latest : U64}

/-- `unwrap_or(true)` on the proof state lets a candidate through only when the
read returned `false`. -/
theorem eq_some_false_of_getD_true {o : Option Bool} (h : ¬ o.getD true = true) :
    o = some false := by
  cases o <;> simp_all

/-- A cycle whose candidate search ends without a candidate submits nothing and
returns `Ok(None)`. -/
theorem syncBatch_of_no_candidate (hl : s.l1Provider.getBlockNumber = .ok latest)
    (hc : getCommittedBatch cfg s latest = .ok (.ok none) ∨
      ∃ msg, getCommittedBatch cfg s latest = .ok (.error msg)) :
    syncBatch cfg s = ⟨none, .ok (.ok none)⟩ := by
  rcases hc with hc | ⟨msg, hc⟩ <;> simp [syncBatch, hl, hc]

/-- **Idempotency guard.**  A candidate whose proof state reads `true`, or cannot
be read, is skipped: nothing is submitted and the cycle returns `Ok(None)`. -/
theorem syncBatch_of_proved {info : BatchInfo} {h : Bytes}
    (hl : s.l1Provider.getBlockNumber = .ok latest)
    (hc : getCommittedBatch cfg s latest = .ok (.ok (some (info, h))))
    (hp : isProveSuccess s.l1ShadowRollup info.batchIndex ≠ some false) :
    syncBatch cfg s = ⟨none, .ok (.ok none)⟩ := by
  have hskip : (isProveSuccess s.l1ShadowRollup info.batchIndex).getD true = true :=
    Classical.byContradiction fun h => hp (eq_some_false_of_getD_true h)
  simp [syncBatch, hl, hc, hskip]

/-- A candidate whose proof state reads `false` has the projection of its header
submitted under its own index. -/
theorem syncBatch_commit_of_unproved {info : BatchInfo} {h : Bytes}
    (hl : s.l1Provider.getBlockNumber = .ok latest)
    (hc : getCommittedBatch cfg s latest = .ok (.ok (some (info, h))))
    (hp : isProveSuccess s.l1ShadowRollup info.batchIndex = some false) :
    (syncBatch cfg s).commit = some (info.batchIndex, batchStoreOf h) := by
  simp [syncBatch, hl, hc, hp]

/-- **What a submitted commitment went through.**  A cycle submits
`commitBatch(idx, store)` only for a candidate `get_committed_batch` returned
with index `idx` and header `h`, whose proof state read `false`, with `store`
the projection of `h`. -/
theorem syncBatch_commit_eq_some {idx : U64} {store : BatchStore}
    (hs : (syncBatch cfg s).commit = some (idx, store)) :
    ∃ latest info h, s.l1Provider.getBlockNumber = .ok latest ∧
      getCommittedBatch cfg s latest = .ok (.ok (some (info, h))) ∧
      isProveSuccess s.l1ShadowRollup info.batchIndex = some false ∧
      idx = info.batchIndex ∧ store = batchStoreOf h := by
  unfold syncBatch at hs
  split at hs; · cases hs
  rename_i latest hl
  split at hs <;> try cases hs
  rename_i info h hc
  split at hs; · cases hs
  rename_i hp
  simp only [Option.some.injEq, Prod.mk.injEq] at hs
  exact ⟨latest, info, h, hl, hc, eq_some_false_of_getD_true hp, hs.1.symm, hs.2.symm⟩

/-- **A synced batch is the one this cycle committed.**  When a cycle returns
`Ok(Some(info))`, `info` is the candidate `get_committed_batch` returned, and the
cycle submitted the projection of its header under `info.batchIndex`. -/
theorem syncBatch_result_eq_some {info : BatchInfo}
    (hs : (syncBatch cfg s).result = .ok (.ok (some info))) :
    ∃ latest h, s.l1Provider.getBlockNumber = .ok latest ∧
      getCommittedBatch cfg s latest = .ok (.ok (some (info, h))) ∧
      isProveSuccess s.l1ShadowRollup info.batchIndex = some false ∧
      (syncBatch cfg s).commit = some (info.batchIndex, batchStoreOf h) := by
  unfold syncBatch at hs
  split at hs; · cases hs
  rename_i latest hl
  split at hs <;> try cases hs
  rename_i info' h hc
  split at hs; · cases hs
  have hp' := eq_some_false_of_getD_true ‹_›
  obtain rfl := commitAndConfirm_eq_some hs
  exact ⟨latest, h, hl, hc, hp', syncBatch_commit_of_unproved hl hc hp'⟩

/-- **Only the height read fails a cycle.**  `sync_batch` returns `Err(e)`
exactly when the L1 height read fails with `e`: a failure of
`get_committed_batch`, of the proof-state read or of `send()`, and a failed
receipt status, are all logged and become `Ok(None)`. -/
theorem syncBatch_error_iff (e : RpcError) :
    (syncBatch cfg s).result = .ok (.error e) ↔ s.l1Provider.getBlockNumber = .error e := by
  cases hl : s.l1Provider.getBlockNumber with
  | error e' => simp [syncBatch, hl]
  | ok latest =>
    simp only [syncBatch, hl, reduceCtorEq, iff_false]
    split <;> (try split) <;> simp [commitAndConfirm_ne_error]

end Cases

/-! ## The commit guard -/

/-- Batches 1, 2, 3 committed in L1 blocks 1, 2, 3 on flat anchors; each
transaction carries its own 32-byte hash as parent header. -/
def threeCommitsSyncer : BatchSyncer :=
  flatAnchorSyncer [commitLog 1 1 101, commitLog 2 2 102, commitLog 3 3 103] id


/-- **The shadow commit is guarded.**  A cycle submits `commitBatch(idx, _)`
only after a scan of at least three logs, for the batch index of the
second-to-last log in block order, with `idx ≠ 0`, and only when the proof-state
read returned `false`.  A candidate whose proof state reads `true`, or whose
read fails, is skipped: the cycle returns `Ok(None)` and submits nothing. -/
theorem syncBatch_commit_guarded (cfg : Config) (s : BatchSyncer) :
    (∀ idx store, (syncBatch cfg s).commit = some (idx, store) →
      ∃ latest logs sorted log, s.l1Provider.getBlockNumber = .ok latest ∧
        s.l1Provider.getLogs (scanStart latest) = .ok logs ∧ 3 ≤ logs.length ∧
        sortLogs logs = .ok sorted ∧ sorted.get? (sorted.length - 2) = some log ∧
        logBatchIndex log = .ok idx ∧ idx ≠ 0 ∧ isProveSuccess s.l1ShadowRollup idx = some false) ∧
    (∀ latest info h, s.l1Provider.getBlockNumber = .ok latest →
      getCommittedBatch cfg s latest = .ok (.ok (some (info, h))) →
      isProveSuccess s.l1ShadowRollup info.batchIndex ≠ some false →
      syncBatch cfg s = ⟨none, .ok (.ok none)⟩) := by
  refine ⟨fun idx store hs => ?_, fun _ _ _ hl hc hp => syncBatch_of_proved hl hc hp⟩
  obtain ⟨latest, info, h, hl, hc, hp, rfl, -⟩ := syncBatch_commit_eq_some hs
  obtain ⟨logs, hlogs, hcl⟩ := getCommittedBatch_eq_some hc
  obtain ⟨hlen, -, hidx0, -, -, sorted, log, -, -, hsort, hlog, hidx, -⟩ :=
    committedBatchOfLogs_eq_some hcl
  exact ⟨latest, logs, sorted, log, hl, hlogs, hlen, hsort, hlog, hidx, hidx0, hp⟩

/-- `threeCommitsSyncer` with every proof-state read answering `r`. -/
def proofStateSyncer (r : Except RpcError Bool) : BatchSyncer :=
  { threeCommitsSyncer with
    l1ShadowRollup := { threeCommitsSyncer.l1ShadowRollup with isProveSuccess := fun _ => r } }

/-- On `threeCommitsSyncer` in the release build, batch `2` is committed after a
scan of three logs, from the second-to-last, with its proof state read as
`false`; the same ledger skips it when the proof state reads `true` and when the
read fails. -/
theorem syncBatch_commit_guarded_threeCommits :
    (∃ latest logs sorted log, threeCommitsSyncer.l1Provider.getBlockNumber = .ok latest ∧
        threeCommitsSyncer.l1Provider.getLogs (scanStart latest) = .ok logs ∧ 3 ≤ logs.length ∧
        sortLogs logs = .ok sorted ∧ sorted.get? (sorted.length - 2) = some log ∧
        logBatchIndex log = .ok 2 ∧ (2 : U64) ≠ 0 ∧
        isProveSuccess threeCommitsSyncer.l1ShadowRollup 2 = some false) ∧
      syncBatch { overflowChecks := false } (proofStateSyncer (.ok true)) =
        ⟨none, .ok (.ok none)⟩ ∧
      syncBatch { overflowChecks := false } (proofStateSyncer (.error ⟨"timeout"⟩)) =
        ⟨none, .ok (.ok none)⟩ :=
  ⟨(syncBatch_commit_guarded { overflowChecks := false } threeCommitsSyncer).1 2 _ rfl,
    (syncBatch_commit_guarded _ _).2 500 ⟨2, 11, 10⟩ _ rfl rfl (by decide),
    (syncBatch_commit_guarded _ _).2 500 ⟨2, 11, 10⟩ _ rfl rfl (by decide)⟩

/-! ## Whose header is committed -/

/-- Whether a log's transaction carries, as `parentBatchHeader`, a header of the
batch before the log's own: the header's `batchIndex` field is the log's batch
index minus one.  Logs whose index or header cannot be read constrain nothing. -/
def parentHeaderMatches (s : BatchSyncer) (log : Log) : Bool :=
  match logBatchIndex log, batchHeaderInspect s.l1Rollup s.l1Provider (headerTxHash log) with
  | .ok k, some h => headerBatchIndex h + 1 = k.val
  | _, _ => true

/-- **The committed header is the last log's parent header.**  A cycle that
submits `commitBatch(idx, store)` took `idx` from the second-to-last log in block
order and `store` from the parent header `h` in the *last* log's transaction.
When every log's transaction carries the header of the batch before it, `h` is
batch `idx`'s own header exactly when the last log commits batch `idx + 1`; after
a revert and recommit, or with commits of one block in another order, it is not. -/
theorem syncBatch_commit_header {cfg : Config} {s : BatchSyncer} {idx : U64}
    {store : BatchStore} (hs : (syncBatch cfg s).commit = some (idx, store)) :
    ∃ latest logs sorted log last h, s.l1Provider.getBlockNumber = .ok latest ∧
      s.l1Provider.getLogs (scanStart latest) = .ok logs ∧ sortLogs logs = .ok sorted ∧
      sorted.get? (sorted.length - 2) = some log ∧ logBatchIndex log = .ok idx ∧
      sorted.getLast? = some last ∧
      batchHeaderInspect s.l1Rollup s.l1Provider (headerTxHash last) = some h ∧
      store = batchStoreOf h ∧
      ((∀ l ∈ logs, parentHeaderMatches s l = true) → ∀ k, logBatchIndex last = .ok k →
        (headerBatchIndex h = idx.val ↔ k.val = idx.val + 1)) := by
  obtain ⟨latest, info, h, hl, hc, -, rfl, rfl⟩ := syncBatch_commit_eq_some hs
  obtain ⟨logs, hlogs, hcl⟩ := getCommittedBatch_eq_some hc
  obtain ⟨-, -, -, -, -, sorted, log, last, -, hsort, hlog, hidx, -, -, hlast, hh⟩ :=
    committedBatchOfLogs_eq_some hcl
  refine ⟨latest, logs, sorted, log, last, h, hl, hlogs, hsort, hlog, hidx, hlast, hh, rfl, ?_⟩
  intro hwf k hk
  have hmem : last ∈ logs := (sortLogs_perm hsort).subset (List.mem_of_getLast?_eq_some hlast)
  have hfield := hwf last hmem
  simp only [parentHeaderMatches, hk, hh, decide_eq_true_eq] at hfield
  omega

/-- The parent header a transaction carries on the revert ledger below: its
calldata eight times over, 256 bytes whose `batchIndex` field is the calldata's
bytes `1..9`. -/
def repeatedHeader (c : Bytes) : Bytes := c ++ c ++ c ++ c ++ c ++ c ++ c ++ c

/-- The transaction hash of attempt `j` at committing batch `k`: its bytes `1..9`
hold `k - 1`, so with `repeatedHeader` the transaction carries a header of batch
`k - 1`. -/
def revertTx (k j : Nat) : Nat := (k - 1) * 256 ^ 23 + j

/-- Batch 41 committed in block 1 and batch 42 in block 2, then batch 42
reverted and committed again in block 3. -/
def revertLogs : List Log :=
  [commitLog 1 41 (revertTx 41 0), commitLog 2 42 (revertTx 42 0), commitLog 3 42 (revertTx 42 1)]

/-- The revert ledger: `revertLogs` on flat anchors, each transaction carrying
`repeatedHeader` of its calldata. -/
def revertSyncer : BatchSyncer := flatAnchorSyncer revertLogs repeatedHeader

/-- On a ledger where every commit carries its parent's header, a recommitted
batch 42 makes the cycle submit, as batch 42's commitment, the projection of a
header of batch 41; no transaction of the scan carries a header of batch 42. -/
theorem syncBatch_recommit_parent_header :
    (∀ l ∈ revertLogs, parentHeaderMatches revertSyncer l = true) ∧
      (syncBatch { overflowChecks := false } revertSyncer).commit =
        some (42, batchStoreOf (repeatedHeader (B256.ofNat (revertTx 42 1)).bytes)) ∧
      headerBatchIndex (repeatedHeader (B256.ofNat (revertTx 42 1)).bytes) = 41 ∧
      ∀ l ∈ revertLogs, ((batchHeaderInspect revertSyncer.l1Rollup revertSyncer.l1Provider
        (headerTxHash l)).all fun h => headerBatchIndex h != 42) = true :=
  ⟨by decide, rfl, by decide, by decide⟩

/-- On the revert ledger, batch 42's commitment comes from the last log, the
recommit of batch 42, whose parent header is a header of batch 41, as the rule
says it must. -/
theorem syncBatch_commit_header_revert :
    ∃ latest logs sorted log last h, revertSyncer.l1Provider.getBlockNumber = .ok latest ∧
      revertSyncer.l1Provider.getLogs (scanStart latest) = .ok logs ∧ sortLogs logs = .ok sorted ∧
      sorted.get? (sorted.length - 2) = some log ∧ logBatchIndex log = .ok 42 ∧
      sorted.getLast? = some last ∧
      batchHeaderInspect revertSyncer.l1Rollup revertSyncer.l1Provider (headerTxHash last) = some h ∧
      batchStoreOf (repeatedHeader (B256.ofNat (revertTx 42 1)).bytes) = batchStoreOf h ∧
      ((∀ l ∈ logs, parentHeaderMatches revertSyncer l = true) → ∀ k, logBatchIndex last = .ok k →
        (headerBatchIndex h = (42 : U64).val ↔ k.val = (42 : U64).val + 1)) :=
  @syncBatch_commit_header { overflowChecks := false } _ _ _ rfl

/-! ## What is committed for a short header -/

/-- **The projection is committed whatever the header's length.**  For a
candidate whose proof state reads `false`, the cycle submits each of the six
fields as the header's 32-byte word at the field's offset where the header has
it, and as 32 zero bytes where it does not. -/
theorem syncBatch_commit_words {cfg : Config} {s : BatchSyncer} {latest : U64}
    {info : BatchInfo} {h : Bytes} (hl : s.l1Provider.getBlockNumber = .ok latest)
    (hc : getCommittedBatch cfg s latest = .ok (.ok (some (info, h))))
    (hp : isProveSuccess s.l1ShadowRollup info.batchIndex = some false) :
    (syncBatch cfg s).commit = some (info.batchIndex,
      { prevStateRoot := (wordAt? h 89).getD B256.zero
        postStateRoot := (wordAt? h 121).getD B256.zero
        withdrawalRoot := (wordAt? h 153).getD B256.zero
        dataHash := (wordAt? h 25).getD B256.zero
        blobVersionedHash := (wordAt? h 57).getD B256.zero
        sequencerSetVerifyHash := (wordAt? h 185).getD B256.zero }) := by
  rw [syncBatch_commit_of_unproved hl hc hp, batchStoreOf_eq]

/-- A 32-byte header, shorter than 217 bytes, is committed: it holds none of
the six words, so all six fields of the submitted `BatchStore` are zero. -/
theorem syncBatch_short_header_committed :
    getCommittedBatch { overflowChecks := false } threeCommitsSyncer 500 =
        .ok (.ok (some (⟨2, 11, 10⟩, (B256.ofNat 103).bytes))) ∧
      (B256.ofNat 103).bytes.length < 217 ∧
      (syncBatch { overflowChecks := false } threeCommitsSyncer).commit =
        some (2, ⟨B256.zero, B256.zero, B256.zero, B256.zero, B256.zero, B256.zero⟩) := by
  have hc : getCommittedBatch { overflowChecks := false } threeCommitsSyncer 500 =
      .ok (.ok (some (⟨2, 11, 10⟩, (B256.ofNat 103).bytes))) := rfl
  refine ⟨hc, by decide, (syncBatch_commit_words rfl hc rfl).trans ?_⟩
  simp (disch := simp [B256.length_bytes]) only [wordAt?_eq_none, Option.getD_none]

end ShadowProving
