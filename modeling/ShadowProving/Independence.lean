import ShadowProving.Scheduler

/-!
# What a run cannot depend on

Two inputs of the pipeline reach the candidate search and are then never looked
at again.

`SHADOW_PROVING_MAX_TXN` is compared with the candidate's transaction total, and
that comparison comes after the emptiness check `if blocks.0 <= blocks.1`.  The
ranges that get past the check are empty or inverted, the loop of
`batch_blocks_inspect` visits no block of them, and the total it compares is
`0`: `0 > max_txn` never holds.

The L2 provider is read by that loop only.  In a build without overflow checks
the loop cannot panic, so all it contributes is a total, and a total only reaches
the same dead comparison.  (It also sets the `shadow_txn_len` gauge, which is
not part of the model.)  With overflow checks the loop can panic, and there the
L2 provider decides whether a cycle with a non-empty range panics or rejects it
as empty.

### The shape of the argument

Agreement is proved once for a candidate search (`committedBatchOfLogs_congr`):
two configurations and two syncers that agree on everything
`get_committed_batch` reads, the totals of the ranges aside, make it return the
same result, because the total of a range that passes the emptiness check is `0`
on both sides.  `sync_batch` and the iteration follow, and `mainLoop_congr`
carries agreement tick by tick to whole runs.

## Main results

* `mainLoop_maxTxn_irrelevant` — a run under any other `max_txn` is the same
  run.
* `mainLoop_release_l2_irrelevant` — in a build without overflow checks, two
  runs whose ticks differ only in what the L2 provider answers are the same
  run.
-/

namespace ShadowProving

/-! ## One cycle -/

section Agreement

variable {cfg cfg' : Config} {s s' : BatchSyncer}
  (hchecks : cfg.overflowChecks = cfg'.overflowChecks) (hmax : cfg.maxBlock = cfg'.maxBlock)
  (hl1 : s.l1Provider = s'.l1Provider) (hrollup : s.l1Rollup = s'.l1Rollup)
  (hblocks : ∀ k, (batchBlocksInspect cfg s k).map (Option.map Prod.fst) =
    (batchBlocksInspect cfg' s' k).map (Option.map Prod.fst))
include hchecks hmax hl1 hrollup hblocks

/-- **Agreement for one candidate search.**  Two runs of `get_committed_batch`
over the same scan, whose configurations agree but for `max_txn` and whose
syncers agree on L1 and on the ranges `batch_blocks_inspect` resolves, return
the same result: the totals can differ only for ranges that the emptiness check
rejects, and are both `0` on the others. -/
theorem committedBatchOfLogs_congr (logs : List Log) :
    committedBatchOfLogs cfg s logs = committedBatchOfLogs cfg' s' logs := by
  simp only [committedBatchOfLogs, bind, Except.bind, pure, Except.pure, hchecks, hmax, hl1,
    hrollup]
  -- the two length checks, the sort, the candidate, its index and `idx = 0`
  -- branch alike on both sides
  iterate 6 (split; · rfl)
  rename_i idx _ _
  have hb := hblocks idx
  rcases hr : batchBlocksInspect cfg s idx with p | _ | ⟨⟨lo, hi⟩, t⟩ <;>
    rcases hr' : batchBlocksInspect cfg' s' idx with p' | _ | ⟨⟨lo', hi'⟩, t'⟩ <;>
    simp only [hr, hr', Except.map, Except.error.injEq, Except.ok.injEq, Option.map,
      Prod.mk.injEq, reduceCtorEq] at hb
  · rw [hb]
  · rfl
  · obtain ⟨rfl, rfl⟩ := hb
    by_cases hle : lo ≤ hi
    · simp only [if_pos hle]
    · have hlt : hi < lo := Fin.not_le.mp hle
      have hzero : ∀ m : U64, ¬(0 : U64) > m := fun m => Fin.not_lt.mpr (Fin.zero_le' m)
      simp only [if_neg hle, batchBlocksInspect_total_of_lt hr hlt,
        batchBlocksInspect_total_of_lt hr' hlt, hzero, if_false]

/-- `sync_batch` reads `max_txn` and the L2 provider only through
`get_committed_batch`. -/
theorem syncBatch_congr (hshadow : s.l1ShadowRollup = s'.l1ShadowRollup) :
    syncBatch cfg s = syncBatch cfg' s' := by
  have hc : ∀ logs, committedBatchOfLogs cfg s logs = committedBatchOfLogs cfg' s' logs :=
    committedBatchOfLogs_congr hchecks hmax hl1 hrollup hblocks
  simp only [syncBatch, getCommittedBatch, hc, hl1, hshadow]

end Agreement

/-- In a build without overflow checks, the range `batch_blocks_inspect`
resolves, and whether it resolves one, depend on the rollup anchors alone: the
loop over the L2 counts cannot panic. -/
theorem batchBlocksInspect_release_range {cfg : Config} (hrel : cfg.overflowChecks = false)
    {s s' : BatchSyncer} (hrollup : s.l1Rollup = s'.l1Rollup) (k : U64) :
    (batchBlocksInspect cfg s k).map (Option.map Prod.fst) =
      (batchBlocksInspect cfg s' k).map (Option.map Prod.fst) := by
  simp only [batchBlocksInspect, bind, Except.bind, pure, Except.pure, hrel, hrollup,
    sumTxnCounts_eq, u64Sub, u64Add, Bool.false_eq_true, false_and, if_false]
  repeat' split
  all_goals rfl

/-- An iteration is determined by its `sync_batch` cycle and its prover. -/
theorem loopIteration_congr {cfg cfg' : Config} {t t' : Tick}
    (hsync : syncBatch cfg t.syncer = syncBatch cfg' t'.syncer) (hprove : t.prove = t'.prove) :
    loopIteration cfg t = loopIteration cfg' t' := by
  simp only [loopIteration, hsync, hprove]

/-! ## Whole runs -/

/-- **Agreement over whole runs.**  Two runs whose ticks, taken pairwise, make
the same iterations end in the same journal. -/
theorem mainLoop_congr {cfg cfg' : Config} :
    ∀ {ts ts' : List Tick}, List.Forall₂ (fun t t' => loopIteration cfg t = loopIteration cfg' t')
      ts ts' → ∀ j, mainLoop cfg j ts = mainLoop cfg' j ts'
  | [], [], .nil, _ => rfl
  | _ :: _, _ :: _, .cons h hs, j => by
    simp only [mainLoop, h]
    split
    · rfl
    · exact mainLoop_congr hs _

/-- **`max_txn` never matters.**  Whatever the transaction ceiling, every run of
the process submits the same commitments, proves the same batches, logs the same
errors and stops at the same panic. -/
theorem mainLoop_maxTxn_irrelevant (cfg : Config) (m : U64) (j : Journal) (ts : List Tick) :
    mainLoop { cfg with maxTxn := m } j ts = mainLoop cfg j ts :=
  @mainLoop_congr { cfg with maxTxn := m } cfg ts ts (List.forall₂_same.mpr fun _ _ =>
    loopIteration_congr (syncBatch_congr rfl rfl rfl rfl (fun _ => rfl) rfl) rfl) j

/-- Two ticks that see the same L1 chain, the same contracts and the same
prover; what their L2 providers answer may differ. -/
structure Tick.AgreeOffL2 (t t' : Tick) : Prop where
  l1Provider_eq : t.syncer.l1Provider = t'.syncer.l1Provider
  l1Rollup_eq : t.syncer.l1Rollup = t'.syncer.l1Rollup
  l1ShadowRollup_eq : t.syncer.l1ShadowRollup = t'.syncer.l1ShadowRollup
  prove_eq : t.prove = t'.prove

/-- **A release build never depends on L2.**  Without overflow checks, two runs
whose ticks differ only in what the L2 provider answers, failed reads included,
end in the same journal: the transaction totals the loop reads from L2 never
change what the process does. -/
theorem mainLoop_release_l2_irrelevant {cfg : Config} (hrel : cfg.overflowChecks = false)
    {ts ts' : List Tick} (hagree : List.Forall₂ Tick.AgreeOffL2 ts ts') (j : Journal) :
    mainLoop cfg j ts = mainLoop cfg j ts' :=
  mainLoop_congr (hagree.imp fun _ _ h => loopIteration_congr
    (syncBatch_congr rfl rfl h.l1Provider_eq h.l1Rollup_eq
      (batchBlocksInspect_release_range hrel h.l1Rollup_eq) h.l1ShadowRollup_eq) h.prove_eq) j

/-- `twoTicks` with every L2 read failing. -/
def twoTicksL2Down : List Tick :=
  twoTicks.map fun t => ⟨{ t.syncer with l2Provider := ⟨fun _ => .error ⟨"down"⟩⟩ }, t.prove⟩

/-- In the release build, `twoTicks` runs the same whether or not L2 answers. -/
theorem mainLoop_release_l2_irrelevant_twoTicks :
    mainLoop { overflowChecks := false } Journal.init twoTicks =
      mainLoop { overflowChecks := false } Journal.init twoTicksL2Down :=
  mainLoop_release_l2_irrelevant rfl
    (List.forall₂_map_right_iff.mpr (List.forall₂_same.mpr fun _ _ => ⟨rfl, rfl, rfl, rfl⟩)) _

end ShadowProving
