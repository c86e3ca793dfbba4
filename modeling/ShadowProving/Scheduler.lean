import ShadowProving.Replay

/-!
# The service loop of `main`

After its setup, `main` runs one loop forever: sleep twelve seconds, run
`sync_batch`, hand an `Ok(Some(batch))` to `ShadowProver::prove`, and log any
`Err` of either as `"shadow proving exec error"`.  Nothing else ends the loop: an
error is logged and the next iteration starts, and only a panic, which unwinds
out of `main`, stops the process.

## The model

An iteration sees the world as it is at that moment: the `BatchSyncer` of its
`sync_batch` and what `prove` answers.  `ShadowProver::prove` is not part of the
source, so its answer is a parameter of the `Tick`, like every RPC answer.  A
run is a list of ticks, any finite stretch of the loop, and its effect is a
`Journal`: the shadow commitments submitted, the batches handed to the prover,
the errors logged, and the panic that stopped the process.  Quantifying over
lists of ticks quantifies over every evolution of the chains and every pattern
of RPC failures between iterations.

## Main results

* `mainLoop_halted_logged` — the loop stops exactly at the first iteration
  that panics, and at no other; until then it logs the error of every iteration
  whose result is `Err(e)`, in order.
* `mainLoop_halts_of_pending_log` — one iteration whose scan holds a pending log
  stops the process.
* `mainLoop_proved_committed` — the prover only ever sees a batch whose
  commitment the same iteration submitted.
* `mainLoop_commits_unproved` — every commitment is a candidate's header
  projection, submitted by an iteration that read its proof state as `false`.
* `mainLoop_proved_empty_or_wrapped` — every batch the prover ever sees was
  synced by a build without overflow checks and is an empty range, unless its
  anchors are nearly `2^64` apart.
* `mainLoop_logged_errors` — the only errors `main` ever logs are height-read
  errors and prover errors.
* `mainLoop_checked_inert` — a build with overflow checks submits nothing and
  proves nothing, on every run.
-/

namespace ShadowProving

/-- The world one iteration of the loop sees: the handles of its `sync_batch`,
and what `shadow_prover.prove(batch)` returns for each batch, or the panic it
raises. -/
structure Tick where
  syncer : BatchSyncer
  prove : BatchInfo → Except Panic (Except RpcError Unit)

/-- What one iteration did: the shadow commitment `sync_batch` submitted, the
batch handed to `prove`, and the iteration's `result`, or the panic it raised. -/
structure Iteration where
  commit : Option (U64 × BatchStore)
  proved : Option BatchInfo
  result : Except Panic (Except RpcError Unit)

/-- One iteration of the loop in `main` (the twelve-second sleep aside):
`sync_batch`, then `prove` on `Ok(Some(batch))`; `Ok(None)` is `Ok(())`, and an
`Err` is passed on to be logged. -/
def loopIteration (cfg : Config) (t : Tick) : Iteration :=
  let cycle := syncBatch cfg t.syncer
  { commit := cycle.commit
    proved := match cycle.result with
      | .ok (.ok (some batch)) => some batch
      | _ => none
    result := match cycle.result with
      | .ok (.ok (some batch)) => t.prove batch
      | .ok (.ok none) => .ok (.ok ())
      | .ok (.error e) => .ok (.error e)
      | .error p => .error p }

namespace Iteration

/-- The error the iteration logs, if any. -/
def logged (it : Iteration) : List RpcError :=
  match it.result with
  | .ok (.error e) => [e]
  | _ => []

/-- The panic the iteration raised, if any. -/
def panic (it : Iteration) : Option Panic :=
  match it.result with
  | .error p => some p
  | .ok _ => none

end Iteration

/-- What the process has done so far, oldest first: the shadow `commitBatch`
transactions submitted, the batches handed to the prover, the errors logged, and
the panic that stopped it. -/
structure Journal where
  commits : List (U64 × BatchStore)
  proved : List BatchInfo
  logged : List RpcError
  halted : Option Panic

namespace Journal

/-- The journal of a process that has not run an iteration yet. -/
def init : Journal := ⟨[], [], [], none⟩

/-- The journal after one more iteration. -/
def record (j : Journal) (it : Iteration) : Journal :=
  ⟨j.commits ++ it.commit.toList, j.proved ++ it.proved.toList, j.logged ++ it.logged, it.panic⟩

@[simp] theorem record_commits (j : Journal) (it : Iteration) :
    (j.record it).commits = j.commits ++ it.commit.toList := rfl

@[simp] theorem record_proved (j : Journal) (it : Iteration) :
    (j.record it).proved = j.proved ++ it.proved.toList := rfl

@[simp] theorem record_logged (j : Journal) (it : Iteration) :
    (j.record it).logged = j.logged ++ it.logged := rfl

@[simp] theorem record_halted (j : Journal) (it : Iteration) :
    (j.record it).halted = it.panic := rfl

end Journal

/-- The loop of `main` over a stretch of ticks: each iteration is recorded,
until one panics; a stopped process runs no further iteration. -/
def mainLoop (cfg : Config) : Journal → List Tick → Journal
  | j, [] => j
  | j, t :: ts =>
    match j.halted with
    | some _ => j
    | none => mainLoop cfg (j.record (loopIteration cfg t)) ts

/-! ## One iteration -/

section Iteration

variable {cfg : Config} {t : Tick}

/-- The prover is handed a batch exactly when `sync_batch` returned it. -/
theorem loopIteration_proved_eq_some {b : BatchInfo}
    (h : (loopIteration cfg t).proved = some b) :
    (syncBatch cfg t.syncer).result = .ok (.ok (some b)) := by
  simp only [loopIteration] at h
  split at h
  · cases h
    assumption
  · cases h

/-- A batch the prover sees was committed by the same iteration, under its own
index. -/
theorem loopIteration_proved_sublist_commit :
    List.Sublist (((loopIteration cfg t).proved.toList.map (·.batchIndex)))
      ((loopIteration cfg t).commit.toList.map (·.1)) := by
  cases hp : (loopIteration cfg t).proved with
  | none => exact List.nil_sublist _
  | some b =>
    obtain ⟨_, _, -, -, -, hc⟩ := syncBatch_result_eq_some (loopIteration_proved_eq_some hp)
    simp [loopIteration, hc]

/-- **What an iteration logs.**  The error an iteration hands to
`log::error!` is the L1 height-read error of its `sync_batch`, or the error of
`prove` on the batch it synced. -/
theorem loopIteration_logged {e : RpcError} (h : e ∈ (loopIteration cfg t).logged) :
    t.syncer.l1Provider.getBlockNumber = .error e ∨
      ∃ b, (loopIteration cfg t).proved = some b ∧ t.prove b = .ok (.error e) := by
  simp only [loopIteration, Iteration.logged] at h ⊢
  split at h
  · rename_i e' hr
    obtain rfl : e = e' := by simpa using h
    split at hr
    · exact .inr ⟨_, by simp [*], hr⟩
    · cases hr
    · rename_i hsync
      cases hr
      exact .inl ((syncBatch_error_iff _).mp hsync)
    · cases hr
  · simp at h

/-- A panic of `sync_batch` is the iteration's panic. -/
theorem loopIteration_panic_of_syncBatch {p : Panic}
    (h : (syncBatch cfg t.syncer).result = .error p) : (loopIteration cfg t).panic = some p := by
  simp [loopIteration, Iteration.panic, h]

end Iteration

/-! ## Whole runs -/

section Runs

variable {cfg : Config}

/-- A stopped process stays stopped: no tick changes its journal. -/
theorem mainLoop_of_halted {j : Journal} {p : Panic} (h : j.halted = some p) :
    ∀ ts, mainLoop cfg j ts = j
  | [] => rfl
  | _ :: _ => by simp [mainLoop, h]

/-- **Induction over a run.**  A property of journals that every iteration of a
running process over one of the run's ticks preserves holds at the end of the
run, when it held at its start. -/
theorem mainLoop_induction {P : Journal → Prop} :
    ∀ {ts : List Tick}, (∀ j, ∀ t ∈ ts, j.halted = none → P j → P (j.record (loopIteration cfg t))) →
      ∀ j, P j → P (mainLoop cfg j ts)
  | [], _, _, hj => hj
  | t :: ts, hstep, j, hj => by
    cases hh : j.halted with
    | some _ => simpa [mainLoop, hh] using hj
    | none =>
      simp only [mainLoop, hh]
      exact mainLoop_induction (fun j' t' ht' => hstep j' t' (List.mem_cons_of_mem t ht')) _
        (hstep j t (List.mem_cons_self t ts) hh hj)

/-- A run from a running process ends halted by the panic of its first tick
that panics, and is still running when no tick panics. -/
theorem mainLoop_halted_of_running (ts : List Tick) :
    ∀ j : Journal, j.halted = none →
      (mainLoop cfg j ts).halted = ts.findSome? fun t => (loopIteration cfg t).panic := by
  induction ts with
  | nil => exact fun _ hj => hj
  | cons t ts ih =>
    intro j hj
    simp only [mainLoop, hj, List.findSome?_cons]
    cases hp : (loopIteration cfg t).panic with
    | some q => rw [mainLoop_of_halted (by simpa using hp)]; simpa using hp
    | none => exact ih _ (by simpa using hp)

/-- **A pending log stops the process.**  A run containing an iteration whose
scan holds at least three logs, one of them without a block number, ends halted:
by that iteration's `unwrap` panic, or by an earlier one. -/
theorem mainLoop_halts_of_pending_log {ts : List Tick} {t : Tick} {latest : U64}
    {logs : List Log} (ht : t ∈ ts) (hl : t.syncer.l1Provider.getBlockNumber = .ok latest)
    (hlogs : t.syncer.l1Provider.getLogs (scanStart latest) = .ok logs) (hlen : 3 ≤ logs.length)
    (hpend : ∃ l ∈ logs, l.blockNumber = none) :
    (mainLoop cfg Journal.init ts).halted.isSome := by
  have hpanic : (loopIteration cfg t).panic = some .unwrapFailed :=
    loopIteration_panic_of_syncBatch (by rw [syncBatch_of_pending_log hl hlogs hlen hpend])
  rw [mainLoop_halted_of_running ts _ rfl, List.findSome?_isSome_iff]
  exact ⟨t, ht, by simp [hpanic]⟩

/-- Two iterations whose prover accepts every batch: the first sees
`threeCommitsSyncer`, the second `pendingLogSyncer`. -/
def twoTicks : List Tick :=
  [⟨threeCommitsSyncer, fun _ => .ok (.ok ())⟩, ⟨pendingLogSyncer, fun _ => .ok (.ok ())⟩]

/-- The pending log of the second iteration stops the process. -/
theorem mainLoop_halts_of_pending_log_twoTicks :
    (mainLoop { overflowChecks := false } Journal.init twoTicks).halted.isSome :=
  mainLoop_halts_of_pending_log (t := ⟨pendingLogSyncer, fun _ => .ok (.ok ())⟩) (by simp [twoTicks])
    rfl rfl (by decide) ⟨_, List.mem_cons_self _ _, rfl⟩

/-- **The prover only sees committed batches.**  Along every run, the indices of
the batches handed to the prover are, in order, among the indices of the shadow
commitments submitted: each was committed by the iteration that proved it. -/
theorem mainLoop_proved_committed (ts : List Tick) :
    List.Sublist ((mainLoop cfg Journal.init ts).proved.map (·.batchIndex))
      ((mainLoop cfg Journal.init ts).commits.map (·.1)) :=
  mainLoop_induction (P := fun j => List.Sublist (j.proved.map (·.batchIndex)) (j.commits.map (·.1)))
    (fun _ _ _ _ hj => by
      simpa only [Journal.record_proved, Journal.record_commits, List.map_append] using
        hj.append loopIteration_proved_sublist_commit)
    Journal.init List.Sublist.slnil

/-- **Only empty ranges reach the prover.**  Along every run, each batch handed
to the prover was synced by a build without overflow checks, and its start block
lies just after its end block (an empty range), or so far after it that the
wrapped span `end - start + 1` is within `max_block`. -/
theorem mainLoop_proved_empty_or_wrapped (ts : List Tick) :
    ∀ b ∈ (mainLoop cfg Journal.init ts).proved, cfg.overflowChecks = false ∧
      (b.startBlock.val = b.endBlock.val + 1 ∨
        2 ^ 64 + 1 ≤ b.startBlock.val - b.endBlock.val + cfg.maxBlock.val) :=
  mainLoop_induction (P := fun j => ∀ b ∈ j.proved, cfg.overflowChecks = false ∧
      (b.startBlock.val = b.endBlock.val + 1 ∨
        2 ^ 64 + 1 ≤ b.startBlock.val - b.endBlock.val + cfg.maxBlock.val))
    (fun j t _ _ hj b hb => by
      rcases List.mem_append.mp hb with hb | hb
      · exact hj b hb
      · obtain ⟨hchk, _, _, -, -, hlo, hhi, hspan⟩ :=
          syncBatch_synced_range_inverted (loopIteration_proved_eq_some (Option.mem_toList.mp hb))
        exact ⟨hchk, by omega⟩)
    Journal.init (fun _ hb => absurd hb (List.not_mem_nil _))

/-- In the release build the first of `twoTicks` hands batch `2` to the prover
as the empty range `(11, 10)`. -/
theorem mainLoop_proved_empty_or_wrapped_twoTicks :
    { overflowChecks := false : Config }.overflowChecks = false ∧
      ((⟨2, 11, 10⟩ : BatchInfo).startBlock.val = (⟨2, 11, 10⟩ : BatchInfo).endBlock.val + 1 ∨
        2 ^ 64 + 1 ≤ (⟨2, 11, 10⟩ : BatchInfo).startBlock.val - (⟨2, 11, 10⟩ : BatchInfo).endBlock.val +
          ({ overflowChecks := false } : Config).maxBlock.val) :=
  mainLoop_proved_empty_or_wrapped twoTicks ⟨2, 11, 10⟩ (by decide)

/-- **What the process commits.**  Along every run, each shadow commitment the
process submitted is `(info.batchIndex, batchStoreOf h)` for a candidate
`(info, h)` that `get_committed_batch` returned in one of the run's iterations,
and whose proof state that iteration read as `false`: a batch the shadow
contract reports as proven, or whose proof state cannot be read, is never
committed. -/
theorem mainLoop_commits_unproved (ts : List Tick) :
    ∀ c ∈ (mainLoop cfg Journal.init ts).commits, ∃ t ∈ ts, ∃ latest info h,
      t.syncer.l1Provider.getBlockNumber = .ok latest ∧
      getCommittedBatch cfg t.syncer latest = .ok (.ok (some (info, h))) ∧
      isProveSuccess t.syncer.l1ShadowRollup info.batchIndex = some false ∧
      c = (info.batchIndex, batchStoreOf h) :=
  mainLoop_induction (P := fun j => ∀ c ∈ j.commits, ∃ t ∈ ts, ∃ latest info h,
      t.syncer.l1Provider.getBlockNumber = .ok latest ∧
      getCommittedBatch cfg t.syncer latest = .ok (.ok (some (info, h))) ∧
      isProveSuccess t.syncer.l1ShadowRollup info.batchIndex = some false ∧
      c = (info.batchIndex, batchStoreOf h))
    (fun j t ht _ hj c hc => by
      rcases List.mem_append.mp hc with hc | hc
      · exact hj c hc
      · obtain ⟨latest, info, h, hl, hcb, hp, hidx, hstore⟩ :=
          syncBatch_commit_eq_some (Option.mem_toList.mp hc)
        exact ⟨t, ht, latest, info, h, hl, hcb, hp, Prod.ext hidx hstore⟩)
    Journal.init (fun _ hc => absurd hc (List.not_mem_nil _))

/-- The commitment of batch `2` in the first of `twoTicks` comes from that
iteration's candidate. -/
theorem mainLoop_commits_unproved_twoTicks :
    ∃ t ∈ twoTicks, ∃ latest info h,
      t.syncer.l1Provider.getBlockNumber = .ok latest ∧
      getCommittedBatch { overflowChecks := false } t.syncer latest = .ok (.ok (some (info, h))) ∧
      isProveSuccess t.syncer.l1ShadowRollup info.batchIndex = some false ∧
      ((2 : U64), batchStoreOf (B256.ofNat 103).bytes) = (info.batchIndex, batchStoreOf h) :=
  mainLoop_commits_unproved twoTicks _ (by decide)

/-- **Only height reads and the prover fail an iteration.**  Along every run,
each error `main` logs is the L1 height-read error of one of the run's
iterations, or the error `prove` returned for the batch that iteration synced;
every other failure is handled inside `sync_batch`. -/
theorem mainLoop_logged_errors (ts : List Tick) :
    ∀ e ∈ (mainLoop cfg Journal.init ts).logged, ∃ t ∈ ts,
      t.syncer.l1Provider.getBlockNumber = .error e ∨
        ∃ b, (loopIteration cfg t).proved = some b ∧ t.prove b = .ok (.error e) :=
  mainLoop_induction (P := fun j => ∀ e ∈ j.logged, ∃ t ∈ ts,
      t.syncer.l1Provider.getBlockNumber = .error e ∨
        ∃ b, (loopIteration cfg t).proved = some b ∧ t.prove b = .ok (.error e))
    (fun j t ht _ hj e he => by
      rcases List.mem_append.mp he with he | he
      · exact hj e he
      · exact ⟨t, ht, loopIteration_logged he⟩)
    Journal.init (fun _ he => absurd he (List.not_mem_nil _))

/-- An iteration whose height read times out, then one whose prover rejects the
synced batch. -/
def errorTicks : List Tick :=
  [⟨{ threeCommitsSyncer with
      l1Provider := { threeCommitsSyncer.l1Provider with getBlockNumber := .error ⟨"timeout"⟩ } },
    fun _ => .ok (.ok ())⟩,
   ⟨threeCommitsSyncer, fun _ => .ok (.error ⟨"proof rejected"⟩)⟩]

/-- The prover's rejection in the second of `errorTicks` is logged, and comes
from that iteration's prover. -/
theorem mainLoop_logged_errors_errorTicks :
    ∃ t ∈ errorTicks, t.syncer.l1Provider.getBlockNumber = .error ⟨"proof rejected"⟩ ∨
      ∃ b, (loopIteration { overflowChecks := false } t).proved = some b ∧
        t.prove b = .ok (.error ⟨"proof rejected"⟩) :=
  mainLoop_logged_errors errorTicks ⟨"proof rejected"⟩ (by decide)

/-- **A checked build does nothing.**  With overflow checks, no run submits a
shadow commitment or hands a batch to the prover. -/
theorem mainLoop_checked_inert (hchk : cfg.overflowChecks = true) (ts : List Tick) :
    (mainLoop cfg Journal.init ts).commits = [] ∧ (mainLoop cfg Journal.init ts).proved = [] :=
  mainLoop_induction (P := fun j => j.commits = [] ∧ j.proved = [])
    (fun _ t _ _ ⟨hc, hp⟩ => by
      obtain ⟨hcommit, hresult⟩ := syncBatch_checked_no_commit (s := t.syncer) hchk
      have hproved : (loopIteration cfg t).proved = none := by
        cases h : (loopIteration cfg t).proved with
        | none => rfl
        | some b => exact absurd (loopIteration_proved_eq_some h) (hresult b)
      simp [hc, hp, hproved, loopIteration, hcommit])
    Journal.init ⟨rfl, rfl⟩

/-- With overflow checks, `twoTicks` submits and proves nothing. -/
theorem mainLoop_checked_inert_twoTicks :
    (mainLoop { overflowChecks := true } Journal.init twoTicks).commits = [] ∧
      (mainLoop { overflowChecks := true } Journal.init twoTicks).proved = [] :=
  mainLoop_checked_inert rfl twoTicks

end Runs

end ShadowProving
