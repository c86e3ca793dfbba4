import ShadowProving.Chain

/-!
# The commit scan: window, order and candidate

`get_committed_batch` asks for the rollup's `CommitBatch` logs of the last 600
L1 blocks, sorts them by block number with the stable `sort_by`, and reads two
logs off the sorted list: the candidate batch index from the second-to-last
one's `topics[1]`, and the transaction whose calldata carries the candidate's
header from the last one.

`sort_by` is a stable sort, so its result is determined by the input up to the
order *within* each block: `sortLogs_congr` says that two lists whose logs of
each block number come in the same relative order sort to the same list.  It is
proved without looking into the sort: a stable sort keeps each block's logs in
input order (`filter_insertionSort`), and a list sorted by block number is
determined by those per-block sublists (`eq_of_sorted_of_filter_eq`).  Which
order within a block `get_logs` returns is therefore the only freedom the RPC
has over the candidate.

The candidate index is the big-endian `uint256` of the indexed topic, cut to a
`u64`; `logBatchIndex_topic` reads it back from the word an event writes, for
every index.
-/

namespace ShadowProving

/-! ## Sorted lists are determined by their per-key sublists -/

section SortedByKey

variable {α : Type} (κ : α → Nat)

/-- The relation a sort by the key `κ` orders by. -/
def KeyLE (a b : α) : Prop := κ a ≤ κ b

instance : DecidableRel (KeyLE κ) := fun a b => Nat.decLe (κ a) (κ b)

instance : IsTotal α (KeyLE κ) := ⟨fun a b => Nat.le_total (κ a) (κ b)⟩

instance : IsTrans α (KeyLE κ) := ⟨fun _ _ _ => Nat.le_trans⟩

theorem mem_of_filter_key_eq {s₁ s₂ : List α}
    (h : ∀ k, s₁.filter (κ · = k) = s₂.filter (κ · = k)) {b : α} (hb : b ∈ s₂) : b ∈ s₁ := by
  have : b ∈ s₂.filter (κ · = κ b) := List.mem_filter.mpr ⟨hb, by simp⟩
  rw [← h] at this
  exact (List.mem_filter.mp this).1

/-- **A list sorted by a key is determined by its per-key sublists.**  Two lists
sorted by `κ` that have, for every key, the same sublist of elements with that
key are equal. -/
theorem eq_of_sorted_of_filter_eq :
    ∀ {s₁ s₂ : List α}, s₁.Sorted (KeyLE κ) → s₂.Sorted (KeyLE κ) →
      (∀ k, s₁.filter (κ · = k) = s₂.filter (κ · = k)) → s₁ = s₂
  | [], [], _, _, _ => rfl
  | [], b :: _, _, _, h => absurd (mem_of_filter_key_eq κ h (List.mem_cons_self b _)) (by simp)
  | a :: _, [], _, _, h =>
    absurd (mem_of_filter_key_eq κ (fun k => (h k).symm) (List.mem_cons_self a _)) (by simp)
  | a :: t, b :: u, h₁, h₂, h => by
    have hab : κ a ≤ κ b := by
      rcases List.mem_cons.mp (mem_of_filter_key_eq κ h (List.mem_cons_self b u)) with hb | hb
      · rw [hb]
      · exact List.rel_of_sorted_cons h₁ b hb
    have hba : κ b ≤ κ a := by
      rcases List.mem_cons.mp (mem_of_filter_key_eq κ (fun k => (h k).symm)
        (List.mem_cons_self a t)) with ha | ha
      · rw [ha]
      · exact List.rel_of_sorted_cons h₂ a ha
    have hhead := h (κ a)
    simp only [List.filter_cons, decide_True, ite_true, show κ b = κ a by omega] at hhead
    obtain ⟨rfl, -⟩ := List.cons.inj hhead
    have htail : ∀ k, t.filter (κ · = k) = u.filter (κ · = k) := by
      intro k
      have hk := h k
      by_cases hak : κ a = k
      · simp only [List.filter_cons, hak, decide_True, ite_true, List.cons.injEq] at hk
        exact hk.2
      · simpa [List.filter_cons, hak] using hk
    rw [eq_of_sorted_of_filter_eq h₁.of_cons h₂.of_cons htail]

/-- **Stability.**  An insertion sort by a key keeps the elements of each key in
input order. -/
theorem filter_insertionSort (l : List α) (k : Nat) :
    (l.insertionSort (KeyLE κ)).filter (κ · = k) = l.filter (κ · = k) := by
  have hpair : (l.filter (κ · = k)).Pairwise (KeyLE κ) :=
    List.pairwise_of_forall_mem_list fun a ha b hb => by
      simp only [List.mem_filter, decide_eq_true_eq] at ha hb
      exact Nat.le_of_eq (ha.2.trans hb.2.symm)
  have hsub : List.Sublist (l.filter (κ · = k)) ((l.insertionSort (KeyLE κ)).filter (κ · = k)) := by
    simpa using (List.sublist_insertionSort hpair (List.filter_sublist l)).filter (κ · = k)
  exact (hsub.eq_of_length ((List.perm_insertionSort _ l).filter _).length_eq.symm).symm

/-- Lists with the same per-key sublists are permutations of each other. -/
theorem perm_of_filter_key_eq {l₁ l₂ : List α} [DecidableEq α]
    (h : ∀ k, l₁.filter (κ · = k) = l₂.filter (κ · = k)) : l₁.Perm l₂ :=
  List.perm_iff_count.mpr fun a => by
    rw [← List.count_filter (p := (κ · = κ a)) (by simp), h, List.count_filter (by simp)]

end SortedByKey

/-! ## The scan -/

/-- The first L1 block of the scan window: the last 600 blocks, or from block
`1` on a shorter chain. -/
def scanStart (latest : U64) : U64 :=
  if latest > 600 then latest - 600 else 1

/-- The key `sort_by` compares, `block_number.unwrap()`. -/
def blockKey (log : Log) : Nat := (log.blockNumber.getD 0).val

/-- `logs.sort_by(|a, b| a.block_number.unwrap().cmp(&b.block_number.unwrap()))`:
a stable sort by block number, which panics when a log has no block number.
(It is only reached with three or more logs, and a sort of two or more elements
compares every element.) -/
def sortLogs (logs : List Log) : Except Panic (List Log) :=
  if logs.all (·.blockNumber.isSome) then
    .ok (logs.insertionSort (KeyLE blockKey))
  else .error .unwrapFailed

/-- `U256::from_be_slice(log.topics()[1].as_slice()).to::<u64>()`: the batch
index a `CommitBatch` log carries in its indexed topic. -/
def logBatchIndex (log : Log) : Except Panic U64 :=
  match log.topics.get? 1 with
  | some topic => topic.toU256.to
  | none => .error .indexOutOfBounds

/-- **The indexed batch index reads back.**  A log whose second topic is the
32-byte big-endian word of `n`, as the `CommitBatch` event carries an indexed
`uint256`, yields `n` (mod `2^256`) when it fits in a `u64`; a larger index makes
`to::<u64>()` panic. -/
theorem logBatchIndex_topic (blockNumber : Option U64) (transactionHash : Option B256)
    (sig : B256) (rest : List B256) (n : Nat) :
    logBatchIndex ⟨blockNumber, transactionHash, sig :: B256.ofNat n :: rest⟩ =
      if h : n % 2 ^ 256 < 2 ^ 64 then .ok ⟨n % 2 ^ 256, h⟩ else .error .conversionOverflow := by
  simp only [logBatchIndex, List.get?_cons_succ, List.get?_cons_zero, B256.toU256, B256.ofNat,
    U256.to, beValue_beBytes]
  rfl

/-- `log.transaction_hash.unwrap_or_default()`: the hash of the transaction that
emitted the log, or the zero hash. -/
def headerTxHash (log : Log) : B256 := log.transactionHash.getD B256.zero

/-- The log a `commitBatch` of batch `batchIndex` emits in L1 block `block`, from
the transaction with hash `B256.ofNat tx`.  Its first topic is the event
signature, which the code never reads. -/
def commitLog (block : U64) (batchIndex tx : Nat) : Log :=
  ⟨some block, some (B256.ofNat tx), [B256.zero, B256.ofNat batchIndex]⟩

/-- A successful sort returns a permutation of its input. -/
theorem sortLogs_perm {logs sorted : List Log} (h : sortLogs logs = .ok sorted) :
    sorted.Perm logs := by
  unfold sortLogs at h
  split at h
  · cases h
    exact List.perm_insertionSort _ _
  · cases h

/-- **The sort sees only each block's order.**  Two log lists whose logs of each
block number come in the same relative order (so each is a permutation of the
other) sort the same way, or both panic. -/
theorem sortLogs_congr {l₁ l₂ : List Log}
    (h : ∀ k, l₁.filter (blockKey · = k) = l₂.filter (blockKey · = k)) :
    sortLogs l₁ = sortLogs l₂ := by
  have hperm := perm_of_filter_key_eq blockKey h
  have hall : l₁.all (·.blockNumber.isSome) = l₂.all (·.blockNumber.isSome) := by
    rw [Bool.eq_iff_iff, List.all_eq_true, List.all_eq_true]
    exact forall_congr' fun a => imp_congr_left hperm.mem_iff
  have hsorted : l₁.insertionSort (KeyLE blockKey) = l₂.insertionSort (KeyLE blockKey) :=
    eq_of_sorted_of_filter_eq blockKey (List.sorted_insertionSort _ _)
      (List.sorted_insertionSort _ _) fun k => by rw [filter_insertionSort, filter_insertionSort, h]
  unfold sortLogs
  rw [hall, hsorted]

end ShadowProving
