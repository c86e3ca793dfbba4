import ShadowProving.Word

/-!
# The ledgers the pipeline talks to

`BatchSyncer` in `shadow_rollup.rs` holds four handles: an L1 provider, an L2
provider, the canonical `Rollup` contract on L1 and the `ShadowRollup` contract
it replays commitments to.  Everything the pipeline learns arrives as the answer
to a call on one of them, and the only thing it changes is one `commitBatch`
transaction on the shadow contract.

A handle is modelled as the structure of its calls' answers, each a function of
the call's arguments, so a `BatchSyncer` value is one state of the world *and*
one pattern of RPC outcomes.  Within a cycle every call has arguments no other
call of the cycle repeats, so quantifying over `BatchSyncer` quantifies over
every sequence of responses a cycle can see.

## Main definitions

* `Log`, `Transaction`, `CommitBatchCall` — the parts of alloy's types the code
  reads.
* `BatchInfo`, `BatchStore` — the synced batch and the shadow commitment.
* `L1Provider`, `L2Provider`, `RollupInstance`, `ShadowRollupInstance`,
  `BatchSyncer` — the four handles.
* `Config` — the two admission ceilings and the build's overflow mode.
-/

namespace ShadowProving

/-- A failed RPC call or contract read.  The pipeline only logs it, or returns
it from `sync_batch` unchanged. -/
structure RpcError where
  msg : String
  deriving DecidableEq, Repr

/-- A `CommitBatch` log of the rollup contract, as `get_logs` returns it.  The
code reads the block number, the transaction hash and the topics; `topics[1]`
is the indexed batch index. -/
structure Log where
  blockNumber : Option U64
  transactionHash : Option B256
  topics : List B256
  deriving DecidableEq

/-- A transaction fetched by hash; the code reads its calldata only. -/
structure Transaction where
  input : Bytes
  deriving DecidableEq

/-- The `batchDataInput` argument of a `commitBatch` call, reduced to the one
field the code reads. -/
structure BatchDataInput where
  parentBatchHeader : Bytes
  deriving DecidableEq

/-- A decoded `Rollup::commitBatchCall`. -/
structure CommitBatchCall where
  batchDataInput : BatchDataInput
  deriving DecidableEq

/-- `ShadowRollup::BatchStore`: the six 32-byte commitment fields the shadow
contract accepts. -/
structure BatchStore where
  prevStateRoot : B256
  postStateRoot : B256
  withdrawalRoot : B256
  dataHash : B256
  blobVersionedHash : B256
  sequencerSetVerifyHash : B256
  deriving DecidableEq

/-- `BatchInfo`: a batch index and the inclusive L2 block range it covers, as
handed to the prover. -/
structure BatchInfo where
  batchIndex : U64
  startBlock : U64
  endBlock : U64
  deriving DecidableEq, Repr

/-- The L1 provider: block height, the rollup's `CommitBatch` logs from a
starting block on, and transactions by hash. -/
structure L1Provider where
  getBlockNumber : Except RpcError U64
  getLogs : U64 → Except RpcError (List Log)
  getTransactionByHash : B256 → Except RpcError (Option Transaction)

/-- The L2 provider: the transaction count of a block, `None` for an unknown
block. -/
structure L2Provider where
  getBlockTransactionCountByNumber : U64 → Except RpcError (Option U64)

/-- The canonical rollup contract.  `batchDataStore` is the `blockNumber` field
of `batchDataStore(index)` (the index is `U256::from` of a `u64`).
`commitBatchCallAbiDecode` is the binding's `commitBatchCall::abi_decode`,
`none` where the calldata is not a `commitBatch` call; it is generated code,
not part of the repository, so it is a parameter of the model. -/
structure RollupInstance where
  batchDataStore : U64 → Except RpcError U256
  commitBatchCallAbiDecode : Bytes → Option CommitBatchCall

/-- A transaction receipt; the code reads `status()`. -/
structure Receipt where
  status : Bool
  deriving DecidableEq

/-- A sent transaction: what polling for its receipt returns. -/
structure PendingTransaction where
  getReceipt : Except RpcError Receipt

/-- The shadow rollup contract: the proof-state read, and what `send()` of a
`commitBatch(batchIndex, batchStore)` transaction returns. -/
structure ShadowRollupInstance where
  isProveSuccess : U64 → Except RpcError Bool
  commitBatch : U64 → BatchStore → Except RpcError PendingTransaction

/-- `BatchSyncer`: the four handles of one cycle. -/
structure BatchSyncer where
  l1Provider : L1Provider
  l2Provider : L2Provider
  l1Rollup : RollupInstance
  l1ShadowRollup : ShadowRollupInstance

/-- The process configuration the pipeline reads: `SHADOW_PROVING_MAX_BLOCK`
and `SHADOW_PROVING_MAX_TXN` with their defaults, and whether the binary was
built with overflow checks. -/
structure Config where
  maxBlock : U64 := 300
  maxTxn : U64 := 600
  overflowChecks : Bool

end ShadowProving
