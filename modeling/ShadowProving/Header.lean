import ShadowProving.Chain

/-!
# The batch header: extraction and the commitment projection

A `commitBatch` call on the canonical rollup carries, as `parentBatchHeader`,
the full header of the batch before it.  `batch_header_inspect` fetches a
transaction and pulls that blob out of its calldata; `sync_batch` then slices
six 32-byte fields out of it at fixed offsets and submits them as the shadow
`BatchStore`.

The slicing is `get(a..b).unwrap_or_default().try_into().unwrap_or_default()`
for every field.  `headerField` is that chain once, with the range as its
parameters, and `headerField_eq` says what it computes: the header's own word at
the offset when the header is long enough, and `B256.zero` otherwise.  Every
fact about the projection is read off that one lemma; in particular the
commitment depends on the header's bytes `25..217` and on nothing else
(`batchStoreOf_congr`).

The layout comment in `sync_batch` (after `BatchHeaderCodecV1.sol`) documents
where the fields sit.  `BatchHeader.encode` writes a header in that layout, and
`batchStoreOf_encode` is the round trip: the projection of an encoded header is
exactly its six commitment fields, whatever the tail.
-/

namespace ShadowProving

/-! ## One field of the projection -/

/-- The 32 bytes of `h` at offset `a`, when `h` has them. -/
def wordAt? (h : Bytes) (a : Nat) : Option B256 :=
  if hl : a + 32 ≤ h.length then some ⟨(h.drop a).take 32, by simp; omega⟩ else none

/-- A header too short for the word at `a` has none there. -/
theorem wordAt?_eq_none {h : Bytes} {a : Nat} (hl : h.length < a + 32) : wordAt? h a = none :=
  dif_neg (by omega)

/-- `batch_header.get(a..b).unwrap_or_default().try_into().unwrap_or_default()`. -/
def headerField (batchHeader : Bytes) (a b : Nat) : B256 :=
  (B256.tryFrom ((sliceGet batchHeader a b).getD [])).getD B256.zero

/-- **What a field of the projection is.**  A 32-byte range present in the
header yields the header's bytes there; a range that runs past the end yields
32 zero bytes, not an error. -/
theorem headerField_eq (h : Bytes) (a : Nat) :
    headerField h a (a + 32) = (wordAt? h a).getD B256.zero := by
  unfold headerField wordAt? sliceGet
  by_cases hl : a + 32 ≤ h.length
  · have hlen : ((h.drop a).take 32).length = 32 := by simp; omega
    simp [hl, B256.tryFrom, hlen]
  · simp [hl, B256.tryFrom]

/-- A word read past a prefix is a word of the rest. -/
theorem wordAt?_append_of_le (p l : Bytes) {a : Nat} (ha : p.length ≤ a) :
    wordAt? (p ++ l) a = wordAt? l (a - p.length) := by
  unfold wordAt?
  by_cases hl : a + 32 ≤ (p ++ l).length
  · have hl' : a - p.length + 32 ≤ l.length := by simp at hl; omega
    simp only [hl, hl', dif_pos, List.drop_append_eq_append_drop, List.drop_eq_nil_of_le ha,
      List.nil_append]
  · have hl' : ¬ a - p.length + 32 ≤ l.length := by simp at hl; omega
    simp only [hl, hl', dif_neg, not_false_eq_true]

/-- The word at the front of a byte string is read back whole. -/
@[simp] theorem wordAt?_bytes_append (w : B256) (l : Bytes) : wordAt? (w.bytes ++ l) 0 = some w := by
  have hl : 0 + 32 ≤ (w.bytes ++ l).length := by simp [w.length_bytes]
  simp only [wordAt?, hl, dif_pos, List.drop_zero, Option.some.injEq]
  cases w with
  | mk bytes hb => simp [List.take_left', hb]

/-- A word depends on its own 32 bytes only: two byte strings that agree at
every index from `a` to `a + 31` (both having the byte, or both lacking it)
have the same word at `a`. -/
theorem wordAt?_congr {h h' : Bytes} {a : Nat}
    (hagree : ∀ i, a ≤ i → i < a + 32 → h[i]? = h'[i]?) : wordAt? h a = wordAt? h' a := by
  have hfits : ∀ l : Bytes, a + 32 ≤ l.length ↔ l[a + 31]? ≠ none := fun l => by
    rw [Ne, List.getElem?_eq_none_iff]; omega
  have hlen : a + 32 ≤ h.length ↔ a + 32 ≤ h'.length := by
    rw [hfits, hfits, hagree (a + 31) (by omega) (by omega)]
  have hslice : (h.drop a).take 32 = (h'.drop a).take 32 := List.ext_getElem? fun n => by
    simp only [List.getElem?_take, List.getElem?_drop]
    split_ifs with hn
    · exact hagree _ (by omega) (by omega)
    · rfl
  unfold wordAt?
  by_cases hl : a + 32 ≤ h.length
  · simp [hl, hlen.mp hl, hslice]
  · simp [hl, mt hlen.mpr hl]

/-! ## The projection -/

/-- The `BatchStore` `sync_batch` assembles from a batch header, with the
offsets of the layout comment in `sync_batch`. -/
def batchStoreOf (batchHeader : Bytes) : BatchStore where
  prevStateRoot := headerField batchHeader 89 121
  postStateRoot := headerField batchHeader 121 153
  withdrawalRoot := headerField batchHeader 153 185
  dataHash := headerField batchHeader 25 57
  blobVersionedHash := headerField batchHeader 57 89
  sequencerSetVerifyHash := headerField batchHeader 185 217

/-- The projection field by field: the word at the field's offset, or zero. -/
theorem batchStoreOf_eq (h : Bytes) :
    batchStoreOf h =
      { prevStateRoot := (wordAt? h 89).getD B256.zero
        postStateRoot := (wordAt? h 121).getD B256.zero
        withdrawalRoot := (wordAt? h 153).getD B256.zero
        dataHash := (wordAt? h 25).getD B256.zero
        blobVersionedHash := (wordAt? h 57).getD B256.zero
        sequencerSetVerifyHash := (wordAt? h 185).getD B256.zero } := by
  simp only [batchStoreOf, ← headerField_eq]

/-- **The commitment reads bytes `25..217` only.**  Two headers that agree on
those bytes, each having the byte or both lacking it, are committed identically:
the version, the batch index, the two message counters, the parent batch hash
and everything after offset `217` never reach the shadow contract. -/
theorem batchStoreOf_congr {h h' : Bytes} (hagree : ∀ i, 25 ≤ i → i < 217 → h[i]? = h'[i]?) :
    batchStoreOf h = batchStoreOf h' := by
  have hw : ∀ a, 25 ≤ a → a + 32 ≤ 217 → wordAt? h a = wordAt? h' a := fun a h1 h2 =>
    wordAt?_congr fun i hi hi' => hagree i (by omega) (by omega)
  simp (disch := omega) only [batchStoreOf_eq, hw]

/-- Two 217-byte headers that differ in their version byte only are committed
identically. -/
theorem batchStoreOf_congr_version :
    batchStoreOf (1 :: List.replicate 216 7) = batchStoreOf (2 :: List.replicate 216 7) :=
  batchStoreOf_congr fun i hi _ => by
    cases i with
    | zero => omega
    | succ i => rfl

/-! ## Extraction from calldata -/

/-- `batch_header_inspect`: the `parentBatchHeader` of the `commitBatch` call in
the transaction `hash`, or `None` when the transaction cannot be fetched, has no
calldata, or is not a `commitBatch` call.  The decoder is the rollup binding's. -/
def batchHeaderInspect (rollup : RollupInstance) (l1Provider : L1Provider) (hash : B256) :
    Option Bytes :=
  match l1Provider.getTransactionByHash hash with
  | .ok (some tx) =>
    if tx.input.isEmpty then none
    else (rollup.commitBatchCallAbiDecode tx.input).map (·.batchDataInput.parentBatchHeader)
  | .ok none => none
  | .error _ => none

/-! ## The documented layout -/

/-- A batch header's fields, in the order of the layout comment in `sync_batch`.
`tail` is everything from offset 249 on: the `skippedL1MessageBitmap` words, or
the V1 `lastBlockNumber`. -/
structure BatchHeader where
  version : UInt8
  batchIndex : U64
  l1MessagePopped : U64
  totalL1MessagePopped : U64
  dataHash : B256
  blobVersionedHash : B256
  prevStateHash : B256
  postStateHash : B256
  withdrawRootHash : B256
  sequencerSetVerifyHash : B256
  parentBatchHash : B256
  tail : Bytes

/-- A header written in the documented layout: one version byte, three
big-endian `u64`s, seven 32-byte words, then the tail. -/
def BatchHeader.encode (hd : BatchHeader) : Bytes :=
  [hd.version] ++ beBytes 8 hd.batchIndex.val ++ beBytes 8 hd.l1MessagePopped.val ++
    beBytes 8 hd.totalL1MessagePopped.val ++ hd.dataHash.bytes ++ hd.blobVersionedHash.bytes ++
    hd.prevStateHash.bytes ++ hd.postStateHash.bytes ++ hd.withdrawRootHash.bytes ++
    hd.sequencerSetVerifyHash.bytes ++ hd.parentBatchHash.bytes ++ hd.tail

/-- The `batchIndex` field of a header in the documented layout: the big-endian
`u64` at bytes `1..9`.  The pipeline never reads it; it says which batch a
header belongs to. -/
def headerBatchIndex (h : Bytes) : Nat := beValue ((h.drop 1).take 8)

/-- **Header round trip.**  Projecting a header written in the documented layout
gives back its six commitment fields, each in its own `BatchStore` field, for
every value of every field and every tail. -/
theorem batchStoreOf_encode (hd : BatchHeader) :
    batchStoreOf hd.encode =
      { prevStateRoot := hd.prevStateHash
        postStateRoot := hd.postStateHash
        withdrawalRoot := hd.withdrawRootHash
        dataHash := hd.dataHash
        blobVersionedHash := hd.blobVersionedHash
        sequencerSetVerifyHash := hd.sequencerSetVerifyHash } := by
  simp (disch := simp [B256.length_bytes]) only [batchStoreOf_eq, BatchHeader.encode,
    List.append_assoc, wordAt?_append_of_le, wordAt?_bytes_append, B256.length_bytes,
    length_beBytes, List.length_singleton, Option.getD_some, Nat.reduceSub]

end ShadowProving
