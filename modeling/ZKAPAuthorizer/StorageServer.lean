import ZKAPAuthorizer.PassValidation
import Mathlib.Algebra.Order.Ring.Rat

/-!
# The authorization gate

``ZKAPAuthorizerStorageServer`` wraps a Tahoe-LAFS storage server and checks
passes before it forwards a storage operation.  A remote method is modelled as
the call it makes on the wrapped server (`OriginalCall`, whose result the gate
returns unchanged) or the exception the gate raises itself (`StorageError`).
The gate reads the wrapped server only through ``get_slot_leases`` and the
clock only through ``seconds()``.

**Results.**
* `remoteSlotTestvAndReadvAndWritev_eq`: the mutable write path in closed form.
  It raises ``MorePassesRequired(v, r)`` exactly when the vectors write, no lease
  is active and fewer than `r` valid passes came; otherwise it forwards the
  request unchanged, with ``renew_leases`` set exactly when it charged.
* `remoteAllocateBuckets_eq`: the immutable allocation path in closed form.
* `forwarded_write_has_required_valid_count`: a write the gate forwards after charging had
  at least ``required_passes`` valid passes, counted with multiplicity: one valid pass
  sent `k` times pays for `k` passes (`remoteAllocateBuckets_replicate`).
* ``remote_add_lease`` and ``remote_renew_lease`` forward whatever passes come
  (`validateThenForward_eq`).
-/

namespace ZKAPAuthorizer
namespace StorageServer

/-- A lease of a slot; the gate reads only ``get_expiration_time()``. -/
structure Lease where
  expirationTime : ℚ

/-- What a ``ZKAPAuthorizerStorageServer`` consults during one call: its signing key,
``_original.get_slot_leases`` and the reading of ``_clock.seconds()``. -/
structure ZKAPAuthorizerStorageServer where
  signingKey : Bytes
  getSlotLeases : Bytes → List Lease
  seconds : ℚ

/-- Exceptions the gate raises itself. -/
inductive StorageError
  /-- ``MorePassesRequired(valid_count, required_count)`` -/
  | morePassesRequired (validCount requiredCount : ℕ)
  /-- ``ValueError`` from ``max`` of an empty sequence -/
  | valueError
deriving DecidableEq, Repr

/-- A call on the wrapped ``RIStorageServer``; ``*a, **kw`` are kept as `args`. -/
inductive OriginalCall
  | remoteGetVersion
  | remoteAllocateBuckets (storageIndex renewSecret cancelSecret : Bytes)
      (sharenums : Finset ℕ) (allocatedSize : ℤ) (canary : Bytes)
  | remoteGetBuckets (storageIndex : Bytes)
  | remoteAddLease (storageIndex : Bytes) (args : List Bytes)
  | remoteRenewLease (storageIndex : Bytes) (args : List Bytes)
  | remoteAdviseCorruptShare (args : List Bytes)
  | slotTestvAndReadvAndWritev (storageIndex : Bytes) (secrets : Bytes × Bytes × Bytes)
      (twVectors : TestAndWriteVectorsForShares) (rVector : List (ℤ × ℤ)) (renewLeases : Bool)
  | remoteSlotReadv (args : List Bytes)
deriving DecidableEq

/-! ## Request shape -/

/-- ``get_sharenums(tw_vectors)``: the shares the vectors write to. -/
def getSharenums (twVectors : TestAndWriteVectorsForShares) : Finset ℕ :=
  ((twVectors.filter fun entry => !entry.2.data.isEmpty).map Prod.fst).toFinset

/-- Python's ``max`` of a sequence of integers. -/
def pyMax : List ℤ → Except StorageError ℤ
  | [] => .error .valueError
  | x :: xs => .ok (xs.foldl max x)

/-- The ends ``offset + len(s)`` of one share's writes. -/
def shareWriteEnds (entry : ℕ × TestAndWriteVector) : List ℤ :=
  entry.2.data.map fun write => write.1 + write.2.length

/-- ``get_allocated_size(tw_vectors)``: the largest ``offset + len(s)`` over the writes. -/
def getAllocatedSize (twVectors : TestAndWriteVectorsForShares) : Except StorageError ℤ := do
  let shareMaxima ← (twVectors.filter fun entry => !entry.2.data.isEmpty).mapM fun entry =>
    pyMax (shareWriteEnds entry)
  pyMax shareMaxima

/-- The end ``offset + len(s)`` of every write of every share, in order. -/
def writeEnds (twVectors : TestAndWriteVectorsForShares) : List ℤ :=
  twVectors.flatMap shareWriteEnds

/-- The spec's ``required_for_mutable_write``: the price of the largest write end, charged
once for all written shares. -/
def requiredForMutableWrite (bytesPerPass : ℕ) (twVectors : TestAndWriteVectorsForShares) : ℕ :=
  requiredPasses bytesPerPass (getSharenums twVectors) ((writeEnds twVectors).max?.getD 0)

theorem pyMax_eq (xs : List ℤ) : pyMax xs = xs.max?.elim (.error .valueError) .ok := by
  cases xs <;> rfl

theorem max?_eq_some_iff_int {xs : List ℤ} {m : ℤ} :
    xs.max? = some m ↔ m ∈ xs ∧ ∀ b ∈ xs, b ≤ m :=
  @List.max?_eq_some_iff ℤ m _ _ ⟨fun h₁ h₂ => le_antisymm h₁ h₂⟩ le_refl max_choice
    (fun _ _ _ => max_le_iff) xs

theorem mapM_pyMax {entries : List (ℕ × TestAndWriteVector)}
    (hdata : ∀ entry ∈ entries, entry.2.data ≠ []) :
    entries.mapM (fun entry => pyMax (shareWriteEnds entry)) =
      .ok (entries.map fun entry => (shareWriteEnds entry).max?.getD 0) := by
  induction entries with
  | nil => rfl
  | cons entry entries ih =>
      obtain ⟨w, ws, hw⟩ := List.exists_cons_of_ne_nil (hdata entry (List.mem_cons_self _ _))
      rw [List.mapM_cons, ih fun e he => hdata e (List.mem_cons_of_mem _ he)]
      simp [hw, pyMax, shareWriteEnds, List.max?]
      rfl

theorem foldl_max_flatMap {α : Type} (f : α → List ℤ) :
    ∀ (xs : List α), (∀ x ∈ xs, f x ≠ []) → ∀ a : ℤ,
      (xs.flatMap f).foldl max a = (xs.map fun x => (f x).max?.getD 0).foldl max a
  | [], _, _ => rfl
  | x :: xs, hf, a => by
      obtain ⟨y, ys, hy⟩ := List.exists_cons_of_ne_nil (hf x (List.mem_cons_self _ _))
      simp [hy, List.foldl_assoc, List.max?,
        foldl_max_flatMap f xs fun x hx => hf x (List.mem_cons_of_mem _ hx)]

/-- The largest of all the ends is the largest of each share's largest end. -/
theorem pyMax_flatMap {α : Type} (f : α → List ℤ) :
    ∀ (xs : List α), (∀ x ∈ xs, f x ≠ []) →
      pyMax (xs.flatMap f) = pyMax (xs.map fun x => (f x).max?.getD 0)
  | [], _ => rfl
  | x :: xs, hf => by
      obtain ⟨y, ys, hy⟩ := List.exists_cons_of_ne_nil (hf x (List.mem_cons_self _ _))
      simp [pyMax, hy, List.max?, foldl_max_flatMap f xs fun x hx => hf x (List.mem_cons_of_mem _ hx)]

theorem writeEnds_eq_flatMap_filter (twVectors : TestAndWriteVectorsForShares) :
    writeEnds twVectors =
      (twVectors.filter fun entry => !entry.2.data.isEmpty).flatMap shareWriteEnds := by
  induction twVectors with
  | nil => rfl
  | cons entry entries ih =>
      cases h : entry.2.data <;> simp_all [writeEnds, shareWriteEnds, List.filter_cons]

/-- ``get_allocated_size`` is ``max`` over every write end: it raises exactly when nothing
is written. -/
theorem getAllocatedSize_eq (twVectors : TestAndWriteVectorsForShares) :
    getAllocatedSize twVectors = pyMax (writeEnds twVectors) := by
  have hwritten : ∀ entry ∈ twVectors.filter (fun entry => !entry.2.data.isEmpty),
      entry.2.data ≠ [] := by
    simp
  rw [writeEnds_eq_flatMap_filter, pyMax_flatMap _ _ fun entry hentry => by
    simpa [shareWriteEnds] using hwritten entry hentry]
  simp only [getAllocatedSize, mapM_pyMax hwritten]
  rfl

theorem writeEnds_eq_nil_iff (twVectors : TestAndWriteVectorsForShares) :
    writeEnds twVectors = [] ↔ hasWrites twVectors = false := by
  simp [writeEnds, hasWrites, shareWriteEnds]

theorem writeEnds_ne_nil {twVectors : TestAndWriteVectorsForShares}
    (hwrites : hasWrites twVectors = true) : writeEnds twVectors ≠ [] := fun h => by
  simp [(writeEnds_eq_nil_iff twVectors).mp h] at hwrites

theorem getAllocatedSize_of_hasWrites {twVectors : TestAndWriteVectorsForShares}
    (hwrites : hasWrites twVectors = true) :
    getAllocatedSize twVectors = .ok ((writeEnds twVectors).max?.getD 0) := by
  obtain ⟨m, hm⟩ := Option.ne_none_iff_exists'.mp
    (mt List.max?_eq_none_iff.mp (writeEnds_ne_nil hwrites))
  rw [getAllocatedSize_eq, pyMax_eq, hm]
  rfl

/-- **``get_allocated_size``.**  It raises ``ValueError`` exactly when no share writes, and
otherwise returns a write end that no write end exceeds. -/
theorem getAllocatedSize_largest_write_end (twVectors : TestAndWriteVectorsForShares) :
    (getAllocatedSize twVectors = .error .valueError ↔ hasWrites twVectors = false) ∧
      (hasWrites twVectors = true → ∃ m, getAllocatedSize twVectors = .ok m ∧
        m ∈ writeEnds twVectors ∧ ∀ b ∈ writeEnds twVectors, b ≤ m) := by
  rw [getAllocatedSize_eq, pyMax_eq, ← writeEnds_eq_nil_iff]
  cases hmax : (writeEnds twVectors).max? with
  | none => exact ⟨by simpa using hmax, fun h => absurd (List.max?_eq_none_iff.mp hmax) (writeEnds_ne_nil h)⟩
  | some m =>
      have hne : writeEnds twVectors ≠ [] := fun h => by simp [h] at hmax
      exact ⟨by simpa using hne, fun _ => ⟨m, rfl, max?_eq_some_iff_int.mp hmax⟩⟩

/-! ## A concrete configuration -/

/-- A stand-in for ``privacypass``: the token of preimage `p` is the key followed by `p`,
and a signature is valid when it equals the token. -/
def examplePrivacyPass : PrivacyPass where
  decodePreimage := some
  decodeSignature := some
  rederiveUnblindedToken := fun key preimage => some (key ++ preimage)
  deriveVerificationKeySha512 := some
  invalidSha512 := fun verificationKey signature _ => some (signature != verificationKey)

/-- The price of the spec's scenarios, one pass per million bytes. -/
def exampleStorageCommon : StorageCommon where
  bytesPerPass := 1000000
  bytesPerPass_pos := by decide
  allocateBucketsMessage := fun _ => "allocate_buckets"
  addLeaseMessage := fun _ => "add_lease"
  renewLeaseMessage := fun _ => "renew_lease"
  slotTestvAndReadvAndWritevMessage := fun _ => "slot_testv_and_readv_and_writev"

/-- A server with the empty signing key, no leases and the clock at zero. -/
def exampleServer : ZKAPAuthorizerStorageServer where
  signingKey := []
  getSlotLeases := fun _ => []
  seconds := 0

/-- The pass ``b"\x01 \x01"``, valid in the example configuration for every message. -/
def examplePass : Bytes := [1, 32, 1]

/-! ## The remote methods -/

section Gate

variable (pp : PrivacyPass) (common : StorageCommon) (server : ZKAPAuthorizerStorageServer)

/-- ``has_active_lease(storage_server, storage_index, now)``. -/
def hasActiveLease (storageIndex : Bytes) (now : ℚ) : Bool :=
  (server.getSlotLeases storageIndex).any fun lease => lease.expirationTime > now

/-- ``check_pass_quantity_for_write(valid_count, sharenums, allocated_size)``. -/
def checkPassQuantityForWrite (validCount : ℕ) (sharenums : Finset ℕ) (allocatedSize : ℤ) :
    Except StorageError Unit :=
  let requiredPassCount := requiredPasses common.bytesPerPass sharenums allocatedSize
  if validCount < requiredPassCount then
    .error (.morePassesRequired validCount requiredPassCount)
  else
    .ok ()

/-- ``check_pass_quantity_for_mutable_write(valid_count, tw_vectors)``. -/
def checkPassQuantityForMutableWrite (validCount : ℕ)
    (twVectors : TestAndWriteVectorsForShares) : Except StorageError Unit := do
  let sharenums := getSharenums twVectors
  let allocatedSize ← getAllocatedSize twVectors
  checkPassQuantityForWrite common validCount sharenums allocatedSize

/-- ``remote_allocate_buckets``. -/
def remoteAllocateBuckets (passes : List Bytes) (storageIndex renewSecret cancelSecret : Bytes)
    (sharenums : Finset ℕ) (allocatedSize : ℤ) (canary : Bytes) :
    Except StorageError OriginalCall := do
  let validPasses :=
    validatePasses pp server.signingKey (common.allocateBucketsMessage storageIndex) passes
  checkPassQuantityForWrite common validPasses.length sharenums allocatedSize
  pure (.remoteAllocateBuckets storageIndex renewSecret cancelSecret sharenums allocatedSize canary)

/-- The body ``remote_add_lease`` and ``remote_renew_lease`` share: validate the passes
against `message`, then forward `call`.  The valid passes are never looked at. -/
def validateThenForward (message : String) (passes : List Bytes) (call : OriginalCall) :
    Except StorageError OriginalCall :=
  let _validPasses := validatePasses pp server.signingKey message passes
  pure call

/-- ``remote_add_lease``. -/
def remoteAddLease (passes : List Bytes) (storageIndex : Bytes) (args : List Bytes) :
    Except StorageError OriginalCall :=
  validateThenForward pp server (common.addLeaseMessage storageIndex) passes
    (.remoteAddLease storageIndex args)

/-- ``remote_renew_lease``. -/
def remoteRenewLease (passes : List Bytes) (storageIndex : Bytes) (args : List Bytes) :
    Except StorageError OriginalCall :=
  validateThenForward pp server (common.renewLeaseMessage storageIndex) passes
    (.remoteRenewLease storageIndex args)

/-- ``remote_slot_testv_and_readv_and_writev``. -/
def remoteSlotTestvAndReadvAndWritev (passes : List Bytes) (storageIndex : Bytes)
    (secrets : Bytes × Bytes × Bytes) (twVectors : TestAndWriteVectorsForShares)
    (rVector : List (ℤ × ℤ)) : Except StorageError OriginalCall := do
  let renewLeases ←
    if hasWrites twVectors then
      if !hasActiveLease server storageIndex server.seconds then do
        let validPasses := validatePasses pp server.signingKey
          (common.slotTestvAndReadvAndWritevMessage storageIndex) passes
        checkPassQuantityForMutableWrite common validPasses.length twVectors
        pure true
      else pure false
    else pure false
  pure (.slotTestvAndReadvAndWritev storageIndex secrets twVectors rVector renewLeases)

/-- ``remote_allocate_buckets`` raises ``MorePassesRequired`` exactly when too few valid
passes came, and otherwise forwards the allocation unchanged. -/
theorem remoteAllocateBuckets_eq (passes : List Bytes)
    (storageIndex renewSecret cancelSecret : Bytes) (sharenums : Finset ℕ) (allocatedSize : ℤ)
    (canary : Bytes) :
    remoteAllocateBuckets pp common server passes storageIndex renewSecret cancelSecret sharenums
        allocatedSize canary =
      let v := validCount pp server.signingKey (common.allocateBucketsMessage storageIndex) passes
      let r := requiredPasses common.bytesPerPass sharenums allocatedSize
      if v < r then .error (.morePassesRequired v r)
      else .ok (.remoteAllocateBuckets storageIndex renewSecret cancelSecret sharenums
        allocatedSize canary) := by
  simp only [remoteAllocateBuckets, checkPassQuantityForWrite, length_validatePasses]
  split <;> rfl

section MutableWrite

variable (passes : List Bytes) (storageIndex : Bytes) (secrets : Bytes × Bytes × Bytes)
  (twVectors : TestAndWriteVectorsForShares) (rVector : List (ℤ × ℤ))

/-- A mutable write that needs no new lease is forwarded without looking at the passes. -/
theorem remoteSlotTestvAndReadvAndWritev_of_not_charged
    (hfree : ¬(hasWrites twVectors = true ∧ hasActiveLease server storageIndex server.seconds = false)) :
    remoteSlotTestvAndReadvAndWritev pp common server passes storageIndex secrets twVectors
        rVector =
      .ok (.slotTestvAndReadvAndWritev storageIndex secrets twVectors rVector false) := by
  unfold remoteSlotTestvAndReadvAndWritev
  cases hW : hasWrites twVectors <;> cases hA : hasActiveLease server storageIndex server.seconds <;>
    simp_all <;> rfl

/-- A write to a slot without an active lease is charged for the written shares and the
largest write end, and on success asks for a lease. -/
theorem remoteSlotTestvAndReadvAndWritev_of_charged (hwrites : hasWrites twVectors = true)
    (hlease : hasActiveLease server storageIndex server.seconds = false) :
    remoteSlotTestvAndReadvAndWritev pp common server passes storageIndex secrets twVectors
        rVector =
      let v := validCount pp server.signingKey
        (common.slotTestvAndReadvAndWritevMessage storageIndex) passes
      let r := requiredForMutableWrite common.bytesPerPass twVectors
      if v < r then .error (.morePassesRequired v r)
      else .ok (.slotTestvAndReadvAndWritev storageIndex secrets twVectors rVector true) := by
  simp only [remoteSlotTestvAndReadvAndWritev, hwrites, hlease, checkPassQuantityForMutableWrite,
    getAllocatedSize_of_hasWrites hwrites, checkPassQuantityForWrite, length_validatePasses,
    requiredForMutableWrite,
    Bool.not_false, ↓reduceIte, bind, Except.bind]
  split_ifs <;> rfl

/-- **The mutable write path.**  With `W` the vectors write, `A` a lease of the slot
expires strictly after now, `v` the valid passes counted with multiplicity and `r`
the passes required for the written shares and the largest write end: the gate
raises ``MorePassesRequired(v, r)`` when `W`, not `A` and `v < r`, and otherwise
forwards the request unchanged with ``renew_leases = W and not A``.  No other
exception arises. -/
theorem remoteSlotTestvAndReadvAndWritev_eq :
    remoteSlotTestvAndReadvAndWritev pp common server passes storageIndex secrets twVectors
        rVector =
      if hasWrites twVectors ∧ ¬hasActiveLease server storageIndex server.seconds ∧
          validCount pp server.signingKey (common.slotTestvAndReadvAndWritevMessage storageIndex)
            passes < requiredForMutableWrite common.bytesPerPass twVectors then
        .error (.morePassesRequired
          (validCount pp server.signingKey (common.slotTestvAndReadvAndWritevMessage storageIndex)
            passes)
          (requiredForMutableWrite common.bytesPerPass twVectors))
      else
        .ok (.slotTestvAndReadvAndWritev storageIndex secrets twVectors rVector
          (hasWrites twVectors && !hasActiveLease server storageIndex server.seconds)) := by
  by_cases hcharged :
      hasWrites twVectors = true ∧ hasActiveLease server storageIndex server.seconds = false
  · rw [remoteSlotTestvAndReadvAndWritev_of_charged pp common server passes storageIndex secrets
      twVectors rVector hcharged.1 hcharged.2]
    simp [hcharged.1, hcharged.2]
  · rw [remoteSlotTestvAndReadvAndWritev_of_not_charged pp common server passes storageIndex
      secrets twVectors rVector hcharged]
    cases hW : hasWrites twVectors <;>
      cases hA : hasActiveLease server storageIndex server.seconds <;> simp_all

end MutableWrite

/-- One valid pass sent `k` times pays for `k` passes, though it carries one token. -/
theorem remoteAllocateBuckets_replicate (pass storageIndex : Bytes)
    (hvalid : isInvalidPass pp server.signingKey (common.allocateBucketsMessage storageIndex)
      pass = false)
    (renewSecret cancelSecret : Bytes) (sharenums : Finset ℕ) (allocatedSize : ℤ)
    (canary : Bytes) (k : ℕ) (hk : requiredPasses common.bytesPerPass sharenums allocatedSize ≤ k) :
    remoteAllocateBuckets pp common server (List.replicate k pass) storageIndex renewSecret
        cancelSecret sharenums allocatedSize canary =
      .ok (.remoteAllocateBuckets storageIndex renewSecret cancelSecret sharenums allocatedSize
        canary) ∧
    (carriedTokens pp server.signingKey (validatePasses pp server.signingKey
      (common.allocateBucketsMessage storageIndex) (List.replicate k pass))).length ≤ 1 := by
  rw [validatePasses_replicate pp server.signingKey hvalid]
  refine ⟨?_, carriedTokens_replicate_length_le pp server.signingKey pass k⟩
  rw [remoteAllocateBuckets_eq, ← length_validatePasses,
    validatePasses_replicate pp server.signingKey hvalid, List.length_replicate]
  simp [Nat.not_lt.mpr hk]

/-- ``remote_add_lease`` and ``remote_renew_lease`` forward the call whatever passes come. -/
theorem validateThenForward_eq (message : String) (passes : List Bytes) (call : OriginalCall) :
    validateThenForward pp server message passes call = .ok call :=
  rfl

/-- With no pass at all, ``remote_add_lease`` and ``remote_renew_lease`` still reach the
wrapped server. -/
theorem remoteAddLease_remoteRenewLease_without_passes (storageIndex : Bytes) (args : List Bytes) :
    remoteAddLease pp common server [] storageIndex args =
        .ok (.remoteAddLease storageIndex args) ∧
      remoteRenewLease pp common server [] storageIndex args =
        .ok (.remoteRenewLease storageIndex args) :=
  ⟨validateThenForward_eq pp server _ _ _, validateThenForward_eq pp server _ _ _⟩

/-- **What a forwarded write paid.**  An immutable allocation, or a mutable write that
writes to a slot without an active lease, is forwarded only when the passes valid for its
binding message, counted with multiplicity, are at least ``required_passes`` of its shares
and size; for the mutable write these are ``get_sharenums`` and ``get_allocated_size`` of
its vectors, which then returns. -/
theorem forwarded_write_has_required_valid_count (passes : List Bytes)
    (storageIndex renewSecret cancelSecret : Bytes) (sharenums : Finset ℕ) (allocatedSize : ℤ)
    (canary : Bytes) (secrets : Bytes × Bytes × Bytes) (twVectors : TestAndWriteVectorsForShares)
    (rVector : List (ℤ × ℤ)) (call call' : OriginalCall) :
    (remoteAllocateBuckets pp common server passes storageIndex renewSecret cancelSecret
        sharenums allocatedSize canary = .ok call →
      requiredPasses common.bytesPerPass sharenums allocatedSize ≤
        validCount pp server.signingKey (common.allocateBucketsMessage storageIndex) passes) ∧
    (remoteSlotTestvAndReadvAndWritev pp common server passes storageIndex secrets twVectors
        rVector = .ok call' →
      hasWrites twVectors = true → hasActiveLease server storageIndex server.seconds = false →
      ∃ allocatedSize, getAllocatedSize twVectors = .ok allocatedSize ∧
        requiredPasses common.bytesPerPass (getSharenums twVectors) allocatedSize ≤
          validCount pp server.signingKey (common.slotTestvAndReadvAndWritevMessage storageIndex)
            passes) := by
  constructor
  · rw [remoteAllocateBuckets_eq]
    intro hok
    dsimp only at hok
    split_ifs at hok with hvr
    exact Nat.le_of_not_lt hvr
  · intro hok hwrites hlease
    rw [remoteSlotTestvAndReadvAndWritev_of_charged pp common server passes storageIndex secrets
      twVectors rVector hwrites hlease] at hok
    dsimp only at hok
    split_ifs at hok with hvr
    exact ⟨_, getAllocatedSize_of_hasWrites hwrites, Nat.le_of_not_lt hvr⟩

/- The spec's allocation scenario: three shares of 2,500,000 bytes cost three passes, and
two valid passes with one malformed pass are refused with ``MorePassesRequired(2, 3)``. -/
example :
    remoteAllocateBuckets examplePrivacyPass exampleStorageCommon exampleServer
        [examplePass, examplePass, [0]] [] [] [] {0, 1, 2} 2500000 [] =
      .error (.morePassesRequired 2 3) :=
  rfl

/-- One pass repeated: an allocation of two million bytes needs two passes, is forwarded
on two copies of one pass, and those copies carry a single token. -/
theorem remoteAllocateBuckets_pays_twice_with_one_token :
    remoteAllocateBuckets examplePrivacyPass exampleStorageCommon exampleServer
        [examplePass, examplePass] [] [] [] {0} 2000000 [] =
      .ok (.remoteAllocateBuckets [] [] [] {0} 2000000 []) ∧
    (carriedTokens examplePrivacyPass exampleServer.signingKey
        (validatePasses examplePrivacyPass exampleServer.signingKey
          (exampleStorageCommon.allocateBucketsMessage []) [examplePass, examplePass])).length <
      requiredPasses exampleStorageCommon.bytesPerPass {0} 2000000 := by
  obtain ⟨hforward, hone⟩ := remoteAllocateBuckets_replicate examplePrivacyPass
    exampleStorageCommon exampleServer examplePass [] rfl [] [] {0} 2000000 [] 2 (by decide)
  exact ⟨hforward, lt_of_le_of_lt hone (by decide)⟩

/-- Both halves of the payment guarantee apply to two valid passes sent with a
two-million-byte allocation and with a one-byte write to a slot without leases. -/
theorem forwarded_write_has_required_valid_count_example :
    requiredPasses exampleStorageCommon.bytesPerPass {0} 2000000 ≤
        validCount examplePrivacyPass exampleServer.signingKey
          (exampleStorageCommon.allocateBucketsMessage []) [examplePass, examplePass] ∧
      ∃ allocatedSize, getAllocatedSize [(0, ⟨[], [(0, [7])], none⟩)] = .ok allocatedSize ∧
        requiredPasses exampleStorageCommon.bytesPerPass (getSharenums [(0, ⟨[], [(0, [7])], none⟩)])
            allocatedSize ≤
          validCount examplePrivacyPass exampleServer.signingKey
            (exampleStorageCommon.slotTestvAndReadvAndWritevMessage []) [examplePass, examplePass] :=
  let h := forwarded_write_has_required_valid_count examplePrivacyPass exampleStorageCommon
    exampleServer [examplePass, examplePass] [] [] [] {0} 2000000 [] ([], [], [])
    [(0, ⟨[], [(0, [7])], none⟩)] [] (.remoteAllocateBuckets [] [] [] {0} 2000000 [])
    (.slotTestvAndReadvAndWritev [] ([], [], []) [(0, ⟨[], [(0, [7])], none⟩)] [] true)
  ⟨h.1 rfl, h.2 rfl rfl rfl⟩

end Gate

end StorageServer
end ZKAPAuthorizer
