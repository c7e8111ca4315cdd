import ZKAPAuthorizer.StorageServer

/-!
# The remote interface

Every method ``ZKAPAuthorizerStorageServer`` exposes, as one request type
`RemoteRequest`, and `dispatch`, which runs the method a request names.  Four
methods are pass-throughs: ``remote_get_version``, ``remote_get_buckets``,
``remote_advise_corrupt_share`` and ``remote_slot_readv`` forward their arguments
and look at nothing.

Above the server stands a model of what it is for, a priced gate (`pricedGate`): a price
table names, for each request, a binding message and a number of passes, or nothing
for a free request, and the gate forwards a priced request exactly when the passes
valid for its message reach its price.

**Results.**
* `dispatch_eq_pricedGate`: the server is the priced gate for the table `price`:
  ``allocate_buckets`` costs ``required_passes`` of its shares and size, a write to a
  slot without an active lease costs the passes for its written shares and largest
  write end, and every other request is free.  `dispatch_eq_ok_iff` reads off when a
  request is forwarded.
* `pricedGate_cases`, `dispatch_cases`: a request is forwarded as the method it names,
  with its own arguments, or refused with ``MorePassesRequired(v, r)`` for some
  `v < r`, and then nothing is forwarded.
* `pricedGate_subperm`, `dispatch_subperm`: sending more passes, in any order, never turns
  a forwarded request into a refused one.
-/

namespace ZKAPAuthorizer
namespace StorageServer

/-- A remote call as it reaches the server: the method it names and its arguments. -/
inductive RemoteRequest
  | getVersion
  | allocateBuckets (passes : List Bytes) (storageIndex renewSecret cancelSecret : Bytes)
      (sharenums : Finset ℕ) (allocatedSize : ℤ) (canary : Bytes)
  | getBuckets (storageIndex : Bytes)
  | addLease (passes : List Bytes) (storageIndex : Bytes) (args : List Bytes)
  | renewLease (passes : List Bytes) (storageIndex : Bytes) (args : List Bytes)
  | adviseCorruptShare (args : List Bytes)
  | slotTestvAndReadvAndWritev (passes : List Bytes) (storageIndex : Bytes)
      (secrets : Bytes × Bytes × Bytes) (twVectors : TestAndWriteVectorsForShares)
      (rVector : List (ℤ × ℤ))
  | slotReadv (args : List Bytes)

namespace RemoteRequest

/-- The passes a request carries; the pass-through methods take none. -/
def passes : RemoteRequest → List Bytes
  | .allocateBuckets passes .. => passes
  | .addLease passes .. => passes
  | .renewLease passes .. => passes
  | .slotTestvAndReadvAndWritev passes .. => passes
  | _ => []

/-- The request with `passes` in place of its passes. -/
def withPasses (passes : List Bytes) : RemoteRequest → RemoteRequest
  | .allocateBuckets _ storageIndex renewSecret cancelSecret sharenums allocatedSize canary =>
      .allocateBuckets passes storageIndex renewSecret cancelSecret sharenums allocatedSize canary
  | .addLease _ storageIndex args => .addLease passes storageIndex args
  | .renewLease _ storageIndex args => .renewLease passes storageIndex args
  | .slotTestvAndReadvAndWritev _ storageIndex secrets twVectors rVector =>
      .slotTestvAndReadvAndWritev passes storageIndex secrets twVectors rVector
  | req => req

/-- The wrapped server's method a request names, with the request's own arguments;
`renewLeases` is the flag the mutable write passes on. -/
def forward (renewLeases : Bool) : RemoteRequest → OriginalCall
  | .getVersion => .remoteGetVersion
  | .allocateBuckets _ storageIndex renewSecret cancelSecret sharenums allocatedSize canary =>
      .remoteAllocateBuckets storageIndex renewSecret cancelSecret sharenums allocatedSize canary
  | .getBuckets storageIndex => .remoteGetBuckets storageIndex
  | .addLease _ storageIndex args => .remoteAddLease storageIndex args
  | .renewLease _ storageIndex args => .remoteRenewLease storageIndex args
  | .adviseCorruptShare args => .remoteAdviseCorruptShare args
  | .slotTestvAndReadvAndWritev _ storageIndex secrets twVectors rVector =>
      .slotTestvAndReadvAndWritev storageIndex secrets twVectors rVector renewLeases
  | .slotReadv args => .remoteSlotReadv args

@[simp] theorem forward_withPasses (renewLeases : Bool) (passes : List Bytes) (req : RemoteRequest) :
    (req.withPasses passes).forward renewLeases = req.forward renewLeases := by
  cases req <;> rfl

theorem subperm_passes_withPasses {req : RemoteRequest} {passes : List Bytes}
    (hsub : req.passes.Subperm passes) : req.passes.Subperm (req.withPasses passes).passes := by
  cases req <;> first | exact hsub | exact List.Subperm.refl _

end RemoteRequest

/-! ## The pass-through methods -/

/-- The body the pass-through methods share: forward `call` unchecked. -/
def passThrough (call : OriginalCall) : Except StorageError OriginalCall :=
  pure call

/-- ``remote_get_version``. -/
def remoteGetVersion : Except StorageError OriginalCall :=
  passThrough .remoteGetVersion

/-- ``remote_get_buckets``. -/
def remoteGetBuckets (storageIndex : Bytes) : Except StorageError OriginalCall :=
  passThrough (.remoteGetBuckets storageIndex)

/-- ``remote_advise_corrupt_share``. -/
def remoteAdviseCorruptShare (args : List Bytes) : Except StorageError OriginalCall :=
  passThrough (.remoteAdviseCorruptShare args)

/-- ``remote_slot_readv``. -/
def remoteSlotReadv (args : List Bytes) : Except StorageError OriginalCall :=
  passThrough (.remoteSlotReadv args)

section Dispatch

variable (pp : PrivacyPass) (common : StorageCommon) (server : ZKAPAuthorizerStorageServer)

/-- The method a request names, run on the server. -/
def dispatch : RemoteRequest → Except StorageError OriginalCall
  | .getVersion => remoteGetVersion
  | .allocateBuckets passes storageIndex renewSecret cancelSecret sharenums allocatedSize canary =>
      remoteAllocateBuckets pp common server passes storageIndex renewSecret cancelSecret sharenums
        allocatedSize canary
  | .getBuckets storageIndex => remoteGetBuckets storageIndex
  | .addLease passes storageIndex args => remoteAddLease pp common server passes storageIndex args
  | .renewLease passes storageIndex args => remoteRenewLease pp common server passes storageIndex args
  | .adviseCorruptShare args => remoteAdviseCorruptShare args
  | .slotTestvAndReadvAndWritev passes storageIndex secrets twVectors rVector =>
      remoteSlotTestvAndReadvAndWritev pp common server passes storageIndex secrets twVectors rVector
  | .slotReadv args => remoteSlotReadv args

/-! ## The priced gate -/

/-- The gate for the price table `price`: a free request is forwarded as it is; a priced
one is forwarded, with ``renew_leases`` set, when the passes valid for its message reach
its price, and refused with ``MorePassesRequired`` otherwise. -/
def pricedGate (price : RemoteRequest → Option (String × ℕ)) (req : RemoteRequest) :
    Except StorageError OriginalCall :=
  match price req with
  | none => .ok (req.forward false)
  | some (message, required) =>
      if validCount pp server.signingKey message req.passes < required then
        .error (.morePassesRequired (validCount pp server.signingKey message req.passes) required)
      else .ok (req.forward true)

/-- **The priced gate fails closed.**  It forwards a request as the method it names, with
the request's own arguments, or refuses it with ``MorePassesRequired(v, r)``, `v < r`. -/
theorem pricedGate_cases (price : RemoteRequest → Option (String × ℕ)) (req : RemoteRequest) :
    (∃ renewLeases, pricedGate pp server price req = .ok (req.forward renewLeases)) ∨
      ∃ v r, v < r ∧ pricedGate pp server price req = .error (.morePassesRequired v r) := by
  unfold pricedGate
  split
  · exact .inl ⟨false, rfl⟩
  · split_ifs with hvr
    · exact .inr ⟨_, _, hvr, rfl⟩
    · exact .inl ⟨true, rfl⟩

/-- The priced gate forwards a request exactly when the passes valid for the message of
its price reach that price; it forwards it as the method it names, with ``renew_leases``
set exactly when the request is priced. -/
theorem pricedGate_eq_ok_iff (price : RemoteRequest → Option (String × ℕ)) (req : RemoteRequest)
    (call : OriginalCall) :
    pricedGate pp server price req = .ok call ↔
      call = req.forward (price req).isSome ∧
        ∀ message required, price req = some (message, required) →
          required ≤ validCount pp server.signingKey message req.passes := by
  unfold pricedGate
  cases hp : price req with
  | none => simp [eq_comm]
  | some priced =>
      obtain ⟨message, required⟩ := priced
      by_cases hvr : validCount pp server.signingKey message req.passes < required
      · simp [hvr]
      · simp [hvr, eq_comm, Nat.le_of_not_lt hvr]

/-- **More passes never hurt.**  A request the gate forwards is forwarded, as the same
call, when its passes are sent among others in any order, provided its price does not
depend on its passes. -/
theorem pricedGate_subperm (price : RemoteRequest → Option (String × ℕ)) (req : RemoteRequest)
    (passes : List Bytes) (hprice : price (req.withPasses passes) = price req)
    (hsub : req.passes.Subperm passes) {call : OriginalCall}
    (hok : pricedGate pp server price req = .ok call) :
    pricedGate pp server price (req.withPasses passes) = .ok call := by
  unfold pricedGate at hok ⊢
  rw [hprice]
  cases hp : price req with
  | none => simpa [hp] using hok
  | some priced =>
      obtain ⟨message, required⟩ := priced
      have hmore : validCount pp server.signingKey message req.passes ≤
          validCount pp server.signingKey message (req.withPasses passes).passes :=
        (RemoteRequest.subperm_passes_withPasses hsub).countP_le _
      simp only [hp, RemoteRequest.forward_withPasses] at hok ⊢
      split_ifs at hok with hvr
      rw [if_neg (by omega)]
      exact hok

/-- What the server charges: ``allocate_buckets`` the passes for its shares and size, a
write to a slot without an active lease the passes for its written shares and largest
write end; every other request is free. -/
def price : RemoteRequest → Option (String × ℕ)
  | .allocateBuckets _ storageIndex _ _ sharenums allocatedSize _ =>
      some (common.allocateBucketsMessage storageIndex,
        requiredPasses common.bytesPerPass sharenums allocatedSize)
  | .slotTestvAndReadvAndWritev _ storageIndex _ twVectors _ =>
      if hasWrites twVectors && !hasActiveLease server storageIndex server.seconds then
        some (common.slotTestvAndReadvAndWritevMessage storageIndex,
          requiredForMutableWrite common.bytesPerPass twVectors)
      else none
  | _ => none

theorem price_withPasses (passes : List Bytes) (req : RemoteRequest) :
    price common server (req.withPasses passes) = price common server req := by
  cases req <;> rfl

/-- **The server is the priced gate for its price table.** -/
theorem dispatch_eq_pricedGate (req : RemoteRequest) :
    dispatch pp common server req = pricedGate pp server (price common server) req := by
  cases req with
  | allocateBuckets passes storageIndex renewSecret cancelSecret sharenums allocatedSize canary =>
      exact remoteAllocateBuckets_eq pp common server passes storageIndex renewSecret cancelSecret
        sharenums allocatedSize canary
  | slotTestvAndReadvAndWritev passes storageIndex secrets twVectors rVector =>
      by_cases hcharged :
          hasWrites twVectors = true ∧ hasActiveLease server storageIndex server.seconds = false
      · rw [dispatch, remoteSlotTestvAndReadvAndWritev_of_charged pp common server passes
          storageIndex secrets twVectors rVector hcharged.1 hcharged.2]
        simp only [pricedGate, price, hcharged.1, hcharged.2]
        rfl
      · rw [dispatch, remoteSlotTestvAndReadvAndWritev_of_not_charged pp common server passes
          storageIndex secrets twVectors rVector hcharged]
        have hfree : (hasWrites twVectors && !hasActiveLease server storageIndex server.seconds)
            = false := by
          simpa [Bool.and_eq_false_imp] using hcharged
        simp only [pricedGate, price, hfree]
        rfl
  | _ => rfl

/-- **When the server forwards.**  A request reaches the wrapped server exactly when the
passes valid for the message of its price in `price` reach that price, and it reaches it
as the method it names, with ``renew_leases`` set exactly when the request is priced. -/
theorem dispatch_eq_ok_iff (req : RemoteRequest) (call : OriginalCall) :
    dispatch pp common server req = .ok call ↔
      call = req.forward (price common server req).isSome ∧
        ∀ message required, price common server req = some (message, required) →
          required ≤ validCount pp server.signingKey message req.passes := by
  rw [dispatch_eq_pricedGate]
  exact pricedGate_eq_ok_iff pp server _ req call

/-- **The server fails closed.**  Every request is forwarded to the wrapped server as
the method it names, with its own arguments, or refused with ``MorePassesRequired(v, r)``
for some `v < r`; ``ValueError`` from ``get_allocated_size`` never reaches the caller. -/
theorem dispatch_cases (req : RemoteRequest) :
    (∃ renewLeases, dispatch pp common server req = .ok (req.forward renewLeases)) ∨
      ∃ v r, v < r ∧ dispatch pp common server req = .error (.morePassesRequired v r) := by
  rw [dispatch_eq_pricedGate]
  exact pricedGate_cases pp server _ req

/-- **More passes never hurt the server's caller.** -/
theorem dispatch_subperm (req : RemoteRequest) (passes : List Bytes)
    (hsub : req.passes.Subperm passes) {call : OriginalCall}
    (hok : dispatch pp common server req = .ok call) :
    dispatch pp common server (req.withPasses passes) = .ok call := by
  rw [dispatch_eq_pricedGate] at hok ⊢
  exact pricedGate_subperm pp server _ req passes (price_withPasses common server passes req) hsub hok

/-- A one-million-byte allocation paid with one valid pass is still forwarded when an
invalid pass is sent before it. -/
theorem dispatch_subperm_example :
    dispatch examplePrivacyPass exampleStorageCommon exampleServer
        ((RemoteRequest.allocateBuckets [examplePass] [] [] [] {0} 1000000 []).withPasses
          [[0], examplePass]) =
      .ok (.remoteAllocateBuckets [] [] [] {0} 1000000 []) :=
  dispatch_subperm examplePrivacyPass exampleStorageCommon exampleServer
    (.allocateBuckets [examplePass] [] [] [] {0} 1000000 []) [[0], examplePass]
    (List.sublist_cons_self _ _).subperm rfl

/-! ## What a request pays for -/

/-- A larger share costs at least as many passes. -/
theorem requiredPasses_le_of_le (bytesPerPass : ℕ) (sharenums : Finset ℕ) {shareSize shareSize' : ℤ}
    (hle : shareSize' ≤ shareSize) :
    requiredPasses bytesPerPass sharenums shareSize' ≤ requiredPasses bytesPerPass sharenums shareSize :=
  Nat.div_le_div_right (Nat.sub_le_sub_right (Nat.add_le_add_right (Int.toNat_le_toNat hle) _) _)

/-- **A smaller allocation costs no more.**  Passes for which the server forwards an
allocation also get it to forward the same allocation of a smaller size. -/
theorem dispatch_allocate_smaller (passes : List Bytes) (storageIndex renewSecret cancelSecret : Bytes)
    (sharenums : Finset ℕ) {allocatedSize allocatedSize' : ℤ} (canary : Bytes)
    (hle : allocatedSize' ≤ allocatedSize) {call : OriginalCall}
    (hok : dispatch pp common server
      (.allocateBuckets passes storageIndex renewSecret cancelSecret sharenums allocatedSize canary) = .ok call) :
    dispatch pp common server
        (.allocateBuckets passes storageIndex renewSecret cancelSecret sharenums allocatedSize' canary) =
      .ok (.remoteAllocateBuckets storageIndex renewSecret cancelSecret sharenums allocatedSize' canary) := by
  rw [dispatch_eq_pricedGate, pricedGate_eq_ok_iff] at hok ⊢
  refine ⟨rfl, fun message required hprice => ?_⟩
  simp only [price, Option.some.injEq, Prod.mk.injEq] at hprice
  obtain ⟨rfl, rfl⟩ := hprice
  exact (requiredPasses_le_of_le _ sharenums hle).trans (hok.2 _ _ rfl)

/-- The one pass that pays for a one-million-byte allocation pays for one of ten bytes. -/
theorem dispatch_allocate_smaller_example :
    (10 : ℤ) ≤ 1000000 ∧
      dispatch examplePrivacyPass exampleStorageCommon exampleServer
          (.allocateBuckets [examplePass] [] [] [] {0} 10 []) =
        .ok (.remoteAllocateBuckets [] [] [] {0} 10 []) :=
  ⟨by decide, @dispatch_allocate_smaller examplePrivacyPass exampleStorageCommon exampleServer
    [examplePass] [] [] [] {0} 1000000 10 [] (by decide) (.remoteAllocateBuckets [] [] [] {0} 1000000 []) rfl⟩


/-- The writes of a request's vectors: each share with its data writes and its new length,
without its test vector. -/
def writesOf (twVectors : TestAndWriteVectorsForShares) : List (ℕ × List (ℤ × Bytes) × Option ℤ) :=
  twVectors.map fun entry => (entry.1, entry.2.data, entry.2.newLength)

theorem hasWrites_eq_writesOf (twVectors : TestAndWriteVectorsForShares) :
    hasWrites twVectors = (writesOf twVectors).any fun writes => !writes.2.1.isEmpty := by
  induction twVectors with
  | nil => rfl
  | cons entry rest ih =>
      simp only [hasWrites, writesOf, List.any_cons, List.map_cons] at ih ⊢
      rw [ih]

theorem requiredForMutableWrite_eq_writesOf (bytesPerPass : ℕ) (twVectors : TestAndWriteVectorsForShares) :
    requiredForMutableWrite bytesPerPass twVectors =
      requiredPasses bytesPerPass
        ((((writesOf twVectors).filter fun writes => !writes.2.1.isEmpty).map Prod.fst).toFinset)
        (((writesOf twVectors).flatMap fun writes =>
          writes.2.1.map fun write : ℤ × Bytes => write.1 + write.2.length).max?.getD 0) := by
  simp only [requiredForMutableWrite, getSharenums, writeEnds, shareWriteEnds, writesOf,
    List.filter_map, List.map_map, List.flatMap_map, Function.comp_def]
  rfl

/-- The price of a write to a slot depends on its storage index and its writes alone. -/
theorem price_slot_congr (passes : List Bytes) (storageIndex : Bytes)
    (secrets secrets' : Bytes × Bytes × Bytes) {twVectors twVectors' : TestAndWriteVectorsForShares}
    (rVector rVector' : List (ℤ × ℤ)) (hwrites : writesOf twVectors = writesOf twVectors') :
    price common server (.slotTestvAndReadvAndWritev passes storageIndex secrets twVectors rVector) =
      price common server (.slotTestvAndReadvAndWritev passes storageIndex secrets' twVectors' rVector') := by
  simp only [price, hasWrites_eq_writesOf, requiredForMutableWrite_eq_writesOf, hwrites]

/-- **Tests and reads are free.**  Whether the server forwards a write to a slot, and with
which ``renew_leases``, or refuses it, and with which error, depends on the shares it
writes, their data and their new lengths: never on its test vectors, its read vector or
its secrets. -/
theorem dispatch_slot_ignores_tests_and_reads (passes : List Bytes) (storageIndex : Bytes)
    (secrets secrets' : Bytes × Bytes × Bytes) (twVectors twVectors' : TestAndWriteVectorsForShares)
    (rVector rVector' : List (ℤ × ℤ)) (hwrites : writesOf twVectors = writesOf twVectors')
    (renewLeases : Bool) (e : StorageError) :
    (dispatch pp common server (.slotTestvAndReadvAndWritev passes storageIndex secrets twVectors rVector) =
        .ok (.slotTestvAndReadvAndWritev storageIndex secrets twVectors rVector renewLeases) ↔
      dispatch pp common server (.slotTestvAndReadvAndWritev passes storageIndex secrets' twVectors' rVector') =
        .ok (.slotTestvAndReadvAndWritev storageIndex secrets' twVectors' rVector' renewLeases)) ∧
    (dispatch pp common server (.slotTestvAndReadvAndWritev passes storageIndex secrets twVectors rVector) =
        .error e ↔
      dispatch pp common server (.slotTestvAndReadvAndWritev passes storageIndex secrets' twVectors' rVector') =
        .error e) := by
  simp only [dispatch_eq_pricedGate, pricedGate, RemoteRequest.passes, RemoteRequest.forward,
    price_slot_congr common server passes storageIndex secrets secrets' rVector rVector' hwrites]
  split
  · simp
  · split_ifs <;> simp

/-- Two writes of one byte to share 0, one of them behind a test vector, with different
read vectors: the server decides the same for both. -/
theorem dispatch_slot_ignores_tests_and_reads_example :
    writesOf [(0, ⟨[], [(0, [1])], none⟩)] = writesOf [(0, ⟨[(0, 1, [], [1])], [(0, [1])], none⟩)] ∧
      ((dispatch examplePrivacyPass exampleStorageCommon exampleServer
          (.slotTestvAndReadvAndWritev [] [] ([], [], []) [(0, ⟨[], [(0, [1])], none⟩)] []) =
          .ok (.slotTestvAndReadvAndWritev [] ([], [], []) [(0, ⟨[], [(0, [1])], none⟩)] [] true) ↔
        dispatch examplePrivacyPass exampleStorageCommon exampleServer
          (.slotTestvAndReadvAndWritev [] [] ([], [], []) [(0, ⟨[(0, 1, [], [1])], [(0, [1])], none⟩)]
            [(0, 1)]) =
          .ok (.slotTestvAndReadvAndWritev [] ([], [], []) [(0, ⟨[(0, 1, [], [1])], [(0, [1])], none⟩)]
            [(0, 1)] true)) ∧
      (dispatch examplePrivacyPass exampleStorageCommon exampleServer
          (.slotTestvAndReadvAndWritev [] [] ([], [], []) [(0, ⟨[], [(0, [1])], none⟩)] []) =
          .error (.morePassesRequired 0 1) ↔
        dispatch examplePrivacyPass exampleStorageCommon exampleServer
          (.slotTestvAndReadvAndWritev [] [] ([], [], []) [(0, ⟨[(0, 1, [], [1])], [(0, [1])], none⟩)]
            [(0, 1)]) =
          .error (.morePassesRequired 0 1))) :=
  ⟨rfl, dispatch_slot_ignores_tests_and_reads examplePrivacyPass exampleStorageCommon exampleServer
    [] [] ([], [], []) ([], [], []) [(0, ⟨[], [(0, [1])], none⟩)]
    [(0, ⟨[(0, 1, [], [1])], [(0, [1])], none⟩)] [] [(0, 1)] rfl true (.morePassesRequired 0 1)⟩

end Dispatch

end StorageServer
end ZKAPAuthorizer
