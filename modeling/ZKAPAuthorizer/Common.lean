import Mathlib.Data.Finset.Basic

/-!
# ZKAPAuthorizer: shared vocabulary

Byte strings, raised Python exceptions as the `except` clauses of the sources
see them, and the part of ``storage_common`` that the storage server imports.

``storage_common`` is not among the sources.  Its price constant and its four
request-binding message makers are parameters (`StorageCommon`).  The two
functions the server calls are modelled from the spec (§4.2, §4.3):

* `requiredPasses`: `⌈max(size, 0) / bytes_per_pass⌉`; the number of shares
  written does not multiply the cost;
* `hasWrites`: some share of the test/write vectors has a non-empty data list.
-/

namespace ZKAPAuthorizer

/-- Running a computation against the store it works on is applying it to that store; the
token store and the database cursor are both modelled this way. -/
theorem run_apply {ε σ α : Type} (x : EStateM ε σ α) (s : σ) : x.run s = x s :=
  rfl

/-- Python ``bytes``. -/
abbrev Bytes := List UInt8

/-- A raised Python exception, as far as ``except Exception`` and ``str(e)`` see it. -/
structure PyException where
  /-- whether it is an instance of ``Exception`` rather than only of ``BaseException`` -/
  isException : Bool
  /-- ``str(e)``, or `none` when ``__str__`` itself raises -/
  str : Option String
deriving DecidableEq, Repr

/-- Modelled from the spec: what ``storage_common`` provides to the server, the price
``BYTES_PER_PASS`` (a fixed positive integer) and the message makers that bind a pass
to one operation kind and one storage index. -/
structure StorageCommon where
  bytesPerPass : ℕ
  bytesPerPass_pos : 0 < bytesPerPass
  allocateBucketsMessage : Bytes → String
  addLeaseMessage : Bytes → String
  renewLeaseMessage : Bytes → String
  slotTestvAndReadvAndWritevMessage : Bytes → String

/-- Modelled from the spec: ``required_passes(bytes_per_pass, share_nums, share_size)``,
the ceiling of `max(share_size, 0) / bytes_per_pass`. -/
def requiredPasses (bytesPerPass : ℕ) (_sharenums : Finset ℕ) (shareSize : ℤ) : ℕ :=
  (shareSize.toNat + bytesPerPass - 1) / bytesPerPass

/-- One share's entry ``(test, data, new_length)`` of Tahoe-LAFS's
``TestAndWriteVectorsForShares``; ``data`` lists ``(offset, bytes)`` writes. -/
structure TestAndWriteVector where
  test : List (ℤ × ℤ × Bytes × Bytes)
  data : List (ℤ × Bytes)
  newLength : Option ℤ
deriving DecidableEq

/-- ``TestAndWriteVectorsForShares``: share numbers with their vectors, in dictionary order. -/
abbrev TestAndWriteVectorsForShares := List (ℕ × TestAndWriteVector)

/-- Modelled from the spec: ``has_writes(tw_vectors)``, whether the vectors contain an
actual write, that is, whether some share's data list is non-empty. -/
def hasWrites (twVectors : TestAndWriteVectorsForShares) : Bool :=
  twVectors.any fun entry => !entry.2.data.isEmpty

end ZKAPAuthorizer
