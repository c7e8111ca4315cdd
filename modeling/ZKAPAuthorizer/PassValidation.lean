import ZKAPAuthorizer.Common

/-!
# Pass validation on the server

``ZKAPAuthorizerStorageServer._is_invalid_pass`` and ``_validate_passes``.

A pass arrives as the byte string ``base64(preimage) + b" " + base64(signature)``.
The ``privacypass`` operations are parameters (`PrivacyPass`), each returning
`none` where the library raises.  ``_is_invalid_pass`` catches every such
exception and reports the pass invalid (`Option.getD` with `true`).

``_validate_passes`` is a filter: it keeps repeated passes, and its length counts
valid passes with multiplicity (`length_validatePasses`, `validatePasses_replicate`).
-/

namespace ZKAPAuthorizer
namespace StorageServer

/-- The ``privacypass`` operations ``_is_invalid_pass`` calls; `none` is a raised exception. -/
structure PrivacyPass where
  /-- ``TokenPreimage.decode_base64`` -/
  decodePreimage : Bytes → Option Bytes
  /-- ``VerificationSignature.decode_base64`` -/
  decodeSignature : Bytes → Option Bytes
  /-- ``SigningKey.rederive_unblinded_token(preimage)``, the signing key first -/
  rederiveUnblindedToken : Bytes → Bytes → Option Bytes
  /-- ``UnblindedToken.derive_verification_key_sha512`` -/
  deriveVerificationKeySha512 : Bytes → Option Bytes
  /-- ``VerificationKey.invalid_sha512(signature, message)`` -/
  invalidSha512 : Bytes → Bytes → Bytes → Option Bool

section Validation

variable (pp : PrivacyPass) (signingKey : Bytes)

/-- ``pass_.split(b" ")``. -/
def splitPass (pass : Bytes) : List Bytes :=
  pass.splitOn 32

/-- ``_is_invalid_pass(message, pass_)``: `true` unless the signature checks out. -/
def isInvalidPass (message : String) (pass : Bytes) : Bool :=
  match splitPass pass with
  | [preimageBase64, signatureBase64] =>
      (do
        let preimage ← pp.decodePreimage preimageBase64
        let proposedSignature ← pp.decodeSignature signatureBase64
        let unblindedToken ← pp.rederiveUnblindedToken signingKey preimage
        let verificationKey ← pp.deriveVerificationKeySha512 unblindedToken
        pp.invalidSha512 verificationKey proposedSignature message.toUTF8.toList).getD true
  | _ => true

/-- ``_validate_passes(message, passes)``: the passes found valid, in order. -/
def validatePasses (message : String) (passes : List Bytes) : List Bytes :=
  passes.filter fun pass => !isInvalidPass pp signingKey message pass

/-- The number of passes valid for `message`, each counted as often as it was sent. -/
def validCount (message : String) (passes : List Bytes) : ℕ :=
  passes.countP fun pass => !isInvalidPass pp signingKey message pass

/-- The unblinded token a pass carries, rederived by the signing key from its preimage. -/
def passToken (pass : Bytes) : Option Bytes :=
  match splitPass pass with
  | [preimageBase64, _] =>
      (pp.decodePreimage preimageBase64).bind (pp.rederiveUnblindedToken signingKey)
  | _ => none

/-- The distinct unblinded tokens a list of passes carries. -/
def carriedTokens (passes : List Bytes) : List Bytes :=
  (passes.filterMap (passToken pp signingKey)).dedup

@[simp] theorem mem_validatePasses (message : String) (passes : List Bytes) (pass : Bytes) :
    pass ∈ validatePasses pp signingKey message passes ↔
      pass ∈ passes ∧ isInvalidPass pp signingKey message pass = false := by
  simp [validatePasses]

theorem validatePasses_sublist (message : String) (passes : List Bytes) :
    (validatePasses pp signingKey message passes).Sublist passes :=
  List.filter_sublist passes

/-- Valid passes are counted with multiplicity. -/
theorem length_validatePasses (message : String) (passes : List Bytes) :
    (validatePasses pp signingKey message passes).length = validCount pp signingKey message passes :=
  (List.countP_eq_length_filter _ _).symm

/-- A valid pass repeated `k` times is kept `k` times. -/
theorem validatePasses_replicate {message : String} {pass : Bytes}
    (hvalid : isInvalidPass pp signingKey message pass = false) (k : ℕ) :
    validatePasses pp signingKey message (List.replicate k pass) = List.replicate k pass := by
  simp [validatePasses, List.filter_replicate, hvalid]

/-- Every copy of one pass carries the same token. -/
theorem carriedTokens_replicate_length_le (pass : Bytes) (k : ℕ) :
    (carriedTokens pp signingKey (List.replicate k pass)).length ≤ 1 := by
  unfold carriedTokens
  rw [List.filterMap_replicate]
  split
  · simp
  · rcases k with _ | k
    · simp
    · simp [List.replicate_dedup]

end Validation

end StorageServer
end ZKAPAuthorizer
