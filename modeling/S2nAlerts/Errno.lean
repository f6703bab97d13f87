import Mathlib.Tactic.Basic

/-!
# Error values of s2n and their type bits

`s2n_errno.h` splits an `int` error value into two parts: the upper six bits
(31-26) name the error type and the lower 26 bits the value within it.  Each
type's constants are consecutive from `S2N_ERR_T_<type>_START`.  An error value
is modelled as the 32-bit pattern the C code holds, so negative values and
values whose type bits name no category are part of the domain.

Only the constants that the alert code reads or returns are given here.
-/

namespace S2n

/-- `S2N_ERR_NUM_VALUE_BITS`. -/
def errNumValueBits : Nat := 26

/-- The eight values of `s2n_error_type`. -/
inductive ErrorType
  | ok | io | closed | blocked | alert | proto | internal | usage
  deriving DecidableEq, Repr

/-- Modelled from the spec: the numbers of `s2n_error_type` (declared in
`api/s2n.h`, not among this repository's files), the categories in ascending
order from zero. -/
def ErrorType.toNat : ErrorType → Nat
  | .ok => 0
  | .io => 1
  | .closed => 2
  | .blocked => 3
  | .alert => 4
  | .proto => 5
  | .internal => 6
  | .usage => 7

/-- The error type a number names, if any. -/
def ErrorType.ofNat? : Nat → Option ErrorType
  | 0 => some .ok
  | 1 => some .io
  | 2 => some .closed
  | 3 => some .blocked
  | 4 => some .alert
  | 5 => some .proto
  | 6 => some .internal
  | 7 => some .usage
  | _ => none

/-- `S2N_ERR_T_<type>_START`. -/
def ErrorType.start (t : ErrorType) : BitVec 32 :=
  BitVec.ofNat 32 (t.toNat <<< errNumValueBits)

/-- The constant `offset` places after `S2N_ERR_T_<type>_START` in the enum. -/
def ErrorType.code (t : ErrorType) (offset : Nat) : BitVec 32 :=
  t.start + BitVec.ofNat 32 offset

/-- Modelled from the spec: `s2n_error_get_type` (defined in `s2n_errno.c`, not
among this repository's files) returns the type bits 31-26 of the layout
comment of `s2n_errno.h`. -/
def errorGetType (error : BitVec 32) : Nat :=
  (error >>> errNumValueBits).toNat

/-- What an s2n function returns: `S2N_SUCCESS`, or `S2N_FAILURE` with the
error left in `s2n_errno`. -/
abbrev S2nResult := Except (BitVec 32) Unit

instance : DecidableEq S2nResult
  | .ok (), .ok () => isTrue rfl
  | .ok (), .error _ => isFalse nofun
  | .error _, .ok () => isFalse nofun
  | .error a, .error b => decidable_of_iff (a = b) ⟨congrArg _, Except.error.inj⟩

@[simp] theorem ErrorType.ofNat?_toNat (t : ErrorType) : ErrorType.ofNat? t.toNat = some t := by
  cases t <;> rfl

theorem ErrorType.ofNat?_eq_none {n : Nat} (h : 8 ≤ n) : ErrorType.ofNat? n = none := by
  match n, h with
  | _ + 8, _ => rfl

theorem ErrorType.toNat_lt (t : ErrorType) : t.toNat < 8 := by
  cases t <;> decide

theorem ErrorType.exists_toNat_eq {n : Nat} (h : n < 8) : ∃ t : ErrorType, t.toNat = n :=
  match n, h with
  | 0, _ => ⟨.ok, rfl⟩
  | 1, _ => ⟨.io, rfl⟩
  | 2, _ => ⟨.closed, rfl⟩
  | 3, _ => ⟨.blocked, rfl⟩
  | 4, _ => ⟨.alert, rfl⟩
  | 5, _ => ⟨.proto, rfl⟩
  | 6, _ => ⟨.internal, rfl⟩
  | 7, _ => ⟨.usage, rfl⟩

theorem errorGetType_code (t : ErrorType) {offset : Nat} (h : offset < 1 <<< errNumValueBits) :
    errorGetType (t.code offset) = t.toNat := by
  have ht := t.toNat_lt
  simp only [errorGetType, ErrorType.code, ErrorType.start, errNumValueBits,
    BitVec.toNat_ushiftRight, BitVec.toNat_add, BitVec.toNat_ofNat,
    Nat.shiftLeft_eq, Nat.shiftRight_eq_div_pow] at h ⊢
  omega

theorem ErrorType.toNat_code (t : ErrorType) {offset : Nat} (h : offset < 1 <<< errNumValueBits) :
    (t.code offset).toNat = t.toNat <<< errNumValueBits + offset := by
  have ht := t.toNat_lt
  simp only [ErrorType.code, ErrorType.start, errNumValueBits, BitVec.toNat_add, BitVec.toNat_ofNat,
    Nat.shiftLeft_eq] at h ⊢
  omega

/-- The layout of `s2n_errno.h` is a code: a type and a value that fits in
the value bits make an error that gives both back, the type from bits 31-26
and the value from bits 25-0; and every 32-bit value whose type bits name a
category is the start of that category plus its value bits. -/
theorem errorCode_roundTrip :
    (∀ (t : ErrorType) (offset : Nat), offset < 1 <<< errNumValueBits →
      errorGetType (t.code offset) = t.toNat ∧
        (t.code offset).toNat % (1 <<< errNumValueBits) = offset) ∧
    (∀ error : BitVec 32, errorGetType error < 8 →
      ∃ t : ErrorType, t.toNat = errorGetType error ∧
        t.code (error.toNat % (1 <<< errNumValueBits)) = error) := by
  refine ⟨fun t offset h => ⟨errorGetType_code t h, ?_⟩, fun error h => ?_⟩
  · rw [t.toNat_code h]
    simp only [errNumValueBits, Nat.shiftLeft_eq] at h ⊢
    omega
  · obtain ⟨t, ht⟩ := ErrorType.exists_toNat_eq h
    have hmod : error.toNat % (1 <<< errNumValueBits) < 1 <<< errNumValueBits :=
      Nat.mod_lt _ (by decide)
    refine ⟨t, ht, BitVec.eq_of_toNat_eq ?_⟩
    rw [t.toNat_code hmod, ht]
    simp only [errorGetType, errNumValueBits, BitVec.toNat_ushiftRight, Nat.shiftRight_eq_div_pow,
      Nat.shiftLeft_eq]
    omega

/-! ## The constants the alert code uses -/

/-- `S2N_ERR_ALERT`. -/
def errAlert : BitVec 32 := ErrorType.alert.code 0
/-- `S2N_ERR_NO_ALERT`. -/
def errNoAlert : BitVec 32 := ErrorType.usage.code 0

def errSafety : BitVec 32 := ErrorType.internal.code 10
def errStufferOutOfData : BitVec 32 := ErrorType.internal.code 17
def errStufferIsFull : BitVec 32 := ErrorType.internal.code 18
def errAlertPresent : BitVec 32 := ErrorType.internal.code 33
def errUnimplemented : BitVec 32 := ErrorType.internal.code 47

def errEncrypt : BitVec 32 := ErrorType.proto.code 0
def errDecrypt : BitVec 32 := ErrorType.proto.code 1
def errBadMessage : BitVec 32 := ErrorType.proto.code 2
def errKeyInit : BitVec 32 := ErrorType.proto.code 4
def errKeyDestroy : BitVec 32 := ErrorType.proto.code 5
def errDhSerializing : BitVec 32 := ErrorType.proto.code 6
def errDhSharedSecret : BitVec 32 := ErrorType.proto.code 7
def errDhWritingPublicKey : BitVec 32 := ErrorType.proto.code 8
def errDhFailedSigning : BitVec 32 := ErrorType.proto.code 9
def errDhCopyingParameters : BitVec 32 := ErrorType.proto.code 10
def errDhGeneratingParameters : BitVec 32 := ErrorType.proto.code 11
def errCipherNotSupported : BitVec 32 := ErrorType.proto.code 12
def errNoApplicationProtocol : BitVec 32 := ErrorType.proto.code 13
def errFallbackDetected : BitVec 32 := ErrorType.proto.code 14
def errHashDigestFailed : BitVec 32 := ErrorType.proto.code 15
def errHashInitFailed : BitVec 32 := ErrorType.proto.code 16
def errHashUpdateFailed : BitVec 32 := ErrorType.proto.code 17
def errHashCopyFailed : BitVec 32 := ErrorType.proto.code 18
def errHashWipeFailed : BitVec 32 := ErrorType.proto.code 19
def errHashNotReady : BitVec 32 := ErrorType.proto.code 20
def errAllowMd5ForFipsFailed : BitVec 32 := ErrorType.proto.code 21
def errDecodeCertificate : BitVec 32 := ErrorType.proto.code 22
def errDecodePrivateKey : BitVec 32 := ErrorType.proto.code 23
def errInvalidHelloRetry : BitVec 32 := ErrorType.proto.code 24
def errInvalidSignatureAlgorithm : BitVec 32 := ErrorType.proto.code 25
def errInvalidSignatureScheme : BitVec 32 := ErrorType.proto.code 26
def errCbcVerify : BitVec 32 := ErrorType.proto.code 28
def errDhCopyingPublicKey : BitVec 32 := ErrorType.proto.code 29
def errSign : BitVec 32 := ErrorType.proto.code 30
def errVerifySignature : BitVec 32 := ErrorType.proto.code 31
def errEcdheGenKey : BitVec 32 := ErrorType.proto.code 32
def errEcdheSharedSecret : BitVec 32 := ErrorType.proto.code 33
def errEcdheUnsupportedCurve : BitVec 32 := ErrorType.proto.code 34
def errEcdsaUnsupportedCurve : BitVec 32 := ErrorType.proto.code 35
def errEcdheSerializing : BitVec 32 := ErrorType.proto.code 36
def errKemUnsupportedParams : BitVec 32 := ErrorType.proto.code 37
def errShutdownRecordType : BitVec 32 := ErrorType.proto.code 38
def errShutdownClosed : BitVec 32 := ErrorType.proto.code 39
def errNonEmptyRenegotiationInfo : BitVec 32 := ErrorType.proto.code 40
def errRecordLimit : BitVec 32 := ErrorType.proto.code 41
def errCertUntrusted : BitVec 32 := ErrorType.proto.code 42
def errCertRevoked : BitVec 32 := ErrorType.proto.code 43
def errCertExpired : BitVec 32 := ErrorType.proto.code 45
def errCertTypeUnsupported : BitVec 32 := ErrorType.proto.code 46
def errCertInvalid : BitVec 32 := ErrorType.proto.code 47
def errCertMaxChainDepthExceeded : BitVec 32 := ErrorType.proto.code 48
def errCrlLookupFailed : BitVec 32 := ErrorType.proto.code 50
def errCrlSignature : BitVec 32 := ErrorType.proto.code 51
def errCrlIssuer : BitVec 32 := ErrorType.proto.code 52
def errCrlUnhandledCriticalExtension : BitVec 32 := ErrorType.proto.code 53
def errInvalidMaxFragLen : BitVec 32 := ErrorType.proto.code 58
def errMaxFragLenMismatch : BitVec 32 := ErrorType.proto.code 59
def errProtocolVersionUnsupported : BitVec 32 := ErrorType.proto.code 60
def errBadKeyShare : BitVec 32 := ErrorType.proto.code 61
def errCancelled : BitVec 32 := ErrorType.proto.code 62
def errProtocolDowngradeDetected : BitVec 32 := ErrorType.proto.code 63
def errMaxInnerPlaintextSize : BitVec 32 := ErrorType.proto.code 64
def errRecordStufferSize : BitVec 32 := ErrorType.proto.code 65
def errFragmentLengthTooLarge : BitVec 32 := ErrorType.proto.code 66
def errFragmentLengthTooSmall : BitVec 32 := ErrorType.proto.code 67
def errRecordStufferNeedsDraining : BitVec 32 := ErrorType.proto.code 68
def errMissingExtension : BitVec 32 := ErrorType.proto.code 69
def errUnsupportedExtension : BitVec 32 := ErrorType.proto.code 70
def errDuplicateExtension : BitVec 32 := ErrorType.proto.code 71
def errMaxEarlyDataSize : BitVec 32 := ErrorType.proto.code 72
def errEarlyDataTrialDecrypt : BitVec 32 := ErrorType.proto.code 73
def errNoRenegotiation : BitVec 32 := ErrorType.proto.code 74

end S2n
