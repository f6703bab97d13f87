import Mathlib.Tactic.SplitIfs
import S2nAlerts.ReaderInvariant

/-!
# From an error to the alert sent for it: `s2n_error_get_alert`

The function dispatches on the type bits of the error.  IO and internal errors
all become `internal_error`; protocol errors go through a table, which maps
three of them and refuses the rest; every other category has no alert.  The
C `switch` has no `default`: a value whose type bits name none of the eight
categories falls out of it and reaches `return S2N_SUCCESS` without writing
`*alert` (`errorGetAlert_of_no_category`).

`*alert` is modelled as an in/out value: each function takes its old value and
returns its value afterwards.
-/

namespace S2n

/-- The protocol errors `s2n_translate_protocol_error_to_alert` lists under
`S2N_NO_ALERT`, in its order. -/
def noAlertProtocolErrors : List (BitVec 32) :=
  [errEncrypt, errDecrypt, errKeyInit, errKeyDestroy, errDhSerializing, errDhSharedSecret,
   errDhWritingPublicKey, errDhFailedSigning, errDhCopyingParameters,
   errDhGeneratingParameters, errCipherNotSupported, errNoApplicationProtocol,
   errFallbackDetected, errHashDigestFailed, errHashInitFailed, errHashUpdateFailed,
   errHashCopyFailed, errHashWipeFailed, errHashNotReady, errAllowMd5ForFipsFailed,
   errDecodeCertificate, errDecodePrivateKey, errInvalidHelloRetry,
   errInvalidSignatureAlgorithm, errInvalidSignatureScheme, errCbcVerify,
   errDhCopyingPublicKey, errSign, errVerifySignature, errEcdheGenKey, errEcdheSharedSecret,
   errEcdheUnsupportedCurve, errEcdsaUnsupportedCurve, errEcdheSerializing,
   errKemUnsupportedParams, errShutdownRecordType, errShutdownClosed,
   errNonEmptyRenegotiationInfo, errRecordLimit, errCertUntrusted, errCertRevoked,
   errCertExpired, errCertTypeUnsupported, errCertInvalid, errCertMaxChainDepthExceeded,
   errCrlLookupFailed, errCrlSignature, errCrlIssuer, errCrlUnhandledCriticalExtension,
   errInvalidMaxFragLen, errMaxFragLenMismatch, errProtocolVersionUnsupported, errBadKeyShare,
   errCancelled, errProtocolDowngradeDetected, errMaxInnerPlaintextSize, errRecordStufferSize,
   errFragmentLengthTooLarge, errFragmentLengthTooSmall, errRecordStufferNeedsDraining,
   errUnsupportedExtension, errDuplicateExtension, errMaxEarlyDataSize,
   errEarlyDataTrialDecrypt]

/-- `s2n_translate_protocol_error_to_alert`. -/
def translateProtocolErrorToAlert (errorCode : BitVec 32) (alert : UInt8) : S2nResult × UInt8 :=
  if errorCode = errMissingExtension then (.ok (), tlsAlertMissingExtension)
  else if errorCode = errBadMessage then (.ok (), tlsAlertUnexpectedMessage)
  else if errorCode = errNoRenegotiation then (.ok (), tlsAlertHandshakeFailure)
  else if noAlertProtocolErrors.contains errorCode then (.error errNoAlert, alert)
  else (.error errUnimplemented, alert)

/-- `s2n_error_get_alert`; the last arm is a type that no `case` names. -/
def errorGetAlert (error : BitVec 32) (alert : UInt8) : S2nResult × UInt8 :=
  match ErrorType.ofNat? (errorGetType error) with
  | some .ok | some .closed | some .blocked | some .usage | some .alert => (.error errNoAlert, alert)
  | some .proto => translateProtocolErrorToAlert error alert
  | some .io | some .internal => (.ok (), tlsAlertInternalError)
  | none => (.ok (), alert)

/-- Type bits outside the eight categories: success, and `*alert` untouched. -/
theorem errorGetAlert_of_no_category {error : BitVec 32} (h : 8 ≤ errorGetType error) (alert : UInt8) :
    errorGetAlert error alert = (.ok (), alert) := by
  unfold errorGetAlert
  rw [ErrorType.ofNat?_eq_none h]

/-- Within the eight categories the function does what the callers expect:
success exactly for IO and internal errors and for the three protocol errors
that have an alert, each with its alert written; failure with `*alert`
unchanged for everything else, `S2N_ERR_UNIMPLEMENTED` for a protocol error
the table does not list. -/
theorem errorGetAlert_of_category {error : BitVec 32} (h : errorGetType error < 8) (alert : UInt8) :
    errorGetAlert error alert =
      if errorGetType error = ErrorType.io.toNat ∨ errorGetType error = ErrorType.internal.toNat then
        (.ok (), tlsAlertInternalError)
      else if error = errMissingExtension then (.ok (), tlsAlertMissingExtension)
      else if error = errBadMessage then (.ok (), tlsAlertUnexpectedMessage)
      else if error = errNoRenegotiation then (.ok (), tlsAlertHandshakeFailure)
      else (.error (if errorGetType error = ErrorType.proto.toNat ∧ error ∉ noAlertProtocolErrors
        then errUnimplemented else errNoAlert), alert) := by
  have hm : errorGetType errMissingExtension = ErrorType.proto.toNat := errorGetType_code _ (by decide)
  have hb : errorGetType errBadMessage = ErrorType.proto.toNat := errorGetType_code _ (by decide)
  have hn : errorGetType errNoRenegotiation = ErrorType.proto.toNat := errorGetType_code _ (by decide)
  obtain ⟨t, ht⟩ := ErrorType.exists_toNat_eq h
  unfold errorGetAlert
  rw [← ht, ErrorType.ofNat?_toNat]
  cases t
  case proto =>
    simp only [translateProtocolErrorToAlert]
    split_ifs <;> simp_all [ErrorType.toNat] <;> omega
  all_goals
    have h1 : error ≠ errMissingExtension := by rintro rfl; simp [hm, ErrorType.toNat] at ht
    have h2 : error ≠ errBadMessage := by rintro rfl; simp [hb, ErrorType.toNat] at ht
    have h3 : error ≠ errNoRenegotiation := by rintro rfl; simp [hn, ErrorType.toNat] at ht
    simp [ErrorType.toNat, h1, h2, h3]

theorem errorGetAlert_of_category_missingExtension :
    errorGetType errMissingExtension < 8 ∧
      errorGetAlert errMissingExtension 0 = (.ok (), tlsAlertMissingExtension) :=
  ⟨by decide, (@errorGetAlert_of_category errMissingExtension (by decide) 0).trans (by decide)⟩

/-- `-1` (type bits 63): `S2N_SUCCESS` with `*alert` never written. -/
theorem errorGetAlert_neg_one : errorGetAlert (BitVec.ofInt 32 (-1)) 0 = (.ok (), 0) :=
  errorGetAlert_of_no_category (by decide) 0

/-! ## The alert for each failure of the reader -/

theorem errorGetAlert_errBadMessage (alert : UInt8) :
    errorGetAlert errBadMessage alert = (.ok (), tlsAlertUnexpectedMessage) := rfl

theorem errorGetAlert_errAlertPresent (alert : UInt8) :
    errorGetAlert errAlertPresent alert = (.ok (), tlsAlertInternalError) := rfl

theorem errorGetAlert_errAlert (alert : UInt8) :
    errorGetAlert errAlert alert = (.error errNoAlert, alert) := rfl

/-- From a connection that has seen no alert, every failure of
`s2n_process_alert_fragment` in any run gets a defined answer from
`s2n_error_get_alert`: a malformed record gets `unexpected_message`, a record
after an alert has closed the connection gets `internal_error`, and the alert
error itself has no alert to send back. -/
theorem reader_failure_alert (c₀ : Connection) (hin : c₀.alertIn = []) (hclosed : c₀.closed = false)
    (hcnr : c₀.closeNotifyReceived = false) (ops : List AlertOp) (record : List UInt8)
    (e : BitVec 32) (he : (processAlertFragment { run c₀ ops with «in» := record }).1 = .error e)
    (alert : UInt8) :
    errorGetAlert e alert =
      if e = errAlert then (.error errNoAlert, alert)
      else (.ok (), if e = errBadMessage then tlsAlertUnexpectedMessage else tlsAlertInternalError) := by
  have hi : ReaderInvariant c₀.cacheDeleteCalls (run c₀ ops) :=
    run_induction (fun _ op h => h.step op) (ReaderInvariant.init hin hclosed hcnr) ops
  have hr := hi.recv_result record
  rw [he] at hr
  simp only [List.mem_cons, List.mem_singleton, List.not_mem_nil, or_false] at hr
  rcases hr with h | h | h | h <;> cases h
  · rw [errorGetAlert_errBadMessage, if_neg (by decide), if_pos rfl]
  · rw [errorGetAlert_errAlertPresent, if_neg (by decide), if_neg (by decide)]
  · rw [errorGetAlert_errAlert, if_pos rfl]

/-- A record after a fatal alert has closed the connection. -/
theorem reader_failure_alert_after_close :
    let c₀ : Connection :=
      { «in» := [], alertIn := [], closed := false, closeNotifyReceived := false, closing := false,
        writerAlertOut := [], readerAlertOut := [], closeNotifyQueued := false,
        protocolVersion := 33, alertBehavior := .failOnWarnings, quicEnabled := false,
        allowedToCache := false, sessionId := [], cacheDeleteCalls := [] }
    (processAlertFragment { run c₀ [.recvAlertRecord [2, 40]] with «in» := [1] }).1 =
        .error errAlertPresent ∧
      errorGetAlert errAlertPresent 0 = (.ok (), tlsAlertInternalError) := by
  intro c₀
  have he : (processAlertFragment { run c₀ [.recvAlertRecord [2, 40]] with «in» := [1] }).1 =
      .error errAlertPresent := by decide
  exact ⟨he, (reader_failure_alert c₀ rfl rfl rfl _ _ _ he 0).trans (by decide)⟩

end S2n
