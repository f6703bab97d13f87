import S2nAlerts.Connection

/-!
# Reading alerts: `s2n_process_alert_fragment`

An alert is two bytes, but a record may end after the first one, so the code
keeps what it has read in `alert_in` and completes it from the next record.
The `while` loop copies one or two bytes at a time from `in`; as soon as
`alert_in` holds two bytes, the alert is dispatched and the function returns.
So the loop body completes at most one alert per call: `processAlertLoop_eq`
states the whole loop as that single step, and every later result about the
reader is derived from it.
-/

namespace S2n

/-- `s2n_process_as_warning`: before TLS1.3 only the level counts, and only
under `S2N_ALERT_IGNORE_WARNINGS`; from TLS1.3 on only `user_canceled` is a
warning. -/
def processAsWarning (conn : Connection) (level type : UInt8) : Bool :=
  if conn.protocolVersion < tls13 then
    level == tlsAlertLevelWarning && conn.alertBehavior == .ignoreWarnings
  else
    type == tlsAlertUserCanceled

/-- The body of the loop once `alert_in` holds two bytes: a close_notify
closes the connection, a tolerated warning is wiped, anything else expires
the cached session and fails with `S2N_ERR_ALERT`. -/
def dispatchAlert (conn : Connection) : S2nResult × Connection :=
  let level := conn.alertIn.getD 0 0
  let description := conn.alertIn.getD 1 0
  if description = tlsAlertCloseNotify then
    (.ok (), { conn with closed := true, closeNotifyReceived := true })
  else if processAsWarning conn level description then
    (.ok (), { conn with alertIn := [] })
  else
    let cacheDeleteCalls :=
      if conn.allowedToCache && conn.sessionId.length ≠ 0 then
        conn.cacheDeleteCalls ++ [conn.sessionId]
      else conn.cacheDeleteCalls
    (.error errAlert, { conn with cacheDeleteCalls := cacheDeleteCalls, closed := true })

/-- The `while (s2n_stuffer_data_available(&conn->in))` loop; every pass reads
at least one byte, so `fuel` at least the length of `in` never runs out.
`bytesToRead` is `MIN(bytes_required, s2n_stuffer_data_available(&conn->in))`. -/
def processAlertLoop : Nat → Connection → S2nResult × Connection
  | 0, conn => (.ok (), conn)
  | fuel + 1, conn =>
    if conn.«in».length = 0 then (.ok (), conn)
    else
      let bytesRequired := if conn.alertIn.length = 1 then 1 else 2
      let bytesToRead := if bytesRequired < conn.«in».length then bytesRequired else conn.«in».length
      match stufferCopy conn.«in» conn.alertIn alertLength bytesToRead with
      | .error e => (.error e, conn)
      | .ok (rest, alertIn) =>
        let conn := { conn with «in» := rest, alertIn := alertIn }
        if conn.alertIn.length = 2 then dispatchAlert conn
        else processAlertLoop fuel conn

/-- `s2n_process_alert_fragment`. -/
def processAlertFragment (conn : Connection) : S2nResult × Connection :=
  if conn.«in».length = 0 then (.error errBadMessage, conn)
  else if conn.alertIn.length = 2 then (.error errAlertPresent, conn)
  else if !alertsSupported conn then (.error errBadMessage, conn)
  else processAlertLoop conn.«in».length conn

/-! ## The loop as one step -/

/-- Move the first `n` bytes of `in`, or all of them if there are fewer, to the
end of `alert_in`. -/
def Connection.copyAlertBytes (conn : Connection) (n : Nat) : Connection :=
  { conn with «in» := conn.«in».drop n, alertIn := conn.alertIn ++ conn.«in».take n }

/-- What one call does once its guards have passed: complete `alert_in` from
`in` as far as `in` allows, then dispatch the alert if it is whole. -/
def readAlert (conn : Connection) : S2nResult × Connection :=
  let next := conn.copyAlertBytes (alertLength - conn.alertIn.length)
  if next.alertIn.length = 2 then dispatchAlert next else (.ok (), next)

theorem readAlert_of_short {conn : Connection} (h : conn.alertIn.length + conn.«in».length < 2) :
    readAlert conn = (.ok (), { conn with «in» := [], alertIn := conn.alertIn ++ conn.«in» }) := by
  have hk : conn.«in».length ≤ alertLength - conn.alertIn.length := by simp only [alertLength]; omega
  have h2 : (conn.alertIn ++ conn.«in»).length ≠ 2 := by simp only [List.length_append]; omega
  simp only [readAlert, Connection.copyAlertBytes, List.drop_eq_nil_of_le hk, List.take_of_length_le hk,
    if_neg h2]

theorem readAlert_of_whole {conn : Connection} (h : conn.alertIn.length ≤ 1)
    (hin : 2 ≤ conn.alertIn.length + conn.«in».length) :
    readAlert conn = dispatchAlert
      { conn with «in» := conn.«in».drop (2 - conn.alertIn.length),
                  alertIn := (conn.alertIn ++ conn.«in»).take 2 } := by
  have htake : conn.alertIn ++ conn.«in».take (2 - conn.alertIn.length) =
      (conn.alertIn ++ conn.«in»).take 2 := by
    rw [List.take_append_eq_append_take, List.take_of_length_le (l := conn.alertIn) (by omega)]
  have h2 : ((conn.alertIn ++ conn.«in»).take 2).length = 2 := by
    simp only [List.length_take, List.length_append]; omega
  simp only [readAlert, Connection.copyAlertBytes, alertLength, htake, if_pos h2]

theorem readAlert_of_in_nil {conn : Connection} (h : conn.alertIn.length ≤ 1) (hin : conn.«in» = []) :
    readAlert conn = (.ok (), conn) := by
  rw [readAlert_of_short (by simp only [hin, List.length_nil]; omega)]
  cases conn
  simp_all

theorem processAlertLoop_of_in_nil {fuel : Nat} {conn : Connection} (h : conn.«in» = []) :
    processAlertLoop fuel conn = (.ok (), conn) := by
  cases fuel <;> simp [processAlertLoop, h]

/-- The loop completes at most one alert: it is `readAlert`. -/
theorem processAlertLoop_eq {fuel : Nat} {conn : Connection}
    (h : conn.alertIn.length ≤ 1) (hfuel : conn.«in».length ≤ fuel) :
    processAlertLoop fuel conn = readAlert conn := by
  by_cases hin : conn.«in» = []
  · rw [processAlertLoop_of_in_nil hin, readAlert_of_in_nil h hin]
  have hlen : conn.«in».length ≠ 0 := by simpa using hin
  obtain ⟨fuel, rfl⟩ : ∃ f, fuel = f + 1 := ⟨fuel - 1, by omega⟩
  have hreq : (if conn.alertIn.length = 1 then 1 else 2) = alertLength - conn.alertIn.length := by
    split <;> simp only [alertLength] <;> omega
  -- reading `MIN(n, available)` bytes moves what reading `n` would
  have hcopy : ∀ n, conn.alertIn.length + n ≤ alertLength →
      stufferCopy conn.«in» conn.alertIn alertLength
        (if n < conn.«in».length then n else conn.«in».length) =
      .ok (conn.«in».drop n, conn.alertIn ++ conn.«in».take n) := by
    intro n hn
    split
    · exact stufferCopy_of_le (by omega) hn
    · rw [stufferCopy_of_le (Nat.le_refl _) (by omega), List.drop_length, List.take_length,
        List.drop_eq_nil_of_le (by omega), List.take_of_length_le (by omega)]
  rw [processAlertLoop, if_neg hlen]
  simp only [hreq, hcopy (alertLength - conn.alertIn.length) (by simp only [alertLength]; omega), readAlert,
    Connection.copyAlertBytes]
  split
  · rfl
  · refine processAlertLoop_of_in_nil (List.drop_eq_nil_iff.mpr ?_)
    simp only [List.length_append, List.length_take, alertLength] at *
    omega

theorem processAlertFragment_of_ready (conn : Connection)
    (h : conn.alertIn.length ≤ 1) (hin : conn.«in» ≠ []) (hq : conn.quicEnabled = false) :
    processAlertFragment conn = readAlert conn := by
  have h2 : conn.alertIn.length ≠ 2 := by omega
  simp [processAlertFragment, alertsSupported, hin, h2, hq, processAlertLoop_eq h (Nat.le_refl _)]

theorem processAlertFragment_of_in_nil {conn : Connection} (h : conn.«in» = []) :
    processAlertFragment conn = (.error errBadMessage, conn) := by
  simp [processAlertFragment, h]

theorem processAlertFragment_of_full {conn : Connection} (hin : conn.«in» ≠ [])
    (h : conn.alertIn.length = 2) :
    processAlertFragment conn = (.error errAlertPresent, conn) := by
  simp [processAlertFragment, hin, h]

theorem processAlertFragment_of_quic (conn : Connection) (hin : conn.«in» ≠ [])
    (h : conn.alertIn.length ≠ 2) (hq : conn.quicEnabled = true) :
    processAlertFragment conn = (.error errBadMessage, conn) := by
  simp [processAlertFragment, alertsSupported, hin, h, hq]

theorem processAlertFragment_of_overfull (conn : Connection) (h : 3 ≤ conn.alertIn.length) :
    processAlertFragment conn =
      (.error (if conn.«in» ≠ [] ∧ conn.quicEnabled = false then errStufferIsFull else errBadMessage),
        conn) := by
  by_cases hin : conn.«in» = []
  · rw [processAlertFragment_of_in_nil hin, if_neg (fun h' => h'.1 hin)]
  have h2 : conn.alertIn.length ≠ 2 := by omega
  rcases Bool.eq_false_or_eq_true conn.quicEnabled with hq | hq
  · rw [processAlertFragment_of_quic conn hin h2 hq, if_neg (by simp [hq])]
  have hlen : conn.«in».length ≠ 0 := by simpa using hin
  obtain ⟨fuel, hfuel⟩ : ∃ f, conn.«in».length = f + 1 := ⟨_, (Nat.succ_pred_eq_of_ne_zero hlen).symm⟩
  have hfull : stufferCopy conn.«in» conn.alertIn alertLength
      (if (if conn.alertIn.length = 1 then 1 else 2) < fuel + 1 then
        (if conn.alertIn.length = 1 then 1 else 2) else fuel + 1) = .error errStufferIsFull := by
    simp only [stufferCopy, alertLength, if_neg (show conn.alertIn.length ≠ 1 by omega)]
    split <;> rw [if_neg (by omega), if_pos (by omega)]
  simp only [processAlertFragment, hin, h2, alertsSupported, hq, hfuel, processAlertLoop]
  simp [hfull, hin]

theorem dispatchAlert_cases (conn : Connection) :
    (conn.alertIn.getD 1 0 = tlsAlertCloseNotify ∧
      dispatchAlert conn = (.ok (), { conn with closed := true, closeNotifyReceived := true })) ∨
    (conn.alertIn.getD 1 0 ≠ tlsAlertCloseNotify ∧
      processAsWarning conn (conn.alertIn.getD 0 0) (conn.alertIn.getD 1 0) = true ∧
      dispatchAlert conn = (.ok (), { conn with alertIn := [] })) ∨
    (conn.alertIn.getD 1 0 ≠ tlsAlertCloseNotify ∧
      processAsWarning conn (conn.alertIn.getD 0 0) (conn.alertIn.getD 1 0) = false ∧
      dispatchAlert conn = (.error errAlert,
        { conn with cacheDeleteCalls :=
                      if conn.allowedToCache && conn.sessionId.length ≠ 0 then
                        conn.cacheDeleteCalls ++ [conn.sessionId]
                      else conn.cacheDeleteCalls,
                    closed := true })) := by
  by_cases hc : conn.alertIn.getD 1 0 = tlsAlertCloseNotify
  · exact .inl ⟨hc, by simp only [dispatchAlert, if_pos hc]⟩
  · cases hw : processAsWarning conn (conn.alertIn.getD 0 0) (conn.alertIn.getD 1 0)
    · exact .inr (.inr ⟨hc, rfl, by simp only [dispatchAlert, if_neg hc, hw]; rfl⟩)
    · exact .inr (.inl ⟨hc, rfl, by simp only [dispatchAlert, if_neg hc, hw, if_true]⟩)

theorem processAlertFragment_cases (conn : Connection) (h : conn.alertIn.length ≤ 2) :
    (conn.«in» = [] ∧ processAlertFragment conn = (.error errBadMessage, conn)) ∨
    (conn.«in» ≠ [] ∧ conn.alertIn.length = 2 ∧
      processAlertFragment conn = (.error errAlertPresent, conn)) ∨
    (conn.«in» ≠ [] ∧ conn.alertIn.length ≤ 1 ∧ conn.quicEnabled = true ∧
      processAlertFragment conn = (.error errBadMessage, conn)) ∨
    (conn.«in» ≠ [] ∧ conn.alertIn.length ≤ 1 ∧ conn.quicEnabled = false ∧
      processAlertFragment conn = readAlert conn) := by
  by_cases hin : conn.«in» = []
  · exact .inl ⟨hin, processAlertFragment_of_in_nil hin⟩
  by_cases h2 : conn.alertIn.length = 2
  · exact .inr (.inl ⟨hin, h2, processAlertFragment_of_full hin h2⟩)
  have h1 : conn.alertIn.length ≤ 1 := by omega
  rcases Bool.eq_false_or_eq_true conn.quicEnabled with hq | hq
  · exact .inr (.inr (.inl ⟨hin, h1, hq, processAlertFragment_of_quic conn hin h2 hq⟩))
  · exact .inr (.inr (.inr ⟨hin, h1, hq, processAlertFragment_of_ready conn h1 hin hq⟩))

theorem readAlert_cases (conn : Connection) (h : conn.alertIn.length ≤ 1) :
    (conn.alertIn.length + conn.«in».length < 2 ∧
      readAlert conn = (.ok (), { conn with «in» := [], alertIn := conn.alertIn ++ conn.«in» })) ∨
    (2 ≤ conn.alertIn.length + conn.«in».length ∧
      readAlert conn = dispatchAlert
        { conn with «in» := conn.«in».drop (2 - conn.alertIn.length),
                    alertIn := (conn.alertIn ++ conn.«in»).take 2 }) := by
  by_cases hs : conn.alertIn.length + conn.«in».length < 2
  · exact .inl ⟨hs, readAlert_of_short hs⟩
  · exact .inr ⟨by omega, readAlert_of_whole h (by omega)⟩

theorem processAlertFragment_of_short (conn : Connection) (hin : conn.«in» ≠ [])
    (hq : conn.quicEnabled = false) (h : conn.alertIn.length + conn.«in».length < 2) :
    processAlertFragment conn =
      (.ok (), { conn with «in» := [], alertIn := conn.alertIn ++ conn.«in» }) := by
  rw [processAlertFragment_of_ready conn (by omega) hin hq, readAlert_of_short h]

theorem processAlertFragment_of_long (conn : Connection) (h : conn.alertIn.length ≤ 1)
    (hq : conn.quicEnabled = false) (hw : 2 ≤ conn.alertIn.length + conn.«in».length) :
    processAlertFragment conn = dispatchAlert
      { conn with «in» := conn.«in».drop (2 - conn.alertIn.length),
                  alertIn := (conn.alertIn ++ conn.«in»).take 2 } := by
  have hin : conn.«in» ≠ [] := by
    rintro hnil
    simp only [hnil, List.length_nil] at hw
    omega
  rw [processAlertFragment_of_ready conn h hin hq, readAlert_of_whole h hw]

/-- Where a record boundary falls inside an alert does not change how the alert
is handled: `[b0]` then `b1 :: rest` against `b0 :: b1 :: rest` at once. -/
theorem processAlertFragment_split (conn : Connection) (hconn : conn.alertIn = [])
    (b0 b1 : UInt8) (rest : List UInt8) :
    let first := processAlertFragment { conn with «in» := [b0] }
    let single := processAlertFragment { conn with «in» := b0 :: b1 :: rest }
    (∀ e, first.1 = .error e →
      single = (.error e, { conn with «in» := b0 :: b1 :: rest }) ∧
        first.2 = { conn with «in» := [b0] }) ∧
    (first.1 = .ok () → processAlertFragment { first.2 with «in» := b1 :: rest } = single) := by
  dsimp only
  rcases Bool.eq_false_or_eq_true conn.quicEnabled with hq | hq
  · rw [processAlertFragment_of_quic { conn with «in» := [b0] } (by simp)
        (by simp [hconn]) hq,
      processAlertFragment_of_quic { conn with «in» := b0 :: b1 :: rest } (by simp)
        (by simp [hconn]) hq]
    simp
  · have hfirst : processAlertFragment { conn with «in» := [b0] } =
        (.ok (), { conn with «in» := [], alertIn := [b0] }) := by
      rw [processAlertFragment_of_short { conn with «in» := [b0] } (by simp) hq (by simp [hconn])]
      simp [hconn]
    have hsingle : processAlertFragment { conn with «in» := b0 :: b1 :: rest } =
        dispatchAlert { conn with «in» := rest, alertIn := [b0, b1] } := by
      rw [processAlertFragment_of_long { conn with «in» := b0 :: b1 :: rest } (by simp [hconn]) hq
        (by simp [hconn])]
      simp [hconn]
    have hsecond : processAlertFragment { conn with «in» := b1 :: rest, alertIn := [b0] } =
        dispatchAlert { conn with «in» := rest, alertIn := [b0, b1] } := by
      rw [processAlertFragment_of_long { conn with «in» := b1 :: rest, alertIn := [b0] } (by simp) hq
        (by simp; omega)]
      simp
    rw [hfirst, hsingle]
    exact ⟨fun e he => (by cases he), fun _ => hsecond⟩

theorem processAlertFragment_split_tls12 :
    let conn : Connection :=
      { «in» := [], alertIn := [], closed := false, closeNotifyReceived := false, closing := false,
        writerAlertOut := [], readerAlertOut := [], closeNotifyQueued := false,
        protocolVersion := 33, alertBehavior := .failOnWarnings, quicEnabled := false,
        allowedToCache := true, sessionId := [7], cacheDeleteCalls := [] }
    let first := processAlertFragment { conn with «in» := [2] }
    let single := processAlertFragment { conn with «in» := [2, 40, 1, 0] }
    conn.alertIn = [] ∧
      (∀ e, first.1 = .error e →
        single = (.error e, { conn with «in» := [2, 40, 1, 0] }) ∧
          first.2 = { conn with «in» := [2] }) ∧
      (first.1 = .ok () → processAlertFragment { first.2 with «in» := [40, 1, 0] } = single) :=
  ⟨rfl, processAlertFragment_split _ rfl 2 40 [1, 0]⟩

/-- A tolerated warning ends the call: `alert_in` is wiped and whatever `in`
holds after the warning is left unread, however many alerts it holds. -/
theorem processAlertFragment_of_tolerated (conn : Connection) (h : conn.alertIn.length ≤ 1)
    (hq : conn.quicEnabled = false) (hin : 2 ≤ conn.alertIn.length + conn.«in».length)
    (hc : ((conn.alertIn ++ conn.«in»).take 2).getD 1 0 ≠ tlsAlertCloseNotify)
    (hw : processAsWarning conn (((conn.alertIn ++ conn.«in»).take 2).getD 0 0)
      (((conn.alertIn ++ conn.«in»).take 2).getD 1 0) = true) :
    processAlertFragment conn =
      (.ok (), { conn with «in» := conn.«in».drop (2 - conn.alertIn.length), alertIn := [] }) := by
  rw [processAlertFragment_of_long conn h hq hin]
  rcases dispatchAlert_cases { conn with «in» := conn.«in».drop (2 - conn.alertIn.length),
                                         alertIn := (conn.alertIn ++ conn.«in»).take 2 } with
    ⟨hc', -⟩ | ⟨-, -, hd⟩ | ⟨-, hw', -⟩
  · exact absurd hc' hc
  · rw [hd]
  · cases hw.symm.trans hw'

/-- At TLS1.3 a `user_canceled` warning hides the close_notify behind it in the
same record: the call succeeds, the connection stays open, and the
close_notify is left in `in`. -/
theorem processAlertFragment_user_canceled_then_close_notify :
    let conn : Connection :=
      { «in» := [1, 90, 1, 0], alertIn := [], closed := false, closeNotifyReceived := false,
        closing := false, writerAlertOut := [], readerAlertOut := [], closeNotifyQueued := false,
        protocolVersion := 34, alertBehavior := .failOnWarnings, quicEnabled := false,
        allowedToCache := false, sessionId := [], cacheDeleteCalls := [] }
    processAlertFragment conn = (.ok (), { conn with «in» := [1, 0], alertIn := [] }) :=
  processAlertFragment_of_tolerated _ (by decide) rfl (by decide) (by decide) (by decide)

/-- A warning and a fatal `handshake_failure` in one record, at TLS1.2 under
`S2N_ALERT_IGNORE_WARNINGS`: the call succeeds, the connection stays open, and
the fatal alert is never dispatched but left unread in `in`. -/
theorem processAlertFragment_warning_then_fatal :
    let conn : Connection :=
      { «in» := [1, 100, 2, 40], alertIn := [], closed := false, closeNotifyReceived := false,
        closing := false, writerAlertOut := [], readerAlertOut := [], closeNotifyQueued := false,
        protocolVersion := 33, alertBehavior := .ignoreWarnings, quicEnabled := false,
        allowedToCache := true, sessionId := [7], cacheDeleteCalls := [] }
    processAlertFragment conn = (.ok (), { conn with «in» := [2, 40] }) := by
  decide

end S2n
