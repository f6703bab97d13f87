import S2nAlerts.Run

/-!
# The alert queues over whole runs

Each slot holds nothing or one whole alert.  A queue call only ever fills an
empty slot, so a pending alert stays until the record layer sends it, and the
reader slot holds what the first reader call made while it was empty asked
for.  `close_notify_queued` is set by the one call that fills the writer slot
and never cleared, so that slot is filled at most once.  In QUIC mode nothing
is queued.

`AlertOp.writer_cases` and `AlertOp.reader_cases` say once what a step can do
to each slot; the invariant and the run-level facts follow from them.
-/

namespace S2n

/-- The alert a queue call asks for at protocol version `version`, in the
spec's words: SSLv3 has no `no_renegotiation` and gets a fatal
`handshake_failure` instead.  `QueueCall.run_reader` shows that the queue
functions write exactly this. -/
def QueueCall.requestedAlert : QueueCall → UInt8 → List UInt8
  | .writerCloseAlertWarning, _ => [tlsAlertLevelWarning, tlsAlertCloseNotify]
  | .readerUnsupportedProtocolVersionAlert, _ => [tlsAlertLevelFatal, tlsAlertProtocolVersion]
  | .readerHandshakeFailureAlert, _ => [tlsAlertLevelFatal, tlsAlertHandshakeFailure]
  | .readerNoRenegotiationAlert, version =>
    if version = sslv3 then [tlsAlertLevelFatal, tlsAlertHandshakeFailure]
    else [tlsAlertLevelWarning, tlsAlertNoRenegotiation]

/-- Whether a call queues into `reader_alert_out`. -/
def QueueCall.isReader : QueueCall → Bool
  | .writerCloseAlertWarning => false
  | _ => true

theorem QueueCall.run_writer (conn : Connection) :
    (QueueCall.writerCloseAlertWarning.run conn).2 =
      if conn.writerAlertOut = [] ∧ conn.closeNotifyQueued = false ∧ conn.quicEnabled = false then
        { conn with writerAlertOut := [tlsAlertLevelWarning, tlsAlertCloseNotify],
                    closeNotifyQueued := true }
      else conn := by
  simp only [QueueCall.run, queueWriterCloseAlertWarning_eq]

theorem QueueCall.run_reader {call : QueueCall} (h : call.isReader = true) (conn : Connection) :
    (call.run conn).2 =
      if conn.readerAlertOut = [] ∧ conn.quicEnabled = false then
        { conn with readerAlertOut := call.requestedAlert conn.protocolVersion }
      else conn := by
  cases call with
  | writerCloseAlertWarning => cases h
  | readerUnsupportedProtocolVersionAlert =>
    simp only [QueueCall.run, queueReaderUnsupportedProtocolVersionAlert, queueReaderAlert_eq,
      QueueCall.requestedAlert]
  | readerHandshakeFailureAlert =>
    simp only [QueueCall.run, queueReaderHandshakeFailureAlert, queueReaderAlert_eq,
      QueueCall.requestedAlert]
  | readerNoRenegotiationAlert =>
    simp only [QueueCall.run, queueReaderNoRenegotiationAlert, QueueCall.requestedAlert]
    split <;> simp only [queueReaderAlert_eq]

/-- What a step can do to `writer_alert_out` and `close_notify_queued`: nothing,
empty the slot, or fill the empty slot with the close_notify and set the flag. -/
theorem AlertOp.writer_cases (conn : Connection) (op : AlertOp) :
    (op.step conn).2.quicEnabled = conn.quicEnabled ∧
    (((op.step conn).2.writerAlertOut = conn.writerAlertOut ∧
        (op.step conn).2.closeNotifyQueued = conn.closeNotifyQueued) ∨
      (op = .drainWriterAlertOut ∧ (op.step conn).2.writerAlertOut = [] ∧
        (op.step conn).2.closeNotifyQueued = conn.closeNotifyQueued) ∨
      (op = .queue .writerCloseAlertWarning ∧ conn.writerAlertOut = [] ∧
        conn.closeNotifyQueued = false ∧ conn.quicEnabled = false ∧
        (op.step conn).2.writerAlertOut = [tlsAlertLevelWarning, tlsAlertCloseNotify] ∧
        (op.step conn).2.closeNotifyQueued = true)) := by
  cases op with
  | recvAlertRecord record =>
    have := queueView_processAlertFragment { conn with «in» := record }
    simp only [Connection.queueView, Prod.mk.injEq] at this
    simp [AlertOp.step, this]
  | queue call =>
    cases hc : call.isReader
    · cases call <;> simp [QueueCall.isReader] at hc
      simp only [AlertOp.step, QueueCall.run_writer]
      split
      · simp_all
      · simp
    · simp only [AlertOp.step, QueueCall.run_reader hc]
      split <;> simp
  | drainWriterAlertOut =>
    rw [AlertOp.drainWriterAlertOut_step]
    exact ⟨rfl, .inr (.inl ⟨rfl, rfl, rfl⟩)⟩
  | drainReaderAlertOut =>
    rw [AlertOp.drainReaderAlertOut_step]
    exact ⟨rfl, .inl ⟨rfl, rfl⟩⟩
  | setProtocolVersion version => simp [AlertOp.step]

/-- What a step can do to `reader_alert_out`: nothing, empty it, or fill the
empty slot, outside QUIC, with what a reader call asks for. -/
theorem AlertOp.reader_cases (conn : Connection) (op : AlertOp) :
    (op.step conn).2.readerAlertOut = conn.readerAlertOut ∨
    (op = .drainReaderAlertOut ∧ (op.step conn).2.readerAlertOut = []) ∨
    (∃ call, op = .queue call ∧ call.isReader = true ∧ conn.readerAlertOut = [] ∧
      conn.quicEnabled = false ∧
      (op.step conn).2.readerAlertOut = call.requestedAlert conn.protocolVersion) := by
  cases op with
  | recvAlertRecord record =>
    have := queueView_processAlertFragment { conn with «in» := record }
    simp only [Connection.queueView, Prod.mk.injEq] at this
    exact .inl this.2.1
  | queue call =>
    cases hc : call.isReader
    · cases call <;> simp [QueueCall.isReader] at hc
      simp only [AlertOp.step, QueueCall.run_writer]
      split <;> simp
    · simp only [AlertOp.step, QueueCall.run_reader hc]
      split
      · exact .inr (.inr ⟨call, rfl, hc, by simp_all⟩)
      · exact .inl rfl
  | drainWriterAlertOut =>
    rw [AlertOp.drainWriterAlertOut_step]
    exact .inl rfl
  | drainReaderAlertOut =>
    rw [AlertOp.drainReaderAlertOut_step]
    exact .inr (.inl ⟨rfl, rfl⟩)
  | setProtocolVersion version => simp [AlertOp.step]

theorem run_quicEnabled (conn : Connection) (ops : List AlertOp) :
    (run conn ops).quicEnabled = conn.quicEnabled := by
  induction ops generalizing conn with
  | nil => rfl
  | cons op ops ih => rw [run_cons, ih, (AlertOp.writer_cases conn op).1]

theorem QueueCall.requestedAlert_length (call : QueueCall) (version : UInt8) :
    (call.requestedAlert version).length = 2 := by
  cases call
  case readerNoRenegotiationAlert => simp only [QueueCall.requestedAlert]; split <;> rfl
  all_goals rfl

theorem alertsCloseIfFatal_requestedAlert (conn : Connection) (call : QueueCall) (version : UInt8) :
    alertsCloseIfFatal conn (call.requestedAlert version) =
      (.ok (), if call.requestedAlert version = [tlsAlertLevelWarning, tlsAlertNoRenegotiation]
        then conn else { conn with closing := true }) := by
  cases call <;> simp [QueueCall.requestedAlert, alertsCloseIfFatal, alertLength, tlsAlertLevelWarning,
    tlsAlertNoRenegotiation, tlsAlertCloseNotify, tlsAlertLevelFatal, tlsAlertProtocolVersion,
    tlsAlertHandshakeFailure]
  split <;> simp

theorem AlertOp.writer_pending (conn : Connection) {op : AlertOp} (h : conn.writerAlertOut ≠ [])
    (hop : op ≠ .drainWriterAlertOut) : (op.step conn).2.writerAlertOut = conn.writerAlertOut := by
  rcases (AlertOp.writer_cases conn op).2 with ⟨hw, -⟩ | ⟨hd, -⟩ | ⟨-, hw, -⟩
  · exact hw
  · exact absurd hd hop
  · exact absurd hw h

theorem AlertOp.reader_pending (conn : Connection) {op : AlertOp} (h : conn.readerAlertOut ≠ [])
    (hop : op ≠ .drainReaderAlertOut) : (op.step conn).2.readerAlertOut = conn.readerAlertOut := by
  rcases AlertOp.reader_cases conn op with hr | ⟨hd, -⟩ | ⟨_, -, -, hr, -⟩
  · exact hr
  · exact absurd hd hop
  · exact absurd hr h

theorem run_readerAlertOut_of_ne_nil {conn : Connection} (h : conn.readerAlertOut ≠ [])
    {ops : List AlertOp} (hops : .drainReaderAlertOut ∉ ops) :
    (run conn ops).readerAlertOut = conn.readerAlertOut := by
  induction ops generalizing conn with
  | nil => rfl
  | cons op ops ih =>
    have hop : op ≠ .drainReaderAlertOut := fun he => hops (he ▸ List.mem_cons_self _ _)
    have hstep := AlertOp.reader_pending conn h hop
    rw [run_cons, ih (hstep ▸ h) (fun hm => hops (List.mem_cons_of_mem _ hm)), hstep]

/-- What the slots of every reachable state hold. -/
structure QueueInvariant (conn : Connection) : Prop where
  writer : conn.writerAlertOut = [] ∨
    conn.writerAlertOut = [tlsAlertLevelWarning, tlsAlertCloseNotify]
  writer_queued : conn.writerAlertOut ≠ [] → conn.closeNotifyQueued = true
  reader : conn.readerAlertOut = [] ∨
    ∃ (call : QueueCall) (version : UInt8), call.isReader = true ∧
      conn.readerAlertOut = call.requestedAlert version
  quic : conn.quicEnabled = true →
    conn.writerAlertOut = [] ∧ conn.readerAlertOut = [] ∧ conn.closeNotifyQueued = false

namespace QueueInvariant

variable {conn : Connection}

theorem init (hw : conn.writerAlertOut = []) (hr : conn.readerAlertOut = [])
    (hq : conn.closeNotifyQueued = false) : QueueInvariant conn where
  writer := .inl hw
  writer_queued := fun h => absurd hw h
  reader := .inl hr
  quic := fun _ => ⟨hw, hr, hq⟩

theorem step (hi : QueueInvariant conn) (op : AlertOp) : QueueInvariant (op.step conn).2 := by
  obtain ⟨hquic, hw⟩ := AlertOp.writer_cases conn op
  have hr := AlertOp.reader_cases conn op
  refine ⟨?_, ?_, ?_, fun hq => ?_⟩
  · rcases hw with ⟨hw, -⟩ | ⟨-, hw, -⟩ | ⟨-, -, -, -, hw, -⟩
    · rw [hw]; exact hi.writer
    · exact .inl hw
    · exact .inr hw
  · rcases hw with ⟨hw, hc⟩ | ⟨-, hw, -⟩ | ⟨-, -, -, -, -, hc⟩
    · rw [hw, hc]; exact hi.writer_queued
    · rw [hw]; exact fun h => absurd rfl h
    · exact fun _ => hc
  · rcases hr with hr | ⟨-, hr⟩ | ⟨call, -, hcall, -, -, hr⟩
    · rw [hr]; exact hi.reader
    · exact .inl hr
    · exact .inr ⟨call, _, hcall, hr⟩
  · rw [hquic] at hq
    obtain ⟨h1, h2, h3⟩ := hi.quic hq
    rcases hw with ⟨hw, hc⟩ | ⟨-, hw, hc⟩ | ⟨-, -, -, hq', -⟩
    · rcases hr with hr | ⟨-, hr⟩ | ⟨_, -, -, -, hq', -⟩
      · exact ⟨hw.trans h1, hr.trans h2, hc.trans h3⟩
      · exact ⟨hw.trans h1, hr, hc.trans h3⟩
      · simp [hq] at hq'
    · rcases hr with hr | ⟨-, hr⟩ | ⟨_, -, -, -, hq', -⟩
      · exact ⟨hw, hr.trans h2, hc.trans h3⟩
      · exact ⟨hw, hr, hc.trans h3⟩
      · simp [hq] at hq'
    · simp [hq] at hq'

end QueueInvariant

/-- How many steps of a run put an alert into an empty `writer_alert_out`. -/
def writerFills (conn : Connection) : List AlertOp → Nat
  | [] => 0
  | op :: ops =>
    (if conn.writerAlertOut = [] ∧ (op.step conn).2.writerAlertOut ≠ [] then 1 else 0) +
      writerFills (op.step conn).2 ops

theorem writerFills_le {conn : Connection} (hi : QueueInvariant conn) (ops : List AlertOp) :
    writerFills conn ops + (if conn.closeNotifyQueued then 1 else 0) ≤ 1 := by
  induction ops generalizing conn with
  | nil => simp only [writerFills]; split <;> omega
  | cons op ops ih =>
    have hnext := ih (hi.step op)
    simp only [writerFills]
    rcases (AlertOp.writer_cases conn op).2 with ⟨hw, hc⟩ | ⟨-, hw, hc⟩ | ⟨-, hw0, hc0, -, hw, hc⟩
    · rw [hc] at hnext
      rw [if_neg (by rw [hw]; exact fun h => h.2 h.1)]
      omega
    · rw [hc] at hnext
      rw [if_neg (by rw [hw]; exact fun h => h.2 rfl)]
      omega
    · rw [hc] at hnext
      rw [if_pos ⟨hw0, by rw [hw]; simp⟩, hc0]
      simp only [if_true] at hnext
      simp only [Bool.false_eq_true, if_false]
      omega

/-- From empty slots with `close_notify_queued` clear, over every run of queue
calls, records, drains and version changes: every queue call succeeds and each
slot holds nothing or one two-byte alert; a pending alert stays until its slot
is drained; the writer slot only ever holds the close_notify and is filled at
most once; the reader slot holds what the first reader call made while it was
empty asked for; in QUIC mode both slots stay empty and `close_notify_queued`
clear; and `s2n_alerts_close_if_fatal` accepts whatever a slot holds. -/
theorem queue_run_invariant (c₀ : Connection) (hw : c₀.writerAlertOut = [])
    (hr : c₀.readerAlertOut = []) (hq : c₀.closeNotifyQueued = false) :
    (∀ ops call, ((AlertOp.queue call).step (run c₀ ops)).1 = .ok ()) ∧
    (∀ ops, ((run c₀ ops).writerAlertOut = [] ∨ (run c₀ ops).writerAlertOut.length = 2) ∧
      ((run c₀ ops).readerAlertOut = [] ∨ (run c₀ ops).readerAlertOut.length = 2)) ∧
    (∀ ops (op : AlertOp),
      ((run c₀ ops).writerAlertOut ≠ [] → op ≠ .drainWriterAlertOut →
        (op.step (run c₀ ops)).2.writerAlertOut = (run c₀ ops).writerAlertOut) ∧
      ((run c₀ ops).readerAlertOut ≠ [] → op ≠ .drainReaderAlertOut →
        (op.step (run c₀ ops)).2.readerAlertOut = (run c₀ ops).readerAlertOut)) ∧
    (∀ ops, ((run c₀ ops).writerAlertOut = [] ∨
        (run c₀ ops).writerAlertOut = [tlsAlertLevelWarning, tlsAlertCloseNotify]) ∧
      writerFills c₀ ops ≤ 1) ∧
    (∀ ops₁ (call : QueueCall) ops₂, call.isReader = true → c₀.quicEnabled = false →
      (run c₀ ops₁).readerAlertOut = [] → .drainReaderAlertOut ∉ ops₂ →
      (run c₀ (ops₁ ++ .queue call :: ops₂)).readerAlertOut =
        call.requestedAlert (run c₀ ops₁).protocolVersion) ∧
    (c₀.quicEnabled = true → ∀ ops, (run c₀ ops).writerAlertOut = [] ∧
      (run c₀ ops).readerAlertOut = [] ∧ (run c₀ ops).closeNotifyQueued = false) ∧
    (∀ ops, ∀ slot ∈ [(run c₀ ops).writerAlertOut, (run c₀ ops).readerAlertOut], slot ≠ [] →
      alertsCloseIfFatal (run c₀ ops) slot =
        (.ok (), if slot = [tlsAlertLevelWarning, tlsAlertNoRenegotiation] then run c₀ ops
          else { run c₀ ops with closing := true })) := by
  have hi : ∀ ops, QueueInvariant (run c₀ ops) :=
    run_induction (fun _ op h => h.step op) (QueueInvariant.init hw hr hq)
  refine ⟨fun ops call => QueueCall.run_ok call _, fun ops => ⟨?_, ?_⟩,
    fun ops op => ⟨fun h => AlertOp.writer_pending _ h, fun h => AlertOp.reader_pending _ h⟩,
    fun ops => ⟨(hi ops).writer, by simpa [hq] using writerFills_le (QueueInvariant.init hw hr hq) ops⟩,
    fun ops₁ call ops₂ hcall hquic hempty hops => ?_, fun hquic ops => (hi ops).quic
      (by rw [run_quicEnabled]; exact hquic), fun ops slot hslot hne => ?_⟩
  · rcases (hi ops).writer with h | h
    · exact .inl h
    · exact .inr (by rw [h]; rfl)
  · rcases (hi ops).reader with h | ⟨call, version, -, h⟩
    · exact .inl h
    · exact .inr (by rw [h]; exact QueueCall.requestedAlert_length call version)
  · have hfill : ((AlertOp.queue call).step (run c₀ ops₁)).2 =
        { run c₀ ops₁ with readerAlertOut := call.requestedAlert (run c₀ ops₁).protocolVersion } := by
      simp only [AlertOp.step, QueueCall.run_reader hcall, run_quicEnabled, hempty, hquic, and_self,
        if_true]
    have hne : call.requestedAlert (run c₀ ops₁).protocolVersion ≠ [] := fun h => by
      simpa [h] using QueueCall.requestedAlert_length call (run c₀ ops₁).protocolVersion
    rw [run_append, run_cons, hfill]
    exact run_readerAlertOut_of_ne_nil hne hops
  · simp only [List.mem_cons, List.mem_singleton, List.not_mem_nil, or_false] at hslot
    rcases hslot with rfl | rfl
    · rcases (hi ops).writer with h | h
      · exact absurd h hne
      · rw [h]
        exact alertsCloseIfFatal_requestedAlert _ .writerCloseAlertWarning 0
    · rcases (hi ops).reader with h | ⟨call, version, -, h⟩
      · exact absurd h hne
      · rw [h]
        exact alertsCloseIfFatal_requestedAlert _ call version

/-- A no_renegotiation request at SSLv3, drained, and asked for again at TLS1.2. -/
theorem queue_run_invariant_no_renegotiation :
    let c₀ : Connection :=
      { «in» := [], alertIn := [], closed := false, closeNotifyReceived := false, closing := false,
        writerAlertOut := [], readerAlertOut := [], closeNotifyQueued := false,
        protocolVersion := sslv3, alertBehavior := .failOnWarnings, quicEnabled := false,
        allowedToCache := false, sessionId := [], cacheDeleteCalls := [] }
    let ops₁ := [AlertOp.queue .readerNoRenegotiationAlert, .drainReaderAlertOut, .setProtocolVersion 33]
    c₀.writerAlertOut = [] ∧ c₀.readerAlertOut = [] ∧ c₀.closeNotifyQueued = false ∧
      (run c₀ (ops₁ ++ [.queue .readerNoRenegotiationAlert, .queue .readerHandshakeFailureAlert])).readerAlertOut =
        QueueCall.readerNoRenegotiationAlert.requestedAlert (run c₀ ops₁).protocolVersion :=
  ⟨rfl, rfl, rfl, (queue_run_invariant _ rfl rfl rfl).2.2.2.2.1 _ _ _ rfl rfl (by decide) (by decide)⟩

end S2n
