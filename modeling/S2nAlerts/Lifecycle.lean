import S2nAlerts.ReaderInvariant
import S2nAlerts.QueueInvariant

/-!
# The connection's alert lifecycle over whole runs

A connection learns of the peer's alert once.  No step of the alert code ever
reopens a closed connection, forgets a received close_notify or takes back a
`cache_delete` call, so from a connection that has seen no alert the failure
`S2N_ERR_ALERT` is reported at most once in any run.  In QUIC mode the layer
does nothing at all: it refuses every record and queues nothing.

`AlertOp.reader_grows` says once what a step can do to the reader's flags and
log; the run-level results follow by induction over the run.  The
`S2N_ERR_ALERT` count is carried with one more unit once the connection is
closed, which no step takes back.
-/

namespace S2n

theorem processAlertFragment_grows (conn : Connection) :
    (conn.closed = true → (processAlertFragment conn).2.closed = true) ∧
    (conn.closeNotifyReceived = true → (processAlertFragment conn).2.closeNotifyReceived = true) ∧
    conn.cacheDeleteCalls <+: (processAlertFragment conn).2.cacheDeleteCalls := by
  by_cases h1 : conn.alertIn.length ≤ 1
  · have hopen := processAlertFragment_of_open conn h1
    dsimp only at hopen
    rcases hopen with
      ⟨-, ⟨-, he⟩ | ⟨-, hcl, hcn, hca, -⟩ | ⟨-, hcl, hcn, -, -, -, hca⟩ | ⟨-, hcl, hcn, -, -, -, hca⟩⟩
    · rw [he]
      exact ⟨id, id, List.prefix_refl _⟩
    · exact ⟨fun h => hcl.trans h, fun h => hcn.trans h, hca ▸ List.prefix_refl _⟩
    · exact ⟨fun _ => hcl, fun _ => hcn, hca ▸ List.prefix_refl _⟩
    · refine ⟨fun _ => hcl, fun h => hcn.trans h, ?_⟩
      rcases hca with hca | hca
      · exact hca ▸ List.prefix_refl _
      · exact hca ▸ List.prefix_append _ _
  · have hsame : (processAlertFragment conn).2 = conn := by
      rcases Nat.lt_or_ge 2 conn.alertIn.length with h | h
      · rw [processAlertFragment_of_overfull conn h]
      · rw [processAlertFragment_of_whole conn (by omega)]
    rw [hsame]
    exact ⟨id, id, List.prefix_refl _⟩

/-- What a step can do to the reader's flags and log: set, never clear, and
append. -/
theorem AlertOp.reader_grows (conn : Connection) (op : AlertOp) :
    (conn.closed = true → (op.step conn).2.closed = true) ∧
    (conn.closeNotifyReceived = true → (op.step conn).2.closeNotifyReceived = true) ∧
    conn.cacheDeleteCalls <+: (op.step conn).2.cacheDeleteCalls := by
  cases hop : op.isRecord
  · have hview := AlertOp.readerView_step hop conn
    simp only [Connection.readerView, Prod.mk.injEq] at hview
    obtain ⟨-, hcl, hcn, hca, -⟩ := hview
    exact ⟨fun h => hcl.trans h, fun h => hcn.trans h, hca ▸ List.prefix_refl _⟩
  cases op with
  | recvAlertRecord record => exact processAlertFragment_grows { conn with «in» := record }
  | _ => cases hop

/-- Over every run from every state, the connection never reopens, a received
close_notify is never forgotten, `cache_delete` calls are only ever added to,
and the session id is left alone. -/
theorem run_reader_monotone (conn : Connection) (ops : List AlertOp) :
    (conn.closed = true → (run conn ops).closed = true) ∧
    (conn.closeNotifyReceived = true → (run conn ops).closeNotifyReceived = true) ∧
    conn.cacheDeleteCalls <+: (run conn ops).cacheDeleteCalls ∧
    (run conn ops).sessionId = conn.sessionId := by
  induction ops generalizing conn with
  | nil => exact ⟨id, id, List.prefix_refl _, rfl⟩
  | cons op ops ih =>
    obtain ⟨hcl, hcn, hca⟩ := AlertOp.reader_grows conn op
    obtain ⟨hcl', hcn', hca', hs'⟩ := ih (op.step conn).2
    have hs : (op.step conn).2.sessionId = conn.sessionId := by
      cases hop : op.isRecord
      · exact congrArg (fun v => v.2.2.2.2) (AlertOp.readerView_step hop conn)
      cases op with
      | recvAlertRecord record =>
        rw [AlertOp.step, processAlertFragment_frame]
      | _ => cases hop
    exact ⟨hcl' ∘ hcl, hcn' ∘ hcn, hca.trans hca', hs'.trans hs⟩

/-! ## `S2N_ERR_ALERT` is reported once -/

namespace ReaderInvariant

variable {log₀ : List (List UInt8)} {conn : Connection}

theorem errAlert_step (hi : ReaderInvariant log₀ conn) (op : AlertOp)
    (h : (op.step conn).1 = .error errAlert) :
    conn.closed = false ∧ (op.step conn).2.closed = true := by
  cases hop : op.isRecord
  · rcases AlertOp.step_result hop conn with hr | hr <;> rw [hr] at h
    · cases h
    · exact absurd h (by decide)
  cases op with
  | recvAlertRecord record =>
    by_cases h2 : conn.alertIn.length = 2
    · rw [AlertOp.step, processAlertFragment_of_whole { conn with «in» := record } h2] at h
      have hbad : errBadMessage ≠ errAlert := by decide
      have hpresent : errAlertPresent ≠ errAlert := by decide
      split at h <;> simp_all
    have h1 : conn.alertIn.length ≤ 1 := by have := hi.alertIn_le; omega
    have hopen := processAlertFragment_of_open { conn with «in» := record } h1
    dsimp only at hopen
    rcases hopen with ⟨-, ⟨hr, -⟩ | ⟨hr, -⟩ | ⟨hr, -⟩ | ⟨-, hcl, -⟩⟩
    -- buffering, refusing and tolerating a warning all return something else
    iterate 3 (rw [AlertOp.step, hr] at h; cases h)
    exact ⟨(hi.open_of_le h1).1, hcl⟩
  | _ => cases hop

theorem count_errAlert_le (hi : ReaderInvariant log₀ conn) (ops : List AlertOp) :
    (runResults conn ops).count (.error errAlert) + (if conn.closed then 1 else 0) ≤ 1 := by
  induction ops generalizing conn log₀ with
  | nil => simp only [runResults_nil, List.count_nil]; split <;> omega
  | cons op ops ih =>
    -- a step reports S2N_ERR_ALERT only when it is the one that closes
    have hstep : (if (op.step conn).1 == .error errAlert then 1 else 0) + (if conn.closed then 1 else 0) ≤
        if (op.step conn).2.closed then 1 else 0 := by
      by_cases he : (op.step conn).1 = .error errAlert
      · obtain ⟨hc, hc'⟩ := hi.errAlert_step op he
        simp [he, hc, hc']
      · cases hc : conn.closed
        · simp [he]
        · simp [he, (AlertOp.reader_grows conn op).1 hc]
    have hnext := ih (hi.step op)
    rw [runResults_cons, List.count_cons]
    omega

end ReaderInvariant

/-- From a connection that has seen no alert, every run reports
`S2N_ERR_ALERT` at most once, however records, queue calls, drains and version
changes are interleaved, and only in the step that closes the connection. -/
theorem runResults_errAlert_le_one (c₀ : Connection) (hin : c₀.alertIn = [])
    (hclosed : c₀.closed = false) (hcnr : c₀.closeNotifyReceived = false) (ops : List AlertOp) :
    (runResults c₀ ops).count (.error errAlert) ≤ 1 ∧
    ∀ op : AlertOp, (op.step (run c₀ ops)).1 = .error errAlert →
      (run c₀ ops).closed = false ∧ (op.step (run c₀ ops)).2.closed = true := by
  have hi₀ := ReaderInvariant.init hin hclosed hcnr
  have hcount := hi₀.count_errAlert_le ops
  exact ⟨by omega, (run_induction (fun _ op h => h.step op) hi₀ ops).errAlert_step⟩

/-- Two fatal alerts in two records, with a queue call between them. -/
theorem runResults_errAlert_two_fatal :
    let c₀ : Connection :=
      { «in» := [], alertIn := [], closed := false, closeNotifyReceived := false, closing := false,
        writerAlertOut := [], readerAlertOut := [], closeNotifyQueued := false,
        protocolVersion := 33, alertBehavior := .failOnWarnings, quicEnabled := false,
        allowedToCache := true, sessionId := [7], cacheDeleteCalls := [] }
    let ops := [AlertOp.recvAlertRecord [2, 40], .queue .writerCloseAlertWarning, .recvAlertRecord [2, 10]]
    c₀.alertIn = [] ∧ c₀.closed = false ∧ c₀.closeNotifyReceived = false ∧
      ((runResults c₀ ops).count (.error errAlert) ≤ 1 ∧
        ∀ op : AlertOp, (op.step (run c₀ ops)).1 = .error errAlert →
          (run c₀ ops).closed = false ∧ (op.step (run c₀ ops)).2.closed = true) := by
  intro c₀ ops
  exact ⟨rfl, rfl, rfl, runResults_errAlert_le_one c₀ rfl rfl rfl ops⟩

/-! ## QUIC mode -/

theorem QueueCall.run_of_quic (call : QueueCall) {conn : Connection} (h : conn.quicEnabled = true) :
    (call.run conn).2 = conn := by
  cases hc : call.isReader
  · cases call <;> simp only [QueueCall.isReader, reduceCtorEq] at hc
    rw [QueueCall.run_writer, if_neg (by simp [h])]
  · rw [QueueCall.run_reader hc, if_neg (by simp [h])]

/-- In QUIC mode, from a connection with no alert byte buffered and nothing
queued, no run changes anything but `in` and the protocol version: no alert is
read, queued or sent, the connection never closes and no session is expired;
every record is refused with `S2N_ERR_BAD_MESSAGE`. -/
theorem quic_run_inert (c₀ : Connection) (hq : c₀.quicEnabled = true) (hin : c₀.alertIn = [])
    (hw : c₀.writerAlertOut = []) (hr : c₀.readerAlertOut = []) (ops : List AlertOp) :
    run c₀ ops = { c₀ with «in» := (run c₀ ops).«in», protocolVersion := (run c₀ ops).protocolVersion } ∧
    ∀ record, (processAlertFragment { run c₀ ops with «in» := record }).1 = .error errBadMessage := by
  -- every reachable state is the start with another `in` and version
  have hreach : ∃ input version, run c₀ ops = { c₀ with «in» := input, protocolVersion := version } := by
    refine run_induction (P := fun conn => ∃ input version,
      conn = { c₀ with «in» := input, protocolVersion := version }) ?_ ⟨c₀.«in», c₀.protocolVersion, rfl⟩ ops
    rintro conn op ⟨input, version, rfl⟩
    cases op with
    | recvAlertRecord record =>
      refine ⟨record, version, ?_⟩
      by_cases hne : record = []
      · rw [AlertOp.step, processAlertFragment_of_in_nil hne, hne]
      · rw [AlertOp.step, processAlertFragment_of_quic
          { c₀ with «in» := record, protocolVersion := version } hne (by simp [hin]) hq]
    | queue call => exact ⟨input, version, QueueCall.run_of_quic call hq⟩
    | drainWriterAlertOut => exact ⟨input, version, by simp only [AlertOp.step, hw, drainAlertOut_nil]⟩
    | drainReaderAlertOut => exact ⟨input, version, by simp only [AlertOp.step, hr, drainAlertOut_nil]⟩
    | setProtocolVersion version' => exact ⟨input, version', rfl⟩
  obtain ⟨input, version, hrun⟩ := hreach
  refine ⟨by rw [hrun], fun record => ?_⟩
  rw [hrun]
  by_cases hne : record = []
  · rw [processAlertFragment_of_in_nil hne]
  · rw [processAlertFragment_of_quic { c₀ with «in» := record, protocolVersion := version } hne
      (by simp [hin]) hq]

/-- A QUIC connection handed an alert record, asked to queue a close_notify
and moved to TLS1.3. -/
theorem quic_run_inert_close_notify :
    let c₀ : Connection :=
      { «in» := [], alertIn := [], closed := false, closeNotifyReceived := false, closing := false,
        writerAlertOut := [], readerAlertOut := [], closeNotifyQueued := false,
        protocolVersion := 33, alertBehavior := .failOnWarnings, quicEnabled := true,
        allowedToCache := true, sessionId := [7], cacheDeleteCalls := [] }
    let ops := [AlertOp.recvAlertRecord [1, 0], .queue .writerCloseAlertWarning, .setProtocolVersion 34]
    c₀.quicEnabled = true ∧ c₀.alertIn = [] ∧ c₀.writerAlertOut = [] ∧ c₀.readerAlertOut = [] ∧
      (processAlertFragment { run c₀ ops with «in» := [2, 40] }).1 = .error errBadMessage := by
  intro c₀ ops
  exact ⟨rfl, rfl, rfl, rfl, (quic_run_inert c₀ rfl rfl rfl rfl ops).2 [2, 40]⟩

end S2n
