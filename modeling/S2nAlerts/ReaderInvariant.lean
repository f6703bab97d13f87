import S2nAlerts.Run

/-!
# The reader over whole runs

From a connection that has not yet seen an alert, every reachable state keeps
`alert_in` at most two bytes, and it is whole exactly when the connection is
closed: the two bytes are then the alert that closed it, and the reader
refuses every later record without touching the connection.  The session cache
is told to forget the session at most once, by the call that fails with
`S2N_ERR_ALERT`.

`processAlertFragment_of_open` states once what a record can do to an open
connection; the invariant and every run-level result about the reader follow
from it.
-/

namespace S2n

/-- What a record does to a connection whose alert is not yet whole: refused,
buffered or tolerated, closed by a close_notify, or closed by a fatal alert. -/
theorem processAlertFragment_of_open (conn : Connection) (h : conn.alertIn.length ≤ 1) :
    let r := processAlertFragment conn
    let alert := (conn.alertIn ++ conn.«in»).take 2
    r.2.sessionId = conn.sessionId ∧
    ((r.1 = .error errBadMessage ∧ r.2 = conn) ∨
     (r.1 = .ok () ∧ r.2.closed = conn.closed ∧
        r.2.closeNotifyReceived = conn.closeNotifyReceived ∧
        r.2.cacheDeleteCalls = conn.cacheDeleteCalls ∧ r.2.alertIn.length ≤ 1) ∨
     (r.1 = .ok () ∧ r.2.closed = true ∧ r.2.closeNotifyReceived = true ∧ r.2.alertIn = alert ∧
        alert.length = 2 ∧ alert.getD 1 0 = tlsAlertCloseNotify ∧
        r.2.cacheDeleteCalls = conn.cacheDeleteCalls) ∨
     (r.1 = .error errAlert ∧ r.2.closed = true ∧
        r.2.closeNotifyReceived = conn.closeNotifyReceived ∧ r.2.alertIn = alert ∧
        alert.length = 2 ∧ alert.getD 1 0 ≠ tlsAlertCloseNotify ∧
        (r.2.cacheDeleteCalls = conn.cacheDeleteCalls ∨
          r.2.cacheDeleteCalls = conn.cacheDeleteCalls ++ [conn.sessionId]))) := by
  dsimp only
  rcases processAlertFragment_cases conn (by omega) with
    ⟨-, he⟩ | ⟨-, h2, -⟩ | ⟨-, -, -, he⟩ | ⟨-, -, -, he⟩
  · simp [he]
  · omega
  · simp [he]
  rw [he]
  rcases readAlert_cases conn h with ⟨hs, hr⟩ | ⟨hw, hr⟩ <;> rw [hr]
  · refine ⟨rfl, .inr (.inl ⟨rfl, rfl, rfl, rfl, ?_⟩)⟩
    simp only [List.length_append]
    omega
  have hlen : ((conn.alertIn ++ conn.«in»).take 2).length = 2 := by
    simp only [List.length_take, List.length_append]; omega
  rcases dispatchAlert_cases { conn with «in» := conn.«in».drop (2 - conn.alertIn.length),
                                         alertIn := (conn.alertIn ++ conn.«in»).take 2 } with
    ⟨hc, hd⟩ | ⟨-, -, hd⟩ | ⟨hc, -, hd⟩ <;> rw [hd]
  · exact ⟨rfl, .inr (.inr (.inl ⟨rfl, rfl, rfl, rfl, hlen, hc, rfl⟩))⟩
  · exact ⟨rfl, .inr (.inl ⟨rfl, rfl, rfl, rfl, Nat.zero_le _⟩)⟩
  · refine ⟨rfl, .inr (.inr (.inr ⟨rfl, rfl, rfl, rfl, hlen, hc, ?_⟩))⟩
    split <;> simp

theorem processAlertFragment_of_whole (conn : Connection) (h : conn.alertIn.length = 2) :
    processAlertFragment conn =
      (.error (if conn.«in» = [] then errBadMessage else errAlertPresent), conn) := by
  by_cases hin : conn.«in» = []
  · simp [processAlertFragment_of_in_nil hin, hin]
  · simp [processAlertFragment_of_full hin h, hin]

theorem AlertOp.readerView_step_of_whole {conn : Connection} (h : conn.alertIn.length = 2)
    (op : AlertOp) : (op.step conn).2.readerView = conn.readerView := by
  cases hop : op.isRecord
  · exact AlertOp.readerView_step hop conn
  cases op with
  | recvAlertRecord record =>
    rw [AlertOp.step, processAlertFragment_of_whole { conn with «in» := record } h]
    rfl
  | _ => cases hop

theorem run_readerView_of_whole {conn : Connection} (h : conn.alertIn.length = 2) (ops : List AlertOp) :
    (run conn ops).readerView = conn.readerView := by
  induction ops generalizing conn with
  | nil => rfl
  | cons op ops ih =>
    have hv := AlertOp.readerView_step_of_whole h op
    have h' : (op.step conn).2.alertIn.length = 2 := by
      rw [← h]
      exact congrArg (fun v => v.1.length) hv
    rw [run_cons, ih h', hv]

/-- RFC 5077 5.1 as the code does it: a call tells the cache to forget the
session exactly when it fails with `S2N_ERR_ALERT` on a connection that may be
cached and has a session id, and it passes that session id. -/
theorem processAlertFragment_cacheDeleteCalls (conn : Connection) :
    (processAlertFragment conn).2.cacheDeleteCalls =
      if (processAlertFragment conn).1 = .error errAlert ∧ conn.allowedToCache = true ∧
          conn.sessionId ≠ [] then conn.cacheDeleteCalls ++ [conn.sessionId]
      else conn.cacheDeleteCalls := by
  have hbad : (Except.error errBadMessage : S2nResult) ≠ .error errAlert := by decide
  have hpresent : (Except.error errAlertPresent : S2nResult) ≠ .error errAlert := by decide
  have hfull : (Except.error errStufferIsFull : S2nResult) ≠ .error errAlert := by decide
  rcases Nat.lt_or_ge 2 conn.alertIn.length with h | h
  · rw [processAlertFragment_of_overfull conn h]
    split <;> simp [hbad, hfull]
  rcases processAlertFragment_cases conn h with
    ⟨-, he⟩ | ⟨-, -, he⟩ | ⟨-, -, -, he⟩ | ⟨-, h1, -, he⟩ <;> rw [he]
  · simp [hbad]
  · simp [hpresent]
  · simp [hbad]
  rcases readAlert_cases conn h1 with ⟨-, hr⟩ | ⟨-, hr⟩ <;> rw [hr]
  · simp
  rcases dispatchAlert_cases _ with ⟨-, hd⟩ | ⟨-, -, hd⟩ | ⟨-, -, hd⟩ <;> rw [hd]
  · simp
  · simp
  · simp

/-- The reader's invariant; `log₀` is the log of `cache_delete` calls when the
run began. -/
structure ReaderInvariant (log₀ : List (List UInt8)) (conn : Connection) : Prop where
  alertIn_le : conn.alertIn.length ≤ 2
  closed_iff : conn.closed = true ↔ conn.alertIn.length = 2
  closeNotifyReceived_iff :
    conn.closeNotifyReceived = true ↔ conn.closed = true ∧ conn.alertIn.getD 1 0 = tlsAlertCloseNotify
  cache_of_open : conn.closed = false → conn.cacheDeleteCalls = log₀
  cache : conn.cacheDeleteCalls = log₀ ∨
    (conn.closeNotifyReceived = false ∧ conn.cacheDeleteCalls = log₀ ++ [conn.sessionId])

namespace ReaderInvariant

variable {log₀ : List (List UInt8)} {conn : Connection}

theorem init (hin : conn.alertIn = []) (hclosed : conn.closed = false)
    (hcnr : conn.closeNotifyReceived = false) : ReaderInvariant conn.cacheDeleteCalls conn where
  alertIn_le := by simp [hin]
  closed_iff := by simp [hin, hclosed]
  closeNotifyReceived_iff := by simp [hcnr, hclosed]
  cache_of_open := fun _ => rfl
  cache := .inl rfl

theorem of_readerView (hi : ReaderInvariant log₀ conn) {conn' : Connection}
    (hv : conn'.readerView = conn.readerView) : ReaderInvariant log₀ conn' := by
  simp only [Connection.readerView, Prod.mk.injEq] at hv
  obtain ⟨ha, hc, hn, hl, hs⟩ := hv
  obtain ⟨h1, h2, h3, h4, h5⟩ := hi
  exact ⟨ha ▸ h1, ha ▸ hc ▸ h2, ha ▸ hc ▸ hn ▸ h3, hc ▸ hl ▸ h4, hl ▸ hn ▸ hs ▸ h5⟩

theorem open_of_le (hi : ReaderInvariant log₀ conn) (h : conn.alertIn.length ≤ 1) :
    conn.closed = false ∧ conn.closeNotifyReceived = false ∧ conn.cacheDeleteCalls = log₀ := by
  have hc : conn.closed = false := by
    cases hc : conn.closed
    · rfl
    · have := hi.closed_iff.mp hc; omega
  have hn : conn.closeNotifyReceived = false := by
    cases hn : conn.closeNotifyReceived
    · rfl
    · simp [hi.closeNotifyReceived_iff.mp hn] at hc
  exact ⟨hc, hn, hi.cache_of_open hc⟩

theorem recv (hi : ReaderInvariant log₀ conn) (record : List UInt8) :
    ReaderInvariant log₀ (processAlertFragment { conn with «in» := record }).2 := by
  have hc : ReaderInvariant log₀ { conn with «in» := record } := hi.of_readerView rfl
  by_cases h2 : conn.alertIn.length = 2
  · rw [processAlertFragment_of_whole { conn with «in» := record } h2]
    exact hc
  have h1 : conn.alertIn.length ≤ 1 := by have := hi.alertIn_le; omega
  obtain ⟨hcl, hcn, hca⟩ := hi.open_of_le h1
  have hopen := processAlertFragment_of_open { conn with «in» := record } h1
  dsimp only at hopen
  rcases hopen with
    ⟨hs, ⟨-, he⟩ | ⟨-, hcl', hcn', hca', hlen⟩ | ⟨-, hcl', hcn', ha, hlen, hd, hca'⟩ |
      ⟨-, hcl', hcn', ha, hlen, hd, hca'⟩⟩
  · rw [he]; exact hc
  · refine ⟨by omega, ?_, ?_, ?_, .inl ?_⟩ <;> simp_all
    omega
  · refine ⟨by rw [ha]; omega, ?_, ?_, ?_, .inl ?_⟩ <;> simp_all
  · refine ⟨by rw [ha]; omega, ?_, ?_, ?_, ?_⟩ <;> simp_all

theorem step (hi : ReaderInvariant log₀ conn) (op : AlertOp) :
    ReaderInvariant log₀ (op.step conn).2 := by
  cases op with
  | recvAlertRecord record => exact hi.recv record
  | _ => exact hi.of_readerView (AlertOp.readerView_step (by rfl) conn)

theorem recv_result (hi : ReaderInvariant log₀ conn) (record : List UInt8) :
    (processAlertFragment { conn with «in» := record }).1 ∈
      [.ok (), .error errBadMessage, .error errAlertPresent, .error errAlert] := by
  by_cases h2 : conn.alertIn.length = 2
  · rw [processAlertFragment_of_whole { conn with «in» := record } h2]
    split <;> simp
  have hopen := processAlertFragment_of_open { conn with «in» := record }
    (by have := hi.alertIn_le; simp only; omega)
  dsimp only at hopen
  rcases hopen with ⟨-, ⟨hr, -⟩ | ⟨hr, -⟩ | ⟨hr, -⟩ | ⟨hr, -⟩⟩ <;> simp [hr]

theorem closes_with (hi : ReaderInvariant log₀ conn) (op : AlertOp)
    (hopen : conn.closed = false) (hclosed : (op.step conn).2.closed = true) :
    ∃ record, op = .recvAlertRecord record ∧
      (op.step conn).2.alertIn = (conn.alertIn ++ record).take 2 := by
  cases hop : op.isRecord
  · have hkeep : (op.step conn).2.closed = conn.closed :=
      congrArg (fun v => v.2.1) (AlertOp.readerView_step hop conn)
    rw [hkeep, hopen] at hclosed
    cases hclosed
  cases op with
  | recvAlertRecord record =>
    have h1 : conn.alertIn.length ≤ 1 := by
      have := hi.alertIn_le; have := hi.closed_iff; simp_all; omega
    have hopen' := processAlertFragment_of_open { conn with «in» := record } h1
    dsimp only at hopen'
    rcases hopen' with ⟨-, ⟨-, he⟩ | ⟨-, hcl, -⟩ | ⟨-, -, -, ha, -⟩ | ⟨-, -, -, ha, -⟩⟩
    · simp only [AlertOp.step] at hclosed
      rw [he] at hclosed
      simp [hopen] at hclosed
    · simp only [AlertOp.step] at hclosed
      rw [hcl, hopen] at hclosed
      cases hclosed
    · exact ⟨record, rfl, ha⟩
    · exact ⟨record, rfl, ha⟩
  | _ => cases hop

theorem closed_history (hi : ReaderInvariant log₀ conn) (hopen : conn.closed = false)
    (ops : List AlertOp) (hclosed : (run conn ops).closed = true) :
    ∃ ops₁ record ops₂, ops = ops₁ ++ .recvAlertRecord record :: ops₂ ∧
      (run conn ops₁).closed = false ∧ (run conn (ops₁ ++ [.recvAlertRecord record])).closed = true ∧
      (run conn ops).alertIn = ((run conn ops₁).alertIn ++ record).take 2 := by
  induction ops generalizing conn log₀ with
  | nil => exact absurd (hopen.symm.trans hclosed) Bool.false_ne_true
  | cons op ops ih =>
    cases hstep : (op.step conn).2.closed
    · obtain ⟨ops₁, record, ops₂, rfl, h1, h2, h3⟩ := ih (hi.step op) hstep hclosed
      exact ⟨op :: ops₁, record, ops₂, rfl, h1, h2, h3⟩
    · -- the closing record; nothing after it changes `alert_in`
      obtain ⟨record, rfl, ha⟩ := hi.closes_with op hopen hstep
      have hwhole := (hi.step (.recvAlertRecord record)).closed_iff.mp hstep
      exact ⟨[], record, ops, rfl, hopen, hstep,
        (congrArg Prod.fst (run_readerView_of_whole hwhole ops)).trans ha⟩

theorem cache_changed (hi : ReaderInvariant log₀ conn) (op : AlertOp)
    (h : (op.step conn).2.cacheDeleteCalls ≠ conn.cacheDeleteCalls) :
    (op.step conn).1 = .error errAlert ∧ conn.closeNotifyReceived = false := by
  cases hop : op.isRecord
  · exact absurd (congrArg (fun v => v.2.2.2.1) (AlertOp.readerView_step hop conn)) h
  cases op with
  | recvAlertRecord record =>
    by_cases h2 : conn.alertIn.length = 2
    · simp [AlertOp.step, processAlertFragment_of_whole { conn with «in» := record } h2] at h
    have h1 : conn.alertIn.length ≤ 1 := by have := hi.alertIn_le; omega
    obtain ⟨-, hcn, -⟩ := hi.open_of_le h1
    have hopen := processAlertFragment_of_open { conn with «in» := record } h1
    dsimp only at hopen
    rcases hopen with ⟨-, ⟨-, he⟩ | ⟨-, -, -, hca, -⟩ | ⟨-, -, -, -, -, -, hca⟩ | ⟨hr, -⟩⟩
    · simp [AlertOp.step, he] at h
    · exact absurd hca h
    · exact absurd hca h
    · exact ⟨hr, hcn⟩
  | _ => cases hop

end ReaderInvariant

/-- From a connection with `alert_in` empty and `closed` and
`close_notify_received` clear, every run of records, queue calls, drains and
version changes reaches only states where: `alert_in` holds at most two bytes
and no record makes the copy into it fail; it is whole exactly when the
connection is closed, and then holds the first two bytes of the buffered alert
and the record that closed it, whatever steps came after, with
`close_notify_received` set exactly for a close_notify; only a record closes;
a closed connection refuses every record and changes nothing; and
`cache_delete` has run at most once, in a call failing with `S2N_ERR_ALERT`
before any close_notify. -/
theorem reader_run_invariant (c₀ : Connection) (hin : c₀.alertIn = []) (hclosed : c₀.closed = false)
    (hcnr : c₀.closeNotifyReceived = false) (ops : List AlertOp) :
    let conn := run c₀ ops
    (conn.alertIn.length ≤ 2 ∧
      ∀ record, (processAlertFragment { conn with «in» := record }).1 ∈
        [.ok (), .error errBadMessage, .error errAlertPresent, .error errAlert]) ∧
    ((conn.closed = true ↔ conn.alertIn.length = 2) ∧
      (conn.closed = true → ∃ ops₁ record ops₂, ops = ops₁ ++ .recvAlertRecord record :: ops₂ ∧
        (run c₀ ops₁).closed = false ∧ (run c₀ (ops₁ ++ [.recvAlertRecord record])).closed = true ∧
        conn.alertIn = ((run c₀ ops₁).alertIn ++ record).take 2) ∧
      (conn.closed = true →
        (conn.closeNotifyReceived = true ↔ conn.alertIn.getD 1 0 = tlsAlertCloseNotify)) ∧
      ∀ op : AlertOp, conn.closed = false → (op.step conn).2.closed = true →
        ∃ record, op = .recvAlertRecord record ∧
          (op.step conn).2.alertIn = (conn.alertIn ++ record).take 2) ∧
    (conn.closed = true → ∀ record, processAlertFragment { conn with «in» := record } =
      (.error (if record = [] then errBadMessage else errAlertPresent), { conn with «in» := record })) ∧
    (conn.cacheDeleteCalls.length ≤ c₀.cacheDeleteCalls.length + 1 ∧
      ∀ op : AlertOp, (op.step conn).2.cacheDeleteCalls ≠ conn.cacheDeleteCalls →
        (op.step conn).1 = .error errAlert ∧ conn.closeNotifyReceived = false) := by
  intro conn
  have hi : ReaderInvariant c₀.cacheDeleteCalls conn :=
    run_induction (fun _ op h => h.step op) (ReaderInvariant.init hin hclosed hcnr) ops
  refine ⟨⟨hi.alertIn_le, hi.recv_result⟩,
    ⟨hi.closed_iff, (ReaderInvariant.init hin hclosed hcnr).closed_history hclosed ops, fun hc => ?_,
      hi.closes_with⟩,
    fun hc record => ?_, ?_, hi.cache_changed⟩
  · simp [hi.closeNotifyReceived_iff, hc]
  · exact processAlertFragment_of_whole { conn with «in» := record } (hi.closed_iff.mp hc)
  · rcases hi.cache with h | ⟨-, h⟩ <;> simp [h]

/-- A close_notify split over two records, with a queue call between them. -/
theorem reader_run_invariant_split_close_notify :
    let c₀ : Connection :=
      { «in» := [], alertIn := [], closed := false, closeNotifyReceived := false, closing := false,
        writerAlertOut := [], readerAlertOut := [], closeNotifyQueued := false,
        protocolVersion := 33, alertBehavior := .failOnWarnings, quicEnabled := false,
        allowedToCache := true, sessionId := [7], cacheDeleteCalls := [] }
    let ops := [AlertOp.recvAlertRecord [1], .queue .writerCloseAlertWarning, .recvAlertRecord [0, 2, 40]]
    c₀.alertIn = [] ∧ c₀.closed = false ∧ c₀.closeNotifyReceived = false ∧
      ((run c₀ ops).closed = true ↔ (run c₀ ops).alertIn.length = 2) :=
  ⟨rfl, rfl, rfl, (reader_run_invariant _ rfl rfl rfl _).2.1.1⟩

/-- From a start with `close_notify_received` already set, a fatal alert closes
the connection with the flag still set and expires the session while it is
set: the run-level invariant needs the flag clear at the start. -/
theorem reader_run_close_notify_preset :
    let c₀ : Connection :=
      { «in» := [], alertIn := [], closed := false, closeNotifyReceived := true, closing := false,
        writerAlertOut := [], readerAlertOut := [], closeNotifyQueued := false,
        protocolVersion := 33, alertBehavior := .failOnWarnings, quicEnabled := false,
        allowedToCache := true, sessionId := [7], cacheDeleteCalls := [] }
    let step := (AlertOp.recvAlertRecord [2, 40]).step c₀
    step.1 = .error errAlert ∧ step.2.closed = true ∧ step.2.alertIn = [2, 40] ∧
      step.2.closeNotifyReceived = true ∧ step.2.cacheDeleteCalls = [[7]] := by
  decide

end S2n
