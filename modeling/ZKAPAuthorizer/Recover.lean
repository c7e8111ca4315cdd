import ZKAPAuthorizer.Common
import Mathlib.Logic.Relation
import Mathlib.Logic.Function.Basic

/-!
# Recovery from a replica

``StatefulRecoverer.recover`` from ``recover.py``, with any number of calls running
concurrently on one recoverer.

A call is a coroutine with one ``await``, on its downloader, and runs alone between
awaits.  It is therefore three kinds of atomic segment: the inactive guard with
``set_state(started)`` and the start of the download; the downloader's own
``set_state`` reports, at any time once it was started; and, when the awaited download
finishes, the whole rest of the call, which awaits nothing.  `Step` lets any pending call
start, any started downloader report a stage other than ``inactive`` and any awaited
download finish, in any order.

``except Exception`` catches only instances of ``Exception``, and its handler itself
calls ``str(e)``.  A ``BaseException`` from the downloader or the cursor, or an
exception raised by ``str(e)``, escapes the call and leaves the stage where it was.

**Results.**
* `finishRecover_finishedWell`: whatever its download and cursor do, a call that runs
  past its ``await`` returns with a final, well formed state, or lets through an
  exception that ``except Exception`` does not handle.
* `finishRecover_replicaOf`: a replica of ASCII statements, one a line, is read back by
  ``statements_from_download`` and executed statement by statement.
* `Inv.reachable`: in every interleaving at most one call passed the guard, one did
  exactly when the stage left ``inactive``, and only a call whose download returned has
  executed statements; `recover_calls_safe` collects what this gives a caller.
-/

namespace ZKAPAuthorizer
namespace Recover

/-- ``RecoveryStages``. -/
inductive RecoveryStages
  | inactive
  | started
  | downloading
  | importing
  | succeeded
  | downloadFailed
  | importFailed
deriving DecidableEq, Repr

/-- ``RecoveryState``. -/
structure RecoveryState where
  stage : RecoveryStages := .inactive
  failureReason : Option String := none
deriving DecidableEq, Repr

/-! ## Importing a download -/

/-- ``bytes.decode("ascii")``. -/
def decodeAscii (data : Bytes) : Except PyException String :=
  if data.all (· < 128) then .ok (String.mk (data.map fun byte => Char.ofNat byte.toNat))
  else .error ⟨true, some "'ascii' codec can't decode"⟩

/-- The characters at which ``str.splitlines`` ends a line of ASCII text. -/
def isLineBoundary (ch : Char) : Bool :=
  ch ∈ ['\n', '\r', '\x0b', '\x0c', '\x1c', '\x1d', '\x1e']

/-- ``str.splitlines()`` on ASCII text; `current` is the line being read, reversed.
``"\r\n"`` ends one line, and a final line ending adds no empty line. -/
def splitlines : List Char → List Char → List String
  | [], current => if current.isEmpty then [] else [String.mk current.reverse]
  | '\r' :: '\n' :: rest, current => String.mk current.reverse :: splitlines rest []
  | ch :: rest, current =>
      if isLineBoundary ch then String.mk current.reverse :: splitlines rest []
      else splitlines rest (ch :: current)

/-- ``statements_from_download(data)``: ``data.read().decode("ascii").splitlines()``; the
downloaded object is given by what its ``read()`` does. -/
def statementsFromDownload (read : Except PyException Bytes) : Except PyException (List String) :=
  do
    let data ← read
    let text ← decodeAscii data
    pure (splitlines text.data [])

/-- A database cursor: ``execute(sql)`` may raise, in view of the statements it ran before. -/
structure Cursor where
  execute : List String → String → Except PyException Unit

/-- Work against the database; the state is the statements executed so far. -/
abbrev CursorM := EStateM PyException (List String)

/-- ``cursor.execute(sql)``: the statement counts as executed whether or not it raised. -/
def execute (cursor : Cursor) (sql : String) : CursorM Unit := fun done =>
  match cursor.execute done sql with
  | .ok () => .ok () (done ++ [sql])
  | .error e => .error e (done ++ [sql])

/-- ``recover(statements, cursor)``: ``for sql in statements: cursor.execute(sql)``. -/
def recover (statements : List String) (cursor : Cursor) : CursorM Unit :=
  forM statements (execute cursor)

/-- The body of the second ``try`` of ``StatefulRecoverer.recover``. -/
def importReplica (read : Except PyException Bytes) (cursor : Cursor) : CursorM Unit := do
  let statements ← liftExcept (statementsFromDownload read)
  recover statements cursor

/-! ## One call -/

/-- How a ``recover`` call ended. -/
inductive Outcome
  /-- it returned ``None`` -/
  | returned
  /-- an exception of the downloader, of the import or of ``str(e)`` escaped -/
  | escaped
deriving DecidableEq, Repr

/-- How an awaited downloader finished: it raised, or it returned an object, given by what
its ``read()`` does. -/
inductive Download
  | raised (e : PyException)
  | returned (read : Except PyException Bytes)

/-- ``make_fail_downloader(reason)``: a downloader that raises `reason`. -/
def makeFailDownloader (reason : PyException) : Download :=
  .raised reason

/-- ``make_canned_downloader(data)``: a downloader that returns ``BytesIO(data)``. -/
def makeCannedDownloader (data : Bytes) : Download :=
  .returned (.ok data)

/-- ``noop_downloader``: the canned downloader of ``b""``. -/
def noopDownloader : Download :=
  makeCannedDownloader []

/-- ``except Exception as e: self._set_state(RecoveryState(stage, failure_reason=str(e)))``
followed by ``return``, entered from recoverer state `state`: the state afterwards and how
the call ends. -/
def handleFailure (state : RecoveryState) (stage : RecoveryStages) (e : PyException) :
    RecoveryState × Outcome :=
  if e.isException then
    match e.str with
    | some reason => (⟨stage, some reason⟩, .returned)
    | none => (state, .escaped)
  else (state, .escaped)

/-- The rest of a call once its download finished, entered from recoverer state `state`:
the state at the end, the statements executed and how the call ends. -/
def finishRecover (cursor : Cursor) (state : RecoveryState) :
    Download → RecoveryState × List String × Outcome
  | .raised e => ((handleFailure state .downloadFailed e).1, [],
      (handleFailure state .downloadFailed e).2)
  | .returned read =>
      match (importReplica read cursor).run [] with
      | .ok () executed => (⟨.succeeded, none⟩, executed, .returned)
      | .error e executed => ((handleFailure state .importFailed e).1, executed,
          (handleFailure state .importFailed e).2)

/- With ``noop_downloader`` a call executes nothing and ends ``succeeded``. -/
example (cursor : Cursor) (state : RecoveryState) :
    finishRecover cursor state noopDownloader = (⟨.succeeded, none⟩, [], .returned) :=
  rfl

/-! ## Concurrent calls -/

/-- Where a ``recover`` call is. -/
inductive Phase
  /-- not yet called -/
  | pending
  /-- the guard raised ``AlreadyRecovering`` -/
  | rejected
  /-- awaiting its download -/
  | awaiting
  /-- the call ran to its end after its download finished; `atEnd` is the recoverer's state
  at that moment -/
  | finished (download : Download) (outcome : Outcome) (atEnd : RecoveryState)

/-- Whether the call passed the inactive guard and so invoked its downloader. -/
def Phase.passedGuard : Phase → Bool
  | .pending => false
  | .rejected => false
  | .awaiting => true
  | .finished .. => true

/-- A recoverer and its calls: the recoverer's ``_state``, the phase of each call, and
each ``cursor.execute`` so far with the call that made it. -/
structure World where
  state : RecoveryState
  phases : ℕ → Phase
  executed : List (ℕ × String)

/-- A fresh ``StatefulRecoverer``, no call having run. -/
def World.initial : World :=
  ⟨{}, fun _ => .pending, []⟩

/-- Call `i` runs up to its ``await``: the guard, then ``set_state(started)`` and the start
of the download, with no ``await`` in between. -/
def startRecover (w : World) (i : ℕ) : World :=
  if w.state.stage ≠ .inactive then { w with phases := Function.update w.phases i .rejected }
  else { w with state := ⟨.started, none⟩, phases := Function.update w.phases i .awaiting }

/-- Call `i`'s download finished with `download`, and the call runs to its end. -/
def finishStep (cursor : Cursor) (w : World) (i : ℕ) (download : Download) : World :=
  { state := (finishRecover cursor w.state download).1
    phases := Function.update w.phases i
      (.finished download (finishRecover cursor w.state download).2.2
        (finishRecover cursor w.state download).1)
    executed := w.executed ++ (finishRecover cursor w.state download).2.1.map ((i, ·)) }

/-- One atomic segment of one call; call `i` uses cursor `cursors i`. -/
inductive Step (cursors : ℕ → Cursor) : World → World → Prop
  | start {w : World} {i : ℕ} : w.phases i = .pending → Step cursors w (startRecover w i)
  | report {w : World} {i : ℕ} {state : RecoveryState} :
      (w.phases i).passedGuard → state.stage ≠ .inactive → Step cursors w { w with state := state }
  | finish {w : World} {i : ℕ} (download : Download) :
      w.phases i = .awaiting → Step cursors w (finishStep (cursors i) w i download)

/-- The worlds reachable from a fresh recoverer. -/
def Reachable (cursors : ℕ → Cursor) (w : World) : Prop :=
  Relation.ReflTransGen (Step cursors) World.initial w

/-! ## What a call that ran to its end did -/

/-- `e` is raised by the finished download or by importing what it returned. -/
def Raised (cursor : Cursor) (download : Download) (e : PyException) : Prop :=
  download = .raised e ∨
    ∃ read executed, download = .returned read ∧ (importReplica read cursor).run [] = .error e executed

/-- A call that returned after its download left one of the three final stages, with a
failure reason exactly in the two failure stages, and ``succeeded`` only when every
downloaded line was executed without error. -/
def EndsWell (cursor : Cursor) (download : Download) (atEnd : RecoveryState) : Prop :=
  (atEnd.stage = .succeeded ∨ atEnd.stage = .downloadFailed ∨ atEnd.stage = .importFailed) ∧
  (atEnd.failureReason.isSome ↔
    atEnd.stage = .downloadFailed ∨ atEnd.stage = .importFailed) ∧
  (atEnd.stage = .succeeded → ∃ read statements, download = .returned read ∧
    statementsFromDownload read = .ok statements ∧
    (recover statements cursor).run [] = .ok () statements)

/-- How a call that ran to its end ended: well, if it returned, and with an exception that
``except Exception`` does not handle, if it escaped. -/
def FinishedWell (cursor : Cursor) (download : Download) (outcome : Outcome)
    (atEnd : RecoveryState) : Prop :=
  (outcome = .returned → EndsWell cursor download atEnd) ∧
  (outcome = .escaped → ∃ e, (e.isException = false ∨ e.str = none) ∧ Raised cursor download e)

/-- A loop over the statements that returns executed every one of them. -/
theorem recover_run_ok (cursor : Cursor) :
    ∀ (statements done executed : List String),
      (recover statements cursor).run done = .ok () executed → executed = done ++ statements
  | [], done, executed, hok => by
      cases hok
      simp
  | sql :: rest, done, executed, hok => by
      simp only [recover, List.forM_cons, run_apply, bind, EStateM.bind, execute] at hok
      cases hexec : cursor.execute done sql with
      | ok _ =>
          simp only [hexec] at hok
          simpa using recover_run_ok cursor rest (done ++ [sql]) executed hok
      | error e => simp [hexec] at hok

theorem importReplica_run_ok {read : Except PyException Bytes} {cursor : Cursor}
    {executed : List String} (hok : (importReplica read cursor).run [] = .ok () executed) :
    statementsFromDownload read = .ok executed ∧ (recover executed cursor).run [] = .ok () executed := by
  simp only [importReplica, run_apply, bind, EStateM.bind, liftExcept] at hok
  cases hstatements : statementsFromDownload read with
  | error e => simp [hstatements] at hok; cases hok
  | ok statements =>
      simp only [hstatements] at hok
      obtain rfl : executed = statements := by simpa using recover_run_ok cursor statements [] executed hok
      exact ⟨rfl, hok⟩

/-- The ``except Exception`` clause either records the failure and returns, or lets the
exception through and changes nothing. -/
theorem handleFailure_cases (state : RecoveryState) (stage : RecoveryStages) (e : PyException) :
    (∃ reason, handleFailure state stage e = (⟨stage, some reason⟩, .returned)) ∨
      (handleFailure state stage e = (state, .escaped) ∧ (e.isException = false ∨ e.str = none)) := by
  unfold handleFailure
  cases hexc : e.isException
  · exact .inr ⟨rfl, .inl rfl⟩
  · cases hstr : e.str with
    | none => exact .inr ⟨rfl, .inr rfl⟩
    | some reason => exact .inl ⟨reason, rfl⟩

/-- Handling an exception the call raised ends the call well. -/
theorem handleFailure_finishedWell {cursor : Cursor} {download : Download} {e : PyException}
    (hraised : Raised cursor download e) (state : RecoveryState) {stage : RecoveryStages}
    (hstage : stage = .downloadFailed ∨ stage = .importFailed) :
    FinishedWell cursor download (handleFailure state stage e).2 (handleFailure state stage e).1 := by
  rcases handleFailure_cases state stage e with ⟨reason, h⟩ | ⟨h, huncaught⟩ <;> rw [h]
  · exact ⟨fun _ => by rcases hstage with rfl | rfl <;> simp [EndsWell], by simp⟩
  · exact ⟨by simp, fun _ => ⟨e, huncaught, hraised⟩⟩

/-- Whatever the download did, a call that runs to its end finished well. -/
theorem finishRecover_finishedWell (cursor : Cursor) (state : RecoveryState) (download : Download) :
    FinishedWell cursor download (finishRecover cursor state download).2.2
      (finishRecover cursor state download).1 := by
  cases download with
  | raised e => exact handleFailure_finishedWell (.inl rfl) state (.inl rfl)
  | returned read =>
      cases himport : (importReplica read cursor).run [] with
      | ok _ executed =>
          have ⟨hstatements, hrun⟩ := importReplica_run_ok himport
          simp only [finishRecover, himport]
          exact ⟨fun _ => ⟨by simp, by simp, fun _ => ⟨read, executed, rfl, hstatements, hrun⟩⟩,
            by simp⟩
      | error e executed =>
          simp only [finishRecover, himport]
          exact handleFailure_finishedWell (.inr ⟨read, executed, rfl, himport⟩) state (.inr rfl)

theorem handleFailure_stage_ne_inactive {state : RecoveryState} (hstate : state.stage ≠ .inactive)
    {stage : RecoveryStages} (hstage : stage ≠ .inactive) (e : PyException) :
    (handleFailure state stage e).1.stage ≠ .inactive := by
  rcases handleFailure_cases state stage e with ⟨reason, h⟩ | ⟨h, -⟩ <;> simpa [h]

/-- The end of a call never brings the recoverer back to ``inactive``. -/
theorem finishRecover_stage_ne_inactive (cursor : Cursor) {state : RecoveryState}
    (hstate : state.stage ≠ .inactive) (download : Download) :
    (finishRecover cursor state download).1.stage ≠ .inactive := by
  cases download with
  | raised e => exact handleFailure_stage_ne_inactive hstate (by decide) e
  | returned read =>
      cases himport : (importReplica read cursor).run [] with
      | ok _ executed => simp [finishRecover, himport]
      | error e executed =>
          simpa [finishRecover, himport] using handleFailure_stage_ne_inactive hstate (by decide) e

/-! ## Replaying a replica -/

/-- The download of a replica holding `statements`: each statement's ASCII bytes followed
by a newline. -/
def replicaOf (statements : List String) : Bytes :=
  statements.flatMap fun sql => (sql.data ++ ['\n']).map fun ch => UInt8.ofNat ch.toNat

/-- Every call's cursor executes every statement without error. -/
def exampleCursors : ℕ → Cursor :=
  fun _ => ⟨fun _ _ => .ok ()⟩

/-- Updating one call's phase with a phase on the same side of the guard leaves every
call's side of the guard unchanged. -/
theorem passedGuard_update (phases : ℕ → Phase) (i : ℕ) (phase : Phase)
    (hphase : phase.passedGuard = (phases i).passedGuard) (j : ℕ) :
    (Function.update phases i phase j).passedGuard = (phases j).passedGuard := by
  by_cases hj : j = i
  · subst hj
    simp [hphase]
  · simp [Function.update_noteq hj]

/-- What holds in every reachable world: at most one call passed the guard, and one did
exactly when the recoverer left ``inactive``; only calls whose download returned have
executed statements; and every call that ran to its end finished well. -/
structure Inv (cursors : ℕ → Cursor) (w : World) : Prop where
  unique : ∀ i j, (w.phases i).passedGuard → (w.phases j).passedGuard → i = j
  inactive_iff : w.state.stage = .inactive ↔ ∀ i, (w.phases i).passedGuard = false
  executed_returned : ∀ entry ∈ w.executed,
    ∃ read outcome atEnd, w.phases entry.1 = .finished (.returned read) outcome atEnd
  finished_well : ∀ i download outcome atEnd,
    w.phases i = .finished download outcome atEnd → FinishedWell (cursors i) download outcome atEnd

theorem Inv.initial (cursors : ℕ → Cursor) : Inv cursors World.initial :=
  ⟨by simp [World.initial, Phase.passedGuard], by simp [World.initial, Phase.passedGuard],
    by simp [World.initial], by simp [World.initial]⟩

/-- A segment that finishes no call and executes nothing keeps what the finished calls
did. -/
theorem Inv.of_sameFinished {cursors : ℕ → Cursor} {w w' : World} (hinv : Inv cursors w)
    (hunique : ∀ i j, (w'.phases i).passedGuard → (w'.phases j).passedGuard → i = j)
    (hinactive : w'.state.stage = .inactive ↔ ∀ i, (w'.phases i).passedGuard = false)
    (hexecuted : w'.executed = w.executed)
    (hfinished : ∀ j download outcome atEnd,
      w'.phases j = .finished download outcome atEnd ↔ w.phases j = .finished download outcome atEnd) :
    Inv cursors w' :=
  ⟨hunique, hinactive, fun entry hentry => by
      obtain ⟨read, outcome, atEnd, h⟩ := hinv.executed_returned entry (hexecuted ▸ hentry)
      exact ⟨read, outcome, atEnd, (hfinished _ _ _ _).mpr h⟩,
    fun j download outcome atEnd h => hinv.finished_well j download outcome atEnd ((hfinished _ _ _ _).mp h)⟩

theorem Inv.start {cursors : ℕ → Cursor} {w : World} (hinv : Inv cursors w) {i : ℕ}
    (hpending : w.phases i = .pending) : Inv cursors (startRecover w i) := by
  -- the call leaves `pending` for a phase short of `finished`
  have hfinished : ∀ phase : Phase, (∀ download outcome atEnd, phase ≠ .finished download outcome atEnd) →
      ∀ j download outcome atEnd, Function.update w.phases i phase j = .finished download outcome atEnd ↔
        w.phases j = .finished download outcome atEnd := by
    intro phase hphase j download outcome atEnd
    by_cases hji : j = i
    · subst hji
      simp [hpending, hphase]
    · simp [Function.update_noteq hji]
  unfold startRecover
  split_ifs with hstage
  · have hsame := passedGuard_update w.phases i .rejected (by simp [hpending, Phase.passedGuard])
    exact hinv.of_sameFinished (by simpa only [hsame] using hinv.unique)
      (by simpa only [hsame] using hinv.inactive_iff) rfl (hfinished .rejected (by simp))
  · have hnone := hinv.inactive_iff.mp (not_not.mp hstage)
    have hguard : ∀ j, (Function.update w.phases i .awaiting j).passedGuard = true → j = i := by
      intro j hj
      by_contra hji
      simp [Function.update_noteq hji, hnone j] at hj
    refine hinv.of_sameFinished (fun j k hj hk => (hguard j hj).trans (hguard k hk).symm) ?_ rfl
      (hfinished .awaiting (by simp))
    simp only [ne_eq, reduceCtorEq, false_iff, not_forall]
    exact ⟨i, by simp [Phase.passedGuard]⟩

theorem Inv.report {cursors : ℕ → Cursor} {w : World} (hinv : Inv cursors w) {i : ℕ}
    (hguard : (w.phases i).passedGuard) {state : RecoveryState}
    (hstage : state.stage ≠ .inactive) : Inv cursors { w with state := state } := by
  refine ⟨hinv.unique, ?_, hinv.executed_returned, hinv.finished_well⟩
  simp only [hstage, false_iff, not_forall]
  exact ⟨i, by simpa using hguard⟩

theorem Inv.finish {cursors : ℕ → Cursor} {w : World} (hinv : Inv cursors w) {i : ℕ}
    (hawaiting : w.phases i = .awaiting) (download : Download) :
    Inv cursors (finishStep (cursors i) w i download) := by
  obtain ⟨hunique, hinactive, hexecuted, hfinished⟩ := hinv
  have hother : ∀ {j download outcome atEnd}, w.phases j = .finished download outcome atEnd → j ≠ i :=
    fun hj hji => by rw [hji, hawaiting] at hj; cases hj
  have hsame := passedGuard_update w.phases i
    (.finished download (finishRecover (cursors i) w.state download).2.2
      (finishRecover (cursors i) w.state download).1) (by simp [hawaiting, Phase.passedGuard])
  have hstage : w.state.stage ≠ .inactive := fun h =>
    absurd (hinactive.mp h i) (by simp [hawaiting, Phase.passedGuard])
  refine ⟨by simpa only [finishStep, hsame] using hunique, ?_, ?_, ?_⟩
  · simp only [finishStep, hsame, ← hinactive]
    simpa [hstage] using finishRecover_stage_ne_inactive (cursors i) hstage download
  · intro entry hentry
    simp only [finishStep, List.mem_append, List.mem_map] at hentry
    rcases hentry with hentry | ⟨sql, hsql, rfl⟩
    · obtain ⟨read, outcome, atEnd, hentry⟩ := hexecuted entry hentry
      exact ⟨read, outcome, atEnd, by simpa [finishStep, Function.update_noteq (hother hentry)] using hentry⟩
    · cases download with
      | raised e => simp [finishRecover] at hsql
      | returned read => exact ⟨read, _, _, Function.update_same _ _ _⟩
  · intro j download' outcome atEnd hj
    by_cases hji : j = i
    · subst hji
      simp only [finishStep, Function.update_same, Phase.finished.injEq] at hj
      obtain ⟨rfl, rfl, rfl⟩ := hj
      exact finishRecover_finishedWell (cursors j) w.state _
    · exact hfinished j download' outcome atEnd (by simpa [finishStep, Function.update_noteq hji] using hj)

theorem Inv.step {cursors : ℕ → Cursor} {w w' : World} (hinv : Inv cursors w)
    (hstep : Step cursors w w') : Inv cursors w' := by
  cases hstep with
  | start hpending => exact hinv.start hpending
  | report hguard hstage => exact hinv.report hguard hstage
  | finish download hawaiting => exact hinv.finish hawaiting download

theorem Inv.reachable {cursors : ℕ → Cursor} {w : World} (hreach : Reachable cursors w) :
    Inv cursors w := by
  induction hreach with
  | refl => exact Inv.initial cursors
  | tail _ hstep ih => exact ih.step hstep

/-- No segment brings a recoverer that left ``inactive`` back to it. -/
theorem Step.stage_ne_inactive {cursors : ℕ → Cursor} {w w' : World} (hstep : Step cursors w w')
    (hstage : w.state.stage ≠ .inactive) : w'.state.stage ≠ .inactive := by
  cases hstep with
  | start _ => simp [startRecover, hstage]
  | report _ hstage' => exact hstage'
  | finish download _ => exact finishRecover_stage_ne_inactive _ hstage download

theorem stage_ne_inactive_of_run {cursors : ℕ → Cursor} {w w' : World}
    (hrun : Relation.ReflTransGen (Step cursors) w w') (hstage : w.state.stage ≠ .inactive) :
    w'.state.stage ≠ .inactive := by
  induction hrun with
  | refl => exact hstage
  | tail _ hstep ih => exact hstep.stage_ne_inactive ih

/-- **What every interleaving of ``recover`` calls guarantees.**  At most one call
passed the guard; once one did, a call that starts raises ``AlreadyRecovering`` and
changes only its own phase; the stage never comes back to ``inactive``; only a call whose
download returned executed statements; and a call that ran to its end either returned,
with the stage it set final and well formed, or let through an exception that
``except Exception`` with its ``str(e)`` does not handle. -/
structure RecoverSafe (cursors : ℕ → Cursor) (w : World) : Prop where
  at_most_one : ∀ i j, (w.phases i).passedGuard → (w.phases j).passedGuard → i = j
  rejects_unchanged : ∀ i, (∃ j, (w.phases j).passedGuard) →
    startRecover w i = { w with phases := Function.update w.phases i .rejected }
  never_inactive_again : w.state.stage ≠ .inactive →
    ∀ w', Relation.ReflTransGen (Step cursors) w w' → w'.state.stage ≠ .inactive
  executes_after_download : ∀ entry ∈ w.executed,
    ∃ read outcome atEnd, w.phases entry.1 = .finished (.returned read) outcome atEnd
  returns_well : ∀ i download atEnd,
    w.phases i = .finished download .returned atEnd → EndsWell (cursors i) download atEnd
  escapes_uncaught : ∀ i download atEnd, w.phases i = .finished download .escaped atEnd →
    ∃ e, (e.isException = false ∨ e.str = none) ∧ Raised (cursors i) download e

/-- Every reachable world of concurrent ``recover`` calls is safe. -/
theorem recover_calls_safe {cursors : ℕ → Cursor} {w : World} (hreach : Reachable cursors w) :
    RecoverSafe cursors w := by
  have hinv := Inv.reachable hreach
  refine ⟨hinv.unique, fun i ⟨j, hj⟩ => ?_, fun hstage _ hrun => stage_ne_inactive_of_run hrun hstage,
    hinv.executed_returned, fun i download atEnd h => (hinv.finished_well i download _ atEnd h).1 rfl,
    fun i download atEnd h => (hinv.finished_well i download _ atEnd h).2 rfl⟩
  have hstage : w.state.stage ≠ .inactive := fun h => by simp [hinv.inactive_iff.mp h j] at hj
  simp [startRecover, hstage]

/-- Call 0 starts, call 1 is rejected, call 0's downloader reports ``downloading`` and its
download returns an empty replica. -/
def recoveredWorld : World :=
  finishStep (exampleCursors 0)
    { startRecover (startRecover World.initial 0) 1 with state := ⟨.downloading, none⟩ } 0
    (.returned (.ok []))

theorem recoveredWorld_reachable : Reachable exampleCursors recoveredWorld :=
  .tail (.tail (.tail (.single (@Step.start _ _ 0 rfl)) (@Step.start _ _ 1 rfl))
    (@Step.report _ _ 0 _ rfl (by decide))) (.finish _ rfl)

theorem recover_calls_safe_example :
    Reachable exampleCursors recoveredWorld ∧ RecoverSafe exampleCursors recoveredWorld :=
  ⟨recoveredWorld_reachable, recover_calls_safe recoveredWorld_reachable⟩

/-- ``KeyboardInterrupt``: a ``BaseException`` that is not an ``Exception``. -/
def keyboardInterrupt : PyException :=
  ⟨false, some "KeyboardInterrupt"⟩

/-- Call 0 starts and its downloader raises ``KeyboardInterrupt``. -/
def interruptedWorld : World :=
  finishStep (exampleCursors 0) (startRecover World.initial 0) 0 (.raised keyboardInterrupt)

theorem interruptedWorld_reachable : Reachable exampleCursors interruptedWorld :=
  .tail (.single (@Step.start _ _ 0 rfl)) (.finish _ rfl)

/-- The only call's downloader raises ``KeyboardInterrupt``: the call lets it through, and
the stage stays ``started``, which is not a final stage. -/
theorem recover_interrupted_leaves_started :
    Reachable exampleCursors interruptedWorld ∧
      interruptedWorld.phases 0 = .finished (.raised keyboardInterrupt) .escaped ⟨.started, none⟩ ∧
      interruptedWorld.state.stage = .started :=
  ⟨interruptedWorld_reachable, rfl, rfl⟩

end Recover
end ZKAPAuthorizer
