import Starry.ConfigStore.Parts

/-!
# A transaction ends in one of four ways

It succeeded, it failed before it touched the managed file, it was rolled back, or it asks for an
operator. The same walk through `execute_transaction` shows what is on disk at every point of it.
-/

open Library

namespace Starry.ConfigStore

variable (env : Env)

/-- The transaction can get as far as replacing a managed file that did not exist. -/
def Vulnerable (work : TransactionWork) (w : World) : Prop :=
  w.disk.config = none ∧ strongEtag env [] = work.baseEtag ∧
    ∃ value, RuntimeSnapshot.fromValue value = .ok work.baseRuntime

/-! ## What is on disk -/

/-- Wherever the agent stops, the file is the original and nothing says that the operation
succeeded, or it did succeed and the file is the candidate, or the operation is not ended. -/
def CrashSafe (id : String) (original : Option Bytes) (candidate : Bytes) : OnDisk :=
  fun config record audits =>
    config = original ∧ (∀ o, record = some o → o.state ≠ .succeeded) ∧ Unclaimed id audits ∨
      config = some candidate ∧ (∃ o, record = some o ∧ o.state = .succeeded) ∨
      ∃ o, record = some o ∧ o.state.isTerminal = false

/-! ## How it ends -/

/-- The state of the store in which a transaction ends, by the state before it. -/
inductive Ended (work : TransactionWork) (v₀ v : View) : Prop
  | succeeded (o : Operation) (ack : Value) (hop : v.operation = some o)
      (hstate : o.state = .succeeded) (hack : o.activationAck = some ack)
      (hconfig : v.config = some work.candidate) (hactivated : Activated work ack v)
      (hmanual : v.manual = false)
  | failed (o : Operation) (hop : v.operation = some o) (hstate : o.state = .failed)
      (hconfig : v.config = v₀.config) (hchanges : v.changes = v₀.changes)
      (hmanual : v.manual = false)
  | rolledBack (o : Operation) (hop : v.operation = some o) (hstate : o.state = .rolledBack)
      (hconfig : v.config = v₀.config) (hreported : Reported work v) (hmanual : v.manual = false)
  | manual (o : Operation) (hop : v.operation = some o) (hstate : o.state.isTerminal = false)
      (hmanual : v.manual = true)

/-- An end, with what is on disk at it. -/
structure Final (work : TransactionWork) (v₀ v : View) : Prop where
  ended : Ended work v₀ v
  durable : v.durably (CrashSafe work.operationId v₀.config work.candidate)

/-- A transaction that is under way: it is not ended in memory nor on disk. -/
structure Underway (work : TransactionWork) (v : View) : Prop where
  operation : ∃ o, v.operation = some o ∧ o.state.isTerminal = false
  record : ∃ o, v.record = some o ∧ o.state.isTerminal = false
  unclaimed : Unclaimed work.operationId v.audits
  manual : v.manual = false

theorem Underway.kept {work : TransactionWork} {v v' : View} (h : Underway work v)
    (hk : Kept work.operationId v v') : Underway work v' :=
  ⟨by rw [hk.operation]; exact h.operation, by rw [hk.record]; exact h.record,
    hk.audits h.unclaimed, hk.manual.trans h.manual⟩

section

variable {H : Prop} {work : TransactionWork} {w : World} {v₀ v : View}

theorem Underway.crashSafe {original : Option Bytes} (h : Underway work v) :
    v.durably (CrashSafe work.operationId original work.candidate) :=
  .inr (.inr h.record)

theorem Audited.unclaimed {state : OperationState} {v' : View} (h : Audited state v v')
    (hstate : state ≠ .succeeded) (hu : Unclaimed work.operationId v.audits) :
    Unclaimed work.operationId v'.audits := by
  obtain rfl | ⟨a, ha, rfl⟩ := h
  · exact hu
  · refine hu.put ?_
    rw [ha]
    simpa using hstate

/-- Writing the audit record of the end changes nothing else. -/
theorem Audited.same {state : OperationState} {v' : View} (h : Audited state v v') :
    v'.config = v.config ∧ v'.changes = v.changes ∧ v'.manual = v.manual ∧
      v'.operation = v.operation ∧ v'.record = v.record ∧ v'.replies = v.replies ∧
      v'.revisions = v.revisions ∧ v'.manifests = v.manifests ∧ v'.documents = v.documents := by
  obtain rfl | ⟨a, _, rfl⟩ := h
  all_goals exact ⟨rfl, rfl, rfl, rfl, rfl, rfl, rfl, rfl, rfl⟩

/-- The rules under which a transaction is followed. -/
def following (H : Prop) (work : TransactionWork) (original : Option Bytes) :
    Rules Act Act.Reply World :=
  during H work.operationId (CrashSafe work.operationId original work.candidate)

/-- An end in which the managed file is the original. -/
theorem safe_finish_unchanged {state : OperationState} {error : TransactionError}
    {recovery : Option RecoveryResult} (hv : view work.operationId w = v) (hw : Underway work v)
    (hconfig : v.config = v₀.config) (hstate : state ≠ .succeeded)
    (hend : ∀ o v', o.state = state → Audited state v v' →
      Ended work v₀ { v' with operation := some o, record := some o }) :
    (following H work v₀.config).Safe (finishOperation work state none error recovery)
      (fun _ t => Final work v₀ (view work.operationId t)) w := by
  obtain ⟨found, hfound, hlive⟩ := hw.operation
  have hlater : ∀ v', Audited state v v' →
      v'.durably (CrashSafe work.operationId v₀.config work.candidate) := by
    intro v' ha
    refine .inr (.inr ?_)
    rw [ha.same.2.2.2.2.1]
    exact hw.record
  have hunchanged : ∀ v' (o : Operation), Audited state v v' → o.state = state →
      CrashSafe work.operationId v₀.config work.candidate v'.config (some o) v'.audits := by
    intro v' o ha ho
    refine .inl ⟨ha.same.1.trans hconfig, ?_, ha.unclaimed hstate hw.unclaimed⟩
    rintro o' ⟨⟩
    rwa [ho]
  refine safe_finishOperation rfl hv hfound hlater ?_ ?_ ?_
  · exact fun v' problem time ha => hunchanged v' _ ha rfl
  · intro v' o t ha ho ht
    rw [ht]
    exact ⟨hend o v' ho ha, hunchanged v' o ha ho⟩
  · intro v' record t ha hrecord ht
    rw [ht]
    refine ⟨.manual found (ha.same.2.2.2.1.trans hfound) hlive rfl, ?_⟩
    obtain rfl | ⟨o, ho, rfl⟩ := hrecord
    · exact hlater v' ha
    · exact hunchanged v' o ha ho

/-- An end that asks for an operator. -/
theorem safe_finish_manual {error : TransactionError} {recovery : Option RecoveryResult}
    {work' : TransactionWork} (hwork : work'.operationId = work.operationId)
    (hv : view work.operationId w = v)
    (hop : ∃ o, v.operation = some o ∧ o.state.isTerminal = false) (hmanual : v.manual = true)
    (hrecord : (v.config = some work.candidate ∧ ∃ o, v.record = some o ∧ o.state = .succeeded) ∨
      ∃ o, v.record = some o ∧ o.state.isTerminal = false) :
    (following H work v₀.config).Safe
      (finishOperation work' .manualInterventionRequired none error recovery)
      (fun _ t => Final work v₀ (view work.operationId t)) w := by
  obtain ⟨found, hfound, hlive⟩ := hop
  have hlater : ∀ v', Audited .manualInterventionRequired v v' →
      v'.durably (CrashSafe work.operationId v₀.config work.candidate) := by
    intro v' ha
    obtain ⟨hconfig, -, -, -, hrec, -⟩ := ha.same
    refine .inr ?_
    rw [hconfig, hrec]
    exact hrecord
  have hmarked : ∀ (v' : View) (o : Operation), o.state = .manualInterventionRequired →
      CrashSafe work.operationId v₀.config work.candidate v'.config (some o) v'.audits :=
    fun v' o ho => .inr (.inr ⟨o, rfl, by rw [ho]; rfl⟩)
  refine safe_finishOperation hwork hv hfound hlater ?_ ?_ ?_
  · exact fun v' problem time ha => hmarked v' _ rfl
  · intro v' o t ha ho ht
    rw [ht]
    exact ⟨.manual o rfl (by rw [ho]; rfl) (ha.same.2.2.1.trans hmanual), hmarked v' o ho⟩
  · intro v' record t ha hrec ht
    rw [ht]
    refine ⟨.manual found (ha.same.2.2.2.1.trans hfound) hlive rfl, ?_⟩
    obtain rfl | ⟨o, ho, rfl⟩ := hrec
    · exact hlater v' ha
    · exact hmarked v' o ho

theorem safe_recoverTransaction {original : OriginalConfig} {cause : TransactionError}
    (hH : original.bytes = none → H) (horiginal : original.bytes = v₀.config)
    (hw : Underway work (view work.operationId w)) :
    (following H work v₀.config).Safe (recoverTransaction work original cause)
      (fun _ t => Final work v₀ (view work.operationId t)) w := by
  unfold recoverTransaction
  refine Rules.safe_bind.mpr (Rules.safe_run.mpr ?_)
  have hsafe : ∀ v', Kept work.operationId (view work.operationId w) v' →
      v'.durably (CrashSafe work.operationId v₀.config work.candidate) :=
    fun v' hk => (hw.kept hk).crashSafe
  refine (tries_confirmRestored hH hsafe ⟨rfl, rfl, rfl, rfl, fun h => h⟩).mono ?_ ?_
  · rintro _ t ⟨ht, hconfig, hreported⟩
    have hw' := hw.kept ht
    refine safe_finish_unchanged rfl hw' (hconfig.trans horiginal) (by simp) ?_
    intro o v' ho ha
    obtain ⟨hsame, -, hmanual, -, -, hreplies, -⟩ := ha.same
    refine .rolledBack o rfl ho ((hsame.trans hconfig).trans horiginal) ?_
      (hmanual.trans hw'.manual)
    unfold Reported
    dsimp only
    rw [hreplies]
    exact hreported
  · intro e t ht
    have hw' := hw.kept ht
    refine Rules.safe_bind.mpr (safe_markManual.mpr ⟨hw'.crashSafe, ?_⟩)
    refine safe_finish_manual rfl rfl ?_ rfl (.inr ?_)
    · exact hw'.operation
    · exact hw'.record

theorem safe_recordSuccess {ack : Value} (hw : Underway work (view work.operationId w))
    (hconfig : (view work.operationId w).config = some work.candidate)
    (hactivated : Activated work ack (view work.operationId w)) :
    (following H work v₀.config).Safe (recordSuccess env work ack)
      (fun _ t => Final work v₀ (view work.operationId t)) w := by
  obtain ⟨found, hfound, hlive⟩ := hw.operation
  unfold recordSuccess
  refine Rules.safe_bind.mpr (safe_now.mpr ⟨hw.crashSafe, fun time => ?_⟩)
  set audit : AuditRecord := { work.audit with
    afterEtag := some (strongEtag env work.candidate),
    generation := some (((ack.get "generation").bind Value.asU64).getD 0),
    result := .state .succeeded, updatedAt := time } with haudit
  -- The audit record says succeeded; the operation is still running on disk.
  have hpublish : (view work.operationId (w.publish (.audit audit))).durably
      (CrashSafe work.operationId v₀.config work.candidate) := .inr (.inr hw.record)
  have hmanual : ∀ t : World, view work.operationId t = view work.operationId w ∨
      view work.operationId t = view work.operationId (w.publish (.audit audit)) ∨
      (∃ o : Operation, o.state = .succeeded ∧ view work.operationId t =
        { view work.operationId (w.publish (.audit audit)) with record := some o }) →
      (following H work v₀.config).Safe
        (do
          markManual
          finishOperation { work with audit } .manualInterventionRequired none
            (rollbackFailed
              "The configuration activated but its durable result could not be recorded.")
            (some .durableResultFailed))
        (fun _ t => Final work v₀ (view work.operationId t)) t := by
    intro t ht
    have hop : (view work.operationId t).operation = some found := by
      obtain ht | ht | ⟨o, _, ht⟩ := ht <;> rw [ht] <;> exact hfound
    have hrecord : ((view work.operationId t).config = some work.candidate ∧
        ∃ o, (view work.operationId t).record = some o ∧ o.state = .succeeded) ∨
        ∃ o, (view work.operationId t).record = some o ∧ o.state.isTerminal = false := by
      obtain ht | ht | ⟨o, ho, ht⟩ := ht <;> rw [ht]
      · exact .inr hw.record
      · exact .inr hw.record
      · exact .inl ⟨hconfig, o, rfl, ho⟩
    refine Rules.safe_bind.mpr (safe_markManual.mpr ⟨.inr hrecord, ?_⟩)
    exact safe_finish_manual rfl rfl ⟨found, hop, hlive⟩ rfl hrecord
  refine Rules.safe_bind.mpr (Rules.safe_run.mpr (Rules.tries_bind.mpr (tries_orElse.mpr ?_)))
  refine safe_atomicWrite hw.crashSafe hpublish ?_ (fun _ => hmanual _ (.inl rfl))
    fun _ => hmanual _ (.inr (.inl rfl))
  refine tries_updateOperation rfl hfound hpublish ?_ ?_ ?_ ?_
  · exact fun time => .inr (.inl ⟨hconfig, _, rfl, rfl⟩)
  · intro time t ht
    dsimp only
    rw [Rules.safe_pure, ht]
    obtain ⟨hanswered, hacknowledged, revision, hsaved⟩ := hactivated
    refine ⟨.succeeded _ ack rfl rfl rfl hconfig ⟨hanswered, hacknowledged, revision, ?_⟩ hw.manual,
      .inr (.inl ⟨hconfig, _, rfl, rfl⟩)⟩
    exact ⟨hsaved.listed, hsaved.manifest, hsaved.document⟩
  · exact fun e t ht => hmanual t (.inr (.inl ht))
  · exact fun e time t ht => hmanual t (.inr (.inr ⟨_, rfl, ht⟩))

theorem safe_replaceAndActivate {original : OriginalConfig} (hH : original.bytes = none → H)
    (horiginal : original.bytes = v₀.config) (hw : Underway work (view work.operationId w))
    (hconfig : (view work.operationId w).config = v₀.config)
    (hchanges : (view work.operationId w).changes = v₀.changes) :
    (following H work v₀.config).Safe (replaceAndActivate env work original)
      (fun _ t => Final work v₀ (view work.operationId t)) w := by
  have hset : Underway work (view work.operationId (w.setConfig (some work.candidate))) :=
    hw.kept ⟨rfl, rfl, rfl, rfl, fun h => h⟩
  unfold replaceAndActivate
  refine Rules.safe_bind.mpr
    (safe_atomicReplaceConfigWithFault hw.crashSafe hset.crashSafe ?_ ?_ ?_)
  · refine Rules.safe_bind.mpr (Rules.safe_run.mpr ?_)
    refine (tries_activate env (v := view work.operationId (w.setConfig (some work.candidate)))
      (fun v' hk => (hset.kept hk.toKept).crashSafe) (.refl _)).mono ?_ ?_
    · rintro ack t ⟨ht, hactivated⟩
      exact safe_recordSuccess env (hset.kept ht.toKept) ht.config hactivated
    · intro e t ht
      exact safe_recoverTransaction hH horiginal (hset.kept ht.toKept)
  · intro e
    refine safe_finish_unchanged rfl hw hconfig (by simp) fun o v' ho ha => ?_
    obtain ⟨hsame, hcount, hmanual, -⟩ := ha.same
    exact .failed o rfl ho (hsame.trans hconfig) (hcount.trans hchanges) (hmanual.trans hw.manual)
  · intro e
    exact safe_recoverTransaction hH horiginal hset

/-- Releasing the store is the last action of every transaction. -/
theorem safe_release (h : Final work v₀ (view work.operationId w)) :
    (following H work v₀.config).Safe (releaseOperation work.operationId)
      (fun _ t => Final work v₀ (view work.operationId t) ∧
        t.memory.activeOperation ≠ some work.operationId) w := by
  refine safe_releaseOperation.mpr ⟨h.durable, ⟨?_, h.durable⟩, ?_⟩
  · cases h.ended with
    | succeeded o ack hop hstate hack hconfig hactivated hmanual =>
      obtain ⟨hanswered, hacknowledged, revision, hsaved⟩ := hactivated
      refine .succeeded o ack hop hstate hack hconfig ⟨hanswered, hacknowledged, revision, ?_⟩
        hmanual
      exact ⟨hsaved.listed, hsaved.manifest, hsaved.document⟩
    | failed o hop hstate hconfig hchanges hmanual =>
      exact .failed o hop hstate hconfig hchanges hmanual
    | rolledBack o hop hstate hconfig hreported hmanual =>
      exact .rolledBack o hop hstate hconfig hreported hmanual
    | manual o hop hstate hmanual => exact .manual o hop hstate hmanual
  · change (if w.memory.activeOperation = some work.operationId then none
      else w.memory.activeOperation) ≠ some work.operationId
    split
    · simp
    · assumption

theorem safe_runTransaction (hH : Vulnerable env work w → H)
    (hw : Underway work (view work.operationId w)) :
    (following H work w.disk.config).Safe (runTransaction env work)
      (fun _ t => Final work (view work.operationId w) (view work.operationId t)) w := by
  obtain ⟨found, hfound, hlive⟩ := hw.operation
  -- The operation is running: in memory, and on disk unless it was already.
  have hrunning : ∀ time, Underway work { view work.operationId w with
      operation := some (found.stamp .running none none time)
      record := some (found.stamp .running none none time) } := fun time =>
    ⟨⟨_, rfl, rfl⟩, ⟨_, rfl, rfl⟩, hw.unclaimed, hw.manual⟩
  have hunrecorded : ∀ (t : World) (record : Option Operation),
      (∃ o, record = some o ∧ o.state.isTerminal = false) →
      view work.operationId t = { view work.operationId w with record } →
      (following H work w.disk.config).Safe markManual
        (fun _ t => Final work (view work.operationId w) (view work.operationId t)) t := by
    intro t record hrecord ht
    have hdurable : (view work.operationId t).durably
        (CrashSafe work.operationId w.disk.config work.candidate) := by
      rw [ht]
      exact .inr (.inr hrecord)
    refine safe_markManual.mpr ⟨hdurable, ⟨.manual found ?_ hlive rfl, hdurable⟩⟩
    rw [view_markManual, ht]
    exact hfound
  unfold runTransaction
  refine Rules.safe_bind.mpr (Rules.safe_run.mpr ?_)
  refine tries_updateOperation rfl hfound hw.crashSafe ?_ ?_ ?_ ?_
  · exact fun time => .inr (.inr ⟨_, rfl, rfl⟩)
  · intro time t ht
    have hw' : Underway work (view work.operationId t) := by
      rw [ht]
      exact hrunning time
    refine Rules.safe_bind.mpr (Rules.safe_run.mpr ?_)
    refine (tries_prepare env (v := view work.operationId t)
      (fun v' hk => (hw'.kept hk.toKept).crashSafe) (.refl _)).mono ?_ ?_
    · rintro original u ⟨hu, horiginal, hetag, hvalue⟩
      rw [ht] at horiginal
      change (following H work (view work.operationId w).config).Safe
        (replaceAndActivate env work original) _ u
      refine safe_replaceAndActivate env ?_ horiginal (hw'.kept hu.toKept) ?_ ?_
      · intro hnone
        rw [hnone] at hetag
        exact hH ⟨horiginal.symm.trans hnone, hetag, hvalue⟩
      · rw [hu.config, ht]
      · rw [hu.changes, ht]
    · intro e u hu
      have hu' := hw'.kept hu.toKept
      have hconfig : (view work.operationId u).config = (view work.operationId w).config := by
        rw [hu.config, ht]
      refine safe_finish_unchanged rfl hu' hconfig (by simp) fun o v' ho ha => ?_
      obtain ⟨hsame, hcount, hmanual, -⟩ := ha.same
      refine .failed o rfl ho (hsame.trans hconfig) ?_ (hmanual.trans hu'.manual)
      rw [hcount, hu.changes, ht]
  · intro e t ht
    exact hunrecorded t _ hw.record (by rw [ht])
  · intro e time t ht
    exact hunrecorded t _ ⟨_, rfl, rfl⟩ ht

/-- From a transaction under way, every run ends in one of the four ways with the store released,
and what is on disk is safe before every action. -/
theorem safe_executeTransaction (hH : Vulnerable env work w → H)
    (hw : Underway work (view work.operationId w)) :
    (following H work w.disk.config).Safe (executeTransaction env work)
      (fun _ t => Final work (view work.operationId w) (view work.operationId t) ∧
        t.memory.activeOperation ≠ some work.operationId) w :=
  Rules.safe_bind.mpr ((safe_runTransaction env hH hw).mono fun _ _ ht => safe_release ht)

end

end Starry.ConfigStore
