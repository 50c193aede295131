import Starry.ConfigStore.Transaction

/-!
# The parts of a transaction

What the preparation, the activation and the recovery of a transaction leave of the managed file,
of the operation and of the revisions.
-/

open Library Library.Prog

namespace Starry.ConfigStore

variable (env : Env)

/-! ## Steps beside the managed file -/

attribute [local grind =] Act.quiet
attribute [local grind .] reads_quiet

@[grind .] theorem hbbs_quiet (m : Method) : TryOnly Act.quiet (hbbs m) := by
  unfold hbbs
  grind

@[grind .] theorem runtimeState_quiet : TryOnly Act.quiet runtimeState := by
  unfold runtimeState
  grind

@[grind .] theorem persistRecovery_quiet (work : TransactionWork) (original : OriginalConfig) :
    TryOnly Act.quiet (persistRecovery work original) := by
  unfold persistRecovery
  grind

@[grind .] theorem persistRevision_quiet (revision : Revision) (document : Bytes) :
    TryOnly Act.quiet (persistRevision revision document) := by
  unfold persistRevision
  grind

@[grind .] theorem persistBaseline_quiet (work : TransactionWork) (validated : ValidatedConfig)
    (bytes : Bytes) : TryOnly Act.quiet (persistBaseline env work validated bytes) := by
  refine .bind (tryOnly_lift reads_quiet.state) fun s => ?_
  split
  · exact tryOnly_pure
  · refine .bind (tryOnly_lift (newId_only trivial)) fun id => ?_
    exact .bind (tryOnly_lift reads_quiet.now) fun time => persistRevision_quiet _ _

@[grind .] theorem ensureBaselineRevision_quiet (work : TransactionWork)
    (original : OriginalConfig) : TryOnly Act.quiet (ensureBaselineRevision env work original) := by
  unfold ensureBaselineRevision
  grind

/-- The original that is kept for a recovery is the managed file, and nothing has changed yet. -/
theorem tries_readOriginal {H : Prop} {I : World → Prop} {w : World}
    {Q : OriginalConfig → World → Prop} {E : TransactionError → World → Prop} (hI : I w)
    (done : ∀ original, original.bytes = w.disk.config → Q original w) (failed : ∀ e, E e w) :
    (rules H I).Tries (readOriginal env) Q E w := by
  unfold readOriginal readRegularBounded
  refine Rules.tries_bind.mpr (tries_validateManagedParent hI (fun parent => ?_) failed)
  simp only [Rules.tries_bind, tries_lift]
  refine safe_perform _ hI fun r t hn => ?_
  obtain ⟨hr, rfl⟩ := next_readManaged hn
  obtain e | found := r
  · exact failed _
  · have hfound := hr found rfl
    obtain _ | ⟨bytes, metadata⟩ := found
    · refine Rules.tries_bind.mpr (tries_lift.mpr (safe_ask.mpr ⟨hI, fun owner => ?_⟩))
      exact done _ hfound
    · dsimp only
      split
      · exact failed _
      · refine Rules.tries_bind.mpr (tries_lift.mpr (safe_ask.mpr ⟨hI, fun owner => ?_⟩))
        dsimp only
        split
        · exact failed _
        · exact done _ hfound

section Prepare

variable {H : Prop} {id : String} {J : OnDisk} {w : World} {v : View}

theorem tries_hbbs {m : Method} {Q : Value → World → Prop} {E : TransactionError → World → Prop}
    {I : World → Prop} (hI : I w) (done : ∀ value, Q value (w.hear m (.ok value)))
    (failed : ∀ error e, E e (w.hear m (.error error))) : (rules H I).Tries (hbbs m) Q E w := by
  unfold hbbs
  refine Rules.tries_bind.mpr (tries_lift.mpr (safe_call.mpr ⟨hI, ?_⟩))
  rintro (error | value)
  · exact failed error _
  · exact done value

theorem tries_runtimeState (hJ : ∀ v', Held id v v' → v'.durably J) (hv : Held id v (view id w)) :
    (during H id J).Tries runtimeState
      (fun snapshot t => Held id v (view id t) ∧
        ∃ value, RuntimeSnapshot.fromValue value = .ok snapshot)
      (fun _ t => Held id v (view id t)) w := by
  have hhear : ∀ r, Held id v (view id (w.hear .configRuntimeState r)) := fun r =>
    hv.trans ⟨⟨rfl, rfl, rfl, rfl, fun h => h⟩, rfl, rfl⟩
  unfold runtimeState
  refine Rules.tries_bind.mpr (tries_hbbs (hJ _ hv) (fun value => ?_) fun _ _ => hhear _)
  refine tries_check.mpr ?_
  cases hvalue : RuntimeSnapshot.fromValue value with
  | error e => exact hhear _
  | ok snapshot => exact ⟨hhear _, value, hvalue⟩

/-- Nothing that can fail before the replacement touches the managed file or the operation. -/
theorem tries_prepare {work : TransactionWork} (hJ : ∀ v', Held id v v' → v'.durably J)
    (hv : Held id v (view id w)) :
    (during H id J).Tries (prepare env work)
      (fun original t => Held id v (view id t) ∧ original.bytes = v.config ∧
        strongEtag env (original.bytes.getD []) = work.baseEtag ∧
        ∃ value, RuntimeSnapshot.fromValue value = .ok work.baseRuntime)
      (fun _ t => Held id v (view id t)) w := by
  have hquiet : ∀ {α : Type} {p : Try α} {t : World}, TryOnly Act.quiet p →
      Held id v (view id t) → (during H id J).Tries p (fun _ t => Held id v (view id t))
        (fun _ t => Held id v (view id t)) t :=
    fun hp ht => tries_quiet hp hJ ht
  unfold prepare
  refine Rules.tries_bind.mpr (safe_now.mpr ⟨hJ _ hv, fun time => ?_⟩)
  refine Rules.tries_bind.mpr ((hquiet (by grind) hv).mono (fun _ t ht => ?_) fun _ _ ht => ht)
  refine Rules.tries_bind.mpr (tries_readOriginal env (hJ _ ht) (fun original ho => ?_) fun _ => ht)
  have hbytes : original.bytes = v.config := ho.trans ht.config
  split
  · exact ht
  rename_i hetag
  refine Rules.tries_bind.mpr ((tries_runtimeState hJ ht).mono ?_ fun _ _ ht => ht)
  rintro snapshot t ⟨ht, value, hvalue⟩
  split
  · exact ht
  rename_i hsnapshot
  refine Rules.tries_bind.mpr ((hquiet (by grind) ht).mono (fun _ t ht => ?_) fun _ _ ht => ht)
  refine Rules.tries_bind.mpr ((hquiet (by grind) ht).mono (fun _ t ht => ?_) fun _ _ ht => ht)
  refine Rules.tries_bind.mpr ((hquiet (by grind) ht).mono (fun _ t ht => ?_) fun _ _ ht => ht)
  split
  · exact ht
  · exact ⟨ht, hbytes, not_not.mp hetag, value, by rw [hvalue, not_not.mp hsnapshot]⟩

end Prepare

/-! ## Revisions -/

/-- A revision is listed in memory and on disk with its document. -/
structure Saved (revision : Revision) (document : Bytes) (v : View) : Prop where
  listed : v.revisions.get revision.id = some revision
  manifest : v.manifests.get revision.id = some revision
  document : v.documents.get revision.id = some document

/-- Actions that may remove revisions, but not the one with this id. -/
def Act.spares (rid : String) (a : Act) : Prop :=
  a.quiet ∧ match a with
    | .update (.dropRevision id) | .remove (.revision id) | .remove (.document id) => id ≠ rid
    | .update _ | .rename _ | .call _ => False
    | _ => True

theorem reads_spares (rid : String) : Reads (Act.spares rid) := by
  intro a ha
  refine ⟨reads_quiet a ha, ?_⟩
  cases a <;> first | trivial | cases ha

theorem Act.spares.saved {a : Act} {r : a.Reply} {w t : World} {id : String} {revision : Revision}
    {document : Bytes} (h : a.spares revision.id) (hs : Saved revision document (view id w))
    (hn : next w a r t) : Saved revision document (view id t) ∧ t.replies = w.replies := by
  obtain ⟨hlisted, hmanifest, hdocument⟩ := hs
  cases next_effect hn with
  | same => exact ⟨⟨hlisted, hmanifest, hdocument⟩, rfl⟩
  | newId _ _ => exact ⟨⟨hlisted, hmanifest, hdocument⟩, rfl⟩
  | lock m _ => exact ⟨⟨hlisted, hmanifest, hdocument⟩, rfl⟩
  | unlock m => exact ⟨⟨hlisted, hmanifest, hdocument⟩, rfl⟩
  | update u =>
    cases u with
    | dropRevision rid =>
      refine ⟨⟨?_, hmanifest, hdocument⟩, rfl⟩
      change (Keyed.drop _ rid).get revision.id = _
      rw [Keyed.get_drop, if_neg (Ne.symm h.2)]
      exact hlisted
    | _ => exact h.2.elim
  | remove f =>
    cases f with
    | revision rid =>
      refine ⟨⟨hlisted, ?_, hdocument⟩, rfl⟩
      change (Keyed.drop _ rid).get revision.id = _
      rw [Keyed.get_drop, if_neg (Ne.symm h.2)]
      exact hmanifest
    | document rid =>
      refine ⟨⟨hlisted, hmanifest, ?_⟩, rfl⟩
      change (Table.remove _ rid).get revision.id = _
      rw [Table.get_remove, if_neg (Ne.symm h.2)]
      exact hdocument
    | _ => exact h.1.elim
  | rename e => exact h.2.elim
  | call m r => exact h.2.elim
  | _ => exact h.1.elim

/-- No revision with the current etag is pruned. -/
theorem pruneOldRevisions_spares {rid currentEtag : String} {recent : List String}
    (l : List Revision) (hl : ∀ r ∈ l, r.id = rid → r.afterEtag = currentEtag) (count bytes : Nat) :
    TryOnly (Act.spares rid) (pruneOldRevisions currentEtag recent l count bytes) := by
  induction l generalizing count bytes with
  | nil => exact tryOnly_pure
  | cons r rest ih =>
    have hrest := ih fun x hx => hl x (List.mem_cons_of_mem r hx)
    unfold pruneOldRevisions
    split
    · exact tryOnly_pure
    split
    · exact hrest count bytes
    rename_i hkeep
    have hne : r.id ≠ rid := by
      intro hid
      simp [hl r List.mem_cons_self hid] at hkeep
    have hfiles : TryOnly (Act.spares rid) (removeRevisionFiles (revisionFiles r)) := by
      refine .bind (tryOnly_orElse (remove_only ⟨trivial, hne⟩)) fun _ => ?_
      exact .bind (tryOnly_orElse (remove_only ⟨trivial, hne⟩)) fun _ => tryOnly_pure
    refine .bind (tryOnly_lift (totalBytes_only (reads_spares rid) _)) fun size => ?_
    refine .bind hfiles fun _ => .bind (tryOnly_lift (update_only ⟨trivial, hne⟩)) fun _ => ?_
    exact hrest _ _

section Revisions

variable {H : Prop} {id : String} {J : OnDisk} {w : World} {v : View}

/-- Pruning keeps the revision of the current document. -/
theorem tries_pruneRevisions {revision : Revision} {document : Bytes}
    (hJ : ∀ v', Held id v v' → v'.durably J) (hv : Held id v (view id w))
    (hs : Saved revision document (view id w)) {Q : World → Prop}
    (hQ : ∀ t, Held id v (view id t) → Saved revision document (view id t) →
      t.replies = w.replies → Q t) :
    (during H id J).Tries (pruneRevisions env revision.afterEtag) (fun _ => Q) (fun _ => Q) w := by
  let K (t : World) : Prop :=
    Held id v (view id t) ∧ Saved revision document (view id t) ∧ t.replies = w.replies
  have hkeep : ∀ {α : Type} {p : Check α} {t : World}, TryOnly (Act.spares revision.id) p → K t →
      (during H id J).Tries p (fun _ => K) (fun _ => K) t := by
    intro α p t hp ht
    refine (Only.safe (I := K) hp ht fun s a ha hs => ⟨hJ _ hs.1, fun r u hn => ?_⟩).mono ?_
    · obtain ⟨hsaved, hreplies⟩ := ha.saved hs.2.1 hn.1
      exact ⟨hs.1.trans (ha.1.held id hn.1), hsaved, hreplies.trans hs.2.2⟩
    · intro r u hu
      cases r <;> exact hu
  have hout : ∀ t : World, K t → (view id t).durably J ∧
      Q (t.setLocks (t.memory.locks.erase .state)) :=
    fun t ht => ⟨hJ _ ht.1, hQ _ ht.1 ht.2.1 ht.2.2⟩
  unfold pruneRevisions
  refine tries_withLock (hJ _ hv) ?_
  refine Rules.tries_bind.mpr (tries_lift.mpr (safe_state.mpr ⟨hJ _ hv, ?_⟩))
  have hlist : ∀ r ∈ sortByText (·.createdAt) (w.memory.state.revisions.values env.order),
      r.id = revision.id → r.afterEtag = revision.afterEtag := by
    intro r hr hid
    have hmem := Keyed.mem_values.mp ((List.mem_insertionSort _).mp hr)
    have hlisted : w.memory.state.revisions.get revision.id = some revision := hs.listed
    rw [← hid, hmem] at hlisted
    cases hlisted
    rfl
  refine (hkeep (α := Unit) (t := w.setLocks (.state :: w.memory.locks)) ?_ ⟨hv, hs, rfl⟩).mono
    (fun _ t ht => hout t ht) fun _ t ht => hout t ht
  refine .bind (tryOnly_lift (totalBytes_only (reads_spares _) _)) fun bytes => ?_
  refine .bind (pruneOldRevisions_spares _ hlist _ _) fun _ => ?_
  exact tryOnly_orElse ((reads_spares _).syncDirectory _)

theorem tries_persistRevision {revision : Revision} {document : Bytes}
    (hJ : ∀ v', Held id v v' → v'.durably J) (hv : Held id v (view id w)) :
    (during H id J).Tries (persistRevision revision document)
      (fun _ t => Held id v (view id t) ∧ t.replies = w.replies ∧
        Saved revision document (view id t))
      (fun _ t => Held id v (view id t)) w := by
  have hput : ∀ (t : World) (e : Entry), Act.quiet (.rename e) → Held id v (view id t) →
      Held id v (view id (t.publish e)) :=
    fun t e he ht => ht.trans (he.held id (next_rename.mpr (.inl ⟨rfl, rfl⟩)))
  have hdocument := hput w (.document revision.id document) trivial hv
  have hmanifest := hput _ (.revision revision) trivial hdocument
  unfold persistRevision
  refine Rules.tries_bind.mpr (tries_persist (hJ _ hv) (hJ _ hdocument) ?_ hv hdocument)
  refine Rules.tries_bind.mpr
    (tries_persist (hJ _ hdocument) (hJ _ hmanifest) ?_ hdocument hmanifest)
  refine tries_lift.mpr (safe_update.mpr ⟨hJ _ hmanifest, ?_, rfl, ?_, ?_, ?_⟩)
  · exact hmanifest.trans ⟨⟨rfl, rfl, rfl, rfl, fun h => h⟩, rfl, rfl⟩
  · exact (Keyed.get_put _ revision revision.id).trans (if_pos rfl)
  · exact (Keyed.get_put _ revision revision.id).trans (if_pos rfl)
  · exact (Table.get_insert _ revision.id document revision.id).trans (if_pos rfl)

/-- A revision that was saved is found again, whatever the pruning did. -/
theorem tries_saveRevision {work : TransactionWork} {generation : Nat} {afterEtag : String}
    (hJ : ∀ v', Held id v v' → v'.durably J) (hv : Held id v (view id w)) :
    (during H id J).Tries (saveRevision env work generation afterEtag)
      (fun _ t => Held id v (view id t) ∧ t.replies = w.replies ∧
        ∃ revision, Saved revision work.candidate (view id t))
      (fun _ t => Held id v (view id t)) w := by
  unfold saveRevision
  refine Rules.tries_bind.mpr (tries_lift.mpr (safe_newId.mpr ⟨hJ _ hv, fun rid _ => ?_⟩))
  refine Rules.tries_bind.mpr (tries_lift.mpr (safe_now.mpr ⟨hJ _ hv, fun time => ?_⟩))
  refine Rules.tries_bind.mpr ((tries_persistRevision (w := w.useId rid) hJ hv).mono ?_
    fun _ _ ht => ht)
  rintro _ t ⟨ht, hreplies, hsaved⟩
  refine Rules.tries_discard.mpr (tries_lift.mpr (Rules.safe_run.mpr ?_))
  refine tries_pruneRevisions env hJ ht hsaved fun u hu hs hr => ?_
  exact ⟨hu, hr.trans hreplies, _, hs⟩

end Revisions

/-! ## Acknowledgements -/

/-- HBBS acknowledged the candidate of the transaction. -/
structure Acknowledged (work : TransactionWork) (ack : Value) : Prop where
  source : (ack.get "source_digest").bind Value.asStr = some work.candidateDigest
  effective : (ack.get "effective_digest").bind Value.asStr = some work.candidateEffectiveDigest
  schema : (ack.get "schema_version").bind Value.asU64 = some work.schemaVersion
  generation : ∃ g, (ack.get "generation").bind Value.asU64 = some g ∧
    work.baseRuntime.generation < g
  accepted : ∃ acks, (ack.get "subsystem_acks").bind Value.asArray = some acks ∧ acks ≠ [] ∧
    ∀ a ∈ acks, (a.get "accepted").bind Value.asBool = some true

theorem accepted_of_subsystemsAccepted {ack : Value} (h : subsystemsAccepted ack = true) :
    ∃ acks, (ack.get "subsystem_acks").bind Value.asArray = some acks ∧ acks ≠ [] ∧
      ∀ a ∈ acks, (a.get "accepted").bind Value.asBool = some true := by
  unfold subsystemsAccepted at h
  split at h
  · cases h
  · rename_i acks hacks
    simp only [Bool.and_eq_true, Bool.not_eq_true', List.isEmpty_eq_false_iff, List.all_eq_true,
      beq_iff_eq] at h
    exact ⟨acks, hacks, h.1, h.2⟩

theorem validateActivationAck_ok {work : TransactionWork} {ack ack' : Value}
    (h : validateActivationAck work ack = .ok ack') : ack' = ack ∧ Acknowledged work ack := by
  unfold validateActivationAck at h
  dsimp only at h
  split at h
  · cases h
  · rename_i hcond
    cases h
    simp only [Bool.or_eq_true, not_or, bne_iff_ne, ne_eq, not_not, Bool.not_eq_true',
      Bool.not_eq_true, Bool.not_eq_false] at hcond
    obtain ⟨⟨⟨⟨hsource, heffective⟩, hschema⟩, hgeneration⟩, haccepted⟩ := hcond
    refine ⟨rfl, hsource, heffective, hschema, ?_, accepted_of_subsystemsAccepted haccepted⟩
    cases hg : (ack.get "generation").bind Value.asU64 with
    | none => simp [hg] at hgeneration
    | some g => exact ⟨g, rfl, by simpa [hg] using hgeneration⟩

/-- HBBS reported the digests from before the transaction. -/
def Reported (work : TransactionWork) (v : View) : Prop :=
  ∃ value snapshot, v.replies.getLast? = some (.configRuntimeState, .ok value) ∧
    RuntimeSnapshot.fromValue value = .ok snapshot ∧
    snapshot.sourceDigest = work.baseRuntime.sourceDigest ∧
    snapshot.effectiveDigest = work.baseRuntime.effectiveDigest

section Recovery

variable {H : Prop} {id : String} {J : OnDisk} {w : World} {v : View}

/-- An activated candidate was acknowledged by the last answer and has a saved revision. -/
structure Activated (work : TransactionWork) (ack : Value) (v : View) : Prop where
  answered : v.replies.getLast? = some (.runtimeReload, .ok ack)
  acknowledged : Acknowledged work ack
  saved : ∃ revision, Saved revision work.candidate v

theorem tries_activate {work : TransactionWork} (hJ : ∀ v', Held id v v' → v'.durably J)
    (hv : Held id v (view id w)) :
    (during H id J).Tries (activate env work)
      (fun ack t => Held id v (view id t) ∧ Activated work ack (view id t))
      (fun _ t => Held id v (view id t)) w := by
  have hhear : ∀ m r, Held id v (view id (w.hear m r)) := fun m r =>
    hv.trans ⟨⟨rfl, rfl, rfl, rfl, fun h => h⟩, rfl, rfl⟩
  unfold activate
  refine Rules.tries_bind.mpr (tries_hbbs (hJ _ hv) (fun value => ?_) fun error e => hhear _ _)
  refine Rules.tries_bind.mpr (tries_check.mpr ?_)
  cases hack : validateActivationAck work value with
  | error e => exact hhear _ _
  | ok ack =>
    obtain ⟨rfl, hacknowledged⟩ := validateActivationAck_ok hack
    refine Rules.tries_bind.mpr ((tries_saveRevision env hJ (hhear _ _)).mono ?_ fun _ _ ht => ht)
    rintro _ t ⟨ht, hreplies, hsaved⟩
    refine ⟨ht, ?_, hacknowledged, hsaved⟩
    change t.replies.getLast? = _
    rw [hreplies]
    exact List.getLast?_concat

/-- A truthful existence check tells whether the managed file is there. -/
theorem safe_configExists {Q : Bool → World → Prop} (hH : H) (hw : (view id w).durably J)
    (h : Q w.disk.config.isSome w) : (during H id J).Safe configExists Q w := by
  refine ⟨hw, fun r t hn => ?_⟩
  obtain ⟨_, rfl⟩ := next_configExists hn.1
  have hr : r = t.disk.config.isSome := hn.2 hH
  rw [hr]
  exact h

/-- The managed file may have changed; everything else is as it was. -/
theorem kept_setConfig {t : World} {config : Option Bytes} (h : Kept id v (view id t)) :
    Kept id v (view id (t.setConfig config)) :=
  h.trans ⟨rfl, rfl, rfl, rfl, fun h => h⟩

theorem tries_restoreConfig {original : OriginalConfig} (hH : original.bytes = none → H)
    (hJ : ∀ v', Kept id v v' → v'.durably J) (hv : Kept id v (view id w)) :
    (during H id J).Tries (restoreConfig original) (fun _ t => Kept id v (view id t))
      (fun _ t => Kept id v (view id t)) w := by
  unfold restoreConfig
  cases hbytes : original.bytes with
  | some bytes =>
    have hset : Kept id v (view id (w.setConfig (some bytes))) := kept_setConfig hv
    refine Rules.tries_bind.mpr (tries_lift.mpr ?_)
    refine safe_atomicReplaceConfigWithFault (hJ _ hv) (hJ _ hset) ?_ ?_ ?_
    · exact hset
    · exact fun _ => hv
    · exact fun _ => hset
  | none =>
    refine Rules.tries_bind.mpr (tries_lift.mpr (safe_configExists (hH hbytes) (hJ _ hv) ?_))
    split
    · refine Rules.tries_bind.mpr (tries_orElse.mpr (safe_perform _ (hJ _ hv) fun r t hn => ?_))
      obtain ⟨rfl, rfl⟩ | ⟨⟨text, rfl⟩, rfl⟩ := next_removeConfig.mp hn
      · have hset : Kept id v (view id (w.setConfig none)) := kept_setConfig hv
        exact tries_orElse.mpr (safe_syncDirectory.mpr ⟨hJ _ hset, hset, fun _ => hset⟩)
      · exact hv
    · exact hv

/-- What passes the check of the restored bytes is the original. -/
theorem tries_verifyRestoredBytes {original : OriginalConfig} (hH : original.bytes = none → H)
    (hJ : ∀ v', Kept id v v' → v'.durably J) (hv : Kept id v (view id w)) :
    (during H id J).Tries (verifyRestoredBytes original)
      (fun _ t => Kept id v (view id t) ∧ (view id t).config = original.bytes)
      (fun _ t => Kept id v (view id t)) w := by
  unfold verifyRestoredBytes
  cases hbytes : original.bytes with
  | some expected =>
    refine Rules.tries_bind.mpr (tries_lift.mpr (safe_perform _ (hJ _ hv) fun r t hn => ?_))
    obtain ⟨hr, rfl⟩ := next_readRaw hn
    obtain _ | actual := r
    · exact hv
    · dsimp only
      split
      · exact hv
      · rename_i hne
        exact ⟨hv, by rw [← not_not.mp hne]; exact hr actual rfl⟩
  | none =>
    refine Rules.tries_bind.mpr (tries_lift.mpr (safe_configExists (hH hbytes) (hJ _ hv) ?_))
    split
    · exact hv
    · rename_i hnone
      exact ⟨hv, Option.not_isSome_iff_eq_none.mp hnone⟩

theorem tries_confirmRestored {work : TransactionWork} {original : OriginalConfig}
    (hH : original.bytes = none → H)
    (hJ : ∀ v', Kept id v v' → v'.durably J) (hv : Kept id v (view id w)) :
    (during H id J).Tries (confirmRestored work original)
      (fun _ t => Kept id v (view id t) ∧ (view id t).config = original.bytes ∧
        Reported work (view id t))
      (fun _ t => Kept id v (view id t)) w := by
  have hhear : ∀ (t : World) m r, Kept id v (view id t) → Kept id v (view id (t.hear m r)) :=
    fun t m r ht => ht.trans ⟨rfl, rfl, rfl, rfl, fun h => h⟩
  unfold confirmRestored runtimeState
  refine Rules.tries_bind.mpr ((tries_restoreConfig hH hJ hv).mono (fun _ t ht => ?_) fun _ _ ht => ht)
  refine Rules.tries_bind.mpr ((tries_verifyRestoredBytes hH hJ ht).mono ?_ fun _ _ ht => ht)
  rintro _ t ⟨ht, hconfig⟩
  refine Rules.tries_bind.mpr (Rules.tries_discard.mpr (tries_lift.mpr (safe_call.mpr ?_)))
  refine ⟨hJ _ ht, fun reply => ?_⟩
  have ht' := hhear t .runtimeReload reply ht
  refine Rules.tries_bind.mpr (Rules.tries_bind.mpr ?_)
  refine tries_hbbs (hJ _ ht') (fun value => ?_) fun error e => hhear _ _ _ ht'
  refine tries_check.mpr ?_
  cases hvalue : RuntimeSnapshot.fromValue value with
  | error e => exact hhear _ _ _ ht'
  | ok snapshot =>
    dsimp only
    split
    · exact hhear _ _ _ ht'
    · rename_i hsame
      simp only [not_or, ne_eq, not_not] at hsame
      refine ⟨hhear _ _ _ ht', hconfig, value, snapshot, ?_, hvalue, hsame⟩
      exact List.getLast?_concat

end Recovery

end Starry.ConfigStore
