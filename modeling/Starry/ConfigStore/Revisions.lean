import Starry.ConfigStore.Atomicity
import Starry.ConfigStore.Budget

/-!
# The revisions that are kept

`prune_revisions` deletes the oldest revisions that nothing protects while there are too many of
them or their files take too much. Of a revision the manifest goes first, then the document and
last the entry in memory.
-/

open Library Library.Prog

namespace Starry.ConfigStore

/-! ## Files -/

/-- The file is there. -/
def Disk.has (d : Disk) : File → Bool
  | .operation id => (d.operations.get id).isSome
  | .idempotency keyHash => (d.idempotency.get keyHash).isSome
  | .audit id => (d.audits.get id).isSome
  | .revision id => (d.revisions.get id).isSome
  | .document id => (d.documents.get id).isSome
  | .recovery id => (d.recovery.get id).isSome
  | .backup id => (d.backups.get id).isSome

theorem has_erase (d : Disk) (f g : File) :
    (d.erase f).has g = if g = f then false else d.has g := by
  cases f <;> cases g <;> simp only [Disk.erase, Disk.has, Keyed.get_drop, Table.get_remove] <;>
    split <;> simp_all

/-- What `fs::metadata` reports of a file: the size of one that is there and can be inspected. -/
def Disk.metadata (size : File → Option Nat) (d : Disk) (f : File) : Option Nat :=
  if d.has f then size f else none

/-- The sizes are reported as they are. -/
def Metered (size : File → Option Nat) (w : World) : (a : Act) → a.Reply → Prop
  | .ask (.fileBytes f), (r : Option Nat) => r = w.disk.metadata size f
  | _, _ => True

def metered (size : File → Option Nat) (w : World) (a : Act) (r : a.Reply) (t : World) : Prop :=
  next w a r t ∧ Metered size w a r

def Disk.revisionBytes (size : File → Option Nat) (d : Disk) (revision : Revision) : Nat :=
  ((revisionFiles revision).map fun f => (d.metadata size f).getD 0).sum

namespace Contents

/-! ## Revisions -/

def lists (c : Contents) (revision : Revision) : Prop :=
  c.state.revisions.get revision.id = some revision

def WithinRevisionLimits (size : File → Option Nat) (c : Contents) : Prop :=
  c.state.revisions.len ≤ maxRevisions ∧
    ((c.state.revisions.values .stored).map (c.disk.revisionBytes size)).sum ≤ maxRevisionBytes

/-- The revisions, the oldest one first. -/
def ordered (env : Env) (c : Contents) : List Revision :=
  sortByText (·.createdAt) (c.state.revisions.values env.order)

/-- One of the two newest revisions, or one that led to the current document. -/
def protects (env : Env) (currentEtag : String) (c : Contents) (revision : Revision) : Prop :=
  revision ∈ (c.ordered env).reverse.take 2 ∨ revision.afterEtag = currentEtag

instance (env : Env) (currentEtag : String) (c : Contents) (revision : Revision) :
    Decidable (c.protects env currentEtag revision) :=
  inferInstanceAs (Decidable (_ ∨ _))

/-- What may be deleted, the oldest one first. -/
def prunable (env : Env) (currentEtag : String) (c : Contents) : List Revision :=
  (c.ordered env).filter fun revision => !decide (c.protects env currentEtag revision)

def dropRevision (c : Contents) (revision : Revision) : Contents :=
  ((c.erase (.revision revision.id)).erase (.document revision.id)).apply
    (.dropRevision revision.id)

variable {env : Env} {currentEtag : String} {size : File → Option Nat} {c : Contents}

theorem mem_ordered {revision : Revision} : revision ∈ c.ordered env ↔ c.lists revision := by
  simp [ordered, sortByText, Keyed.mem_values, lists]

theorem lists_ordered (env : Env) (c : Contents) : c.state.revisions.Lists (c.ordered env) := by
  refine ⟨fun revision h => mem_ordered.mp h, ?_⟩
  have hperm := List.perm_insertionSort (fun x y : Revision => x.createdAt ≤ y.createdAt)
    (c.state.revisions.values env.order)
  exact (hperm.map Revision.id).nodup_iff.mpr (Keyed.nodup_values _ _)

theorem length_ordered (env : Env) (c : Contents) :
    (c.ordered env).length = c.state.revisions.len := by
  unfold ordered sortByText
  rw [List.length_insertionSort, Keyed.length_values]

theorem mem_prunable {revision : Revision} :
    revision ∈ c.prunable env currentEtag ↔
      c.lists revision ∧ ¬ c.protects env currentEtag revision := by
  simp [prunable, mem_ordered]

/-- The oldest revision comes first. -/
theorem sorted_prunable (env : Env) (currentEtag : String) (c : Contents) :
    (c.prunable env currentEtag).Pairwise fun x y => x.createdAt ≤ y.createdAt := by
  unfold prunable ordered sortByText
  have htotal : Std.Total fun x y : Revision => x.createdAt ≤ y.createdAt :=
    ⟨fun x y => le_total x.createdAt y.createdAt⟩
  have htrans : IsTrans Revision fun x y => x.createdAt ≤ y.createdAt :=
    ⟨fun _ _ _ h h' => le_trans h h'⟩
  exact (List.pairwise_insertionSort _ _).filter _

/-- The test of the code, which compares ids. -/
theorem protects_iff {revision : Revision} (h : c.lists revision) :
    ((((c.ordered env).reverse.take 2).map (·.id)).contains revision.id ||
      revision.afterEtag == currentEtag) = true ↔ c.protects env currentEtag revision := by
  rw [Bool.or_eq_true, List.contains_iff_mem, beq_iff_eq, protects]
  refine or_congr_left ⟨fun hid => ?_, fun hmem => List.mem_map_of_mem hmem⟩
  obtain ⟨found, hfound, hsame⟩ := List.mem_map.mp hid
  have hlisted : c.lists found :=
    mem_ordered.mp (List.mem_reverse.mp (List.mem_of_mem_take hfound))
  unfold lists at h hlisted
  rw [hsame, h] at hlisted
  cases hlisted
  exact hfound

/-! ## Deleted revisions -/

theorem get_dropRevisions (gone : List Revision) (id : String) (c : Contents) :
    (gone.foldl dropRevision c).state.revisions.get id =
        (if id ∈ gone.map (·.id) then none else c.state.revisions.get id) ∧
      (id ∉ gone.map (·.id) →
        (gone.foldl dropRevision c).disk.revisions.get id = c.disk.revisions.get id ∧
          (gone.foldl dropRevision c).disk.documents.get id = c.disk.documents.get id) := by
  induction gone generalizing c with
  | nil => simp
  | cons revision gone ih =>
    rw [List.foldl_cons]
    obtain ⟨hentry, hfiles⟩ := ih (c.dropRevision revision)
    constructor
    · rw [hentry]
      change (if _ then _ else (c.state.revisions.drop revision.id).get id) = _
      rw [Keyed.get_drop]
      by_cases hmem : id ∈ gone.map (·.id)
      · simp [hmem]
      · by_cases hid : id = revision.id <;> simp [hmem, hid]
    · intro hnot
      simp only [List.map_cons, List.mem_cons, not_or] at hnot
      obtain ⟨hmanifest, hdocument⟩ := hfiles hnot.2
      refine ⟨hmanifest.trans ?_, hdocument.trans ?_⟩
      · exact (Keyed.get_drop ..).trans (if_neg hnot.1)
      · exact (Table.get_remove ..).trans (if_neg hnot.1)

theorem revisionBytes_dropRevision {revision other : Revision} (h : other.id ≠ revision.id) :
    (c.dropRevision revision).disk.revisionBytes size other =
      c.disk.revisionBytes size other := by
  have hhas : ∀ f ∈ revisionFiles other, (c.dropRevision revision).disk.has f = c.disk.has f := by
    intro f hf
    change ((c.disk.erase (.revision revision.id)).erase (.document revision.id)).has f = _
    rw [has_erase, has_erase]
    simp only [revisionFiles, List.mem_cons, List.not_mem_nil, or_false] at hf
    obtain rfl | rfl := hf <;> simp [h]
  unfold Disk.revisionBytes Disk.metadata
  exact congrArg List.sum (List.map_congr_left fun f hf => by rw [hhas f hf])

/-- Sums over all revisions may be taken over any list of them. -/
theorem sum_revisionBytes {l : List Revision} (h : c.state.revisions.Lists l)
    (hlen : l.length = c.state.revisions.len) :
    ((c.state.revisions.values .stored).map (c.disk.revisionBytes size)).sum =
      (l.map (c.disk.revisionBytes size)).sum :=
  ((h.perm_values hlen).map _).sum_eq.symm

end Contents

/-! ## Runs -/

open Contents

/-- Of the revisions in `l` those of `gone` have been deleted, and of the next one the files in
`files`. -/
structure Deleted (l : List Revision) (w t : World) (gone : List Revision) (files : List File) :
    Prop where
  oldest : gone <+: l
  part : files = [] ∨ ∃ revision, gone ++ [revision] <+: l ∧ files <+: revisionFiles revision
  contents : t.contents = files.foldl Contents.erase (gone.foldl dropRevision w.contents)
  writes : t.writes = w.writes ++ (gone.flatMap revisionFiles ++ files).map .removed

/-- How a pruning may stop at an error: with the next revision whole, or without its manifest. -/
def Stopped (l : List Revision) (w t : World) : Prop :=
  ∃ gone files, Deleted l w t gone files ∧
    (files = [] ∨ ∃ revision, gone ++ [revision] <+: l ∧ files = [.revision revision.id])

/-- How a pruning may succeed: within the limits, or with nothing left that it may delete. -/
def Finished (env : Env) (currentEtag : String) (size : File → Option Nat) (w t : World) : Prop :=
  ∃ gone, Deleted (w.contents.prunable env currentEtag) w t gone [] ∧
    (t.contents.WithinRevisionLimits size ∨ gone = w.contents.prunable env currentEtag)

section Runs

variable {size : File → Option Nat} {l₀ : List Revision} {w₀ w : World}

def Deletes (l₀ : List Revision) (w₀ t : World) : Prop := ∃ gone files, Deleted l₀ w₀ t gone files

theorem deleted_refl (l : List Revision) (w : World) : Deleted l w w [] [] :=
  ⟨List.nil_prefix, .inl rfl, rfl, by simp⟩

/-- The rules of a pruning that began in `w₀`. -/
def deleting (size : File → Option Nat) (l₀ : List Revision) (w₀ : World) :
    Rules Act Act.Reply World :=
  .every (fun t _ => Deletes l₀ w₀ t) (metered size)

theorem safe_totalBytes {gone : List Revision} {files : List File}
    (hw : Deleted l₀ w₀ w gone files) (l : List File) :
    (deleting size l₀ w₀).Safe (totalBytes l)
      (fun total t => total = (l.map fun f => (w.disk.metadata size f).getD 0).sum ∧ t = w) w := by
  induction l with
  | nil => exact ⟨rfl, rfl⟩
  | cons f rest ih =>
    refine Rules.safe_bind.mpr ⟨⟨_, _, hw⟩, fun r t hn => ?_⟩
    obtain ⟨hnext, hsize⟩ := hn
    obtain rfl := next_ask.mp hnext
    refine Rules.safe_bind.mpr (ih.mono ?_)
    rintro others u ⟨rfl, rfl⟩
    refine ⟨?_, rfl⟩
    rw [List.map_cons, List.sum_cons]
    exact congrArg (fun n => Option.getD n 0 + _) hsize

/-- The files of one revision go one after the other. -/
theorem tries_removeRevisionFiles {gone : List Revision} {revision : Revision}
    (hw : Deleted l₀ w₀ w gone []) (hnext : gone ++ [revision] <+: l₀) :
    (deleting size l₀ w₀).Tries (removeRevisionFiles (revisionFiles revision))
      (fun _ t => t.memory = w.memory ∧ Deleted l₀ w₀ t gone (revisionFiles revision))
      (fun _ t => Stopped l₀ w₀ t) w := by
  have hmanifest : Deleted l₀ w₀ (w.erase (.revision revision.id)) gone
      [.revision revision.id] := by
    refine ⟨hw.oldest, .inr ⟨revision, hnext, ⟨[.document revision.id], rfl⟩⟩, ?_, ?_⟩
    · exact congrArg (Contents.erase · (.revision revision.id)) hw.contents
    · simp [World.erase, hw.writes]
  have hdocument : Deleted l₀ w₀ ((w.erase (.revision revision.id)).erase (.document revision.id))
      gone (revisionFiles revision) := by
    refine ⟨hw.oldest, .inr ⟨revision, hnext, List.prefix_rfl⟩, ?_, ?_⟩
    · exact congrArg (Contents.erase · (.document revision.id)) hmanifest.contents
    · simp [World.erase, revisionFiles, hw.writes]
  refine Rules.tries_bind.mpr (tries_orElse.mpr ⟨⟨_, _, hw⟩, fun r t hn => ?_⟩)
  obtain ⟨rfl, rfl⟩ | ⟨⟨text, rfl⟩, rfl⟩ := next_remove.mp hn.1
  · refine Rules.tries_bind.mpr (tries_orElse.mpr ⟨⟨_, _, hmanifest⟩, fun r t hn => ?_⟩)
    obtain ⟨rfl, rfl⟩ | ⟨⟨text, rfl⟩, rfl⟩ := next_remove.mp hn.1
    · exact ⟨rfl, hdocument⟩
    · exact ⟨gone, _, hmanifest, .inr ⟨revision, hnext, rfl⟩⟩
  · exact ⟨gone, [], hw, .inl rfl⟩

theorem Deleted.entry {t : World} {gone : List Revision} {revision : Revision}
    (ht : Deleted l₀ w₀ t gone (revisionFiles revision)) (hnext : gone ++ [revision] <+: l₀) :
    Deleted l₀ w₀ (t.update (.dropRevision revision.id)) (gone ++ [revision]) [] := by
  refine ⟨hnext, .inl rfl, ?_, ?_⟩
  · rw [List.foldl_append]
    exact congrArg (Contents.apply · (.dropRevision revision.id)) ht.contents
  · simpa [World.update] using ht.writes

/-- The loop over the revisions, of which those in `kept` were passed over. -/
theorem tries_pruneOldRevisions {env : Env} {currentEtag : String} {gone kept l : List Revision}
    {count bytes : Nat} (hw : Deleted (w₀.contents.prunable env currentEtag) w₀ w gone [])
    (hl : w₀.contents.prunable env currentEtag = gone ++
      l.filter fun revision => !decide (w₀.contents.protects env currentEtag revision))
    (hbefore : ∀ revision ∈ l, w₀.contents.lists revision)
    (hlists : w.contents.state.revisions.Lists (kept ++ l))
    (hlen : (kept ++ l).length = w.contents.state.revisions.len)
    (hcount : count = (kept ++ l).length)
    (hbytes : bytes = ((kept ++ l).map (w.disk.revisionBytes size)).sum) :
    (deleting size (w₀.contents.prunable env currentEtag) w₀).Tries
      (pruneOldRevisions currentEtag (((w₀.contents.ordered env).reverse.take 2).map (·.id)) l count
        bytes)
      (fun _ t => Finished env currentEtag size w₀ t)
      (fun _ t => Stopped (w₀.contents.prunable env currentEtag) w₀ t) w := by
  induction l generalizing w gone kept count bytes with
  | nil =>
    refine ⟨gone, hw, .inr ?_⟩
    rw [hl, List.filter_nil, List.append_nil]
  | cons revision rest ih =>
    have hrest : ∀ r ∈ rest, w₀.contents.lists r :=
      fun r hr => hbefore r (List.mem_cons_of_mem _ hr)
    have htest : _ ↔ w₀.contents.protects env currentEtag revision :=
      protects_iff (hbefore revision List.mem_cons_self)
    unfold pruneOldRevisions
    split
    · rename_i hwithin
      simp only [Bool.and_eq_true, decide_eq_true_eq] at hwithin
      refine ⟨gone, hw, .inl ⟨?_, ?_⟩⟩
      · rw [← hlen, ← hcount]
        exact hwithin.1
      · rw [sum_revisionBytes hlists hlen]
        exact hbytes.symm.trans_le hwithin.2
    split
    · -- Something protects this revision: it is passed over.
      rename_i hprotected
      have hkept := htest.mp hprotected
      refine @ih _ _ (kept ++ [revision]) _ _ hw ?_ hrest ?_ ?_ ?_ ?_
      · rw [hl, List.filter_cons_of_neg (by simpa using hkept)]
      · simpa using hlists
      · simpa using hlen
      · simpa using hcount
      · simpa using hbytes
    · rename_i hprotected
      have hprunable : ¬ w₀.contents.protects env currentEtag revision :=
        fun h => hprotected (htest.mpr h)
      rw [List.filter_cons_of_pos (by simpa using hprunable)] at hl
      have hnext : gone ++ [revision] <+: w₀.contents.prunable env currentEtag :=
        ⟨_, by rw [hl, List.append_assoc, List.singleton_append]⟩
      refine Rules.tries_bind.mpr (tries_lift.mpr
        ((safe_totalBytes hw (revisionFiles revision)).mono ?_))
      rintro bytesOf t ⟨hbytesOf, rfl⟩
      refine Rules.tries_bind.mpr
        ((tries_removeRevisionFiles hw hnext).mono ?_ fun _ _ h => h)
      rintro _ u ⟨hmemory, hu⟩
      refine Rules.tries_bind.mpr (tries_lift.mpr ⟨⟨_, _, hu⟩, fun r v hn => ?_⟩)
      obtain rfl := next_update.mp hn.1
      have hcontents : (u.update (.dropRevision revision.id)).contents =
          t.contents.dropRevision revision := by
        rw [(hu.entry hnext).contents, hw.contents, List.foldl_append]
        rfl
      have hsplit : t.contents.state.revisions.Lists (revision :: (kept ++ rest)) :=
        hlists.perm List.perm_middle
      refine @ih _ _ kept _ _ (hu.entry hnext) ?_ hrest ?_ ?_ ?_ ?_
      · rw [hl, List.append_assoc, List.singleton_append]
      · rw [hcontents]
        exact hsplit.drop
      · have hless := hsplit.len_drop
        rw [hcontents]
        change _ = (t.contents.state.revisions.drop revision.id).len
        rw [hless, ← hlen]
        simp
      · simp [hcount]
      · have hothers : ∀ r ∈ kept ++ rest, r.id ≠ revision.id := by
          intro r hr hid
          have hmem := List.mem_map_of_mem (f := Revision.id) hr
          rw [hid] at hmem
          exact (List.nodup_cons.mp hsplit.2).1 hmem
        have hsum : (kept ++ rest).map
              ((u.update (.dropRevision revision.id)).disk.revisionBytes size) =
            (kept ++ rest).map (t.disk.revisionBytes size) := by
          refine List.map_congr_left fun r hr => ?_
          change (u.update (.dropRevision revision.id)).contents.disk.revisionBytes size r = _
          rw [hcontents]
          exact revisionBytes_dropRevision (hothers r hr)
        rw [hsum, hbytes, hbytesOf]
        simp only [List.map_append, List.map_cons, List.sum_append, List.sum_cons]
        change _ - t.disk.revisionBytes size revision = _
        omega

/-- The body of a pruning, under the lock of the state. -/
theorem tries_pruneLocked (env : Env) (currentEtag : String) (size : File → Option Nat)
    (w₀ : World) (hw : Deleted (w₀.contents.prunable env currentEtag) w₀ w [] [])
    (hsame : w.contents = w₀.contents) :
    (deleting size (w₀.contents.prunable env currentEtag) w₀).Tries (do
        let s ← lift state
        let ordered := sortByText (·.createdAt) (s.revisions.values env.order)
        let protectedRecent := (ordered.reverse.take 2).map (·.id)
        let bytes ← lift (totalBytes (ordered.flatMap revisionFiles))
        pruneOldRevisions currentEtag protectedRecent ordered ordered.length bytes
        orElse id (syncDirectory .revisions) : Check Unit)
      (fun _ t => Finished env currentEtag size w₀ t)
      (fun _ t => Stopped (w₀.contents.prunable env currentEtag) w₀ t) w := by
  refine Rules.tries_bind.mpr (tries_lift.mpr ⟨⟨_, _, hw⟩, fun s t hn => ?_⟩)
  obtain ⟨rfl, rfl⟩ := next_state.mp hn.1
  refine Rules.tries_bind.mpr (tries_lift.mpr ((safe_totalBytes hw _).mono ?_))
  rintro bytes u ⟨hbytes, rfl⟩
  have hordered : sortByText (·.createdAt) (u.memory.state.revisions.values env.order) =
      w₀.contents.ordered env := by
    rw [← hsame]
    rfl
  rw [hordered] at hbytes ⊢
  have hsum : bytes = ((w₀.contents.ordered env).map (u.disk.revisionBytes size)).sum := by
    rw [hbytes, List.map_flatMap, List.flatMap, List.sum_flatten, List.map_map]
    rfl
  have hlists : u.contents.state.revisions.Lists ([] ++ w₀.contents.ordered env) := by
    rw [hsame]
    exact lists_ordered env w₀.contents
  have hlength : ([] ++ w₀.contents.ordered env).length = u.contents.state.revisions.len := by
    rw [hsame]
    exact length_ordered env w₀.contents
  refine Rules.tries_bind.mpr ((tries_pruneOldRevisions hw rfl
    (fun r hr => mem_ordered.mp hr) hlists hlength rfl hsum).mono ?_ fun _ _ h => h)
  · rintro _ t ⟨gone, ht, hgoal⟩
    refine tries_orElse.mpr (Rules.safe_bind.mpr ⟨⟨_, _, ht⟩, fun r u hn => ?_⟩)
    obtain rfl := next_ask.mp hn.1
    cases r with
    | ok _ => exact ⟨gone, ht, hgoal⟩
    | error text => exact ⟨gone, [], ht, .inl rfl⟩

/-- A pruning deletes the oldest revisions that nothing protects, until it is within the limits. -/
theorem prunes_oldest (env : Env) (currentEtag : String) (size : File → Option Nat) (w : World) :
    (deleting size (w.contents.prunable env currentEtag) w).Tries (pruneRevisions env currentEtag)
      (fun _ t => Finished env currentEtag size w t)
      (fun _ t => Stopped (w.contents.prunable env currentEtag) w t) w := by
  have hw := deleted_refl (w.contents.prunable env currentEtag) w
  have hlocked : Deleted (w.contents.prunable env currentEtag) w
      (w.setLocks (.state :: w.memory.locks)) [] [] := ⟨hw.1, hw.2, hw.3, hw.4⟩
  refine Rules.tries_bind.mpr (Rules.tries_lift.mpr ⟨⟨_, _, hw⟩, fun _ t hn => ?_⟩)
  obtain ⟨-, rfl⟩ := next_lock.mp hn.1
  refine Rules.tries_bind.mpr (tries_lift.mpr (Rules.safe_run.mpr
    ((tries_pruneLocked env currentEtag size w hlocked rfl).mono ?_ ?_)))
  · rintro _ t ⟨gone, ht, hgoal⟩
    refine Rules.tries_bind.mpr (Rules.tries_lift.mpr ⟨⟨_, _, ht⟩, fun _ u hn => ?_⟩)
    obtain rfl := next_unlock.mp hn.1
    exact ⟨gone, ⟨ht.1, ht.2, ht.3, ht.4⟩, hgoal⟩
  · rintro _ t ⟨gone, files, ht, hfiles⟩
    refine Rules.tries_bind.mpr (Rules.tries_lift.mpr ⟨⟨_, _, ht⟩, fun _ u hn => ?_⟩)
    obtain rfl := next_unlock.mp hn.1
    exact ⟨gone, files, ⟨ht.1, ht.2, ht.3, ht.4⟩, hfiles⟩

end Runs

/-! ## What is kept -/

/-- Both files of the revision are as they were. -/
def KeepsFiles (w t : World) (revision : Revision) : Prop :=
  t.disk.revisions.get revision.id = w.disk.revisions.get revision.id ∧
    t.disk.documents.get revision.id = w.disk.documents.get revision.id

section Kept

variable {env : Env} {currentEtag : String} {w t : World} {gone : List Revision}
  {files : List File} {revision : Revision}

theorem state_erases (files : List File) (c : Contents) :
    (files.foldl Contents.erase c).state = c.state := by
  induction files generalizing c with
  | nil => rfl
  | cons f files ih => exact ih _

theorem manifest_erases {id : String} (h : .revision id ∉ files) (c : Contents) :
    (files.foldl Contents.erase c).disk.revisions.get id = c.disk.revisions.get id := by
  induction files generalizing c with
  | nil => rfl
  | cons f files ih =>
    rw [List.mem_cons, not_or] at h
    refine (ih h.2 (c.erase f)).trans ?_
    cases f with
    | revision other =>
      have hne : id ≠ other := fun heq => h.1 (congrArg File.revision heq)
      exact (Keyed.get_drop ..).trans (if_neg hne)
    | _ => rfl

theorem document_erases {id : String} (h : .document id ∉ files) (c : Contents) :
    (files.foldl Contents.erase c).disk.documents.get id = c.disk.documents.get id := by
  induction files generalizing c with
  | nil => rfl
  | cons f files ih =>
    rw [List.mem_cons, not_or] at h
    refine (ih h.2 (c.erase f)).trans ?_
    cases f with
    | document other =>
      have hne : id ≠ other := fun heq => h.1 (congrArg File.document heq)
      exact (Table.get_remove ..).trans (if_neg hne)
    | _ => rfl

theorem Contents.lists_inj {c : Contents} {x y : Revision} (hx : c.lists x) (hy : c.lists y)
    (hid : x.id = y.id) : x = y := by
  unfold Contents.lists at hx hy
  rw [hid, hy] at hx
  exact (Option.some.inj hx).symm

namespace Deleted

variable (h : Deleted (w.contents.prunable env currentEtag) w t gone files)
include h

theorem entries (id : String) : t.contents.state.revisions.get id =
    if id ∈ gone.map (·.id) then none else w.contents.state.revisions.get id := by
  rw [h.contents, state_erases]
  exact (get_dropRevisions gone id w.contents).1

theorem prunable_gone (hmem : revision ∈ gone) :
    w.contents.lists revision ∧ ¬ w.contents.protects env currentEtag revision :=
  mem_prunable.mp (h.oldest.subset hmem)

theorem id_notMem_gone (hlisted : t.contents.lists revision) :
    revision.id ∉ gone.map (·.id) := by
  intro hmem
  have hentry := h.entries revision.id
  rw [if_pos hmem] at hentry
  exact absurd (hlisted.symm.trans hentry) (by simp)

theorem lists_iff : t.contents.lists revision ↔ w.contents.lists revision ∧ revision ∉ gone := by
  unfold Contents.lists
  rw [h.entries]
  constructor
  · intro hlisted
    split at hlisted
    · cases hlisted
    · rename_i hid
      exact ⟨hlisted, fun hmem => hid (List.mem_map_of_mem hmem)⟩
  · rintro ⟨hlisted, hnot⟩
    rw [if_neg]
    · exact hlisted
    · intro hid
      obtain ⟨other, hother, hsame⟩ := List.mem_map.mp hid
      obtain rfl := Contents.lists_inj (h.prunable_gone hother).1 hlisted hsame
      exact hnot hother

theorem keeps_document (hlisted : t.contents.lists revision)
    (hfile : .document revision.id ∉ files) :
    t.disk.documents.get revision.id = w.disk.documents.get revision.id := by
  change t.contents.disk.documents.get revision.id = _
  rw [h.contents, document_erases hfile]
  exact ((get_dropRevisions gone revision.id w.contents).2 (h.id_notMem_gone hlisted)).2

theorem keeps_manifest (hlisted : t.contents.lists revision)
    (hfile : .revision revision.id ∉ files) :
    t.disk.revisions.get revision.id = w.disk.revisions.get revision.id := by
  change t.contents.disk.revisions.get revision.id = _
  rw [h.contents, manifest_erases hfile]
  exact ((get_dropRevisions gone revision.id w.contents).2 (h.id_notMem_gone hlisted)).1

/-- A protected revision stays as it was. -/
theorem protected_kept (hlisted : w.contents.lists revision)
    (hprotected : w.contents.protects env currentEtag revision) :
    t.contents.lists revision ∧ KeepsFiles w t revision := by
  have hkept : t.contents.lists revision :=
    h.lists_iff.mpr ⟨hlisted, fun hmem => (h.prunable_gone hmem).2 hprotected⟩
  have hfiles : ∀ f ∈ revisionFiles revision, f ∉ files := by
    intro f hf hmem
    obtain rfl | ⟨next, hnext, hpart⟩ := h.part
    · cases hmem
    · have hid : revision.id = next.id := by
        have hother := hpart.subset hmem
        simp only [revisionFiles, List.mem_cons, List.not_mem_nil, or_false] at hf hother
        obtain rfl | rfl := hf <;> simpa using hother
      have hprunable := mem_prunable.mp (hnext.subset (List.mem_append_right gone
        List.mem_cons_self))
      obtain rfl := Contents.lists_inj hlisted hprunable.1 hid
      exact hprunable.2 hprotected
  exact ⟨hkept, h.keeps_manifest hkept (hfiles _ (by simp [revisionFiles])),
    h.keeps_document hkept (hfiles _ (by simp [revisionFiles]))⟩

end Deleted

end Kept

/-- A pruning deletes the oldest revisions that nothing protects, and where it succeeds the limits
hold or everything left is protected. Where it fails, the revision it stopped at may have lost its
manifest and nothing else. -/
theorem pruning_keeps_rollback (env : Env) (currentEtag : String) (size : File → Option Nat)
    (w : World) :
    (w.contents.prunable env currentEtag).Pairwise (fun x y => x.createdAt ≤ y.createdAt) ∧
    (∀ t, Passes (metered size) (pruneRevisions env currentEtag).run w t →
      ∀ revision, w.contents.lists revision → w.contents.protects env currentEtag revision →
        t.contents.lists revision ∧ KeepsFiles w t revision) ∧
    ∀ es x t, Eval (metered size) (pruneRevisions env currentEtag).run w es x t →
      ∃ gone files,
        gone <+: w.contents.prunable env currentEtag ∧
        t.writes = w.writes ++ (gone.flatMap revisionFiles ++ files).map .removed ∧
        (∀ revision, t.contents.lists revision ↔ w.contents.lists revision ∧ revision ∉ gone) ∧
        (x = .ok () → files = [] ∧ (t.contents.WithinRevisionLimits size ∨
          ∀ revision, t.contents.lists revision →
            w.contents.protects env currentEtag revision)) ∧
        ∀ revision, t.contents.lists revision →
          KeepsFiles w t revision ∨
            (∃ text, x = .error text) ∧ files = [.revision revision.id] ∧
              gone ++ [revision] <+: w.contents.prunable env currentEtag ∧
              t.disk.documents.get revision.id = w.disk.documents.get revision.id := by
  have hprunes := prunes_oldest env currentEtag size w
  unfold Rules.Tries at hprunes
  refine ⟨sorted_prunable env currentEtag w.contents, fun t hpass revision hl hp => ?_,
    fun es x t hrun => ?_⟩
  · have hdeletes : Deletes (w.contents.prunable env currentEtag) w t := by
      refine hprunes.passes hpass (fun _ _ h => h) ?_
      rintro (text | _) u hu
      · obtain ⟨gone, files, hu, -⟩ := hu
        exact ⟨gone, files, hu⟩
      · obtain ⟨gone, hu, -⟩ := hu
        exact ⟨gone, [], hu⟩
    obtain ⟨gone, files, ht⟩ := hdeletes
    exact ht.protected_kept hl hp
  · have hends := hprunes.eval hrun
    cases x with
    | ok _ =>
      obtain ⟨gone, ht, hgoal⟩ := hends
      refine ⟨gone, [], ht.oldest, ht.writes, fun _ => ht.lists_iff, fun _ => ⟨rfl, ?_⟩,
        fun revision hl => .inl ⟨ht.keeps_manifest hl (by simp), ht.keeps_document hl (by simp)⟩⟩
      refine hgoal.imp_right ?_
      rintro rfl revision hl
      obtain ⟨hlisted, hnot⟩ := ht.lists_iff.mp hl
      by_contra hprotected
      exact hnot (mem_prunable.mpr ⟨hlisted, hprotected⟩)
    | error text =>
      obtain ⟨gone, files, ht, hfiles⟩ := hends
      refine ⟨gone, files, ht.oldest, ht.writes, fun _ => ht.lists_iff, (by simp),
        fun revision hl => ?_⟩
      obtain rfl | ⟨next, hnext, rfl⟩ := hfiles
      · exact .inl ⟨ht.keeps_manifest hl (by simp), ht.keeps_document hl (by simp)⟩
      have hdocument := ht.keeps_document hl (by simp)
      by_cases hid : revision.id = next.id
      · have hlisted := (mem_prunable.mp (hnext.subset (List.mem_append_right gone
          List.mem_cons_self))).1
        obtain rfl := Contents.lists_inj (ht.lists_iff.mp hl).1 hlisted hid
        exact .inr ⟨⟨text, rfl⟩, rfl, hnext, hdocument⟩
      · exact .inl ⟨ht.keeps_manifest hl (by simpa using hid), hdocument⟩

/-! ## A document that cannot be removed -/

def sampleRevision (id createdAt : String) : Revision :=
  ⟨id, 1, "", "\"sha256:" ++ id ++ "\"", "", "operator", "", createdAt, .succeeded⟩

/-- Three revisions in memory, of which the first one has both files. -/
def revisedWorld : World where
  disk := ((Disk.empty none).put (.revision (sampleRevision "first" "2026-01-01"))).put
    (.document "first" [])
  memory := .opened ⟨.empty, .empty, ((Keyed.empty.put (sampleRevision "first" "2026-01-01")).put
    (sampleRevision "second" "2026-01-02")).put (sampleRevision "third" "2026-01-03"), false⟩
  replies := []
  writes := []
  changes := 0
  used := []

/-- Every file is as large as all of them may be together. -/
def largeFiles : File → Option Nat := fun _ => some maxRevisionBytes

theorem ordered_revisedWorld : revisedWorld.contents.ordered sampleEnv =
    [sampleRevision "first" "2026-01-01", sampleRevision "second" "2026-01-02",
      sampleRevision "third" "2026-01-03"] := by
  decide

theorem reports_totalBytes {size : File → Option Nat} {w : World} (l : List File) :
    (Rules.some (metered size)).Safe (totalBytes l)
      (fun total t => total = (l.map fun f => (w.disk.metadata size f).getD 0).sum ∧ t = w) w := by
  induction l with
  | nil => exact ⟨rfl, rfl⟩
  | cons f rest ih =>
    refine Rules.safe_bind.mpr ⟨w.disk.metadata size f, w, ⟨next_ask.mpr rfl, rfl⟩, ?_⟩
    refine Rules.safe_bind.mpr (ih.mono ?_)
    rintro others u ⟨rfl, rfl⟩
    exact ⟨by rw [List.map_cons, List.sum_cons], rfl⟩

/-- The manifest of the next revision goes, and its document stays. -/
theorem sticks_at_document {size : File → Option Nat} {w : World} {currentEtag : String}
    {recent : List String} {revision : Revision} {rest : List Revision} {count bytes : Nat}
    (hover : maxRevisionBytes < bytes)
    (hprotected : (recent.contains revision.id || revision.afterEtag == currentEtag) = false) :
    (Rules.some (metered size)).Tries
      (pruneOldRevisions currentEtag recent (revision :: rest) count bytes) (fun _ _ => False)
      (fun _ t => t = w.erase (.revision revision.id)) w := by
  rw [pruneOldRevisions, if_neg (by simp [hover]), if_neg (Bool.eq_false_iff.mp hprotected)]
  refine Rules.tries_bind.mpr (tries_lift.mpr ((reports_totalBytes _).mono ?_))
  rintro bytesOf t ⟨-, rfl⟩
  refine Rules.tries_bind.mpr (Rules.tries_bind.mpr (tries_orElse.mpr
    ⟨.ok (), _, ⟨next_remove.mpr (.inl ⟨rfl, rfl⟩), trivial⟩, ?_⟩))
  exact Rules.tries_bind.mpr (tries_orElse.mpr
    ⟨.error "Input/output error", _, ⟨next_remove.mpr (.inr ⟨⟨_, rfl⟩, rfl⟩), trivial⟩, rfl⟩)

/-- A pruning over the limit of bytes may lose the manifest of the oldest revision. -/
theorem sticks {env : Env} {size : File → Option Nat} {w : World} {currentEtag : String}
    {revision : Revision} {rest : List Revision} (hlock : .state ∉ w.memory.locks)
    (hordered : w.contents.ordered env = revision :: rest)
    (hover : maxRevisionBytes <
      (((revision :: rest).flatMap revisionFiles).map fun f => (w.disk.metadata size f).getD 0).sum)
    (hprotected : ((((revision :: rest).reverse.take 2).map (·.id)).contains revision.id ||
      revision.afterEtag == currentEtag) = false) :
    (Rules.some (metered size)).Safe (pruneRevisions env currentEtag).run
      (fun x t => (∃ text, x = .error text) ∧
        t.contents = w.contents.erase (.revision revision.id)) w := by
  refine Rules.safe_run.mpr (Rules.tries_bind.mpr (Rules.tries_lift.mpr
    ⟨(), _, ⟨next_lock.mpr ⟨hlock, rfl⟩, trivial⟩, ?_⟩))
  refine Rules.tries_bind.mpr (tries_lift.mpr (Rules.safe_run.mpr ?_))
  refine Rules.tries_bind.mpr (tries_lift.mpr
    ⟨_, _, ⟨next_state.mpr ⟨rfl, rfl⟩, trivial⟩, ?_⟩)
  have hsorted : sortByText (·.createdAt) (w.memory.state.revisions.values env.order) =
      revision :: rest := hordered
  refine Rules.tries_bind.mpr (tries_lift.mpr ((reports_totalBytes _).mono ?_))
  rintro bytes t ⟨hbytes, rfl⟩
  change bytes = (((sortByText (·.createdAt)
    (w.memory.state.revisions.values env.order)).flatMap revisionFiles).map _).sum at hbytes
  rw [hsorted] at hbytes
  change Rules.Tries _ (pruneOldRevisions currentEtag (((sortByText (·.createdAt)
    (w.memory.state.revisions.values env.order)).reverse.take 2).map (·.id))
      (sortByText (·.createdAt) (w.memory.state.revisions.values env.order)) _ bytes >>= _) _ _ _
  rw [hsorted]
  refine Rules.tries_bind.mpr ((sticks_at_document (hover.trans_eq hbytes.symm)
    hprotected).mono (fun _ _ h => h.elim) ?_)
  rintro text t rfl
  exact Rules.tries_bind.mpr (Rules.tries_lift.mpr
    ⟨(), _, ⟨next_unlock.mpr rfl, trivial⟩, ⟨_, rfl⟩, rfl⟩)

/-- The document of the oldest revision cannot be removed: the revision stays listed without its
manifest. -/
theorem loses_manifest :
    ∃ es text t, Eval (metered largeFiles) (pruneRevisions sampleEnv "").run revisedWorld es
        (.error text) t ∧
      t.contents.lists (sampleRevision "first" "2026-01-01") ∧
      (∀ f ∈ revisionFiles (sampleRevision "first" "2026-01-01"), revisedWorld.disk.has f = true) ∧
      t.disk.has (.revision "first") = false := by
  have hlock : Mutex.state ∉ revisedWorld.memory.locks := by simp [revisedWorld, Memory.opened]
  have hsticks : (Rules.some (metered largeFiles)).Safe (pruneRevisions sampleEnv "").run _
      revisedWorld := sticks hlock ordered_revisedWorld (by decide) (by decide)
  obtain ⟨es, x, t, hrun, ⟨text, rfl⟩, ht⟩ := hsticks.exists_eval
  refine ⟨es, text, t, hrun, ?_, ?_, ?_⟩
  · rw [ht]
    rfl
  · decide
  · change t.contents.disk.has _ = _
    rw [ht]
    decide

end Starry.ConfigStore
