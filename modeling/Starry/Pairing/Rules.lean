import Starry.Library.Serial
import Starry.Pairing.Control

/-!
# Rules for the steps of a pairing

Errors end a call, and nothing is claimed about them but that every key on the disk is known. The
names of the files tell them apart, except for the generated configuration, which may be anywhere
outside the state directory.
-/

open Library Library.Prog

namespace Starry.Pairing

open Starry.Config (ensure)

/-- The names of the files that hold a server key. -/
def keyNames : List String := ["server-key.pem", "server-key.pending.pem"]

/-- Every server key on the disk was seen. -/
def Known (env : Env) (w : World) : Prop :=
  ∀ dir name file key, name ∈ keyNames → w.files (PathBuf.join dir name) = some file →
    file.content.keyPair env = some key → key ∈ w.keys

/-- Written to `path`, the content adds no unknown server key. -/
def Writable (env : Env) (w : World) (path : PathBuf) (content : Content) : Prop :=
  ∀ dir name key, name ∈ keyNames → path = PathBuf.join dir name → content.keyPair env = some key →
    key ∈ w.keys

/-- Every action keeps the keys known. -/
abbrev rules (env : Env) : Rules Act Act.Reply World :=
  Serial.rules (next env) (Known env) fun _ _ => True

/-- A program ends as `Q` says, unless it fails. -/
def Ends (env : Env) {α : Type} (p : Try α) (Q : α → World → Prop) (w : World) : Prop :=
  (rules env).Tries p Q (fun _ _ => True) w

section

variable {env : Env} {w : World} {α β : Type} {Q : α → World → Prop}

@[simp] theorem ends_pure {x : α} : Ends env (Pure.pure x) Q w ↔ Q x w := Iff.rfl

@[simp] theorem ends_throw {e : String} : Ends env (throw e : Try α) Q w ↔ True := Iff.rfl

@[simp] theorem ends_bind {p : Try α} {f : α → Try β} {Q : β → World → Prop} :
    Ends env (p >>= f) Q w ↔ Ends env p (fun x => Ends env (f x) Q) w :=
  Rules.tries_bind

@[simp] theorem ends_map {p : Try α} {f : α → β} {Q : β → World → Prop} :
    Ends env (f <$> p) Q w ↔ Ends env p (fun x => Q (f x)) w :=
  ends_bind

@[simp] theorem ends_lift {p : Agent α} :
    Ends env (liftM p : Try α) Q w ↔ (rules env).Safe p Q w :=
  Rules.tries_lift

@[simp] theorem ends_check {r : Except String α} :
    Ends env (check r) Q w ↔ ∀ x, r = .ok x → Q x w := by
  cases r with
  | ok x => exact ⟨fun h _ hx => Except.ok.inj hx ▸ h, fun h => h x rfl⟩
  | error e => exact iff_of_true trivial (by simp)

@[simp] theorem ends_require {holds : Bool} {error : String} {Q : Unit → World → Prop} :
    Ends env (require holds error) Q w ↔ (holds = true → Q () w) := by
  unfold require
  rw [ends_check]
  exact ⟨fun h hholds => h () (by simpa using hholds), fun h _ hx => h (by simpa using hx)⟩

theorem Ends.mono {p : Try α} {Q' : α → World → Prop} (h : Ends env p Q w)
    (hQ : ∀ x t, Q x t → Q' x t) : Ends env p Q' w :=
  Rules.Tries.mono h hQ fun _ _ h => h

theorem ends_ite {p : Prop} [Decidable p] {a b : Try α} (ha : p → Ends env a Q w)
    (hb : ¬ p → Ends env b Q w) : Ends env (if p then a else b) Q w := by
  split
  · exact ha ‹_›
  · exact hb ‹_›

/-- An option without a value is an error. -/
theorem elim_eq_ok {x : Option α} {error : String} {y : α} :
    x.elim (.error error) .ok = (.ok y : Except String α) ↔ x = some y := by
  cases x <;> simp

/-! ## Actions that change nothing -/

@[simp] theorem ends_io {p : Agent (Except String α)} :
    Ends env (io p) Q w ↔ (rules env).Safe p (fun r t => ∀ x, r = .ok x → Q x t) w := by
  change Rules.Safe _ p _ w ↔ _
  constructor
  all_goals
    intro h
    refine h.mono fun r t hr => ?_
    cases r with
    | ok x => simpa using hr
    | error e => simp

/-- The action may change a file or the keys. -/
def Act.changes : Act → Bool
  | .generateKey | .rename _ _ _ | .link _ _ _ | .unlinkTemporary _ | .remove _ => true
  | _ => false

theorem step_quiet {a : Act} (ha : a.changes = false) {c : a.Choice} {r : a.Reply} {t : World}
    (h : step env w a c = some (r, t)) : t = w := by
  cases a with
  | newUuid =>
    simp only [step] at h
    split at h <;> cases h
    rfl
  | generateKey | rename | link | unlinkTemporary | remove => cases ha
  | _ =>
    cases h
    rfl

theorem safe_quiet {a : Act} (ha : a.changes = false) {Q : a.Reply → World → Prop}
    (hw : Known env w) (h : ∀ r, next env w a r w → Q r w) : (rules env).Safe (run a) Q w := by
  constructor
  · rintro r t ⟨c, hn⟩
    rw [step_quiet ha hn]
    exact ⟨hw, trivial⟩
  · rintro r t ⟨c, hn⟩
    obtain rfl := step_quiet ha hn
    exact h r ⟨c, hn⟩

/-- What the environment answers is arbitrary. -/
theorem ends_ask {a : Act} (ha : a.changes = false) {Q : a.Reply → World → Prop} (hw : Known env w)
    (h : ∀ r, Q r w) : Ends env (liftM (run a)) Q w :=
  ends_lift.mpr (safe_quiet ha hw fun r _ => h r)

theorem ends_find {path : PathBuf} {Q : Option File → World → Prop} (hw : Known env w)
    (h : Q (w.files path) w) : Ends env (find path) Q w := by
  refine ends_lift.mpr (safe_quiet rfl hw ?_)
  rintro r ⟨c, hn⟩
  cases hn
  exact h

theorem ends_attempt {p : Agent Bool} {error : String} {Q : Unit → World → Prop}
    (h : (rules env).Safe p (fun done t => done = true → Q () t) w) :
    Ends env (attempt p error) Q w := by
  unfold attempt
  rw [ends_bind, ends_lift]
  exact h.mono fun done t hdone => ends_require.mpr hdone

/-! ## Keys and writes -/

theorem Known.addKey (hw : Known env w) (key : KeyPair) : Known env (w.addKey key) :=
  fun dir name file found hname hfile hkey =>
    List.mem_cons_of_mem _ (hw dir name file found hname hfile hkey)

theorem Known.put (hw : Known env w) {path : PathBuf} {content : Content}
    (hc : Writable env w path content) (mode links : Nat) :
    Known env (w.put path ⟨content, mode, links⟩) := by
  intro dir name file key hname hfile hkey
  by_cases hpath : dir.join name = path
  · rw [hpath, World.files_put_self] at hfile
    obtain rfl := Option.some.inj hfile
    exact hc dir name key hname hpath.symm hkey
  · rw [World.files_put_of_ne hpath] at hfile
    exact hw dir name file key hname hfile hkey

theorem Known.erase (hw : Known env w) (path : PathBuf) : Known env (w.erase path) := by
  intro dir name file key hname hfile hkey
  by_cases hpath : dir.join name = path
  · rw [hpath, World.files_erase_self] at hfile
    cases hfile
  · rw [World.files_erase_of_ne hpath] at hfile
    exact hw dir name file key hname hfile hkey

theorem ends_generateKey {Q : Option KeyPair → World → Prop} (hw : Known env w) (hnone : Q none w)
    (hsome : ∀ key, key ∉ w.keys → Q (some key) (w.addKey key)) :
    Ends env (liftM (run .generateKey)) Q w := by
  refine ends_lift.mpr ?_
  have hnext : ∀ (r : Option KeyPair) t, next env w .generateKey r t →
      r = none ∧ t = w ∨ ∃ key, r = some key ∧ key ∉ w.keys ∧ t = w.addKey key := by
    rintro r t ⟨c, hn⟩
    cases c with
    | none =>
      cases hn
      exact .inl ⟨rfl, rfl⟩
    | some key =>
      simp only [step] at hn
      split at hn
      · cases hn
      · rename_i hfresh
        cases hn
        exact .inr ⟨key, rfl, by simpa using hfresh, rfl⟩
  constructor
  · intro r t hn
    rcases hnext r t hn with ⟨-, rfl⟩ | ⟨key, -, -, rfl⟩
    · exact ⟨hw, trivial⟩
    · exact ⟨hw.addKey key, trivial⟩
  · intro r t hn
    rcases hnext r t hn with ⟨rfl, rfl⟩ | ⟨key, rfl, hfresh, rfl⟩
    · exact hnone
    · exact hsome key hfresh

/-- An action that leads to `w'` or fails. -/
theorem safe_write {a : Act} {Q : a.Reply → World → Prop} {w' : World} (hw : Known env w)
    (hw' : Known env w') (hnext : ∀ r t, next env w a r t → t = w ∨ t = w')
    (h : ∀ r t, next env w a r t → Q r t) : (rules env).Safe (run a) Q w := by
  refine ⟨fun r t hn => ?_, h⟩
  rcases hnext r t hn with rfl | rfl
  · exact ⟨hw, trivial⟩
  · exact ⟨hw', trivial⟩

theorem ends_rename {path : PathBuf} {content : Content} {mode : Nat} {error : String}
    {Q : Unit → World → Prop} (hw : Known env w) (hc : Writable env w path content)
    (h : Q () (w.put path ⟨content, mode, 1⟩)) :
    Ends env (attempt (run (.rename path content mode)) error) Q w := by
  refine ends_attempt (safe_write hw (hw.put hc mode 1) ?_ ?_)
  · rintro r t ⟨ok, hn⟩
    cases ok <;> cases hn
    · exact .inl rfl
    · exact .inr rfl
  · rintro r t ⟨ok, hn⟩ hdone
    cases ok <;> cases hn
    · cases hdone
    · exact h

theorem ends_remove {path : PathBuf} {error : String} {Q : Unit → World → Prop} (hw : Known env w)
    (h : Q () (w.erase path)) : Ends env (attempt (run (.remove path)) error) Q w := by
  refine ends_attempt (safe_write hw (hw.erase path) ?_ ?_)
  · rintro r t ⟨ok, hn⟩
    cases ok <;> cases hn
    · exact .inl rfl
    · exact .inr rfl
  · rintro r t ⟨ok, hn⟩ hdone
    cases ok <;> cases hn
    · cases hdone
    · exact h

theorem ends_syncDirectory {path : PathBuf} {error : String} {Q : Unit → World → Prop}
    (hw : Known env w) (h : Q () w) :
    Ends env (attempt (run (.syncDirectory path)) error) Q w :=
  ends_attempt (safe_quiet rfl hw fun _ _ _ => h)

theorem ends_unlinkTemporary {path : PathBuf} {content : Content} {mode : Nat} {error : String}
    {Q : Unit → World → Prop} (hw : Known env w) (hc : Writable env w path content)
    (hfile : w.files path = some ⟨content, mode, 2⟩) (h : Q () (w.put path ⟨content, mode, 1⟩)) :
    Ends env (attempt (run (.unlinkTemporary path)) error) Q w := by
  refine ends_attempt (safe_write hw (hw.put hc mode 1) ?_ ?_)
  · rintro r t ⟨ok, hn⟩
    simp only [step, hfile] at hn
    cases ok <;> cases hn
    · exact .inl rfl
    · exact .inr rfl
  · rintro r t ⟨ok, hn⟩ hdone
    simp only [step, hfile] at hn
    cases ok <;> cases hn
    · cases hdone
    · exact h

theorem ends_linkNew {path : PathBuf} {content : Content} {mode : Nat} {Q : Unit → World → Prop}
    (hw : Known env w) (hc : Writable env w path content) (hfree : w.files path = none)
    (h : Q () (w.put path ⟨content, mode, 1⟩)) : Ends env (linkNew path content mode) Q w := by
  unfold linkNew
  have hnext : ∀ (r : Link) t, next env w (.link path content mode) r t →
      r = .failed ∧ t = w ∨ r = .linked ∧ t = w.put path ⟨content, mode, 2⟩ := by
    rintro r t ⟨ok, hn⟩
    simp only [step, hfree] at hn
    cases ok <;> cases hn
    · exact .inl ⟨rfl, rfl⟩
    · exact .inr ⟨rfl, rfl⟩
  refine ends_bind.mpr (ends_lift.mpr ?_)
  refine safe_write hw (hw.put hc mode 2) ?_ ?_
  · intro r t hn
    rcases hnext r t hn with ⟨-, rfl⟩ | ⟨-, rfl⟩
    · exact .inl rfl
    · exact .inr rfl
  · intro r t hn
    rcases hnext r t hn with ⟨rfl, rfl⟩ | ⟨rfl, rfl⟩
    · trivial
    · refine ends_unlinkTemporary (hw.put hc mode 2) hc (World.files_put_self ..) ?_
      rwa [World.put_put]

/-- Whether it is written or was there, the file is there at the end. -/
theorem ends_atomicWrite {path : PathBuf} {content : Content} {mode : Nat} {replace : Bool}
    {Q : Unit → World → Prop} (hw : Known env w) (hc : Writable env w path content)
    (h : Known env (w.put path ⟨content, mode, 1⟩) → Q () (w.put path ⟨content, mode, 1⟩)) :
    Ends env (atomicWrite path content mode replace) Q w := by
  have hput : Known env (w.put path ⟨content, mode, 1⟩) := hw.put hc mode 1
  have hwrite : Ends env (writeFile path content mode replace) Q w := by
    unfold writeFile
    refine ends_bind.mpr (ends_find hw (ends_bind.mpr (ends_require.mpr fun hfree => ?_)))
    refine ends_bind.mpr (ends_require.mpr fun _ => ends_bind.mpr (ends_io.mpr ?_))
    refine safe_quiet rfl hw fun _ _ _ _ => ?_
    unfold placeFile
    refine ends_bind.mpr (ends_ite (fun _ => ?_) fun hreplace => ?_)
    · exact ends_rename hw hc (ends_syncDirectory hput (h hput))
    · have hfree : w.files path = none := by simpa [hreplace] using hfree
      exact ends_linkNew hw hc hfree (ends_syncDirectory hput (h hput))
  unfold atomicWrite
  refine ends_ite (fun _ => hwrite) fun _ => ?_
  unfold existingFileMatches
  refine ends_bind.mpr (ends_bind.mpr (ends_find hw ?_))
  cases hfile : w.files path with
  | none => exact hwrite
  | some file =>
    refine ends_bind.mpr (ends_require.mpr fun hmode => ends_ite (fun hsame => ?_) fun _ => hwrite)
    obtain ⟨hlinks, hmode⟩ : file.links = 1 ∧ file.mode = mode := by simpa using hmode
    have hcontent : file.content = content := by simpa using hsame
    have hthere : w.files path = some ⟨content, mode, 1⟩ := by
      rw [hfile, ← hlinks, ← hmode, ← hcontent]
    have hdone := h hput
    rwa [World.put_of_eq hthere] at hdone

theorem ends_removePending {metadata key : PathBuf} {Q : Unit → World → Prop} (hw : Known env w)
    (h : Q () ((w.erase metadata).erase key)) : Ends env (removePending metadata key) Q w :=
  ends_bind.mpr (ends_remove hw (ends_remove (hw.erase metadata) h))

theorem ends_readPrivateInput {path : PathBuf} {Q : File → World → Prop} (hw : Known env w)
    (h : ∀ file, w.files path = some file → Q file w) :
    Ends env (readPrivateInput env path) Q w := by
  unfold readPrivateInput
  refine ends_bind.mpr (ends_find hw (ends_bind.mpr (ends_check.mpr fun file hfile => ?_)))
  refine ends_bind.mpr (ends_require.mpr fun _ => ends_bind.mpr (ends_require.mpr fun _ => ?_))
  exact h file (elim_eq_ok.mp hfile)

end

end Starry.Pairing
