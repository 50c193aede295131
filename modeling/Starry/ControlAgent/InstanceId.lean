import Starry.Basic
import Starry.Library.Run

/-!
# The identity of an instance (`control_agent.rs`)

`load_or_create_instance_id` reads the identity from its file, or creates the file and writes a new
one. Calls run in any order, each may be killed and the power may be lost. Reading, writing and
syncing do not fail here, apart from a file that is missing or already there, and a UUID is a
parameter. Its text has one byte for each character.
-/

open Library

namespace Starry.ControlAgent

/-- The functions of the `uuid` crate. -/
structure Env (Id : Type) where
  parseStr : String → Option Id
  getVersionNum : Id → Nat
  toText : Id → String

def parseInstanceId {Id : Type} (env : Env Id) (raw : String) : Except String String :=
  match env.parseStr (trim raw) with
  | none => .error "instance ID file is invalid"
  | some parsed =>
    if env.getVersionNum parsed ≠ 7 then .error "instance ID must be UUIDv7"
    else .ok (env.toText parsed)

/-- What the code relies on: the text of a UUID has 36 characters and no blanks, it is parsed to that
UUID, and no beginning of it is a UUID. -/
structure Env.Lawful {Id : Type} (env : Env Id) : Prop where
  parse : ∀ id, env.parseStr (env.toText id) = some id
  partly : ∀ id start, start <+: (env.toText id).toList → start ≠ (env.toText id).toList →
    env.parseStr (String.ofList start) = none
  plain : ∀ id, ∀ c ∈ (env.toText id).toList, isWhiteSpace c = false
  length : ∀ id, (env.toText id).toList.length = 36
  /-- There is always another identity of version 7. -/
  fresh : ∀ text, ∃ id, env.toText id ≠ text ∧ env.getVersionNum id = 7

/-! ## Calls -/

/-- The file of the identity. -/
structure IdFile where
  content : List Char
  /-- How many of its bytes are kept when the power is lost. -/
  synced : Nat
  /-- Its directory is synced too. -/
  linked : Bool
deriving DecidableEq, Repr

def IdFile.raw (f : IdFile) : String := String.ofList f.content

def IdFile.append (f : IdFile) (text : List Char) : IdFile :=
  { f with content := f.content ++ text }

/-- Where a call is. -/
inductive Phase (Id : Type)
  /-- Before it reads the file. -/
  | reading
  /-- The file was not there. -/
  | naming
  | creating (id : Id)
  /-- The file is its own, and `rest` of the text is not yet written. -/
  | writing (id : Id) (rest : List Char)
  /-- The newline is missing. -/
  | terminating (id : Id)
  | syncing (id : Id)
  | linking (id : Id)
  /-- Another call has created the file. -/
  | rereading
  | returned (r : Except String String)
  | killed

def Phase.live {Id : Type} : Phase Id → Bool
  | .returned _ | .killed => false
  | _ => true

/-- The next system call of a call. -/
inductive Work (Id : Type)
  | read
  | name (id : Id)
  | create
  /-- `write` may write less than it is given. -/
  | write (n : Nat)
  | terminate
  | sync
  | link

section Steps

variable {Id : Type} (env : Env Id)

def Phase.step (file : Option IdFile) : Phase Id → Work Id → Option (Option IdFile × Phase Id)
  | .reading, .read => match file with
    | some f => some (file, .returned (parseInstanceId env f.raw))
    | none => some (file, .naming)
  | .naming, .name id => if env.getVersionNum id = 7 then some (file, .creating id) else none
  | .creating id, .create => match file with
    | none => some (some ⟨[], 0, false⟩, .writing id (env.toText id).toList)
    | some _ => some (file, .rereading)
  | .writing id rest, .write n =>
    if 0 < n ∧ n ≤ rest.length then
      some (file.map (·.append (rest.take n)),
        if rest.drop n = [] then .terminating id else .writing id (rest.drop n))
    else none
  | .terminating id, .terminate => some (file.map (·.append ['\n']), .syncing id)
  | .syncing id, .sync =>
    some (file.map fun f => { f with synced := f.content.length }, .linking id)
  | .linking id, .link =>
    some (file.map fun f => { f with linked := true }, .returned (.ok (env.toText id)))
  | .rereading, .read => match file with
    | some f => some (file, .returned (parseInstanceId env f.raw))
    | none => some (file, .returned (.error "cannot read concurrently created instance ID"))
  | _, _ => none

structure Host (Id : Type) where
  file : Option IdFile
  calls : List (Phase Id)
  /-- The identities that were returned. -/
  identities : List String

def Host.init : Host Id := ⟨none, [], []⟩

inductive Move (Id : Type)
  | call
  | work (i : Nat) (w : Work Id)
  /-- The process of a call ends. -/
  | kill (i : Nat)
  /-- Every process ends. Of what is not synced the directory entry may stay, and a beginning of
  the file. -/
  | powerLoss (entry : Bool) (kept : Nat)

def Phase.identities : Phase Id → List String
  | .returned (.ok id) => [id]
  | _ => []

def Phase.stop (p : Phase Id) : Phase Id := if p.live then .killed else p

/-- What a loss of power leaves of the file. -/
def survives (entry : Bool) (kept : Nat) (file : Option IdFile) : Option IdFile :=
  file.bind fun f =>
    if f.linked || entry then
      let content := f.content.take (max f.synced kept)
      some ⟨content, content.length, true⟩
    else none

def Host.step (s : Host Id) : Move Id → Option (Host Id)
  | .call => some { s with calls := s.calls ++ [.reading] }
  | .work i w => do
    let p ← s.calls[i]?
    let (file, q) ← p.step env s.file w
    return { file, calls := s.calls.set i q, identities := q.identities ++ s.identities }
  | .kill i => (s.calls[i]?).bind fun p =>
    if p.live then some { s with calls := s.calls.set i .killed } else none
  | .powerLoss entry kept =>
    some { s with file := survives entry kept s.file, calls := s.calls.map Phase.stop }

/-! ## Agreement and recovery -/

/-- The calls that returned an identity returned the same one, of version 7. -/
structure Host.Agreed (s : Host Id) : Prop where
  version : ∀ x ∈ s.identities, ∃ id, env.getVersionNum id = 7 ∧ x = env.toText id
  same : ∀ x ∈ s.identities, ∀ y ∈ s.identities, x = y

/-- No call has created the file and not yet written the whole identity. -/
def Host.Idle (s : Host Id) : Prop := ∀ (i : Nat) id rest, s.calls[i]? ≠ some (.writing id rest)

/-- A new call that is not interrupted by others returns an identity. -/
def Host.Recovers (s : Host Id) : Prop :=
  s.Idle → ∀ t, s.step env .call = some t →
    Surely (Steps (Host.step env)) (fun m => ∃ w, m = .work s.calls.length w)
      (fun u => ∃ id, u.calls[s.calls.length]? = some (.returned (.ok id))) t

/-- No process ends between its creation of the file and its writing of the whole identity. A loss
of power leaves the whole identity in the file, or takes the file away before it was returned. -/
def Harmless (s : Host Id) : Move Id → Prop
  | .kill i => ∀ id rest, s.calls[i]? ≠ some (.writing id rest)
  | .powerLoss entry kept => match survives entry kept s.file with
    | none => s.identities = []
    | some f => 36 ≤ f.content.length
  | _ => True

/-- The steps at which nothing is lost. -/
def Next (s : Host Id) (m : Move Id) (t : Host Id) : Prop :=
  s.step env m = some t ∧ Harmless s m

end Steps

/-! ## The text of the file -/

section Parsing

variable {Id : Type} {env : Env Id} {id : Id} {content rest : List Char}

theorem dropWhile_plain {l : List Char} (h : ∀ c ∈ l, isWhiteSpace c = false) :
    l.dropWhile isWhiteSpace = l := by
  cases l with
  | nil => rfl
  | cons c l => rw [List.dropWhile_cons_of_neg (by simp [h c List.mem_cons_self])]

theorem trim_plain {l : List Char} (h : ∀ c ∈ l, isWhiteSpace c = false) :
    trim (String.ofList l) = String.ofList l := by
  unfold trim
  rw [String.toList_ofList, dropWhile_plain h,
    dropWhile_plain (fun c hc => h c (List.mem_reverse.mp hc)), List.reverse_reverse]

theorem trim_line {l : List Char} (h : ∀ c ∈ l, isWhiteSpace c = false) (hne : l ≠ []) :
    trim (String.ofList (l ++ ['\n'])) = String.ofList l := by
  obtain ⟨c, l, rfl⟩ := List.exists_cons_of_ne_nil hne
  have hfirst : ((c :: l) ++ ['\n']).dropWhile isWhiteSpace = (c :: l) ++ ['\n'] := by
    rw [List.cons_append, List.dropWhile_cons_of_neg (by simp [h c List.mem_cons_self])]
  unfold trim
  rw [String.toList_ofList, hfirst, List.reverse_append, List.reverse_singleton,
    List.singleton_append, List.dropWhile_cons_of_pos (by decide),
    dropWhile_plain (fun c hc => h c (List.mem_reverse.mp hc)), List.reverse_reverse]

theorem Env.Lawful.ne_nil (h : env.Lawful) (id : Id) : (env.toText id).toList ≠ [] := by
  intro hnil
  have hlength := h.length id
  rw [hnil] at hlength
  cases hlength

/-- The whole text, with or without its newline, is read as the identity. -/
theorem parse_whole (h : env.Lawful) (hversion : env.getVersionNum id = 7)
    (hwhole : (env.toText id).toList <+: content)
    (hline : content <+: (env.toText id).toList ++ ['\n']) :
    parseInstanceId env (String.ofList content) = .ok (env.toText id) := by
  have htrim : trim (String.ofList content) = env.toText id := by
    obtain ⟨tail, rfl⟩ := hwhole
    have htail := (List.prefix_append_right_inj _).mp hline
    obtain rfl | ⟨rest, rfl, hrest⟩ := List.prefix_cons_iff.mp htail
    · rw [List.append_nil, trim_plain (h.plain id), String.ofList_toList]
    · rw [List.prefix_nil.mp hrest, trim_line (h.plain id) (h.ne_nil id), String.ofList_toList]
  unfold parseInstanceId
  rw [htrim, h.parse]
  exact if_neg (not_not.mpr hversion)

/-- A beginning of it is refused. -/
theorem parse_partly (h : env.Lawful) (hstart : content <+: (env.toText id).toList)
    (hpart : content.length < 36) :
    parseInstanceId env (String.ofList content) = .error "instance ID file is invalid" := by
  have hne : content ≠ (env.toText id).toList := by
    rintro rfl
    exact absurd (h.length id) hpart.ne
  unfold parseInstanceId
  rw [trim_plain fun c hc => h.plain id c (hstart.subset hc), h.partly id content hstart hne]

end Parsing

/-! ## What a call may do -/

section Runs

variable {Id : Type} {env : Env Id}

def Phase.owns : Phase Id → Bool
  | .writing _ _ | .terminating _ | .syncing _ | .linking _ => true
  | _ => false

/-- What a call that created the file knows of it. -/
def Phase.Holds (env : Env Id) (id : Id) (content : List Char) : Phase Id → Prop
  | .writing id' rest => id' = id ∧ rest ≠ [] ∧ content ++ rest = (env.toText id).toList
  | .terminating id' => id' = id ∧ content = (env.toText id).toList
  | .syncing id' | .linking id' => id' = id ∧ content = (env.toText id).toList ++ ['\n']
  | _ => True

theorem Phase.holds_of_not_owns {p : Phase Id} (h : p.owns = false) (id : Id)
    (content : List Char) : p.Holds env id content := by
  cases p <;> first | trivial | cases h

/-- The steps of a call. -/
inductive Works (env : Env Id) :
    Option IdFile → Phase Id → Work Id → Option IdFile → Phase Id → Prop
  | read (f : IdFile) :
      Works env (some f) .reading .read (some f) (.returned (parseInstanceId env f.raw))
  | missing : Works env none .reading .read none .naming
  | name (file : Option IdFile) (id : Id) (h : env.getVersionNum id = 7) :
      Works env file .naming (.name id) file (.creating id)
  | create (id : Id) : Works env none (.creating id) .create (some ⟨[], 0, false⟩)
      (.writing id (env.toText id).toList)
  | exists (f : IdFile) (id : Id) : Works env (some f) (.creating id) .create (some f) .rereading
  | write (file : Option IdFile) (id : Id) (rest : List Char) (n : Nat) (hn : 0 < n)
      (h : n < rest.length) : Works env file (.writing id rest) (.write n)
        (file.map (·.append (rest.take n))) (.writing id (rest.drop n))
  | written (file : Option IdFile) (id : Id) (rest : List Char) (h : rest ≠ []) :
      Works env file (.writing id rest) (.write rest.length) (file.map (·.append rest))
        (.terminating id)
  | terminate (file : Option IdFile) (id : Id) : Works env file (.terminating id) .terminate
      (file.map (·.append ['\n'])) (.syncing id)
  | sync (file : Option IdFile) (id : Id) : Works env file (.syncing id) .sync
      (file.map fun f => { f with synced := f.content.length }) (.linking id)
  | link (file : Option IdFile) (id : Id) : Works env file (.linking id) .link
      (file.map fun f => { f with linked := true }) (.returned (.ok (env.toText id)))
  | reread (f : IdFile) :
      Works env (some f) .rereading .read (some f) (.returned (parseInstanceId env f.raw))
  | vanished : Works env none .rereading .read none
      (.returned (.error "cannot read concurrently created instance ID"))

theorem works_of_step {file file' : Option IdFile} {p q : Phase Id} {w : Work Id}
    (h : p.step env file w = some (file', q)) : Works env file p w file' q := by
  unfold Phase.step at h
  split at h
  · split at h
    · cases h
      exact .read _
    · cases h
      exact .missing
  · split at h
    · rename_i hversion
      cases h
      exact .name _ _ hversion
    · cases h
  · split at h
    · cases h
      exact .create _
    · cases h
      exact .exists _ _
  · rename_i id rest n
    split at h
    · rename_i hn
      obtain hless | rfl := Nat.lt_or_eq_of_le hn.2
      · have hrest : rest.drop n ≠ [] := fun hnil =>
          absurd (List.drop_eq_nil_iff.mp hnil) (Nat.not_le.mpr hless)
        rw [if_neg hrest] at h
        cases h
        exact .write _ _ _ _ hn.1 hless
      · rw [List.drop_length, if_pos rfl, List.take_length] at h
        cases h
        exact .written _ _ _ (List.length_pos_iff.mp hn.1)
    · cases h
  · cases h
    exact .terminate _ _
  · cases h
    exact .sync _ _
  · cases h
    exact .link _ _
  · split at h
    · cases h
      exact .reread _
    · cases h
      exact .vanished
  · cases h

/-! ## The invariant -/

/-- The file belongs to the identity `id`. -/
structure Kept (env : Env Id) (id : Id) (f : IdFile) (s : Host Id) : Prop where
  version : env.getVersionNum id = 7
  holds : ∀ (i : Nat) (p : Phase Id), s.calls[i]? = some p → p.Holds env id f.content
  /-- One call at most has created it. -/
  single : ∀ (i j : Nat) (p q : Phase Id), s.calls[i]? = some p → s.calls[j]? = some q →
    p.owns = true → q.owns = true → i = j
  whole : (env.toText id).toList <+: f.content ∨
    ∃ (i : Nat) (rest : List Char), s.calls[i]? = some (.writing id rest)
  line : f.content <+: (env.toText id).toList ++ ['\n']
  same : ∀ x ∈ s.identities, x = env.toText id
  early : s.identities = [] ∨ (env.toText id).toList <+: f.content

structure Host.Sound (env : Env Id) (s : Host Id) : Prop where
  named : ∀ (i : Nat) id, s.calls[i]? = some (.creating id) → env.getVersionNum id = 7
  absent : s.file = none → s.identities = [] ∧
    ∀ (i : Nat) (p : Phase Id), s.calls[i]? = some p → p.owns = false
  kept : ∀ f, s.file = some f → ∃ id, Kept env id f s

theorem Host.Sound.init : (Host.init : Host Id).Sound env :=
  ⟨by simp [Host.init], fun _ => ⟨rfl, by simp [Host.init]⟩, fun f hf => by cases hf⟩

theorem getElem?_set_cases {α : Type} {l : List α} {i j : Nat} {x y : α}
    (h : (l.set i x)[j]? = some y) : i = j ∧ y = x ∨ i ≠ j ∧ l[j]? = some y := by
  rw [List.getElem?_set] at h
  split at h
  · rename_i hij
    split at h
    · exact .inl ⟨hij, (Option.some.inj h).symm⟩
    · cases h
  · rename_i hij
    exact .inr ⟨hij, h⟩

/-- A call goes on, and the file grows with it. -/
theorem Kept.set {s : Host Id} {id : Id} {f f' : IdFile} {i : Nat} {p q : Phase Id}
    (h : Kept env id f s) (hp : s.calls[i]? = some p)
    (hgrows : f.content <+: f'.content) (hcontent : f'.content = f.content ∨ p.owns = true)
    (hq : q.Holds env id f'.content) (howns : q.owns = true → p.owns = true)
    (hwhole : (env.toText id).toList <+: f'.content ∨ (∃ rest, q = .writing id rest) ∨
      f'.content = f.content ∧ ∀ rest, p ≠ .writing id rest)
    (hline : f'.content <+: (env.toText id).toList ++ ['\n'])
    (hids : q.identities = [] ∨ q.identities = [env.toText id] ∧
      (env.toText id).toList <+: f'.content) :
    Kept env id f' ⟨some f', s.calls.set i q, q.identities ++ s.identities⟩ := by
  have hlt : i < s.calls.length := (List.getElem?_eq_some_iff.mp hp).1
  refine ⟨h.version, fun j r hr => ?_, fun j k r r' hr hr' ho ho' => ?_, ?_, hline, fun x hx => ?_,
    ?_⟩
  · obtain ⟨rfl, rfl⟩ | ⟨hij, hr⟩ := getElem?_set_cases hr
    · exact hq
    · obtain hsame | hp' := hcontent
      · rw [hsame]
        exact h.holds j r hr
      · refine Phase.holds_of_not_owns ?_ id f'.content
        by_contra hr'
        exact hij (h.single i j p r hp hr hp' (by simpa using hr'))
  · obtain ⟨rfl, rfl⟩ | ⟨-, hj⟩ := getElem?_set_cases hr
    · obtain ⟨rfl, -⟩ | ⟨-, hk⟩ := getElem?_set_cases hr'
      · rfl
      · exact h.single i k p r' hp hk (howns ho) ho'
    · obtain ⟨rfl, rfl⟩ | ⟨-, hk⟩ := getElem?_set_cases hr'
      · exact h.single j i r p hj hp ho (howns ho')
      · exact h.single j k r r' hj hk ho ho'
  · obtain hwhole | ⟨rest, rfl⟩ | ⟨hsame, hp'⟩ := hwhole
    · exact .inl hwhole
    · exact .inr ⟨i, rest, List.getElem?_set_self hlt⟩
    · obtain hwhole | ⟨j, rest, hj⟩ := h.whole
      · exact .inl (hwhole.trans hgrows)
      · refine .inr ⟨j, rest, ?_⟩
        rw [List.getElem?_set_ne]
        · exact hj
        · rintro rfl
          rw [hp] at hj
          exact hp' rest (Option.some.inj hj)
  · obtain hnone | ⟨hone, -⟩ := hids
    · rw [hnone] at hx
      exact h.same x hx
    · rw [hone] at hx
      rcases List.mem_cons.mp hx with rfl | hx
      · rfl
      · exact h.same x hx
  · obtain hnone | ⟨-, hwhole⟩ := hids
    · rw [hnone]
      exact h.early.imp_right fun hwhole => hwhole.trans hgrows
    · exact .inr hwhole

theorem Kept.read {s : Host Id} {id : Id} {f : IdFile} (h : Kept env id f s)
    (hlawful : env.Lawful) :
    (env.toText id).toList <+: f.content ∧ parseInstanceId env f.raw = .ok (env.toText id) ∨
      (∃ (i : Nat) (rest : List Char), s.calls[i]? = some (.writing id rest)) ∧
        parseInstanceId env f.raw = .error "instance ID file is invalid" := by
  obtain hwhole | ⟨i, rest, hi⟩ := h.whole
  · exact .inl ⟨hwhole, parse_whole hlawful h.version hwhole h.line⟩
  · obtain ⟨-, hrest, htext⟩ := h.holds i _ hi
    refine .inr ⟨⟨i, rest, hi⟩, parse_partly hlawful ⟨rest, htext⟩ ?_⟩
    have hlength := hlawful.length id
    rw [← htext, List.length_append] at hlength
    have hpos := List.length_pos_iff.mpr hrest
    change f.content.length < 36
    omega

/-- A call that does not own the file reads it, or goes on without it. -/
theorem Kept.look {s : Host Id} {id : Id} {f : IdFile} {i : Nat} {p q : Phase Id}
    (h : Kept env id f s) (hp : s.calls[i]? = some p) (howns : p.owns = false)
    (hq : q.owns = false) (hids : q.identities = [] ∨ q.identities = [env.toText id] ∧
      (env.toText id).toList <+: f.content) :
    Kept env id f ⟨some f, s.calls.set i q, q.identities ++ s.identities⟩ := by
  refine h.set hp List.prefix_rfl (.inl rfl) (Phase.holds_of_not_owns hq id _) ?_ ?_ h.line hids
  · intro ho
    rw [hq] at ho
    cases ho
  · refine .inr (.inr ⟨rfl, ?_⟩)
    rintro rest rfl
    cases howns

theorem Host.Sound.named_set {s : Host Id} (h : s.Sound env) {i : Nat} {q : Phase Id}
    (hq : ∀ id, q = .creating id → env.getVersionNum id = 7) (j : Nat) (id : Id)
    (hj : (s.calls.set i q)[j]? = some (.creating id)) : env.getVersionNum id = 7 := by
  obtain ⟨-, heq⟩ | ⟨-, hold⟩ := getElem?_set_cases hj
  · exact hq id heq.symm
  · exact h.named j id hold

/-- Without a file nothing was returned, and nothing is. -/
theorem Host.Sound.missing {s : Host Id} (h : s.Sound env) (hfile : s.file = none) {i : Nat}
    {q : Phase Id} (hq : q.owns = false) (hids : q.identities = [])
    (hversion : ∀ id, q = .creating id → env.getVersionNum id = 7) :
    Host.Sound env ⟨none, s.calls.set i q, q.identities ++ s.identities⟩ := by
  obtain ⟨hnone, howns⟩ := h.absent hfile
  refine ⟨h.named_set hversion, fun _ => ⟨by rw [hids, hnone]; rfl, fun j p hj => ?_⟩,
    fun f hf => by cases hf⟩
  obtain ⟨-, rfl⟩ | ⟨-, hold⟩ := getElem?_set_cases hj
  · exact hq
  · exact howns j p hold

/-- The same where the file is there. -/
theorem Host.Sound.present {s : Host Id} (h : s.Sound env) {i : Nat} {f : IdFile} {q : Phase Id}
    (hversion : ∀ id, q = .creating id → env.getVersionNum id = 7)
    (hkept : ∃ id, Kept env id f ⟨some f, s.calls.set i q, q.identities ++ s.identities⟩) :
    Host.Sound env ⟨some f, s.calls.set i q, q.identities ++ s.identities⟩ :=
  ⟨h.named_set hversion, fun hnone => (by cases hnone), fun _ hg => Option.some.inj hg ▸ hkept⟩

theorem Host.Sound.works {s : Host Id} (h : s.Sound env) (hlawful : env.Lawful) {i : Nat}
    {p q : Phase Id} {w : Work Id} {file' : Option IdFile} (hp : s.calls[i]? = some p)
    (hw : Works env s.file p w file' q) :
    Host.Sound env ⟨file', s.calls.set i q, q.identities ++ s.identities⟩ := by
  generalize hfile : s.file = file at hw
  -- Of a call that owns the file, the file is there and is its own.
  have howned : p.owns = true → ∃ f id, file = some f ∧ Kept env id f s := by
    intro howns
    cases file with
    | none =>
      rw [(h.absent hfile).2 i p hp] at howns
      cases howns
    | some f =>
      obtain ⟨id, hkept⟩ := h.kept f hfile
      exact ⟨f, id, rfl, hkept⟩
  have hreads : ∀ f, s.file = some f → p.owns = false →
      ∃ id, Kept env id f ⟨some f, s.calls.set i (.returned (parseInstanceId env f.raw)),
        Phase.identities (.returned (parseInstanceId env f.raw) : Phase Id) ++ s.identities⟩ := by
    intro f hf howns
    obtain ⟨id, hkept⟩ := h.kept f hf
    refine ⟨id, hkept.look hp howns rfl ?_⟩
    obtain ⟨hwhole, hparse⟩ | ⟨-, hparse⟩ := hkept.read hlawful
    · rw [hparse]
      exact .inr ⟨rfl, hwhole⟩
    · rw [hparse]
      exact .inl rfl
  cases hw with
  | read f => exact h.present nofun (hreads f hfile rfl)
  | reread f => exact h.present nofun (hreads f hfile rfl)
  | missing => exact h.missing hfile rfl rfl nofun
  | vanished => exact h.missing hfile rfl rfl nofun
  | name _ id hversion =>
    cases file' with
    | none =>
      refine h.missing hfile rfl rfl fun id' heq => ?_
      cases heq
      exact hversion
    | some f =>
      obtain ⟨id', hkept⟩ := h.kept f hfile
      refine h.present (fun id'' heq => ?_) ⟨id', hkept.look hp rfl rfl (.inl rfl)⟩
      cases heq
      exact hversion
  | «exists» f id =>
    obtain ⟨id', hkept⟩ := h.kept f hfile
    exact h.present nofun ⟨id', hkept.look hp rfl rfl (.inl rfl)⟩
  | create id =>
    obtain ⟨hnone, howns⟩ := h.absent hfile
    have hlt : i < s.calls.length := (List.getElem?_eq_some_iff.mp hp).1
    refine h.present nofun ⟨id, h.named i id hp, fun j r hr => ?_, fun j k r r' hr hr' ho ho' => ?_,
      .inr ⟨i, _, List.getElem?_set_self hlt⟩, List.nil_prefix, ?_, .inl ?_⟩
    · obtain ⟨-, rfl⟩ | ⟨-, hold⟩ := getElem?_set_cases hr
      · exact ⟨rfl, hlawful.ne_nil id, rfl⟩
      · exact Phase.holds_of_not_owns (howns j r hold) id _
    · have hsame : ∀ l x, (s.calls.set i (.writing id (env.toText id).toList))[l]? = some x →
          x.owns = true → i = l := by
        intro l x hx hown
        obtain ⟨heq, -⟩ | ⟨-, hold⟩ := getElem?_set_cases hx
        · exact heq
        · rw [howns l x hold] at hown
          cases hown
      rw [← hsame j r hr ho, ← hsame k r' hr' ho']
    · intro x hx
      rw [hnone] at hx
      cases hx
    · exact hnone
  | write _ id rest n hn hless =>
    obtain ⟨f, id', rfl, hkept⟩ := howned rfl
    obtain ⟨rfl, hrest, htext⟩ := hkept.holds i _ hp
    have hsplit : (f.content ++ rest.take n) ++ rest.drop n = (env.toText id).toList := by
      rw [List.append_assoc, List.take_append_drop, htext]
    have hmore : rest.drop n ≠ [] := fun hnil =>
      absurd (List.drop_eq_nil_iff.mp hnil) (Nat.not_le.mpr hless)
    refine h.present nofun ⟨id, hkept.set hp (List.prefix_append _ _) (.inr rfl)
      ⟨rfl, hmore, hsplit⟩ (fun _ => rfl) (.inr (.inl ⟨_, rfl⟩)) ?_ (.inl rfl)⟩
    exact List.IsPrefix.trans ⟨_, hsplit⟩ (List.prefix_append _ _)
  | written _ id rest hrest =>
    obtain ⟨f, id', rfl, hkept⟩ := howned rfl
    obtain ⟨rfl, -, htext⟩ := hkept.holds i _ hp
    refine h.present nofun ⟨id, hkept.set hp (List.prefix_append _ _) (.inr rfl)
      ⟨rfl, htext⟩ (fun _ => rfl) (.inl ?_) ?_ (.inl rfl)⟩
    · change _ <+: f.content ++ rest
      rw [htext]
    · change f.content ++ rest <+: _
      rw [htext]
      exact List.prefix_append _ _
  | terminate _ id =>
    obtain ⟨f, id', rfl, hkept⟩ := howned rfl
    obtain ⟨rfl, htext⟩ := hkept.holds i _ hp
    have hcontent : (f.append ['\n']).content = (env.toText id).toList ++ ['\n'] :=
      congrArg (· ++ ['\n']) htext
    refine h.present nofun ⟨id, hkept.set hp (List.prefix_append _ _) (.inr rfl)
      ⟨rfl, hcontent⟩ (fun _ => rfl) (.inl ?_) ?_ (.inl rfl)⟩
    · rw [hcontent]
      exact List.prefix_append _ _
    · rw [hcontent]
  | sync _ id =>
    obtain ⟨f, id', rfl, hkept⟩ := howned rfl
    obtain ⟨rfl, htext⟩ := hkept.holds i _ hp
    refine h.present nofun ⟨id, hkept.set hp List.prefix_rfl (.inl rfl) ⟨rfl, htext⟩
      (fun _ => rfl) (.inl ?_) hkept.line (.inl rfl)⟩
    rw [htext]
    exact List.prefix_append _ _
  | link _ id =>
    obtain ⟨f, id', rfl, hkept⟩ := howned rfl
    obtain ⟨rfl, htext⟩ := hkept.holds i _ hp
    have hwhole : (env.toText id).toList <+: f.content := by
      rw [htext]
      exact List.prefix_append _ _
    exact h.present nofun ⟨id, hkept.set hp List.prefix_rfl (.inl rfl) trivial
      (fun hown => by cases hown) (.inl hwhole) hkept.line (.inr ⟨rfl, hwhole⟩)⟩

theorem Phase.stop_owns (p : Phase Id) : p.stop.owns = false := by
  unfold Phase.stop
  cases p <;> rfl

theorem Phase.stop_creating {p : Phase Id} {id : Id} : p.stop ≠ .creating id := by
  cases p <;> simp [Phase.stop, Phase.live]

theorem survives_some {entry : Bool} {kept : Nat} {file : Option IdFile} {f' : IdFile}
    (h : survives entry kept file = some f') :
    ∃ f, file = some f ∧ f'.content <+: f.content := by
  obtain ⟨f, hf, hrest⟩ := Option.bind_eq_some_iff.mp h
  split at hrest
  · cases hrest
    exact ⟨f, hf, List.take_prefix _ _⟩
  · cases hrest

/-- Every process has ended and the file, if it is there, is whole. -/
theorem Host.Sound.powerLoss {s : Host Id} (h : s.Sound env) (hlawful : env.Lawful)
    {entry : Bool} {kept : Nat} (hsafe : Harmless s (.powerLoss entry kept)) :
    Host.Sound env ⟨survives entry kept s.file, s.calls.map Phase.stop, s.identities⟩ := by
  have hstopped : ∀ (i : Nat) (p : Phase Id), (s.calls.map Phase.stop)[i]? = some p →
      ∃ q : Phase Id, p = q.stop := by
    intro i p hp
    rw [List.getElem?_map] at hp
    obtain ⟨q, -, hq⟩ := Option.map_eq_some_iff.mp hp
    exact ⟨q, hq.symm⟩
  have howns : ∀ (i : Nat) (p : Phase Id), (s.calls.map Phase.stop)[i]? = some p →
      p.owns = false := by
    intro i p hp
    obtain ⟨q, rfl⟩ := hstopped i p hp
    exact q.stop_owns
  simp only [Harmless] at hsafe
  refine ⟨fun i id hi => ?_, fun hnone => ?_, fun f' hf' => ?_⟩
  · obtain ⟨q, hq⟩ := hstopped i _ hi
    exact absurd hq.symm Phase.stop_creating
  · have hlost : survives entry kept s.file = none := hnone
    rw [hlost] at hsafe
    exact ⟨hsafe, howns⟩
  · have hleft : survives entry kept s.file = some f' := hf'
    rw [hleft] at hsafe
    obtain ⟨f, hf, hstart⟩ := survives_some hleft
    obtain ⟨id, hkept⟩ := h.kept f hf
    have hwhole : (env.toText id).toList <+: f'.content := by
      refine List.prefix_of_prefix_length_le (List.prefix_append _ _) (hstart.trans hkept.line) ?_
      rw [hlawful.length]
      exact hsafe
    refine ⟨id, hkept.version, fun i p hp => Phase.holds_of_not_owns (howns i p hp) _ _,
      fun i j p q hp _ ho => ?_, .inl hwhole, hstart.trans hkept.line, hkept.same, .inr hwhole⟩
    rw [howns i p hp] at ho
    cases ho

theorem Host.Sound.next {s t : Host Id} (h : s.Sound env) (hlawful : env.Lawful) {m : Move Id}
    (hn : Next env s m t) : t.Sound env := by
  obtain ⟨hstep, hsafe⟩ := hn
  cases m with
  | call =>
    cases hstep
    have hcalls : ∀ (i : Nat) (p : Phase Id), (s.calls ++ [.reading])[i]? = some p →
        s.calls[i]? = some p ∨ p = .reading := by
      intro i p hp
      obtain hlt | hge := Nat.lt_or_ge i s.calls.length
      · rw [List.getElem?_append_left hlt] at hp
        exact .inl hp
      · rw [List.getElem?_append_right hge] at hp
        exact .inr (List.mem_singleton.mp (List.mem_of_getElem? hp))
    refine ⟨fun i id hi => ?_, fun hnone => ⟨(h.absent hnone).1, fun i p hp => ?_⟩, fun f hf => ?_⟩
    · exact h.named i id ((hcalls i _ hi).resolve_right (by simp))
    · obtain hold | rfl := hcalls i p hp
      · exact (h.absent hnone).2 i p hold
      · rfl
    · obtain ⟨id, hkept⟩ := h.kept f hf
      have hown : ∀ (i : Nat) (p : Phase Id), (s.calls ++ [.reading])[i]? = some p →
          p.owns = true → s.calls[i]? = some p := by
        intro i p hp ho
        obtain hold | rfl := hcalls i p hp
        · exact hold
        · cases ho
      refine ⟨id, hkept.version, fun i p hp => ?_, fun i j p q hp hq ho ho' =>
        hkept.single i j p q (hown i p hp ho) (hown j q hq ho') ho ho', ?_, hkept.line, hkept.same,
        hkept.early⟩
      · obtain hold | rfl := hcalls i p hp
        · exact hkept.holds i p hold
        · trivial
      · refine hkept.whole.imp_right ?_
        rintro ⟨i, rest, hi⟩
        refine ⟨i, rest, ?_⟩
        rw [List.getElem?_append_left (List.getElem?_eq_some_iff.mp hi).1]
        exact hi
  | work i w =>
    obtain ⟨p, hp, hstep⟩ := Option.bind_eq_some_iff.mp hstep
    obtain ⟨⟨file', q⟩, hq, heq⟩ := Option.bind_eq_some_iff.mp hstep
    cases heq
    exact h.works hlawful hp (works_of_step hq)
  | kill i =>
    obtain ⟨p, hp, hstep⟩ := Option.bind_eq_some_iff.mp hstep
    split at hstep
    · cases hstep
      have hother : ∀ id, (.killed : Phase Id) = .creating id → env.getVersionNum id = 7 :=
        fun id heq => by cases heq
      cases hfile : s.file with
      | none => exact hfile ▸ h.missing hfile rfl rfl hother
      | some f =>
        obtain ⟨id, hkept⟩ := h.kept f hfile
        have hkilled : Kept env id f ⟨some f, s.calls.set i .killed,
            Phase.identities (.killed : Phase Id) ++ s.identities⟩ := by
          refine hkept.set hp List.prefix_rfl (.inl rfl) trivial (fun ho => by cases ho)
            (.inr (.inr ⟨rfl, fun rest heq => ?_⟩)) hkept.line (.inl rfl)
          exact hsafe id rest (hp.trans (congrArg some heq))
        exact hfile ▸ h.present hother ⟨id, hkilled⟩
    · cases hstep
  | powerLoss entry kept =>
    cases hstep
    exact h.powerLoss hlawful hsafe

theorem Host.Sound.agreed {s : Host Id} (h : s.Sound env) : s.Agreed env := by
  cases hfile : s.file with
  | none =>
    have hnone := (h.absent hfile).1
    exact ⟨by simp [hnone], by simp [hnone]⟩
  | some f =>
    obtain ⟨id, hkept⟩ := h.kept f hfile
    refine ⟨fun x hx => ⟨id, hkept.version, hkept.same x hx⟩, fun x hx y hy => ?_⟩
    rw [hkept.same x hx, hkept.same y hy]

/-! ## A call by itself -/

section Alone

variable {file : Option IdFile} {calls : List (Phase Id)} {ids : List String} {p : Phase Id}

theorem step_last (w : Work Id) :
    Host.step env ⟨file, calls ++ [p], ids⟩ (.work calls.length w) =
      (p.step env file w).map fun r => ⟨r.1, calls ++ [r.2], r.2.identities ++ ids⟩ := by
  have hlast : (calls ++ [p])[calls.length]? = some p := List.getElem?_concat_length
  have hset : ∀ q, (calls ++ [p]).set calls.length q = calls ++ [q] := by
    intro q
    rw [List.set_append_right _ _ le_rfl, Nat.sub_self]
    rfl
  simp only [Host.step, hlast, hset, Option.bind_eq_bind, Option.bind_some]
  cases p.step env file w <;> rfl

/-- The last call goes on by itself until it returns an identity. -/
def Returns (env : Env Id) (calls : List (Phase Id)) : Host Id → Prop :=
  Surely (Steps (Host.step env)) (fun m => ∃ w, m = .work calls.length w)
    (fun u => ∃ id, u.calls[calls.length]? = some (.returned (.ok id)))

theorem returns_now (id : String) :
    Returns env calls ⟨file, calls ++ [.returned (.ok id)], ids⟩ := by
  refine .now ⟨id, ?_⟩
  exact List.getElem?_concat_length

theorem returns_later (hsome : ∃ w r, p.step env file w = some r)
    (hall : ∀ w file' q, Works env file p w file' q →
      Returns env calls ⟨file', calls ++ [q], q.identities ++ ids⟩) :
    Returns env calls ⟨file, calls ++ [p], ids⟩ := by
  refine .later ?_ ?_
  · obtain ⟨w, r, hr⟩ := hsome
    exact ⟨.work calls.length w, _, ⟨w, rfl⟩, rfl, (step_last w).trans (congrArg _ hr)⟩
  · rintro _ t ⟨w, rfl⟩ ⟨-, hstep⟩
    rw [step_last] at hstep
    obtain ⟨⟨file', q⟩, hq, rfl⟩ := Option.map_eq_some_iff.mp hstep
    exact hall w file' q (works_of_step hq)

theorem returns_linking (id : Id) : Returns env calls ⟨file, calls ++ [.linking id], ids⟩ := by
  refine returns_later ⟨.link, _, rfl⟩ fun w file' q hw => ?_
  cases hw
  exact returns_now _

theorem returns_syncing (id : Id) : Returns env calls ⟨file, calls ++ [.syncing id], ids⟩ := by
  refine returns_later ⟨.sync, _, rfl⟩ fun w file' q hw => ?_
  cases hw
  exact returns_linking id

theorem returns_terminating (id : Id) :
    Returns env calls ⟨file, calls ++ [.terminating id], ids⟩ := by
  refine returns_later ⟨.terminate, _, rfl⟩ fun w file' q hw => ?_
  cases hw
  exact returns_syncing id

/-- Every write leaves less to write. -/
theorem returns_writing (id : Id) {rest : List Char} (h : rest ≠ []) :
    Returns env calls ⟨file, calls ++ [.writing id rest], ids⟩ := by
  induction hlen : rest.length using Nat.strong_induction_on generalizing file rest with
  | _ n ih =>
    have hpos := List.length_pos_iff.mpr h
    have hwrites : ∃ w r, (Phase.writing id rest).step env file w = some r :=
      ⟨.write rest.length, _, if_pos ⟨hpos, le_rfl⟩⟩
    refine returns_later hwrites fun w file' q hw => ?_
    cases hw with
    | write _ _ _ k hk hless =>
      have hmore : rest.drop k ≠ [] := fun hnil =>
        absurd (List.drop_eq_nil_iff.mp hnil) (Nat.not_le.mpr hless)
      refine ih _ ?_ hmore rfl
      rw [List.length_drop]
      omega
    | written => exact returns_terminating id

theorem returns_naming (hlawful : env.Lawful) :
    Returns env calls ⟨none, calls ++ [.naming], ids⟩ := by
  obtain ⟨id, -, hversion⟩ := hlawful.fresh ""
  refine returns_later ⟨.name id, _, if_pos hversion⟩ fun w file' q hw => ?_
  cases hw with
  | name _ id _ =>
    refine returns_later ⟨.create, _, rfl⟩ fun w file' q hw => ?_
    cases hw
    exact returns_writing id (hlawful.ne_nil id)

end Alone

theorem Host.Sound.recovers {s : Host Id} (h : s.Sound env) (hlawful : env.Lawful) :
    s.Recovers env := by
  rintro hidle t hcall
  cases hcall
  change Returns env s.calls ⟨s.file, s.calls ++ [.reading], s.identities⟩
  cases hfile : s.file with
  | none =>
    refine returns_later ⟨.read, _, rfl⟩ fun w file' q hw => ?_
    cases hw
    exact returns_naming hlawful
  | some f =>
    obtain ⟨id, hkept⟩ := h.kept f hfile
    refine returns_later ⟨.read, _, rfl⟩ fun w file' q hw => ?_
    cases hw
    obtain ⟨-, hparse⟩ | ⟨⟨i, rest, hi⟩, -⟩ := hkept.read hlawful
    · rw [hparse]
      exact returns_now _
    · exact absurd hi (hidle i id rest)

/-! ## Where it goes wrong -/

/-- A file without a whole identity is refused for good. -/
theorem not_recovers {s : Host Id} {f : IdFile} {e : String} (hidle : s.Idle)
    (hfile : s.file = some f) (hparse : parseInstanceId env f.raw = .error e) :
    ¬ s.Recovers env := by
  intro hrecovers
  have hreturns : Returns env s.calls ⟨s.file, s.calls ++ [.reading], s.identities⟩ :=
    hrecovers hidle _ rfl
  have hlast : ∀ p : Phase Id, (s.calls ++ [p])[s.calls.length]? = some p :=
    fun _ => List.getElem?_concat_length
  have hread : Host.step env ⟨s.file, s.calls ++ [.reading], s.identities⟩
      (.work s.calls.length .read) =
        some ⟨some f, s.calls ++ [.returned (.error e)], s.identities⟩ := by
    rw [step_last, hfile, ← hparse]
    refine congrArg (fun l => some (Host.mk _ _ l)) ?_
    rw [hparse]
    rfl
  have hnot : ¬ ∃ id, (s.calls ++ [.reading])[s.calls.length]? =
      some (.returned (.ok id) : Phase Id) := by
    rintro ⟨id, hid⟩
    rw [hlast] at hid
    cases hid
  have hrefused := Surely.step hreturns hnot ⟨.read, rfl⟩ ⟨rfl, hread⟩
  obtain ⟨id, hid⟩ := hrefused.of_stuck <| by
    rintro _ t ⟨w, rfl⟩ ⟨-, hstep⟩
    rw [step_last] at hstep
    cases hstep
  exact absurd ((hlast _).symm.trans hid) (by simp)

/-- Without the file a call makes a new identity. -/
theorem creates_anew {calls : List (Phase Id)} {ids : List String} {id : Id}
    (hlawful : env.Lawful) (hversion : env.getVersionNum id = 7) :
    ∃ u, Reachable (Next env) ⟨none, calls, ids⟩ u ∧ u.identities = env.toText id :: ids := by
  have hwork : ∀ {s : Host Id} {file file' : Option IdFile} {p q : Phase Id} {w : Work Id}
      {ids : List String}, Reachable (Next env) s ⟨file, calls ++ [p], ids⟩ →
      p.step env file w = some (file', q) →
      Reachable (Next env) s ⟨file', calls ++ [q], q.identities ++ ids⟩ := by
    intro s file file' p q w ids hreach hstep
    exact hreach.step (i := .work calls.length w)
      ⟨(step_last w).trans (congrArg _ hstep), trivial⟩
  have hcall : Reachable (Next env) ⟨none, calls, ids⟩ ⟨none, calls ++ [.reading], ids⟩ :=
    (Reachable.refl _).step (i := .call) ⟨rfl, trivial⟩
  have hpos : 0 < (env.toText id).toList.length := List.length_pos_iff.mpr (hlawful.ne_nil id)
  have hnamed := hwork (hwork hcall (w := .read) rfl) (w := .name id) (if_pos hversion)
  have hcreated := hwork hnamed (w := .create) rfl
  have hwritten := hwork hcreated (w := .write (env.toText id).toList.length)
    (if_pos ⟨hpos, le_rfl⟩)
  rw [List.drop_length, if_pos rfl] at hwritten
  have hsynced := hwork (hwork hwritten (w := .terminate) rfl) (w := .sync) rfl
  exact ⟨_, hwork hsynced (w := .link) rfl, rfl⟩

/-- The step is the one at which something is lost. -/
theorem Host.Sound.interrupted {s t : Host Id} (h : s.Sound env) (hlawful : env.Lawful)
    {m : Move Id} (hstep : s.step env m = some t) (hharm : ¬ Harmless s m) :
    ∃ u, Reachable (Next env) t u ∧ ¬ (u.Agreed env ∧ u.Recovers env) := by
  cases m with
  | call => exact absurd trivial hharm
  | work i w => exact absurd trivial hharm
  | kill i =>
    simp only [Harmless, not_forall, not_not] at hharm
    obtain ⟨id, rest, hi⟩ := hharm
    obtain ⟨p, hp, hstep⟩ := Option.bind_eq_some_iff.mp hstep
    obtain rfl := Option.some.inj (hp.symm.trans hi)
    cases hstep
    cases hfile : s.file with
    | none =>
      have howns := (h.absent hfile).2 i _ hi
      cases howns
    | some f =>
      obtain ⟨id', hkept⟩ := h.kept f hfile
      obtain ⟨-, hrest, htext⟩ := hkept.holds i _ hi
      have hlength := hlawful.length id'
      rw [← htext, List.length_append] at hlength
      have hpos := List.length_pos_iff.mpr hrest
      have hshort : f.content.length < 36 := by omega
      have hidle : Host.Idle ⟨some f, s.calls.set i .killed, s.identities⟩ := by
        intro j id'' rest' hj
        obtain ⟨-, heq⟩ | ⟨hij, hold⟩ := getElem?_set_cases hj
        · cases heq
        · exact hij (hkept.single i j _ _ hi hold rfl rfl)
      exact ⟨_, .refl _, fun hboth =>
        not_recovers hidle rfl (parse_partly hlawful ⟨rest, htext⟩ hshort) hboth.2⟩
  | powerLoss entry kept =>
    simp only [Harmless] at hharm
    cases hstep
    cases hleft : survives entry kept s.file with
    | none =>
      rw [hleft] at hharm
      obtain ⟨x, hx⟩ := List.exists_mem_of_ne_nil _ hharm
      obtain ⟨id, hne, hversion⟩ := hlawful.fresh x
      have hanew : ∃ u, Reachable (Next env) ⟨none, s.calls.map Phase.stop, s.identities⟩ u ∧
          u.identities = env.toText id :: s.identities := creates_anew hlawful hversion
      obtain ⟨u, hreach, hids⟩ := hanew
      refine ⟨u, hreach, fun hboth => hne ?_⟩
      refine hboth.1.same _ ?_ _ ?_
      · rw [hids]
        exact List.mem_cons_self
      · rw [hids]
        exact List.mem_cons_of_mem _ hx
    | some f' =>
      rw [hleft] at hharm
      obtain ⟨f, hf, hstart⟩ := survives_some hleft
      obtain ⟨id, hkept⟩ := h.kept f hf
      have hshort : f'.content.length < 36 := Nat.not_le.mp hharm
      have hpart : f'.content <+: (env.toText id).toList := by
        refine List.prefix_of_prefix_length_le (hstart.trans hkept.line)
          (List.prefix_append _ _) ?_
        rw [hlawful.length]
        exact hshort.le
      refine ⟨_, .refl _, fun hboth => not_recovers (fun j id' rest hj => ?_) rfl
        (parse_partly hlawful hpart hshort) hboth.2⟩
      rw [List.getElem?_map] at hj
      obtain ⟨q, -, hq⟩ := Option.map_eq_some_iff.mp hj
      have howns := q.stop_owns
      rw [hq] at howns
      cases howns

/-- As long as no step loses anything, one identity is returned at most, and a call that is not
interrupted returns it. The first step that loses something ends that. -/
theorem identity_stable_iff (env : Env Id) (hlawful : env.Lawful) :
    (∀ ms s, Run (Next env) .init ms s → s.Agreed env ∧ s.Recovers env) ∧
    ∀ ms s m t, Run (Next env) .init ms s → s.step env m = some t → ¬ Harmless s m →
      ∃ u, Reachable (Next env) t u ∧ ¬ (u.Agreed env ∧ u.Recovers env) := by
  have hsound : ∀ ms s, Run (Next env) .init ms s → s.Sound env := fun ms s hrun =>
    hrun.invariant .init fun _ _ _ hs hn => hs.next hlawful hn
  refine ⟨fun ms s hrun => ?_, fun ms s m t hrun hstep hharm => ?_⟩
  · exact ⟨(hsound ms s hrun).agreed, (hsound ms s hrun).recovers hlawful⟩
  · exact (hsound ms s hrun).interrupted hlawful hstep hharm

end Runs

/-! ## A call that is killed -/

def sampleText (last : Bool) : String :=
  if last then "01890a5d-ac96-774b-bcce-b302099a8058" else "01890a5d-ac96-774b-bcce-b302099a8057"

/-- Two identities, and their texts. -/
def sampleEnv : Env Bool where
  parseStr raw :=
    if raw = sampleText true then some true else if raw = sampleText false then some false else none
  getVersionNum _ := 7
  toText := sampleText

theorem sampleEnv_lawful : sampleEnv.Lawful := by
  have hne : sampleText false ≠ sampleText true := by decide
  have hlength : ∀ last, (sampleText last).toList.length = 36 := by decide
  have hplain : ∀ last, ((sampleText last).toList.all fun c => !isWhiteSpace c) = true := by
    decide +kernel
  refine ⟨fun last => ?_, fun last start hstart hpart => ?_, fun last c hc => ?_, hlength,
    fun text => ?_⟩
  · cases last
    · simp [sampleEnv, hne]
    · simp [sampleEnv]
  · have hother : ∀ other, String.ofList start ≠ sampleText other := by
      intro other heq
      have hlist : start = (sampleText other).toList := by rw [← heq, String.toList_ofList]
      refine hpart (hstart.eq_of_length ?_)
      rw [hlist, hlength]
      exact (hlength last).symm
    exact (if_neg (hother true)).trans (if_neg (hother false))
  · simpa using List.all_eq_true.mp (hplain last) c hc
  · by_cases htext : sampleText true = text
    · exact ⟨false, fun heq => hne (heq.trans htext.symm), rfl⟩
    · exact ⟨true, htext, rfl⟩

/-- The process of a call ends right after its exclusive create: a later call finds an empty file. -/
theorem refused_after_kill :
    (exec (Host.step sampleEnv) (fun _ _ => true) .init
      [.call, .work 0 .read, .work 0 (.name false), .work 0 .create, .kill 0, .call,
        .work 1 .read]).map Host.calls =
      some [.killed, .returned (.error "instance ID file is invalid")] := by
  rfl

/-- A call that is killed before it creates the file does no harm. -/
theorem identity_stable_iff_early :
    ∃ s, Run (Next sampleEnv) .init [.call, .work 0 .read, .kill 0] s ∧ s.calls = [.killed] ∧
      s.Agreed sampleEnv ∧ s.Recovers sampleEnv := by
  have hcalled : Run (Next sampleEnv) .init [.call] ⟨none, [.reading], []⟩ :=
    .single ⟨rfl, trivial⟩
  have hread : Run (Next sampleEnv) .init [.call, .work 0 .read] ⟨none, [.naming], []⟩ :=
    hcalled.snoc ⟨rfl, trivial⟩
  have hrun : Run (Next sampleEnv) .init [.call, .work 0 .read, .kill 0] ⟨none, [.killed], []⟩ :=
    hread.snoc ⟨rfl, fun id rest h => by cases h⟩
  exact ⟨_, hrun, rfl, (identity_stable_iff sampleEnv sampleEnv_lawful).1 _ _ hrun⟩

end Starry.ControlAgent
