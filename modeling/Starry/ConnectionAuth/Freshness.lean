import Starry.ConnectionAuth.Jwks
import Starry.Library.Run

/-!
# The freshness of a cached keyset (`write_jwks_cache`)

The keyset and its metadata are two files, replaced one after the other by any number of calls. A call
may stop anywhere. The digest in the metadata tells which keyset its time belongs to.
-/

open Library

namespace Starry.ConnectionAuth

open Starry.Config (ConnectionAuthConfig onlyIf)

/-! ## The cache files -/

/-- A call of `write_jwks_cache` with its keyset and when it was fetched. -/
inductive CacheWrite
  | called (raw : Bytes) (fetchedAt : Nat)
  /-- The keyset is replaced, its metadata not yet. -/
  | keysReplaced (raw : Bytes) (fetchedAt : Nat)
  | ended
deriving DecidableEq, Repr

structure CacheWorld where
  disk : CachePath → Option Bytes
  calls : List CacheWrite
  /-- The keysets that were fetched, with when. -/
  fetched : List (Bytes × Nat)

inductive CacheStep
  /-- A runtime has fetched a keyset and caches it. -/
  | call (raw : Bytes) (fetchedAt : Nat)
  /-- `synced` tells whether the call has seen its directory synced. -/
  | replaceKeys (k : Nat) (synced : Bool)
  | replaceMetadata (k : Nat)
  /-- The call fails, or its process dies. -/
  | stop (k : Nat)
deriving DecidableEq, Repr

variable (env : Env) (path : CachePath)

def metadataOf (raw : Bytes) (fetchedAt : Nat) : JwksCacheMetadata :=
  { version := 1, fetchedAtEpochSeconds := fetchedAt, jwksSha256 := jwksSha256 env raw }

def CacheWorld.step (s : CacheWorld) : CacheStep → Option CacheWorld
  | .call raw fetchedAt =>
    match parseJwks env raw with
    | .ok _ =>
      some { s with
        calls := s.calls ++ [.called raw fetchedAt]
        fetched := s.fetched ++ [(raw, fetchedAt)] }
    | .error _ => none
  | .replaceKeys k synced =>
    match s.calls[k]? with
    | some (.called raw fetchedAt) =>
      -- The metadata is serialized before anything is written.
      match env.writeMetadata (metadataOf env raw fetchedAt) with
      | .ok _ =>
        some { s with
          disk := Function.update s.disk path (some raw)
          calls := s.calls.set k (if synced then .keysReplaced raw fetchedAt else .ended) }
      | .error _ => none
    | _ => none
  | .replaceMetadata k =>
    match s.calls[k]? with
    | some (.keysReplaced raw fetchedAt) =>
      match jwksMetadataPath path, env.writeMetadata (metadataOf env raw fetchedAt) with
      | .ok metadataPath, .ok metadata =>
        some { s with
          disk := Function.update s.disk metadataPath (some metadata)
          calls := s.calls.set k .ended }
      | _, _ => none
    | _ => none
  | .stop k => if k < s.calls.length then some { s with calls := s.calls.set k .ended } else none

/-- The path of a cache that nothing has dated yet. -/
structure Undated (s : CacheWorld) : Prop where
  calls : s.calls = []
  metadata : ∀ metadataPath, jwksMetadataPath path = .ok metadataPath →
    s.disk metadataPath = none

/-- `fs::read` of a file, which may fail for another reason. -/
def readFile (failure : Option String) (content : Option Bytes) : ReadResult :=
  match failure, content with
  | some text, _ => .failed text
  | none, some raw => .bytes raw
  | none, none => .notFound

/-! ## What the metadata file holds -/

variable {env path} {s t : CacheWorld}

/-- A call writes for a keyset that was fetched, and so is the metadata on disk. -/
structure Dated (env : Env) (path : CachePath) (s : CacheWorld) : Prop where
  called : ∀ raw fetchedAt, .called raw fetchedAt ∈ s.calls → (raw, fetchedAt) ∈ s.fetched
  replaced : ∀ raw fetchedAt, .keysReplaced raw fetchedAt ∈ s.calls → (raw, fetchedAt) ∈ s.fetched
  metadata : ∀ metadataPath, jwksMetadataPath path = .ok metadataPath →
    ∀ content, s.disk metadataPath = some content →
      ∃ raw fetchedAt, (raw, fetchedAt) ∈ s.fetched ∧
        env.writeMetadata (metadataOf env raw fetchedAt) = .ok content

theorem metadataPath_ne {metadataPath : CachePath} (h : jwksMetadataPath path = .ok metadataPath) :
    metadataPath ≠ path := by
  unfold jwksMetadataPath at h
  split at h
  · rename_i fileName hname
    obtain rfl := Except.ok.inj h
    intro heq
    have hlength := congrArg (fun p => (p.fileName.getD "").length) heq
    simp [hname] at hlength
  · cases h

theorem Undated.dated (h : Undated path s) : Dated env path s := by
  constructor
  · simp [h.calls]
  · simp [h.calls]
  · intro metadataPath hpath content hcontent
    rw [h.metadata metadataPath hpath] at hcontent
    cases hcontent

/-- A call that is set aside is none that writes. -/
theorem Dated.set (hs : Dated env path s) {k : Nat} {call : CacheWrite} {disk}
    (hcall : ∀ raw fetchedAt, call = .called raw fetchedAt ∨ call = .keysReplaced raw fetchedAt →
      (raw, fetchedAt) ∈ s.fetched)
    (hdisk : ∀ metadataPath, jwksMetadataPath path = .ok metadataPath →
      ∀ content, disk metadataPath = some content →
        ∃ raw fetchedAt, (raw, fetchedAt) ∈ s.fetched ∧
          env.writeMetadata (metadataOf env raw fetchedAt) = .ok content) :
    Dated env path { s with disk := disk, calls := s.calls.set k call } := by
  constructor
  · intro raw fetchedAt hmem
    rcases List.mem_or_eq_of_mem_set hmem with hmem | heq
    · exact hs.called raw fetchedAt hmem
    · exact hcall raw fetchedAt (.inl heq.symm)
  · intro raw fetchedAt hmem
    rcases List.mem_or_eq_of_mem_set hmem with hmem | heq
    · exact hs.replaced raw fetchedAt hmem
    · exact hcall raw fetchedAt (.inr heq.symm)
  · exact hdisk

theorem Dated.call (hs : Dated env path s) (raw : Bytes) (fetchedAt : Nat) :
    Dated env path { s with
      calls := s.calls ++ [.called raw fetchedAt]
      fetched := s.fetched ++ [(raw, fetchedAt)] } := by
  constructor
  · intro raw' fetchedAt' hmem
    rcases List.mem_append.mp hmem with hmem | hmem
    · exact List.mem_append_left _ (hs.called raw' fetchedAt' hmem)
    · simp at hmem
      simp [hmem]
  · intro raw' fetchedAt' hmem
    rcases List.mem_append.mp hmem with hmem | hmem
    · exact List.mem_append_left _ (hs.replaced raw' fetchedAt' hmem)
    · simp at hmem
  · intro metadataPath hpath content hcontent
    obtain ⟨raw', fetchedAt', hfetched, hwrite⟩ := hs.metadata metadataPath hpath content hcontent
    exact ⟨raw', fetchedAt', List.mem_append_left _ hfetched, hwrite⟩

theorem Dated.step (hs : Dated env path s) {i : CacheStep}
    (h : Steps (CacheWorld.step env path) s i t) : Dated env path t := by
  obtain ⟨-, h⟩ := h
  cases i with
  | call raw fetchedAt =>
    simp only [CacheWorld.step] at h
    split at h
    · obtain rfl := Option.some.inj h
      exact hs.call raw fetchedAt
    · cases h
  | replaceKeys k synced =>
    simp only [CacheWorld.step] at h
    split at h
    · rename_i raw fetchedAt hk
      have hfetched := hs.called raw fetchedAt (List.mem_of_getElem? hk)
      split at h
      · obtain rfl := Option.some.inj h
        apply hs.set
        · intro raw' fetchedAt' hcall
          cases synced <;> simp at hcall
          obtain ⟨rfl, rfl⟩ := hcall
          exact hfetched
        · intro metadataPath hpath content hcontent
          rw [Function.update_of_ne (metadataPath_ne hpath)] at hcontent
          exact hs.metadata metadataPath hpath content hcontent
      · cases h
    · cases h
  | replaceMetadata k =>
    simp only [CacheWorld.step] at h
    split at h
    · rename_i raw fetchedAt hk
      have hfetched := hs.replaced raw fetchedAt (List.mem_of_getElem? hk)
      split at h
      · rename_i metadataPath metadata hpath hwrite
        obtain rfl := Option.some.inj h
        apply hs.set
        · intro raw' fetchedAt' hcall
          simp at hcall
        · intro metadataPath' hpath' content hcontent
          obtain rfl := Except.ok.inj (hpath.symm.trans hpath')
          rw [Function.update_self] at hcontent
          obtain rfl := Option.some.inj hcontent
          exact ⟨raw, fetchedAt, hfetched, hwrite⟩
      · cases h
    · cases h
  | stop k =>
    simp only [CacheWorld.step] at h
    split at h
    · obtain rfl := Option.some.inj h
      apply hs.set
      · intro raw fetchedAt hcall
        simp at hcall
      · exact hs.metadata
    · cases h

/-! ## Loading the freshness -/

theorem mapError_ok {ε ε' α : Type} {x : Except ε α} {f : ε → ε'} {a : α}
    (h : x.mapError f = .ok a) : x = .ok a := by
  cases x with
  | error err => cases h
  | ok b => rw [Except.ok.inj h]

theorem believed_ok {now fetchedAt : Nat} {raw metadataRaw : Bytes}
    (h : believed env now raw metadataRaw = .ok (some fetchedAt)) :
    ∃ metadata, env.readMetadata metadataRaw = .ok metadata ∧
      metadata.jwksSha256 = jwksSha256 env raw ∧ metadata.fetchedAtEpochSeconds = fetchedAt := by
  unfold believed at h
  obtain ⟨_, -, h⟩ := bind_eq_ok.mp h
  obtain ⟨metadata, hread, h⟩ := bind_eq_ok.mp h
  obtain ⟨_, -, h⟩ := bind_eq_ok.mp h
  obtain ⟨_, hdigest, h⟩ := bind_eq_ok.mp h
  obtain ⟨_, -, h⟩ := bind_eq_ok.mp h
  exact ⟨metadata, mapError_ok hread, by simpa using hdigest, by simpa [pure, Except.pure] using h⟩

/-- With metadata required, a time comes from a metadata file that is believed. -/
theorem loadJwksFreshness_ok {now fetchedAt : Nat} {metadataFile : ReadResult}
    {modified : Except String Nat} {raw : Bytes}
    (h : loadJwksFreshness env now metadataFile modified path raw true = .ok (some fetchedAt)) :
    ∃ metadataPath metadataRaw, jwksMetadataPath path = .ok metadataPath ∧
      metadataFile = .bytes metadataRaw ∧
      believed env now raw metadataRaw = .ok (some fetchedAt) := by
  unfold loadJwksFreshness at h
  obtain ⟨metadataPath, hpath, h⟩ := bind_eq_ok.mp h
  cases metadataFile with
  | bytes metadataRaw => exact ⟨metadataPath, metadataRaw, hpath, rfl, h⟩
  | notFound => cases h
  | failed text => cases h

theorem readFile_bytes {failure : Option String} {content : Option Bytes} {raw : Bytes}
    (h : readFile failure content = .bytes raw) : content = some raw := by
  unfold readFile at h
  split at h
  · cases h
  · rw [ReadResult.bytes.inj h]
  · cases h

/-- What is believed was fetched when the metadata says. -/
theorem Dated.fetched_of_load (hs : Dated env path s)
    (hserde : ∀ metadata bytes, env.writeMetadata metadata = .ok bytes →
      env.readMetadata bytes = .ok metadata)
    (hsha : ∀ a b, env.sha256Hex a = env.sha256Hex b → a = b) {now fetchedAt : Nat}
    {failure : Option String} {modified : Except String Nat} {metadataPath : CachePath} {raw : Bytes}
    (hpath : jwksMetadataPath path = .ok metadataPath)
    (h : loadJwksFreshness env now (readFile failure (s.disk metadataPath)) modified path raw true =
      .ok (some fetchedAt)) : (raw, fetchedAt) ∈ s.fetched := by
  obtain ⟨metadataPath', metadataRaw, hpath', hfile, hbelieved⟩ := loadJwksFreshness_ok h
  obtain ⟨raw', fetchedAt', hfetched, hwrite⟩ :=
    hs.metadata metadataPath hpath metadataRaw (readFile_bytes hfile)
  obtain ⟨metadata, hread, hdigest, htime⟩ := believed_ok hbelieved
  rw [hserde _ _ hwrite] at hread
  obtain rfl := Except.ok.inj hread
  obtain rfl := hsha raw' raw hdigest
  obtain rfl : fetchedAt' = fetchedAt := htime
  exact hfetched

/-! ## An enforced runtime -/

/-- The runtime has a keyset that was downloaded for it. -/
def downloaded (config : ConnectionAuthConfig) (io : PrepareInput) : Bool :=
  !config.jwks.url.isEmpty && io.response.isOk

theorem keyAge_some {now age : Nat} {loadedAt : Option Nat} (h : keyAge now loadedAt = some age) :
    ∃ loaded, loadedAt = some loaded ∧ loaded ≤ now ∧ age = now - loaded := by
  obtain ⟨loaded, hloaded, h⟩ := Option.bind_eq_some_iff.mp h
  split at h
  · rename_i hle
    exact ⟨loaded, hloaded, hle, (Option.some.inj h).symm⟩
  · cases h

theorem checkEnforced_ok {maxStaleSeconds now : Nat} {found : LocalKeys} {u : Unit}
    (h : checkEnforced maxStaleSeconds now found = .ok u) :
    found.keys.entries.isEmpty = false ∧ ∃ loaded, found.loadedAtEpochSeconds = some loaded ∧
      loaded ≤ now ∧ now - loaded ≤ maxStaleSeconds := by
  unfold checkEnforced at h
  obtain ⟨_, hkeys, h⟩ := bind_eq_ok.mp h
  refine ⟨by simpa using hkeys, ?_⟩
  split at h
  · cases h
  · rename_i age hage
    obtain ⟨loaded, hloaded, hle, rfl⟩ := keyAge_some hage
    exact ⟨loaded, hloaded, hle, by simpa using h⟩

/-- Without a download the keyset stays the local one. -/
theorem downloadKeys_local {config : ConnectionAuthConfig} {mode : Config.ConnectionAuthMode}
    {io : PrepareInput} {found found' : LocalKeys}
    (h : downloadKeys env config mode io found = .ok found')
    (hdownloaded : downloaded config io = false) : found' = found := by
  unfold downloadKeys at h
  split at h
  · exact (Except.ok.inj h).symm
  · rename_i hurl
    cases hresponse : io.response with
    | ok raw => simp [downloaded, hurl, hresponse, Except.isOk, Except.toBool] at hdownloaded
    | error err =>
      rw [hresponse] at h
      simp only at h
      obtain ⟨_, -, h⟩ := bind_eq_ok.mp h
      obtain ⟨_, -, h⟩ := bind_eq_ok.mp h
      exact (Except.ok.inj h).symm

/-- A time of the local keyset is what its freshness was loaded as. -/
theorem localKeys_loaded {config : ConnectionAuthConfig} {io : PrepareInput} {found : LocalKeys}
    {loaded : Nat} (h : localKeys env config io = .ok found)
    (hloaded : found.loadedAtEpochSeconds = some loaded) :
    ∃ path raw, jwksFile env config = some path ∧ io.keysFile = .ok raw ∧
      loadJwksFreshness env io.loadedNow io.metadataFile io.modified path raw
        (!config.jwks.url.isEmpty) = .ok (some loaded) := by
  unfold localKeys at h
  split at h
  · obtain rfl := Except.ok.inj h
    cases hloaded
  · rename_i path hpath
    obtain ⟨raw, hraw, h⟩ := bind_eq_ok.mp h
    obtain ⟨keys, -, h⟩ := bind_eq_ok.mp h
    refine ⟨path, raw, hpath, mapError_ok hraw, ?_⟩
    split at h
    · rename_i fetchedAt hload
      obtain rfl := Except.ok.inj h
      obtain rfl : fetchedAt = some loaded := hloaded
      exact hload
    · obtain rfl := Except.ok.inj h
      cases hloaded

/-- The runtime that is prepared has a local keyset whose time is recent. -/
structure LocalRecent (env : Env) (config : ConnectionAuthConfig) (io : PrepareInput)
    (runtime : AuthRuntime) (path : CachePath) (raw : Bytes) (fetchedAt : Nat) : Prop where
  file : jwksFile env config = some path
  keys : io.keysFile = .ok raw
  freshness : loadJwksFreshness env io.loadedNow io.metadataFile io.modified path raw
    (!config.jwks.url.isEmpty) = .ok (some fetchedAt)
  past : fetchedAt ≤ io.now
  recent : io.now - fetchedAt ≤ config.jwks.maxStaleSeconds
  loaded : runtime.loadedAtEpochSeconds = some fetchedAt

theorem prepare_enforced {config : ConnectionAuthConfig} {mustLogin : Bool} {io : PrepareInput}
    {runtime : AuthRuntime} (h : prepare env config mustLogin io = .ok runtime)
    (hmode : runtime.effectiveMode = .enforce) (hdownloaded : downloaded config io = false) :
    ∃ path raw fetchedAt, LocalRecent env config io runtime path raw fetchedAt := by
  unfold prepare at h
  simp only at h
  split at h
  · obtain rfl := Except.ok.inj h
    cases hmode
  obtain ⟨_, -, h⟩ := bind_eq_ok.mp h
  obtain ⟨found, hfound, h⟩ := bind_eq_ok.mp h
  obtain ⟨_, -, h⟩ := bind_eq_ok.mp h
  obtain ⟨found', hdownload, h⟩ := bind_eq_ok.mp h
  obtain ⟨_, hchecked, h⟩ := bind_eq_ok.mp h
  obtain ⟨_, -, h⟩ := bind_eq_ok.mp h
  obtain ⟨_, -, h⟩ := bind_eq_ok.mp h
  obtain rfl := Except.ok.inj h
  obtain rfl := downloadKeys_local hdownload hdownloaded
  rw [onlyIf, if_pos (by simpa using hmode)] at hchecked
  obtain ⟨hkeys, loaded, hloaded, hpast, hrecent⟩ := checkEnforced_ok hchecked
  obtain ⟨path, raw, hpath, hraw, hload⟩ := localKeys_loaded hfound hloaded
  exact ⟨path, raw, loaded, hpath, hraw, hload, hpast, hrecent, by simp [hkeys, hloaded]⟩

/-- Whatever calls have written the cache and wherever they have stopped, a keyset that is believed
to be from a time was fetched then; and an enforced runtime that downloads no keyset has one from at
most `max_stale_seconds` before. -/
theorem freshness_never_overstated
    (hserde : ∀ metadata bytes, env.writeMetadata metadata = .ok bytes →
      env.readMetadata bytes = .ok metadata)
    (hsha : ∀ a b, env.sha256Hex a = env.sha256Hex b → a = b) {s₀ : CacheWorld}
    (h₀ : Undated path s₀) (h : Reachable (Steps (CacheWorld.step env path)) s₀ s) :
    (∀ now failure modified raw fetchedAt metadataPath, jwksMetadataPath path = .ok metadataPath →
      loadJwksFreshness env now (readFile failure (s.disk metadataPath)) modified path raw true =
        .ok (some fetchedAt) → (raw, fetchedAt) ∈ s.fetched) ∧
    ∀ config mustLogin io runtime, prepare env config mustLogin io = .ok runtime →
      runtime.effectiveMode = .enforce → downloaded config io = false →
        ∃ path raw fetchedAt, LocalRecent env config io runtime path raw fetchedAt := by
  have hs : Dated env path s := h.invariant h₀.dated fun _ _ _ hs hn => hs.step hn
  constructor
  · intro now failure modified raw fetchedAt metadataPath hpath hload
    exact hs.fetched_of_load hserde hsha hpath hload
  · intro config mustLogin io runtime hprepare hmode hdownloaded
    exact prepare_enforced hprepare hmode hdownloaded

/-! ## A cached keyset -/

def sampleKeyset : Bytes := asBytes
  ("\x7b\"keys\":[\x7b\"kty\":\"OKP\",\"crv\":\"Ed25519\",\"use\":\"sig\",\"alg\":\"EdDSA\"," ++
    "\"kid\":\"k1\",\"x\":\"AAAAAAAAAAAAAAAAAAAAAAAAAAAAAAAAAAAAAAAAAAA\"\x7d]\x7d")

def sampleKey : Jwk where
  kty := "OKP"
  crv := "Ed25519"
  keyUse := "sig"
  alg := "EdDSA"
  kid := "k1"
  x := "AAAAAAAAAAAAAAAAAAAAAAAAAAAAAAAAAAAAAAAAAAA"

def sampleDigest : String := "043202f655f7614eca7c180a89b8db53dd5dc946a64ba46aa0e8a1c2cbe1ef2b"

def sampleMetadata : JwksCacheMetadata := ⟨1, 1700000000, sampleDigest⟩

def sampleMetadataRaw : Bytes := asBytes
  ("\x7b\"version\":1,\"fetched_at_epoch_seconds\":1700000000,\"jwks_sha256\":\"" ++
    "043202f655f7614eca7c180a89b8db53dd5dc946a64ba46aa0e8a1c2cbe1ef2b" ++ "\"\x7d")

/-- Libraries that know one keyset and its metadata. -/
def sampleEnv : Env where
  readDocument raw := if raw = sampleKeyset then .ok [sampleKey] else .error "expected value"
  decodeBase64Url _ := some (List.replicate 32 0)
  writeMetadata metadata :=
    if metadata = sampleMetadata then .ok sampleMetadataRaw else .error "unknown metadata"
  readMetadata raw :=
    if raw = sampleMetadataRaw then .ok sampleMetadata else .error "expected value"
  sha256Hex raw :=
    if raw = sampleKeyset then sampleDigest
    else String.ofList ('-' :: raw.map fun byte => Char.ofNat byte.toNat)
  resolvePath file := ⟨"/etc/starry", some file⟩

def samplePath : CachePath := ⟨"/etc/starry", some "jwks.json"⟩

def sampleMetadataPath : CachePath := ⟨"/etc/starry", some "jwks.json.metadata.json"⟩

theorem sampleEnv_serde (metadata : JwksCacheMetadata) (bytes : Bytes)
    (h : sampleEnv.writeMetadata metadata = .ok bytes) :
    sampleEnv.readMetadata bytes = .ok metadata := by
  simp only [sampleEnv] at h ⊢
  split at h
  · rename_i hmetadata
    rw [← Except.ok.inj h, if_pos rfl, hmetadata]
  · cases h

theorem sampleEnv_sha256 (a b : Bytes) (h : sampleEnv.sha256Hex a = sampleEnv.sha256Hex b) :
    a = b := by
  have hchar : Function.Injective fun byte : UInt8 => Char.ofNat byte.toNat := by
    intro x y hxy
    have hsmall : ∀ byte : UInt8, (Char.ofNat byte.toNat).toNat = byte.toNat := by
      intro byte
      have hlt := byte.toNat_lt
      rw [Char.toNat_ofNat, if_pos (.inl (by omega))]
    apply UInt8.toNat_inj.mp
    rw [← hsmall x, ← hsmall y]
    exact congrArg Char.toNat hxy
  have hdigest : ∀ text : List Char, sampleDigest ≠ String.ofList ('-' :: text) := by
    intro text heq
    have hhead := congrArg (fun s : String => s.toList.head?) heq
    simp [sampleDigest] at hhead
  simp only [sampleEnv] at h
  split at h <;> split at h
  · rename_i ha hb
    rw [ha, hb]
  · exact absurd h (hdigest _)
  · exact absurd h.symm (hdigest _)
  · have hlist := String.ofList_injective h
    exact List.map_injective_iff.mpr hchar (List.cons.inj hlist).2

def cachedWorld : CacheWorld where
  disk := Function.update (Function.update (fun _ => none) samplePath (some sampleKeyset))
    sampleMetadataPath (some sampleMetadataRaw)
  calls := [.ended]
  fetched := [(sampleKeyset, 1700000000)]

theorem parseJwks_sample : ∃ keys, parseJwks sampleEnv sampleKeyset = .ok keys := by
  have hread : sampleEnv.readDocument sampleKeyset = .ok [sampleKey] := by simp [sampleEnv]
  unfold parseJwks
  rw [hread]
  exact ⟨_, rfl⟩

theorem writeMetadata_sample :
    sampleEnv.writeMetadata (metadataOf sampleEnv sampleKeyset 1700000000) =
      .ok sampleMetadataRaw := by
  have hdigest : jwksSha256 sampleEnv sampleKeyset = sampleDigest := by
    simp [jwksSha256, sampleEnv]
  unfold metadataOf
  rw [hdigest]
  simp [sampleEnv, sampleMetadata]

theorem exec_cachedWorld :
    exec (CacheWorld.step sampleEnv samplePath) (fun _ _ => true) ⟨fun _ => none, [], []⟩
      [.call sampleKeyset 1700000000, .replaceKeys 0 true, .replaceMetadata 0] =
    some cachedWorld := by
  obtain ⟨keys, hkeys⟩ := parseJwks_sample
  simp [exec, CacheWorld.step, hkeys, writeMetadata_sample, jwksMetadataPath, samplePath,
    cachedWorld, sampleMetadataPath]

theorem freshness_never_overstated_cached :
    (∀ now failure modified raw fetchedAt metadataPath,
      jwksMetadataPath samplePath = .ok metadataPath →
      loadJwksFreshness sampleEnv now (readFile failure (cachedWorld.disk metadataPath)) modified
        samplePath raw true = .ok (some fetchedAt) → (raw, fetchedAt) ∈ cachedWorld.fetched) ∧
    ∀ config mustLogin io runtime, prepare sampleEnv config mustLogin io = .ok runtime →
      runtime.effectiveMode = .enforce → downloaded config io = false →
        ∃ path raw fetchedAt, LocalRecent sampleEnv config io runtime path raw fetchedAt :=
  freshness_never_overstated sampleEnv_serde sampleEnv_sha256 ⟨rfl, fun _ _ => rfl⟩
    ⟨_, Run.of_exec exec_cachedWorld⟩

end Starry.ConnectionAuth
