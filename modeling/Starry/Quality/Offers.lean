import Starry.GeoRelay.Rules
import Starry.Quality.Deadlines
import Starry.Quality.Reports
import Starry.RelayObserver.Snapshot

/-!
# Relay quality: which offers can be answered

The candidates of an offer come from the relay pool, from a Geo rule where one applies. A list of
candidates in which no name comes twice can be reported on at every stage.
-/

open Library

namespace Starry.Quality

open QualityState
open Observer (boundedQualityViews findView)
open RelayObserver (ActiveConfigSnapshot GeoFacts GeoState RelayPoolState RelayRule
  RuntimeHealthSnapshot buildSnapshot buildView buildViews containsIgnoreCase isNativeOnline
  isQualityCandidate isWebsocketHealthy selectFrom selectOrdered)
open GeoRelay (Serves Halt)

/-! ## A list from its first such item on -/

/-- The list counted cyclically from the first item with the property. -/
def fromFirst {α : Type} (p : α → Bool) (l : List α) : List α :=
  l.dropWhile (fun x => !p x) ++ l.takeWhile fun x => !p x

section FromFirst

variable {α : Type} {p q : α → Bool} {l : List α}

theorem fromFirst_of_none (h : l.findIdx? p = none) : fromFirst p l = l := by
  rw [List.findIdx?_eq_none_iff] at h
  have hnot : ∀ x ∈ l, (!p x) = true := fun x hx => by rw [h x hx]; rfl
  rw [fromFirst, List.takeWhile_eq_self_iff.mpr hnot, List.dropWhile_eq_nil_iff.mpr hnot,
    List.nil_append]

theorem rotateLeft_findIdx {i : Nat} (h : l.findIdx? p = some i) :
    l.rotateLeft i = fromFirst p l := by
  obtain ⟨hlt, hi⟩ := List.findIdx?_eq_some_iff_findIdx_eq.mp h
  rw [fromFirst, List.dropWhile_eq_drop_findIdx_not, List.takeWhile_eq_take_findIdx_not]
  simp only [Bool.not_not, hi, List.rotateLeft]
  split
  · have hzero : i = 0 := by omega
    rw [hzero]
    simp
  · rw [Nat.mod_eq_of_lt hlt]

theorem fromFirst_perm : (fromFirst p l).Perm l := by
  have h : (fromFirst p l).Perm (l.takeWhile (fun x => !p x) ++ l.dropWhile fun x => !p x) :=
    List.perm_append_comm
  rwa [List.takeWhile_append_dropWhile] at h

theorem mem_fromFirst {x : α} : x ∈ fromFirst p l ↔ x ∈ l := fromFirst_perm.mem_iff

/-- What keeps every item with the property can be filtered before. -/
theorem filter_fromFirst (h : ∀ x, p x = true → q x = true) :
    (fromFirst p l).filter q = fromFirst p (l.filter q) := by
  have hboth : (l.takeWhile fun x => !p x).filter q = (l.filter q).takeWhile (fun x => !p x) ∧
      (l.dropWhile fun x => !p x).filter q = (l.filter q).dropWhile fun x => !p x := by
    induction l with
    | nil => exact ⟨rfl, rfl⟩
    | cons x l ih =>
      by_cases hp : p x = true
      · simp [hp, h x hp]
      · by_cases hq : q x = true
        · simp [hp, hq, ih]
        · simp [hp, hq, ih]
  rw [fromFirst, List.filter_append, hboth.1, hboth.2, fromFirst]

end FromFirst

/-! ## The views of an offer -/

def marked (relays : List Observer.RelayRuntimeView) (relay : String) : Bool :=
  ((findView relays relay).map fun view => view.qualityCandidate).getD false

section Views

variable {relays : List Observer.RelayRuntimeView} {ordered : List String} {fallback relay : String}
  {maximum : Nat} {view : Observer.RelayRuntimeView}

theorem findView_congr {relay' : String} (h : toAsciiLowercase relay = toAsciiLowercase relay') :
    findView relays relay = findView relays relay' := by
  simp only [findView, eqIgnoreAsciiCase, h]

theorem findView_name (h : findView relays relay = some view) :
    toAsciiLowercase view.id = toAsciiLowercase relay := by
  have hmatch := List.find?_some h
  exact eqIgnoreAsciiCase_iff.mp hmatch

/-- The relays that are looked up, in their order. -/
theorem boundedQualityViews_eq : boundedQualityViews relays ordered fallback maximum =
    ((if marked relays fallback then fromFirst (eqIgnoreAsciiCase · fallback) ordered
      else ordered).filterMap fun relay =>
        (findView relays relay).filter fun view => view.qualityCandidate).take maximum := by
  unfold boundedQualityViews marked
  dsimp only
  split
  · cases hindex : ordered.findIdx? fun relay => eqIgnoreAsciiCase relay fallback with
    | none => rw [fromFirst_of_none hindex]
    | some index => rw [← rotateLeft_findIdx hindex]
  · rfl

theorem mem_boundedQualityViews (h : view ∈ boundedQualityViews relays ordered fallback maximum) :
    ∃ relay ∈ ordered, findView relays relay = some view ∧ view.qualityCandidate = true := by
  rw [boundedQualityViews_eq] at h
  obtain ⟨relay, hrelay, hfound⟩ := List.mem_filterMap.mp (List.mem_of_mem_take h)
  rw [Option.filter_eq_some_iff] at hfound
  refine ⟨relay, ?_, hfound.1, hfound.2⟩
  split at hrelay
  · exact mem_fromFirst.mp hrelay
  · exact hrelay

/-- The names of the relays that are looked up and marked. -/
theorem filterMap_views_names (l : List String) :
    (l.filterMap fun relay => (findView relays relay).filter fun view => view.qualityCandidate).map
        (fun view => toAsciiLowercase view.id) =
      (l.filter (marked relays)).map toAsciiLowercase := by
  induction l with
  | nil => rfl
  | cons relay l ih =>
    rw [List.filterMap_cons, List.filter_cons, marked]
    cases hfound : findView relays relay with
    | none => exact ih
    | some view =>
      cases hview : view.qualityCandidate with
      | false => simpa [hview, Option.filter] using ih
      | true => simpa [hview, Option.filter, findView_name hfound] using ih

theorem boundedQualityViews_names (h : marked relays fallback = true) :
    (boundedQualityViews relays ordered fallback maximum).map (fun view =>
        toAsciiLowercase view.id) =
      (((fromFirst (eqIgnoreAsciiCase · fallback) ordered).filter (marked relays)).map
        toAsciiLowercase).take maximum := by
  rw [boundedQualityViews_eq, if_pos h, List.map_take, filterMap_views_names]

end Views

/-! ## The relays of a pool -/

section Pool

variable (active : ActiveConfigSnapshot) (pool : RelayPoolState) (health : RuntimeHealthSnapshot)

/-- What an offer reads of a relay of the pool. -/
def poolView (relay : String) : Observer.RelayRuntimeView :=
  (buildView active pool health 0 relay []).offered

/-- Whether a relay of the pool is eligible. -/
def isEligible (requirement : RelayRequirement) (relay : String) : Bool :=
  match requirement with
  | .nativeOnly => (poolView active pool health relay).eligibleFor.any (· == "native")
  | .webSocketOnly => (poolView active pool health relay).eligibleFor.any (· == "wss")
  | .mixed => (poolView active pool health relay).eligibleFor.any (· == "mixed")

variable {active pool health} {geo : GeoState} {requirement : RelayRequirement}
  {relay relay' fallback : String}

theorem buildViews_offered (order : Nat) (references : Table String (List String))
    (relays : List String) :
    (buildViews active pool health order references relays).map
        RelayObserver.RelayRuntimeView.offered = relays.map (poolView active pool health) := by
  induction relays generalizing order references with
  | nil => rfl
  | cons relay relays ih =>
    rw [buildViews, List.map_cons, List.map_cons, ih]
    rfl

theorem relays_offered : (buildSnapshot active pool health geo).offered.relays =
    pool.configured.map (poolView active pool health) :=
  buildViews_offered _ _ _

theorem eligibleRelays_offered :
    (buildSnapshot active pool health geo).offered.eligibleRelays requirement =
      pool.configured.filter (isEligible active pool health requirement) := by
  unfold Observer.RelayRuntimeSnapshot.eligibleRelays
  rw [relays_offered, List.filter_map, List.map_map]
  have hid : (fun view : Observer.RelayRuntimeView => view.id) ∘ poolView active pool health = id :=
    rfl
  rw [hid, List.map_id]
  rfl

/-- A relay is judged by its name, in any case. -/
theorem isEligible_congr (h : toAsciiLowercase relay = toAsciiLowercase relay') :
    isEligible active pool health requirement relay =
      isEligible active pool health requirement relay' := by
  have hnative : isNativeOnline pool relay = isNativeOnline pool relay' := by
    simp only [isNativeOnline, containsIgnoreCase, h]
  have hwebsocket : isWebsocketHealthy active health relay =
      isWebsocketHealthy active health relay' := by
    simp only [isWebsocketHealthy, RuntimeHealthSnapshot.isHealthy,
      RuntimeHealthSnapshot.endpoint, h]
  have hview : (poolView active pool health relay).eligibleFor =
      (poolView active pool health relay').eligibleFor := by
    change RelayObserver.eligibleTransports _ _ = RelayObserver.eligibleTransports _ _
    rw [hnative, hwebsocket]
  simp only [isEligible, hview]

theorem isQualityCandidate_congr (h : toAsciiLowercase relay = toAsciiLowercase relay') :
    isQualityCandidate active health relay = isQualityCandidate active health relay' := by
  simp only [isQualityCandidate, containsIgnoreCase, RuntimeHealthSnapshot.endpoint, h]

theorem marked_pool (h : relay ∈ pool.configured) :
    marked (buildSnapshot active pool health geo).offered.relays relay =
      isQualityCandidate active health relay := by
  rw [marked]
  cases hfound : findView (buildSnapshot active pool health geo).offered.relays relay with
  | none =>
    rw [findView, relays_offered, List.find?_eq_none] at hfound
    exact absurd (eqIgnoreAsciiCase_iff.mpr rfl) (hfound _ (List.mem_map_of_mem h))
  | some view =>
    have hname := findView_name hfound
    have hmem := List.mem_of_find?_eq_some hfound
    rw [relays_offered] at hmem
    obtain ⟨other, -, rfl⟩ := List.mem_map.mp hmem
    exact isQualityCandidate_congr hname

end Pool

/-! ## Geo rules of an accepted document -/

/-- `GeoState::from_config`, with databases that answer `lookup`. -/
def geoFromConfig (lookup : IpAddr → GeoFacts) (config : Config.StarryConfig) :
    Except Halt GeoState :=
  if !config.geo.enabled then pure .disabled
  else do
    let rules ← GeoRelay.RuleSet.compile config.geo
    pure ⟨true, lookup, rules.rules⟩

/-- The Geo state of a document that validation accepts. -/
def AcceptedGeo (geo : GeoState) : Prop :=
  ∃ (env : Config.Env) (document config : Config.StarryConfig) (lookup : IpAddr → GeoFacts),
    Config.validate env document = .ok config ∧ geoFromConfig lookup config = .ok geo

/-- The names of a rule's relays are different. -/
def NamesApart (relays : List String) : Prop := (relays.map toAsciiLowercase).Nodup

section GeoRules

variable {field : String} {values values' seen : List String}

theorem normalizeAfter_apart (h : Config.normalizeAfter field seen values = .ok values') :
    NamesApart values' ∧ ∀ value ∈ values', toAsciiLowercase value ∉ seen := by
  induction values generalizing seen values' with
  | nil =>
    cases h
    exact ⟨List.nodup_nil, by simp⟩
  | cons value values ih =>
    simp only [Config.normalizeAfter, bind_eq_ok, Config.ensure_ok] at h
    obtain ⟨-, -, -, hfresh, rest, hrest, hvalues⟩ := h
    obtain rfl := Except.ok.inj hvalues
    obtain ⟨hapart, hseen⟩ := ih hrest
    have hnew : toAsciiLowercase (trim value) ∉ seen := by simpa using hfresh
    refine ⟨List.nodup_cons.mpr ⟨?_, hapart⟩, ?_⟩
    · intro hmem
      obtain ⟨other, hother, hname⟩ := List.mem_map.mp hmem
      refine hseen other hother ?_
      rw [hname]
      exact List.mem_cons_self
    · intro other hother
      rcases List.mem_cons.mp hother with rfl | hother
      · exact hnew
      · exact fun hmem => hseen other hother (List.mem_cons_of_mem _ hmem)

theorem validateRules_apart {relaySet names : List String} {index : Nat}
    {rules rules' : List Config.GeoRuleConfig}
    (h : Config.validateRules relaySet index names rules = .ok rules') :
    ∀ rule ∈ rules', NamesApart rule.relays := by
  induction rules generalizing index names rules' with
  | nil =>
    cases h
    simp
  | cons rule rules ih =>
    simp only [Config.validateRules, bind_eq_ok, Config.ensure_ok] at h
    obtain ⟨_, -, _, -, relays, hrelays, _, -, _, -, rest, hrest, hrules⟩ := h
    cases hrules
    exact List.forall_mem_cons.mpr ⟨(normalizeAfter_apart hrelays).1, ih hrest⟩

theorem validate_apart {env : Config.Env} {document config : Config.StarryConfig}
    (h : Config.validate env document = .ok config) (henabled : config.geo.enabled = true) :
    ∀ rule ∈ config.geo.rules, NamesApart rule.relays := by
  simp only [Config.validate, bind_eq_ok] at h
  obtain ⟨-, -, relayServers, -, -, -, mmdb, -, geo, hgeo, _, -, _, -, _, -, -, -, hconfig⟩ := h
  obtain rfl := Except.ok.inj hconfig
  rw [Config.validateGeo] at hgeo
  split at hgeo
  · rename_i hdisabled
    obtain rfl := Except.ok.inj hgeo
    change document.geo.enabled = true at henabled
    rw [henabled] at hdisabled
    cases hdisabled
  · simp only [bind_eq_ok] at hgeo
    obtain ⟨-, -, -, -, rules, hrules, -, -, hrest⟩ := hgeo
    obtain rfl := Except.ok.inj hrest
    exact validateRules_apart hrules

/-- A compiled rule has the relays of its section. -/
theorem compile_relays {configs : List Config.GeoRuleConfig} {set set' : GeoRelay.RuleSet}
    (hset : ∀ rule ∈ set.rules, NamesApart rule.relays)
    (hconfigs : ∀ config ∈ configs, NamesApart config.relays)
    (h : configs.foldlM GeoRelay.RuleSet.push set = .ok set') :
    ∀ rule ∈ set'.rules, NamesApart rule.relays := by
  induction configs generalizing set with
  | nil =>
    cases h
    exact hset
  | cons config configs ih =>
    rw [List.foldlM_cons] at h
    obtain ⟨next, hnext, hrest⟩ := bind_eq_ok.mp h
    obtain ⟨compiled, hcompiled, hpush⟩ := bind_eq_ok.mp hnext
    obtain ⟨clientA, -, hclients⟩ := bind_eq_ok.mp hcompiled
    obtain ⟨clientB, -, hrule⟩ := bind_eq_ok.mp hclients
    obtain rfl := Except.ok.inj hrule
    obtain rfl := Except.ok.inj hpush
    refine ih ?_ (fun other hother => hconfigs other (List.mem_cons_of_mem _ hother)) hrest
    intro rule hmem
    rcases List.mem_append.mp hmem with hmem | hmem
    · exact hset rule hmem
    · rw [List.mem_singleton.mp hmem]
      exact hconfigs config List.mem_cons_self

theorem AcceptedGeo.apart {geo : GeoState} (h : AcceptedGeo geo) :
    ∀ rule ∈ geo.rules, NamesApart rule.relays := by
  obtain ⟨env, document, config, lookup, hvalid, hgeo⟩ := h
  unfold geoFromConfig at hgeo
  cases henabled : config.geo.enabled with
  | false =>
    rw [henabled] at hgeo
    obtain rfl := Except.ok.inj hgeo
    simp [RelayObserver.GeoState.disabled]
  | true =>
    rw [henabled] at hgeo
    obtain ⟨set, hset, hstate⟩ := bind_eq_ok.mp hgeo
    obtain rfl := Except.ok.inj hstate
    unfold GeoRelay.RuleSet.compile at hset
    rw [henabled] at hset
    exact compile_relays (by simp [GeoRelay.RuleSet.empty]) (validate_apart hvalid henabled) hset

end GeoRules

/-! ## The candidates of an offer -/

section Candidates

variable (active : ActiveConfigSnapshot) (pool : RelayPoolState) (health : RuntimeHealthSnapshot)
  (geo : GeoState)

/-- A Geo rule matches the two clients and has a relay that is eligible. -/
def RuleServes (q : OfferRequest) : Prop :=
  geo.enabled = true ∧ ∃ rule ∈ geo.rules,
    Serves rule (geo.lookup q.initiatorIp) (geo.lookup q.targetIp)
      (pool.configured.filter (isEligible active pool health q.requirement))

/-- Of the relays of the pool, from the fallback on, that are eligible and marked, the first ones
have different names. -/
def Unrepeated (q : OfferRequest) (maximum : Nat) : Prop :=
  NamesApart (((fromFirst (eqIgnoreAsciiCase · q.fallback) pool.configured).filter fun relay =>
    isEligible active pool health q.requirement relay &&
      isQualityCandidate active health relay).take maximum)

variable {active pool health geo} {env : Env} {config : RelayQualityConfig} {q : OfferRequest}
  {views : List Observer.RelayRuntimeView}

theorem offerViews_spec (h : offerViews env config q = some views) :
    views = q.snapshot.qualityCandidates q.initiatorIp q.targetIp q.requirement q.fallback
      config.maxCandidates ∧
    ∃ first second rest, views = first :: second :: rest ∧
      eqIgnoreAsciiCase first.id q.fallback = true := by
  unfold offerViews at h
  split at h
  · cases h
  · split at h
    · cases h
    · split at h
      · cases h
      · dsimp only at h
        split at h
        · rename_i first second rest hlist
          split at h
          · rename_i hfirst
            cases h
            exact ⟨rfl, first, second, rest, hlist, hfirst⟩
          · cases h
        · cases h

/-- A pool that lists no relay twice. -/
theorem unrepeated_of_apart {maximum : Nat} (h : NamesApart pool.configured) :
    Unrepeated active pool health q maximum := by
  have hnodup : NamesApart (fromFirst (eqIgnoreAsciiCase · q.fallback) pool.configured) :=
    ((fromFirst_perm.map _).nodup_iff).mpr h
  exact hnodup.sublist (((List.take_sublist _ _).trans List.filter_sublist).map _)

/-- What a rule selects are eligible relays with different names. -/
theorem select_apart {clientA clientB : IpAddr} {eligible : List String}
    {requirement : RelayRequirement} {selection : RelayObserver.GeoRelaySelection}
    (hgeo : ∀ rule ∈ geo.rules, NamesApart rule.relays)
    (h : geo.select clientA clientB eligible requirement = some selection) :
    (geo.enabled = true ∧ ∃ rule ∈ geo.rules,
      Serves rule (geo.lookup clientA) (geo.lookup clientB) eligible) ∧
    NamesApart selection.candidates ∧ ∀ relay ∈ selection.candidates, relay ∈ eligible := by
  unfold RelayObserver.GeoState.select at h
  split at h
  · cases h
  · rename_i henabled
    obtain ⟨before, rule, after, hrules, -, hserves, -, -, hcandidates, -⟩ :=
      GeoRelay.selectFrom_some h
    have hrule : rule ∈ geo.rules := by simp [hrules]
    have hon : geo.enabled = true := by
      cases hoff : geo.enabled with
      | true => rfl
      | false => simp [hoff] at henabled
    have hnames : selection.candidates.map toAsciiLowercase =
        (rule.relays.filter (GeoRelay.isOnline eligible)).map toAsciiLowercase := by
      rw [← List.forall₂_eq_eq_eq, List.forall₂_map_left_iff, List.forall₂_map_right_iff]
      exact hcandidates.flip.imp fun _ _ hpair => eqIgnoreAsciiCase_iff.mp hpair.2
    refine ⟨⟨hon, rule, hrule, hserves⟩, ?_, ?_⟩
    · rw [NamesApart, hnames]
      exact (hgeo rule hrule).sublist (List.filter_sublist.map _)
    · exact ((List.forall₂_and_left _ _).mp hcandidates.flip).1

theorem select_none {clientA clientB : IpAddr} {eligible : List String}
    {requirement : RelayRequirement}
    (h : geo.select clientA clientB eligible requirement = none) :
    ¬ (geo.enabled = true ∧ ∃ rule ∈ geo.rules,
      Serves rule (geo.lookup clientA) (geo.lookup clientB) eligible) := by
  rintro ⟨henabled, rule, hrule, hserves⟩
  unfold RelayObserver.GeoState.select at h
  split at h
  · rename_i hskip
    obtain ⟨-, relay, -, honline⟩ := hserves
    have hempty : eligible = [] := by simpa [henabled] using hskip
    rw [hempty] at honline
    cases honline
  · exact GeoRelay.selectFrom_none h rule hrule hserves

/-- The relays that an offer looks up, in their order. -/
def orderedRelays (active : ActiveConfigSnapshot) (pool : RelayPoolState)
    (health : RuntimeHealthSnapshot) (geo : GeoState) (q : OfferRequest) : List String :=
  let eligible := pool.configured.filter (isEligible active pool health q.requirement)
  ((geo.select q.initiatorIp q.targetIp eligible q.requirement).map (·.candidates)).getD eligible

theorem views_eq (hsnapshot : q.snapshot = (buildSnapshot active pool health geo).offered)
    (h : offerViews env config q = some views) :
    views = boundedQualityViews q.snapshot.relays (orderedRelays active pool health geo q)
      q.fallback config.maxCandidates := by
  rw [(offerViews_spec h).1, Observer.RelayRuntimeSnapshot.qualityCandidates, hsnapshot,
    eligibleRelays_offered]
  rfl

theorem ordered_eligible (hgeo : ∀ rule ∈ geo.rules, NamesApart rule.relays) :
    ∀ relay ∈ orderedRelays active pool health geo q,
      isEligible active pool health q.requirement relay = true := by
  intro relay hrelay
  unfold orderedRelays at hrelay
  dsimp only at hrelay
  cases hselect : geo.select q.initiatorIp q.targetIp
      (pool.configured.filter (isEligible active pool health q.requirement)) q.requirement with
  | none =>
    rw [hselect] at hrelay
    exact (List.mem_filter.mp hrelay).2
  | some selection =>
    rw [hselect] at hrelay
    exact (List.mem_filter.mp ((select_apart hgeo hselect).2.2 relay hrelay)).2

/-- The relay that is looked up first is the fallback, and it is marked. -/
theorem fallback_marked (hsnapshot : q.snapshot = (buildSnapshot active pool health geo).offered)
    (h : offerViews env config q = some views) :
    marked q.snapshot.relays q.fallback = true ∧
      ∃ relay ∈ orderedRelays active pool health geo q,
        toAsciiLowercase relay = toAsciiLowercase q.fallback := by
  obtain ⟨-, first, second, rest, hlist, hfirst⟩ := offerViews_spec h
  have hmem : first ∈ boundedQualityViews q.snapshot.relays
      (orderedRelays active pool health geo q) q.fallback config.maxCandidates := by
    rw [← views_eq hsnapshot h, hlist]
    exact List.mem_cons_self
  obtain ⟨relay, hrelay, hfound, hquality⟩ := mem_boundedQualityViews hmem
  have hname : toAsciiLowercase relay = toAsciiLowercase q.fallback :=
    (findView_name hfound).symm.trans (eqIgnoreAsciiCase_iff.mp hfirst)
  refine ⟨?_, relay, hrelay, hname⟩
  rw [marked, ← findView_congr hname, hfound]
  exact hquality

/-- Every view of an offer is eligible and marked. -/
theorem views_eligible (hsnapshot : q.snapshot = (buildSnapshot active pool health geo).offered)
    (hgeo : ∀ rule ∈ geo.rules, NamesApart rule.relays)
    (h : offerViews env config q = some views) {view : Observer.RelayRuntimeView}
    (hview : view ∈ views) :
    view.id ∈ q.snapshot.eligibleRelays q.requirement ∧ view ∈ q.snapshot.relays ∧
      view.qualityCandidate = true := by
  rw [views_eq hsnapshot h] at hview
  obtain ⟨relay, hrelay, hfound, hquality⟩ := mem_boundedQualityViews hview
  have hmem := List.mem_of_find?_eq_some hfound
  refine ⟨?_, hmem, hquality⟩
  rw [hsnapshot, relays_offered] at hmem
  obtain ⟨other, hother, rfl⟩ := List.mem_map.mp hmem
  rw [hsnapshot, eligibleRelays_offered, List.mem_filter]
  have hname : toAsciiLowercase other = toAsciiLowercase relay := findView_name hfound
  refine ⟨hother, ?_⟩
  change isEligible active pool health q.requirement other = true
  rw [isEligible_congr hname]
  exact ordered_eligible hgeo relay hrelay

theorem views_apart_iff (hsnapshot : q.snapshot = (buildSnapshot active pool health geo).offered)
    (hgeo : ∀ rule ∈ geo.rules, NamesApart rule.relays)
    (h : offerViews env config q = some views) :
    (views.map fun view => toAsciiLowercase view.id).Nodup ↔
      RuleServes active pool health geo q ∨
        Unrepeated active pool health q config.maxCandidates := by
  obtain ⟨hmarked, relay, hrelay, hname⟩ := fallback_marked hsnapshot h
  rw [views_eq hsnapshot h, boundedQualityViews_names hmarked, ← List.map_take]
  unfold orderedRelays at hrelay ⊢
  dsimp only at hrelay ⊢
  cases hselect : geo.select q.initiatorIp q.targetIp
      (pool.configured.filter (isEligible active pool health q.requirement)) q.requirement with
  | some selection =>
    -- The names of a rule are different, in any order.
    obtain ⟨hserves, hapart, -⟩ := select_apart hgeo hselect
    refine iff_of_true ?_ (.inl hserves)
    have hnodup : NamesApart (fromFirst (eqIgnoreAsciiCase · q.fallback) selection.candidates) :=
      ((fromFirst_perm.map _).nodup_iff).mpr hapart
    exact hnodup.sublist (((List.take_sublist _ _).trans List.filter_sublist).map _)
  | none =>
    have hno : ¬ RuleServes active pool health geo q := select_none hselect
    rw [hselect] at hrelay
    obtain ⟨-, heligible⟩ := List.mem_filter.mp hrelay
    have hkeep : ∀ other, eqIgnoreAsciiCase other q.fallback = true →
        isEligible active pool health q.requirement other = true := by
      intro other hother
      rw [isEligible_congr ((eqIgnoreAsciiCase_iff.mp hother).trans hname.symm)]
      exact heligible
    have hlist : (fromFirst (eqIgnoreAsciiCase · q.fallback)
          (pool.configured.filter (isEligible active pool health q.requirement))).filter
          (marked q.snapshot.relays) =
        (fromFirst (eqIgnoreAsciiCase · q.fallback) pool.configured).filter fun relay =>
          isEligible active pool health q.requirement relay &&
            isQualityCandidate active health relay := by
      rw [← filter_fromFirst hkeep, List.filter_filter]
      refine List.filter_congr fun other hother => ?_
      rw [hsnapshot, marked_pool (mem_fromFirst.mp hother), Bool.and_comm]
    rw [or_iff_right hno, Unrepeated, NamesApart, ← hlist]
    rfl

end Candidates

/-! ## Reports that answer -/

/-- A report in which no probe was answered. -/
def silentReport (a : Allocation) (role : EndpointRole) : RelayProbeReport where
  protocolVersion := protocolVersion
  allocationId := a.allocationId
  results := (stageCandidates a).map fun c => ⟨c.relay, stageSamples a, 0, 0, 0⟩
  stage := a.stage.wire
  stageToken := a.stageToken
  endpointRole := role.wire

theorem silentReport_accepted {a : Allocation} (h : a.Distinct) (role : EndpointRole) :
    (validateReport (silentReport a role) a role).isSome = true := by
  classical
  have hcomplete : Complete a (silentReport a role) := by
    constructor
    · simp only [silentReport, List.map_map]
      exact List.Perm.refl _
    · intro r hr
      obtain ⟨c, -, rfl⟩ := List.mem_map.mp hr
      exact ⟨rfl, Nat.zero_le _, Nat.zero_le _, Nat.zero_le _, Iff.rfl, fun _ => rfl⟩
  rw [validateReport_eq h, if_pos hcomplete]
  rfl

/-- Where a name comes twice no report is accepted. -/
theorem validateReport_repeated {a : Allocation}
    (h : ¬ ((stageCandidates a).map CandidateState.key).Nodup) (report : RelayProbeReport)
    (role : EndpointRole) : validateReport report a role = none := by
  rw [validateReport_def]
  split
  · rfl
  · rename_i hlength
    rw [not_not] at hlength
    rw [if_neg]
    rintro ⟨hnodup, hin, -⟩
    apply h
    -- As many different names as candidates are there, so theirs are different.
    have hsub : (report.results.map RelayProbeResult.key).toFinset ⊆
        ((stageCandidates a).map CandidateState.key).toFinset := by
      intro key hkey
      obtain ⟨r, hr, rfl⟩ := List.mem_map.mp (List.mem_toFinset.mp hkey)
      exact hin r hr
    have hcard := Finset.card_le_card hsub
    rw [List.toFinset_card_of_nodup hnodup, List.length_map, hlength] at hcard
    have hle := List.toFinset_card_le ((stageCandidates a).map CandidateState.key)
    rw [← Multiset.coe_nodup, ← Multiset.toFinset_card_eq_card_iff_nodup]
    rw [List.length_map] at hle
    have hcoe : (((stageCandidates a).map CandidateState.key : List String) :
        Multiset String).toFinset = ((stageCandidates a).map CandidateState.key).toFinset := rfl
    rw [hcoe, Multiset.coe_card, List.length_map]
    exact le_antisymm hle hcard

/-- Later in a run an allocation has the candidates that it was created with. -/
theorem allocation_later {is is' : List (Env × Call)} {w w' : World}
    (h : Run (Guarded World.step freshDraws) World.init is w)
    (h' : Run (Guarded World.step freshDraws) w is' w') {id : Bytes} {a b : Allocation}
    (ha : w.state.allocations.get id = some a) (hb : w'.state.allocations.get id = some b) :
    a.Later b := by
  obtain ⟨hl, hi⟩ := run_stageInv h
  refine run_relates .refl (fun _ _ _ => .trans) ?_ hl hi h' ha hb
  intro v i v' id x x' hlv hiv hfresh hstep hx hx'
  exact (step_allocation hlv hiv hfresh hstep hx hx').1

/-- What an offer promises its endpoints, at every later stage of its allocation. -/
structure Answerable (env : Env) (config : RelayQualityConfig) (q : OfferRequest) (w : World)
    (a : Allocation) : Prop where
  distinct : a.Distinct
  size : 2 ≤ a.candidates.length ∧ a.candidates.length ≤ config.maxCandidates
  first : ∃ first rest, a.candidates = first :: rest ∧
    eqIgnoreAsciiCase first.relay q.fallback = true
  candidates : ∀ candidate ∈ a.candidates,
    candidate.relay ∈ q.snapshot.eligibleRelays q.requirement ∧
      ∃ view ∈ q.snapshot.relays, view.id = candidate.relay ∧ view.qualityCandidate = true
  answers : ∀ is' w' b, Run (Guarded World.step freshDraws) w is' w' →
    w'.state.allocations.get env.id.val = some b → ∀ role, ∃ report,
      (validateReport report b role).isSome = true

/-- An offer can be answered if and only if a Geo rule has selected its relays, or none of them
comes twice among the first ones of the pool. -/
theorem offer_answerable_iff {geo : GeoState} (hgeo : AcceptedGeo geo)
    {active : ActiveConfigSnapshot} {pool : RelayPoolState} {health : RuntimeHealthSnapshot}
    {is : List (Env × Call)} {w w₁ : World} {env : Env} {config : RelayQualityConfig}
    {q : OfferRequest} (hsnapshot : q.snapshot = (buildSnapshot active pool health geo).offered)
    (hactive : env.active.config = some config)
    (h : Run (Guarded World.step freshDraws) World.init is w)
    (hoffer : Guarded World.step freshDraws w (env, .createOffer q) w₁) {a : Allocation}
    (ha : w₁.state.allocations.get env.id.val = some a) :
    Answerable env config q w₁ a ↔
      RuleServes active pool health geo q ∨
        Unrepeated active pool health q config.maxCandidates := by
  have hnew : w.state.allocations.get env.id.val = none :=
    not_live_of_fresh (run_stageInv h).1 hoffer.1
  obtain ⟨views, hviews, rfl⟩ : ∃ views, offerViews env config q = some views ∧
      a = offeredAllocation env config q views := by
    have hstep := hoffer.2
    cases hstep
    exact createOffer_adds hactive hnew ha
  have hnames : (offeredAllocation env config q views).Distinct ↔
      (views.map fun view => toAsciiLowercase view.id).Nodup := by
    change ((views.map (candidateState q)).map CandidateState.key).Nodup ↔ _
    rw [List.map_map]
    rfl
  rw [← views_apart_iff hsnapshot hgeo.apart hviews, ← hnames]
  refine ⟨fun h => h.distinct, fun hdistinct => ?_⟩
  obtain ⟨hlist, first, second, rest, rfl, hfirst⟩ := offerViews_spec hviews
  refine
    { distinct := hdistinct
      size := ⟨by simp [offeredAllocation], ?_⟩
      first := ⟨_, _, rfl, hfirst⟩
      candidates := fun candidate hcandidate => ?_
      answers := fun is' w' b h' hb role => ?_ }
  · have hle : (first :: second :: rest).length ≤ config.maxCandidates := by
      rw [hlist]
      exact List.length_take_le _ _
    simpa [offeredAllocation] using hle
  · obtain ⟨view, hview, rfl⟩ := List.mem_map.mp hcandidate
    obtain ⟨heligible, hmem, hquality⟩ := views_eligible hsnapshot hgeo.apart hviews hview
    exact ⟨heligible, view, hmem, rfl, hquality⟩
  · have hlater := (allocation_later (h.snoc hoffer) h' ha hb).candidates
    have hb' : b.Distinct := by
      unfold Allocation.Distinct
      rw [hlater]
      exact hdistinct
    exact ⟨silentReport b role, silentReport_accepted hb' role⟩

/-! ## A pool that lists a relay twice -/

def poolActive : ActiveConfigSnapshot :=
  ⟨7, some { websocketSignalEnabled := false, endpoints := [], legacyFallbackRelays := []
             geoRules := [] }⟩

/-- The telemetry of a relay with load to spare. -/
def poolEndpoint : RelayObserver.RuntimeEndpointSnapshot where
  url := "wss://a/ws/telemetry"
  state := .healthy
  stale := false
  latencyMs := some 20
  version := none
  relayProbeProtocol := some 1
  relayLoadProtocol := some 1
  telemetryInstanceId := none
  telemetrySequence := none
  load := some
    { telemetrySchema := 1, processInstanceId := "p", sequence := 1, observedAtUnixMs := 0
      uptimeSeconds := 1, loadBasisPoints := 1000, capacitySessions := 10
      capacityBandwidthBps := 1000, draining := false, fastMediaRelayUdp := none
      fastMediaUdpEnabled := none, fastMediaUdpHealthy := none, fastMediaUdpPort := none }

def poolHealth : RuntimeHealthSnapshot :=
  { enabled := true, generation := 7, completedGeneration := 7, snapshotId := 1
    endpoints := (Table.empty.insert "a" poolEndpoint).insert "b" poolEndpoint }

def poolOffer (relays : List String) : OfferRequest :=
  { sampleOffer (sampleTarget 50000) with
    snapshot := (buildSnapshot poolActive ⟨7, relays, relays⟩ poolHealth .disabled).offered }

theorem disabled_accepted : AcceptedGeo .disabled := by
  have hvalid : Config.validate sampleConfigEnv (Config.StarryConfigWire.config { version := 5 }) =
      .ok (Config.StarryConfigWire.config { version := 5 }) :=
    Config.validate_default (fun _ _ => rfl) rfl rfl rfl
  exact ⟨sampleConfigEnv, _, _, fun _ => {}, hvalid, rfl⟩

/-- An offer of the relays `a` and `b`, which no rule has selected. -/
theorem offer_answerable_iff_apart : ∃ w a,
    World.init.step (sampleEnv .eager 1, .createOffer (poolOffer ["a", "b"])) = some w ∧
    w.state.allocations.get (sampleUuid 1).val = some a ∧
    Answerable (sampleEnv .eager 1) { enabled := true, strategy := .eager }
      (poolOffer ["a", "b"]) w a := by
  have h : (World.init.step (sampleEnv .eager 1, .createOffer (poolOffer ["a", "b"]))).any (fun w =>
      (w.state.allocations.get (sampleUuid 1).val).isSome) = true := by
    decide
  simp only [Option.any_eq_true, Option.isSome_iff_exists] at h
  obtain ⟨w, hstep, a, ha⟩ := h
  have hapart : NamesApart ["a", "b"] := by
    unfold NamesApart
    decide
  have hiff := offer_answerable_iff disabled_accepted rfl rfl (.nil _) ⟨rfl, hstep⟩ ha
  exact ⟨w, a, hstep, ha, hiff.mpr (.inr (unrepeated_of_apart hapart))⟩

/-- An offer of the relay `a` under two spellings, to which no report is accepted. -/
theorem repeated_unanswerable : ∃ w a,
    World.init.step (sampleEnv .eager 1, .createOffer (poolOffer ["a", "A"])) = some w ∧
    w.state.allocations.get (sampleUuid 1).val = some a ∧
    (∀ report role, validateReport report a role = none) ∧
    ¬ Answerable (sampleEnv .eager 1) { enabled := true, strategy := .eager }
      (poolOffer ["a", "A"]) w a := by
  have h : (World.init.step (sampleEnv .eager 1, .createOffer (poolOffer ["a", "A"]))).any (fun w =>
      (w.state.allocations.get (sampleUuid 1).val).any fun a =>
        decide (¬ ((stageCandidates a).map CandidateState.key).Nodup) &&
          decide (¬ (a.candidates.map CandidateState.key).Nodup)) = true := by
    decide
  simp only [Option.any_eq_true, Bool.and_eq_true, decide_eq_true_eq] at h
  obtain ⟨w, hstep, a, ha, hstage, hall⟩ := h
  exact ⟨w, a, hstep, ha, validateReport_repeated hstage, fun hanswer => hall hanswer.distinct⟩

end Starry.Quality
