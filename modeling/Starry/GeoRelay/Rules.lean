import Starry.GeoRelay.Parser
import Starry.Config.Schema

/-!
# Geo rules (`geo_relay/rules.rs`)

The rules of a configuration, compiled, with the databases that they read. The first rule that
matches two clients and has a relay online selects its relays.
-/

namespace Starry.GeoRelay

open Starry.Config (GeoConfig GeoRuleConfig)
open Starry.RelayObserver (Direction Expression GeoFacts GeoRelaySelection Predicate RelayRule
  selectFrom selectOrdered)

/-! ## Compiled rules -/

structure DbRequirements where
  country : Bool := false
  city : Bool := false
  asn : Bool := false
deriving DecidableEq, Repr

def DbRequirements.merge (r other : DbRequirements) : DbRequirements :=
  ⟨r.country || other.country, r.city || other.city, r.asn || other.asn⟩

def Predicate.requirements : Predicate → DbRequirements
  | .continent _ | .country _ => { country := true }
  | .subdivision _ | .city _ | .geoname _ => { city := true }
  | .asn _ | .isp _ => { asn := true }

def Expression.requirements : Expression → DbRequirements
  | .any => {}
  | .predicate p => Predicate.requirements p
  | .and left right | .or left right =>
    (Expression.requirements left).merge (Expression.requirements right)

structure RuleSet where
  rules : List RelayRule
  requirements : DbRequirements
deriving DecidableEq, Repr

def RuleSet.empty : RuleSet := ⟨[], {}⟩

/-- A report names the rule and the client. -/
def withRule (name client : String) : Halt → Halt
  | .invalid message =>
    .invalid ("Geo rule '" ++ name ++ "' has invalid " ++ client ++ " expression: " ++ message)
  | halt => halt

def RelayRule.compile (config : GeoRuleConfig) : Except Halt RelayRule := do
  let clientA ← (ExpressionParser.parse config.expressions.clientA).mapError
    (withRule config.name "client_a")
  let clientB ← (ExpressionParser.parse config.expressions.clientB).mapError
    (withRule config.name "client_b")
  pure ⟨config.name, config.symmetric, clientA, clientB, config.relays⟩

def RuleSet.push (set : RuleSet) (config : GeoRuleConfig) : Except Halt RuleSet := do
  let compiled ← RelayRule.compile config
  let requirements := set.requirements.merge (Expression.requirements compiled.clientA)
  pure ⟨set.rules ++ [compiled],
    requirements.merge (Expression.requirements compiled.clientB)⟩

def RuleSet.compile (config : GeoConfig) : Except Halt RuleSet :=
  if !config.enabled then pure .empty else config.rules.foldlM RuleSet.push .empty

def RuleSet.select (set : RuleSet) (factsA factsB : GeoFacts) (onlineRelays : List String) :
    Option GeoRelaySelection :=
  selectFrom factsA factsB onlineRelays 0 set.rules

/-! ## What a selection says -/

/-- The rule matches the two clients, or being symmetric the other way round. -/
def Matches (rule : RelayRule) (factsA factsB : GeoFacts) : Prop :=
  (rule.clientA.matches factsA ∧ rule.clientB.matches factsB) ∨
    (rule.symmetric ∧ rule.clientA.matches factsB ∧ rule.clientB.matches factsA)

def isOnline (onlineRelays : List String) (relay : String) : Bool :=
  onlineRelays.any fun online => eqIgnoreAsciiCase online relay

def Serves (rule : RelayRule) (factsA factsB : GeoFacts) (onlineRelays : List String) : Prop :=
  Matches rule factsA factsB ∧ ∃ relay ∈ rule.relays, isOnline onlineRelays relay = true

/-- The relays of a rule that are online, in its order, each as it is called online. -/
def Candidates (rule : RelayRule) (onlineRelays candidates : List String) : Prop :=
  List.Forall₂ (fun relay candidate =>
      candidate ∈ onlineRelays ∧ eqIgnoreAsciiCase candidate relay = true)
    (rule.relays.filter (isOnline onlineRelays)) candidates

/-- The first rule that serves the two clients, with its relays that are online. -/
def Selected (rules : List RelayRule) (factsA factsB : GeoFacts) (onlineRelays : List String)
    (selection : GeoRelaySelection) : Prop :=
  ∃ before rule after, rules = before ++ rule :: after ∧
    (∀ skipped ∈ before, ¬ Serves skipped factsA factsB onlineRelays) ∧
    Serves rule factsA factsB onlineRelays ∧
    selection.ruleIndex = before.length ∧ selection.ruleName = rule.name ∧
    Candidates rule onlineRelays selection.candidates ∧
    selection.candidates.head? = some selection.relay

/-- What of the facts the databases of the requirements say is the same. -/
structure Agree (r : DbRequirements) (facts facts' : GeoFacts) : Prop where
  country : r.country = true → facts.continent = facts'.continent ∧ facts.country = facts'.country
  city : r.city = true → facts.subdivisionCodes = facts'.subdivisionCodes ∧
    facts.subdivisionNames = facts'.subdivisionNames ∧ facts.cityNames = facts'.cityNames ∧
    facts.cityGeonameId = facts'.cityGeonameId
  asn : r.asn = true → facts.asn = facts'.asn ∧ facts.asnOrg = facts'.asnOrg

/-- The rule, the relay and the candidates of a selection. -/
def chosen (selection : GeoRelaySelection) : Nat × String × String × List String :=
  (selection.ruleIndex, selection.ruleName, selection.relay, selection.candidates)

section Selection

variable {rule : RelayRule} {rules : List RelayRule} {factsA factsB factsA' factsB' : GeoFacts}
  {online : List String} {index : Nat}

theorem matchDirection_isSome : (rule.matchDirection factsA factsB).isSome = true ↔
    Matches rule factsA factsB := by
  unfold RelayRule.matchDirection Matches
  split
  · rename_i hdirect
    rw [Bool.and_eq_true] at hdirect
    simp [hdirect]
  · rename_i hdirect
    rw [Bool.and_eq_true] at hdirect
    split
    · rename_i hreverse
      simp only [Bool.and_eq_true] at hreverse
      simp [hreverse]
    · rename_i hreverse
      simp only [Bool.and_eq_true] at hreverse
      simp only [Option.isSome_none, Bool.false_eq_true, false_iff, not_or]
      exact ⟨hdirect, fun h => hreverse ⟨⟨h.1, h.2.1⟩, h.2.2⟩⟩

theorem candidates_selectOrdered (rule : RelayRule) (online : List String) :
    Candidates rule online (selectOrdered rule.relays online) := by
  unfold Candidates selectOrdered
  induction rule.relays with
  | nil => exact .nil
  | cons relay relays ih =>
    rw [List.filterMap_cons]
    cases hfind : online.find? fun name => eqIgnoreAsciiCase name relay with
    | none =>
      have hoffline : isOnline online relay = false := by
        rw [isOnline, List.any_eq_false]
        exact List.find?_eq_none.mp hfind
      rw [List.filter_cons_of_neg (by simp [hoffline])]
      exact ih
    | some name =>
      have hname : eqIgnoreAsciiCase name relay = true :=
        List.find?_some (p := fun name => eqIgnoreAsciiCase name relay) hfind
      have hmem := List.mem_of_find?_eq_some hfind
      have honline : isOnline online relay = true := List.any_eq_true.mpr ⟨name, hmem, hname⟩
      rw [List.filter_cons_of_pos honline]
      exact .cons ⟨hmem, hname⟩ ih

theorem selectOrdered_eq_nil : selectOrdered rule.relays online = [] ↔
    ¬ ∃ relay ∈ rule.relays, isOnline online relay = true := by
  have hlen := (candidates_selectOrdered rule online).length_eq
  rw [← List.length_eq_zero_iff, ← hlen, List.length_eq_zero_iff, List.filter_eq_nil_iff]
  push Not
  rfl

/-- A rule that does not serve is passed over. -/
theorem selectFrom_skip (h : ¬ Serves rule factsA factsB online) :
    selectFrom factsA factsB online index (rule :: rules) =
      selectFrom factsA factsB online (index + 1) rules := by
  rw [selectFrom]
  cases hdirection : rule.matchDirection factsA factsB with
  | none => rfl
  | some direction =>
    have hmatches : Matches rule factsA factsB := matchDirection_isSome.mp (by rw [hdirection]; rfl)
    rw [selectOrdered_eq_nil.mpr fun honline => h ⟨hmatches, honline⟩]

/-- A rule that serves selects its first candidate. -/
theorem selectFrom_serves (rules : List RelayRule) (index : Nat)
    (h : Serves rule factsA factsB online) :
    ∃ relay others direction, selectOrdered rule.relays online = relay :: others ∧
      rule.matchDirection factsA factsB = some direction ∧
      selectFrom factsA factsB online index (rule :: rules) =
        some ⟨relay, relay :: others, rule.name, index, direction⟩ := by
  obtain ⟨direction, hdirection⟩ := Option.isSome_iff_exists.mp (matchDirection_isSome.mpr h.1)
  cases hordered : selectOrdered rule.relays online with
  | nil => exact absurd h.2 (selectOrdered_eq_nil.mp hordered)
  | cons relay others =>
    refine ⟨relay, others, direction, rfl, hdirection, ?_⟩
    rw [selectFrom, hdirection, hordered]

theorem selectFrom_none (h : selectFrom factsA factsB online index rules = none) :
    ∀ rule ∈ rules, ¬ Serves rule factsA factsB online := by
  induction rules generalizing index with
  | nil => simp
  | cons rule rules ih =>
    by_cases hserves : Serves rule factsA factsB online
    · obtain ⟨_, _, _, -, -, hsome⟩ := selectFrom_serves rules index hserves
      rw [hsome] at h
      cases h
    · rw [selectFrom_skip hserves] at h
      exact List.forall_mem_cons.mpr ⟨hserves, ih h⟩

theorem selectFrom_some {selection : GeoRelaySelection}
    (h : selectFrom factsA factsB online index rules = some selection) :
    ∃ before rule after, rules = before ++ rule :: after ∧
      (∀ skipped ∈ before, ¬ Serves skipped factsA factsB online) ∧
      Serves rule factsA factsB online ∧
      selection.ruleIndex = index + before.length ∧ selection.ruleName = rule.name ∧
      Candidates rule online selection.candidates ∧
      selection.candidates.head? = some selection.relay := by
  induction rules generalizing index with
  | nil => cases h
  | cons rule rules ih =>
    by_cases hserves : Serves rule factsA factsB online
    · obtain ⟨relay, others, direction, hordered, -, hsome⟩ :=
        selectFrom_serves rules index hserves
      rw [hsome] at h
      cases h
      refine ⟨[], rule, rules, rfl, by simp, hserves, rfl, rfl, ?_, rfl⟩
      rw [← hordered]
      exact candidates_selectOrdered rule online
    · rw [selectFrom_skip hserves] at h
      obtain ⟨before, chosen, after, rfl, hbefore, hchosen, hindex, hrest⟩ := ih h
      refine ⟨rule :: before, chosen, after, rfl, List.forall_mem_cons.mpr ⟨hserves, hbefore⟩,
        hchosen, ?_, hrest⟩
      rw [hindex, List.length_cons]
      omega

/-! ### Symmetric rules -/

theorem Matches.swap (hsymmetric : rule.symmetric = true) (h : Matches rule factsA factsB) :
    Matches rule factsB factsA := by
  rcases h with hdirect | ⟨-, hreverse⟩
  · exact .inr ⟨hsymmetric, hdirect⟩
  · exact .inl hreverse

theorem serves_swap (hsymmetric : rule.symmetric = true) :
    Serves rule factsA factsB online ↔ Serves rule factsB factsA online :=
  ⟨fun h => ⟨h.1.swap hsymmetric, h.2⟩, fun h => ⟨h.1.swap hsymmetric, h.2⟩⟩

theorem selectFrom_swap (h : ∀ rule ∈ rules, rule.symmetric = true) :
    (selectFrom factsA factsB online index rules).map chosen =
      (selectFrom factsB factsA online index rules).map chosen := by
  induction rules generalizing index with
  | nil => rfl
  | cons rule rules ih =>
    obtain ⟨hrule, hrules⟩ := List.forall_mem_cons.mp h
    by_cases hserves : Serves rule factsA factsB online
    · obtain ⟨relay, others, direction, hordered, -, hsome⟩ :=
        selectFrom_serves rules index hserves
      obtain ⟨relay', others', direction', hordered', -, hsome'⟩ :=
        selectFrom_serves rules index ((serves_swap hrule).mp hserves)
      rw [hsome, hsome']
      rw [hordered] at hordered'
      cases hordered'
      rfl
    · rw [selectFrom_skip hserves, selectFrom_skip fun h => hserves ((serves_swap hrule).mpr h)]
      exact ih hrules

/-! ### What is declared -/

theorem selectFrom_congr (h : ∀ rule ∈ rules,
      rule.matchDirection factsA factsB = rule.matchDirection factsA' factsB') :
    selectFrom factsA factsB online index rules = selectFrom factsA' factsB' online index rules := by
  induction rules generalizing index with
  | nil => rfl
  | cons rule rules ih =>
    obtain ⟨hrule, hrules⟩ := List.forall_mem_cons.mp h
    rw [selectFrom, selectFrom, hrule]
    simp only [ih hrules]

end Selection

/-! ## Requirements -/

/-- Whatever is required of the facts by `r` is so by `s`. -/
structure Covers (s r : DbRequirements) : Prop where
  country : r.country = true → s.country = true
  city : r.city = true → s.city = true
  asn : r.asn = true → s.asn = true

section Requirements

variable {r s t : DbRequirements} {facts facts' : GeoFacts}

theorem Covers.refl : Covers r r := ⟨id, id, id⟩

theorem Covers.trans (h : Covers t s) (hr : Covers s r) : Covers t r :=
  ⟨h.country ∘ hr.country, h.city ∘ hr.city, h.asn ∘ hr.asn⟩

theorem covers_merge_left : Covers (r.merge s) r := by
  refine ⟨fun h => ?_, fun h => ?_, fun h => ?_⟩
  all_goals exact Bool.or_eq_true_iff.mpr (.inl h)

theorem covers_merge_right : Covers (r.merge s) s := by
  refine ⟨fun h => ?_, fun h => ?_, fun h => ?_⟩
  all_goals exact Bool.or_eq_true_iff.mpr (.inr h)

theorem Agree.of_covers (h : Agree s facts facts') (hs : Covers s r) : Agree r facts facts' :=
  ⟨h.country ∘ hs.country, h.city ∘ hs.city, h.asn ∘ hs.asn⟩

theorem predicate_matches_congr (p : Predicate)
    (h : Agree (Predicate.requirements p) facts facts') : p.matches facts = p.matches facts' := by
  cases p with
  | continent code =>
    rw [Predicate.matches, Predicate.matches, (h.country rfl).1]
  | country code =>
    rw [Predicate.matches, Predicate.matches, (h.country rfl).2]
  | subdivision name =>
    rw [Predicate.matches, Predicate.matches, (h.city rfl).1, (h.city rfl).2.1]
  | city name =>
    rw [Predicate.matches, Predicate.matches, (h.city rfl).2.2.1]
  | geoname id =>
    rw [Predicate.matches, Predicate.matches, (h.city rfl).2.2.2]
  | asn number =>
    rw [Predicate.matches, Predicate.matches, (h.asn rfl).1]
  | isp name =>
    rw [Predicate.matches, Predicate.matches, (h.asn rfl).2]

/-- An expression reads nothing of the facts but what it requires. -/
theorem expression_matches_congr (e : Expression)
    (h : Agree (Expression.requirements e) facts facts') : e.matches facts = e.matches facts' := by
  induction e with
  | any => rfl
  | predicate p => exact predicate_matches_congr p h
  | and left right ihleft ihright =>
    rw [Expression.matches, Expression.matches, ihleft (h.of_covers covers_merge_left),
      ihright (h.of_covers covers_merge_right)]
  | or left right ihleft ihright =>
    rw [Expression.matches, Expression.matches, ihleft (h.of_covers covers_merge_left),
      ihright (h.of_covers covers_merge_right)]

/-- The requirements of a set are those of all of its expressions. -/
def Declared (set : RuleSet) : Prop :=
  ∀ rule ∈ set.rules, Covers set.requirements (Expression.requirements rule.clientA) ∧
    Covers set.requirements (Expression.requirements rule.clientB)

theorem Declared.push {set set' : RuleSet} {config : GeoRuleConfig} (h : Declared set)
    (hpush : set.push config = .ok set') : Declared set' := by
  obtain ⟨compiled, -, hset⟩ := bind_eq_ok.mp hpush
  cases hset
  intro rule hrule
  rcases List.mem_append.mp hrule with hrule | hrule
  · obtain ⟨hA, hB⟩ := h rule hrule
    exact ⟨(covers_merge_left.trans covers_merge_left).trans hA,
      (covers_merge_left.trans covers_merge_left).trans hB⟩
  · rw [List.mem_singleton.mp hrule]
    exact ⟨covers_merge_left.trans covers_merge_right, covers_merge_right⟩

theorem declared_foldlM {configs : List GeoRuleConfig} {set set' : RuleSet} (h : Declared set)
    (hfold : configs.foldlM RuleSet.push set = .ok set') : Declared set' := by
  induction configs generalizing set with
  | nil =>
    cases hfold
    exact h
  | cons config configs ih =>
    rw [List.foldlM_cons] at hfold
    obtain ⟨next, hnext, hrest⟩ := bind_eq_ok.mp hfold
    exact ih (h.push hnext) hrest

theorem declared_compile {config : GeoConfig} {set : RuleSet}
    (h : RuleSet.compile config = .ok set) : Declared set := by
  have hempty : Declared .empty := fun rule hrule => absurd hrule List.not_mem_nil
  unfold RuleSet.compile at h
  split at h
  · cases h
    exact hempty
  · exact declared_foldlM hempty h

theorem matchDirection_congr {rule : RelayRule} {factsA factsB factsA' factsB' : GeoFacts}
    (hA : ∀ {f f'}, (f = factsA ∧ f' = factsA') ∨ (f = factsB ∧ f' = factsB') →
      rule.clientA.matches f = rule.clientA.matches f')
    (hB : ∀ {f f'}, (f = factsA ∧ f' = factsA') ∨ (f = factsB ∧ f' = factsB') →
      rule.clientB.matches f = rule.clientB.matches f') :
    rule.matchDirection factsA factsB = rule.matchDirection factsA' factsB' := by
  unfold RelayRule.matchDirection
  rw [hA (.inl ⟨rfl, rfl⟩), hA (.inr ⟨rfl, rfl⟩), hB (.inl ⟨rfl, rfl⟩), hB (.inr ⟨rfl, rfl⟩)]

theorem Declared.select_congr {set : RuleSet} {factsA factsB factsA' factsB' : GeoFacts}
    (h : Declared set) (hA : Agree set.requirements factsA factsA')
    (hB : Agree set.requirements factsB factsB') (online : List String) :
    set.select factsA factsB online = set.select factsA' factsB' online := by
  apply selectFrom_congr
  intro rule hrule
  obtain ⟨hleft, hright⟩ := h rule hrule
  apply matchDirection_congr
  · rintro f f' (⟨rfl, rfl⟩ | ⟨rfl, rfl⟩)
    · exact expression_matches_congr _ (hA.of_covers hleft)
    · exact expression_matches_congr _ (hB.of_covers hleft)
  · rintro f f' (⟨rfl, rfl⟩ | ⟨rfl, rfl⟩)
    · exact expression_matches_congr _ (hA.of_covers hright)
    · exact expression_matches_congr _ (hB.of_covers hright)

end Requirements

/-! ## What a compiled set selects -/

/-- A compiled set selects by the first rule that serves the two clients, and nothing where none
does. With symmetric rules only, the order of the clients does not matter, and what the
requirements do not cover does not either. -/
theorem select_exact (config : GeoConfig) (set : RuleSet) (h : RuleSet.compile config = .ok set) :
    (∀ factsA factsB online selection, set.select factsA factsB online = some selection →
      Selected set.rules factsA factsB online selection) ∧
    (∀ factsA factsB online, set.select factsA factsB online = none →
      ∀ rule ∈ set.rules, ¬ Serves rule factsA factsB online) ∧
    ((∀ rule ∈ set.rules, rule.symmetric = true) → ∀ factsA factsB online,
      (set.select factsA factsB online).map chosen =
        (set.select factsB factsA online).map chosen) ∧
    ∀ factsA factsB factsA' factsB', Agree set.requirements factsA factsA' →
      Agree set.requirements factsB factsB' → ∀ online,
        set.select factsA factsB online = set.select factsA' factsB' online := by
  refine ⟨fun factsA factsB online selection hselect => ?_,
    fun factsA factsB online hselect => selectFrom_none hselect,
    fun hsymmetric factsA factsB online => selectFrom_swap hsymmetric,
    fun factsA factsB factsA' factsB' hA hB => (declared_compile h).select_congr hA hB⟩
  obtain ⟨before, rule, after, hsplit, hbefore, hserves, hindex, hrest⟩ := selectFrom_some hselect
  rw [Nat.zero_add] at hindex
  exact ⟨before, rule, after, hsplit, hbefore, hserves, hindex, hrest⟩

def sampleConfig : GeoConfig := ⟨true, [⟨"asia", true, ⟨"CN/JP", "*"⟩, ["relay"]⟩]⟩

def sampleSet : RuleSet :=
  ⟨[⟨"asia", true, .or (.predicate (.country "CN")) (.predicate (.country "JP")), .any,
    ["relay"]⟩], ⟨true, false, false⟩⟩

theorem compile_sample : RuleSet.compile sampleConfig = .ok sampleSet := by decide +kernel

theorem select_exact_sample :
    (∀ factsA factsB online selection, sampleSet.select factsA factsB online = some selection →
      Selected sampleSet.rules factsA factsB online selection) ∧
    (∀ factsA factsB online, sampleSet.select factsA factsB online = none →
      ∀ rule ∈ sampleSet.rules, ¬ Serves rule factsA factsB online) ∧
    ((∀ rule ∈ sampleSet.rules, rule.symmetric = true) → ∀ factsA factsB online,
      (sampleSet.select factsA factsB online).map chosen =
        (sampleSet.select factsB factsA online).map chosen) ∧
    ∀ factsA factsB factsA' factsB', Agree sampleSet.requirements factsA factsA' →
      Agree sampleSet.requirements factsB factsB' → ∀ online,
        sampleSet.select factsA factsB online = sampleSet.select factsA' factsB' online :=
  select_exact sampleConfig sampleSet compile_sample

end Starry.GeoRelay
