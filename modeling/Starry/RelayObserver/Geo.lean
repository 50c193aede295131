import Starry.Quality.Wire

/-!
# Geographic relay rules (`geo_relay.rs`)

A rule names the places of the two clients and the relays to prefer, in order. The databases that
turn an address into facts are read by a library; here they are a function of the address.
-/

namespace Starry.RelayObserver

open Starry.Quality (RelayRequirement)

structure GeoFacts where
  continent : Option String := none
  country : Option String := none
  subdivisionCodes : List String := []
  subdivisionNames : List String := []
  cityNames : List String := []
  cityGeonameId : Option Nat := none
  asn : Option Nat := none
  asnOrg : Option String := none
deriving DecidableEq, Repr

/-! ## Expressions -/

inductive Predicate
  | continent (code : String)
  | country (code : String)
  | subdivision (name : String)
  | city (name : String)
  | geoname (id : Nat)
  | asn (number : Nat)
  | isp (name : String)
deriving DecidableEq, Repr

inductive Expression
  | any
  | predicate (p : Predicate)
  | and (left right : Expression)
  | or (left right : Expression)
deriving DecidableEq, Repr

def matchesOptional (actual : Option String) (expected : String) : Bool :=
  (actual.map fun actual => eqIgnoreAsciiCase actual expected).getD false

def matchesValues (actual : List String) (expected : String) : Bool :=
  actual.any fun actual => eqIgnoreAsciiCase actual expected

def matchesContains (actual : Option String) (expected : String) : Bool :=
  match actual with
  | none => false
  | some actual => (toAsciiLowercase actual).toList.tails.any fun rest =>
      (toAsciiLowercase expected).toList.isPrefixOf rest

def Predicate.matches (facts : GeoFacts) : Predicate → Bool
  | .continent expected => matchesOptional facts.continent expected
  | .country expected => matchesOptional facts.country expected
  | .subdivision expected =>
    matchesValues facts.subdivisionCodes expected || matchesValues facts.subdivisionNames expected
  | .city expected => matchesValues facts.cityNames expected
  | .geoname expected => facts.cityGeonameId == some expected
  | .asn expected => facts.asn == some expected
  | .isp expected => matchesContains facts.asnOrg expected

def Expression.matches (facts : GeoFacts) : Expression → Bool
  | .any => true
  | .predicate p => p.matches facts
  | .and left right => left.matches facts && right.matches facts
  | .or left right => left.matches facts || right.matches facts

/-! ## Rules -/

inductive Direction
  | direct | reverse
deriving DecidableEq, Repr

def Direction.name : Direction → String
  | .direct => "direct"
  | .reverse => "reverse"

structure RelayRule where
  name : String
  symmetric : Bool
  clientA : Expression
  clientB : Expression
  relays : List String
deriving DecidableEq, Repr

def RelayRule.matchDirection (rule : RelayRule) (factsA factsB : GeoFacts) : Option Direction :=
  if rule.clientA.matches factsA && rule.clientB.matches factsB then some .direct
  else if rule.symmetric && rule.clientA.matches factsB && rule.clientB.matches factsA then
    some .reverse
  else none

/-- The relays of a rule that are online, in the order of the rule. -/
def selectOrdered (configuredRelays onlineRelays : List String) : List String :=
  configuredRelays.filterMap fun configured =>
    onlineRelays.find? fun online => eqIgnoreAsciiCase online configured

structure GeoRelaySelection where
  relay : String
  candidates : List String
  ruleName : String
  ruleIndex : Nat
  direction : Direction
deriving DecidableEq, Repr

/-- `RuleSet::select`, from the rule with the given index on. -/
def selectFrom (factsA factsB : GeoFacts) (onlineRelays : List String) :
    Nat → List RelayRule → Option GeoRelaySelection
  | _, [] => none
  | ruleIndex, rule :: rest =>
    match rule.matchDirection factsA factsB with
    | none => selectFrom factsA factsB onlineRelays (ruleIndex + 1) rest
    | some direction =>
      match selectOrdered rule.relays onlineRelays with
      | [] => selectFrom factsA factsB onlineRelays (ruleIndex + 1) rest
      | relay :: others =>
        some ⟨relay, relay :: others, rule.name, ruleIndex, direction⟩

structure GeoState where
  enabled : Bool
  lookup : IpAddr → GeoFacts
  rules : List RelayRule

def GeoState.disabled : GeoState := ⟨false, fun _ => {}, []⟩

/-- `select_relay_explained_from`. The requirement is only logged. -/
def GeoState.select (state : GeoState) (pa pb : IpAddr) (eligibleRelays : List String)
    (_requirement : RelayRequirement) : Option GeoRelaySelection :=
  if !state.enabled || eligibleRelays.isEmpty then none
  else selectFrom (state.lookup pa) (state.lookup pb) eligibleRelays 0 state.rules

/-! ## What is selected -/

end Starry.RelayObserver
