import Starry.Quality.Stages

/-!
# Relay quality: calls from the wrong source

A handler finds an allocation by an id that the caller chose. A call from neither endpoint, or
from one endpoint in the other's role, must leave the allocation as it was.
`select_for_request` does not always: it pins the uuid of a request before it looks at the role
in the report, and a report of another protocol version even finalizes the allocation.
-/

open Library

namespace Starry.Quality

open QualityState

/-! ## Misplaced calls -/

def EndpointRole.other : EndpointRole → EndpointRole
  | .controller => .target
  | .target => .controller

/-- The normalized source of the calls that an endpoint makes about an allocation. -/
def Call.source : Call → Option (SocketAddr × IpAddr)
  | .selectForRequest q => some (normalizeSocket q.sourceRoute, normalizeIp q.sourceIp)
  | .handleStageReport q => some (normalizeSocket q.sourceRoute, normalizeIp q.sourceIp)
  | .cancelAllocation q => some (normalizeSocket q.sourceRoute, normalizeIp q.sourceIp)
  | _ => none

/-- The roles that a call claims. A request is the controller's, and its report names a role. -/
def Call.claims (role : EndpointRole) : Call → Prop
  | .selectForRequest q => role = .controller ∨ ∃ r, q.report = some r ∧ r.endpointRole = role.wire
  | .handleStageReport q => q.report.endpointRole = role.wire
  | .cancelAllocation q => q.cancel.endpointRole = role.wire
  | _ => False

/-- A call from neither endpoint of `a`, or from one of them in the role of the other. -/
def Misplaced (call : Call) (a : Allocation) : Prop :=
  ∃ route ip, call.source = some (route, ip) ∧
    ((∀ role, sourceMatches a route ip role = false) ∨
      ∃ role, sourceMatches a route ip role = true ∧ sourceMatches a route ip role.other = false ∧
        call.claims role.other)

/-- The call gets as far as its cleanup. -/
def Call.cleans (env : Env) : Call → Bool
  | .selectForRequest _ => env.active.config.any (·.enabled)
  | .handleStageReport q => env.active.config.any (·.enabled) &&
      q.report.allocationId.length == 16 && (EndpointRole.fromWire q.report.endpointRole).isSome
  | .cancelAllocation q => env.active.config.any (·.enabled) &&
      q.cancel.protocolVersion == protocolVersion && q.cancel.allocationId.length == 16 &&
      (q.cancel.reasonCode == cancelP2pSucceeded || q.cancel.reasonCode == cancelClientAbort) &&
      (EndpointRole.fromWire q.cancel.endpointRole).isSome
  | _ => true

/-- The TTL of `a` runs out in the cleanup of the call. -/
def ExpiresIn (env : Env) (call : Call) (a : Allocation) : Prop :=
  call.cleans env = true ∧
    secs (env.active.config.getD {}).allocationTtlSeconds < env.cleaned - a.created

/-- A request that passes the binding checks of `a`, with a report of another protocol version or
a uuid that is not pinned yet. -/
def pinsEarly (env : Env) (q : RelayRequest) (a : Allocation) : Bool :=
  requestBound env q a && q.report.any fun r =>
    r.allocationId == a.allocationId && r.allocationId.length == 16 &&
    (q.explicitAllocationId.isEmpty || q.explicitAllocationId == r.allocationId) &&
    (r.protocolVersion != protocolVersion || a.pendingUuid != some q.uuid)

/-- The call is such a request, and no earlier decision answers it. -/
def Touches (s : QualityState) (env : Env) (a : Allocation) : Call → Prop
  | .selectForRequest q => env.active.config.any (·.enabled) = true ∧
      (s.cleanedBy env).requestDecisions.get q.requestKey = none ∧ pinsEarly env q a = true
  | _ => False

section

variable {env : Env} {s : QualityState} {id id' : Bytes} {a b : Allocation}

theorem misplaced_role {call : Call} (h : Misplaced call a) (role : EndpointRole)
    {route : SocketAddr} {ip : IpAddr} (hs : call.source = some (route, ip))
    (hclaims : ∀ r, call.claims r → r = role) : sourceMatches a route ip role = false := by
  obtain ⟨route', ip', hs', h⟩ := h
  rw [hs'] at hs
  cases hs
  rcases h with h | ⟨r, -, hother, hc⟩
  · exact h role
  · rw [← hclaims _ hc]
    exact hother

theorem wire_injective {r r' : EndpointRole} (h : r.wire = r'.wire) : r = r' := by
  revert h
  cases r <;> cases r' <;> decide

/-! ## The other allocations -/

theorem recordFinalDecision_get (s : QualityState) (env : Env) (a : Allocation)
    (d : RelayQualityDecision) (c : Option (CacheKey × String)) (id : Bytes) :
    (s.recordFinalDecision env a d c).1.allocations.get id = s.allocations.get id := by
  rw [(recordFinalDecision_spec s env a d c).allocations]

/-- A request changes only the allocation it names. -/
theorem resolveRequest_other (hne : id' ≠ id) (report : RelayProbeReport) :
    ((s.take id).resolveRequest env id b report).1.allocations.get id' = s.allocations.get id' := by
  have htake : (s.take id).allocations.get id' = s.allocations.get id' := by
    rw [take_get, if_neg hne]
  have hput : ∀ x, ((s.take id).putBack id x).allocations.get id' = s.allocations.get id' := by
    intro x
    rw [putBack_get, if_neg hne, htake]
  have hfinal : ∀ x d, ((s.take id).selectFinal env x d).1.allocations.get id' =
      s.allocations.get id' := by
    intro x d
    rw [selectFinal, recordFinalDecision_get, htake]
  unfold resolveRequest
  split
  · exact hfinal _ _
  · exact hput _
  · exact hfinal _ _
  · dsimp only
    split
    · exact hput _
    · unfold advanceRequest
      split
      · split
        · exact hfinal _ _
        · exact hput _
      · exact hfinal _ _
      · split
        · exact hfinal _ _
        · exact hput _

/-- A stage report changes only the allocation it names. -/
theorem resolveReport_other (hne : id' ≠ id) (report : RelayProbeReport) (role : EndpointRole) :
    ((s.take id).resolveReport env id a report role).1.allocations.get id' =
      s.allocations.get id' := by
  have htake : (s.take id).allocations.get id' = s.allocations.get id' := by
    rw [take_get, if_neg hne]
  have hput : ∀ x, ((s.take id).putBack id x).allocations.get id' = s.allocations.get id' := by
    intro x
    rw [putBack_get, if_neg hne, htake]
  have hfinal : ∀ x d, ((s.take id).reportFinal env x d).1.allocations.get id' =
      s.allocations.get id' := by
    intro x d
    rw [reportFinal, dispatchFinal, recordFinalDecision_get, htake]
  unfold resolveReport
  split
  · exact hput _
  · exact hput _
  · exact hfinal _ _
  · dsimp only
    split
    · exact hput _
    · unfold advanceReport
      dsimp only
      split
      · exact hput _
      · exact hfinal _ _

/-! ## The three handlers -/

theorem survives_cleanup {config : RelayQualityConfig} {call : Call}
    (hconfig : env.active.config = some config) (ha : s.allocations.get id = some a)
    (hexp : ¬ ExpiresIn env call a) (hcleans : call.cleans env = true) :
    (s.cleanup config env.cleaned).allocations.get id = some a := by
  refine cleanup_allocations.mpr ⟨ha, ?_⟩
  by_contra hgt
  refine hexp ⟨hcleans, ?_⟩
  rw [hconfig]
  exact not_le.mp hgt

/-- The put-back of an allocation that is there is no change. -/
theorem putBack_same (ha : s.allocations.get id = some a) (id' : Bytes) :
    ((s.take id).putBack id a).allocations.get id' = s.allocations.get id' := by
  rw [putBack_take, putBack_get]
  split
  · rename_i he
    rw [he, ha]
  · rfl

theorem handleStageReport_misplaced {q : StageReportRequest} (hm : Misplaced (.handleStageReport q) a)
    (ha : s.allocations.get id = some a) (hexp : ¬ ExpiresIn env (.handleStageReport q) a) :
    (s.handleStageReport env q).1.allocations.get id = some a := by
  unfold handleStageReport
  split
  · exact ha
  · rename_i config hconfig
    split
    · exact ha
    · rename_i hen
      split
      · exact ha
      · rename_i role hrole
        have hclean : (s.cleanup config env.cleaned).allocations.get id = some a := by
          refine survives_cleanup hconfig ha hexp ?_
          simp only [Bool.or_eq_true, Bool.not_eq_true', bne_iff_ne, ne_eq, not_or,
            Bool.not_eq_false, not_not] at hen
          simp [Call.cleans, hconfig, hen.1, hen.2, hrole]
        have hsource := misplaced_role hm role rfl
          fun r hr => wire_injective (hr.symm.trans (EndpointRole.fromWire_eq hrole))
        dsimp only
        split
        · split <;> exact hclean
        · split
          · exact hclean
          · rename_i x hx
            split
            · rw [putBack_same hx]
              exact hclean
            · rename_i hcond
              by_cases hid : id = q.report.allocationId
              · subst hid
                rw [hclean] at hx
                cases hx
                simp [hsource] at hcond
              · rw [resolveReport_other hid]
                exact hclean

theorem cancelAllocation_misplaced {q : CancelRequest} (hm : Misplaced (.cancelAllocation q) a)
    (ha : s.allocations.get id = some a) (hexp : ¬ ExpiresIn env (.cancelAllocation q) a) :
    (s.cancelAllocation env q).1.allocations.get id = some a := by
  unfold cancelAllocation
  split
  · exact ha
  · rename_i config hconfig
    dsimp only
    split
    · exact ha
    · rename_i hen
      split
      · exact ha
      · rename_i role hrole
        have hclean : (s.cleanup config env.cleaned).allocations.get id = some a := by
          refine survives_cleanup hconfig ha hexp ?_
          simp only [Bool.or_eq_true, Bool.not_eq_true', bne_iff_ne, ne_eq, not_or,
            Bool.not_eq_false, not_not, beq_iff_eq] at hen
          simp [Call.cleans, hconfig, hen.1.1.1, hen.1.1.2, hen.1.2, hen.2, hrole]
        have hsource := misplaced_role hm role rfl
          fun r hr => wire_injective (hr.symm.trans (EndpointRole.fromWire_eq hrole))
        split
        · exact hclean
        · rename_i x hx
          split
          · exact hclean
          · rename_i hcond
            rw [removeAllocation_get]
            split
            · rename_i hid
              subst hid
              rw [hclean] at hx
              cases hx
              simp [hsource] at hcond
            · exact hclean

/-- A request that is bound to `a` and misplaced comes from the controller with the role of the
target in its report. -/
theorem misplaced_request {q : RelayRequest} {r : RelayProbeReport}
    (hm : Misplaced (.selectForRequest q) a) (hbound : requestBound env q a = true)
    (hr : q.report = some r) : r.endpointRole ≠ EndpointRole.controller.wire := by
  obtain ⟨hsource, -⟩ := requestBound_spec hbound
  obtain ⟨route, ip, hs, h⟩ := hm
  cases hs
  rcases h with h | ⟨role, hrole, hother, hc⟩
  · rw [h] at hsource
    cases hsource
  · cases role with
    | target =>
      rw [EndpointRole.other, hsource] at hother
      cases hother
    | controller =>
      rcases hc with hc | ⟨r', hr', he⟩
      · cases hc
      · rw [hr] at hr'
        cases hr'
        rw [he]
        decide

/-- What becomes of an allocation whose request carries the wrong role. -/
theorem resolveRequest_wrongRole (s : QualityState) (env : Env) (id : Bytes) (uuid : String)
    {report : RelayProbeReport}
    (hid : report.allocationId = a.allocationId)
    (hrole : report.endpointRole ≠ EndpointRole.controller.wire) :
    ((s.take id).resolveRequest env id (a.pin uuid) report).1.allocations.get id = some a ↔
      report.protocolVersion = protocolVersion ∧ a.pendingUuid = some uuid := by
  unfold resolveRequest validateReportUntil
  by_cases hv : report.protocolVersion = protocolVersion
  · have hid' : report.allocationId = (a.pin uuid).allocationId := hid
    rw [if_neg (by rw [hv, hid']; simp), if_pos (.inr (.inr hrole))]
    simp only [putBack_get, if_true, Option.some.injEq, hv, true_and]
    constructor
    · intro h
      rw [← h]
      rfl
    · intro h
      rw [Allocation.pin, ← h]
  · rw [if_pos (.inl hv)]
    simp only [selectFinal, recordFinalDecision_get, take_get, if_true, hv, false_and]
    simp

theorem bindRequest_misplaced {q : RelayRequest} (hm : Misplaced (.selectForRequest q) a)
    (ha : s.allocations.get id = some a) (hown : a.allocationId = id) :
    (s.bindRequest env q).1.allocations.get id = some a ↔ pinsEarly env q a = false := by
  unfold bindRequest pinsEarly
  cases hreport : q.report with
  | none =>
    simp only [Option.any_none, Bool.and_false]
    split <;> simp [ha]
  | some r =>
    simp only [Option.any_some]
    split
    · -- The ids of the request do not fit together.
      rename_i hids
      simp only [ha, true_iff]
      simp only [Bool.or_eq_true, Bool.and_eq_true, Bool.not_eq_true', bne_iff_ne] at hids
      rcases hids with ⟨h1, h2⟩ | h
      · simp [h1, h2]
      · simp [h]
    · rename_i hids
      have hexplicit : (q.explicitAllocationId.isEmpty ||
          q.explicitAllocationId == r.allocationId) = true ∧ r.allocationId.length = 16 := by
        simp only [Bool.or_eq_true, Bool.and_eq_true, Bool.not_eq_true', bne_iff_ne, ne_eq, not_or,
          not_and, not_not] at hids
        refine ⟨?_, hids.2⟩
        cases h : q.explicitAllocationId.isEmpty with
        | true => rfl
        | false => simpa using hids.1 h
      by_cases hid : id = r.allocationId
      · subst hid
        simp only [ha]
        cases hbound : requestBound env q a with
        | false =>
          simp only [Bool.not_false, if_true, putBack_same ha, ha, Bool.false_and]
        | true =>
          have h := resolveRequest_wrongRole s env r.allocationId q.uuid hown.symm
            (misplaced_request hm hbound hreport)
          simp only [Bool.not_true, Bool.false_eq_true, if_false]
          rw [show ({ a with pendingUuid := some q.uuid } : Allocation) = a.pin q.uuid from rfl, h]
          simp [hown, hexplicit]
      · have hne : (r.allocationId == a.allocationId) = false := by
          rw [hown]
          exact beq_false_of_ne fun he => hid he.symm
        simp only [hne, Bool.false_and, Bool.and_false, iff_true]
        split
        · exact ha
        · rename_i x hx
          split
          · rw [putBack_same hx, ha]
          · rw [resolveRequest_other hid, ha]

theorem selectForRequest_misplaced {q : RelayRequest} (hm : Misplaced (.selectForRequest q) a)
    (ha : s.allocations.get id = some a) (hown : a.allocationId = id)
    (hexp : ¬ ExpiresIn env (.selectForRequest q) a) :
    (s.selectForRequest env q).1.allocations.get id = some a ↔
      ¬ Touches s env a (.selectForRequest q) := by
  unfold selectForRequest Touches
  cases hconfig : env.active.config with
  | none => simp [ha]
  | some config =>
    cases hen : config.enabled with
    | false => simp [hen, ha]
    | true =>
      have hclean : (s.cleanup config env.cleaned).allocations.get id = some a := by
        refine survives_cleanup hconfig ha hexp ?_
        simp [Call.cleans, hconfig, hen]
      have hbind : _ ↔ pinsEarly env q a = false := bindRequest_misplaced hm hclean hown
      simp only [Bool.not_true, Bool.false_eq_true, if_false, Option.any_some, hen,
        cleanedBy_eq hconfig, true_and]
      cases huuid : q.uuid.isEmpty with
      | true =>
        -- The binding checks refuse an empty uuid.
        have hnot : pinsEarly env q a = false := by simp [pinsEarly, requestBound, huuid]
        simp only [if_true, hnot, Bool.false_eq_true, and_false, not_false_eq_true, iff_true]
        exact hbind.mpr hnot
      | false =>
        simp only [Bool.false_eq_true, if_false]
        cases hget : (s.cleanup config env.cleaned).requestDecisions.get q.requestKey with
        | some record =>
          dsimp only
          split <;> simp [hclean]
        | none => simp [hbind]

end

/-- In every reachable state a misplaced call leaves an allocation whose TTL has not run out as it
was, except for the requests that pin their uuid too early. -/
theorem misplaced_call_unchanged {is : List (Env × Call)} {w : World}
    (h : Run (Guarded World.step freshDraws) World.init is w) {env : Env} {call : Call} {id : Bytes}
    {a : Allocation} (ha : w.state.allocations.get id = some a) (hm : Misplaced call a)
    (hexp : ¬ ExpiresIn env call a) :
    (w.state.handle env call).1.allocations.get id = some a ↔ ¬ Touches w.state env a call := by
  have hown := (run_ledger h).sound.own id a ha
  cases call with
  | selectForRequest q => exact selectForRequest_misplaced hm ha hown hexp
  | handleStageReport q =>
    simp only [Touches, not_false_eq_true, iff_true]
    exact handleStageReport_misplaced hm ha hexp
  | cancelAllocation q =>
    simp only [Touches, not_false_eq_true, iff_true]
    exact cancelAllocation_misplaced hm ha hexp
  | _ =>
    obtain ⟨route, ip, hs, -⟩ := hm
    cases hs

/-- A call from neither endpoint never touches an allocation. -/
theorem foreign_call_unchanged {is : List (Env × Call)} {w : World}
    (h : Run (Guarded World.step freshDraws) World.init is w) {env : Env} {call : Call} {id : Bytes}
    {a : Allocation} {route : SocketAddr} {ip : IpAddr}
    (ha : w.state.allocations.get id = some a) (hs : call.source = some (route, ip))
    (hf : ∀ role, sourceMatches a route ip role = false) (hexp : ¬ ExpiresIn env call a) :
    (w.state.handle env call).1.allocations.get id = some a := by
  have hown := (run_ledger h).sound.own id a ha
  have hm : Misplaced call a := ⟨route, ip, hs, .inl hf⟩
  cases call with
  | selectForRequest q =>
    refine (selectForRequest_misplaced hm ha hown hexp).mpr ?_
    rintro ⟨-, -, hpin⟩
    cases hs
    rw [pinsEarly, Bool.and_eq_true] at hpin
    have hsource := (requestBound_spec hpin.1).1
    rw [hf] at hsource
    cases hsource
  | handleStageReport q => exact handleStageReport_misplaced hm ha hexp
  | cancelAllocation q => exact cancelAllocation_misplaced hm ha hexp
  | _ => cases hs

/-- The controller's request for the allocation of call 1, with a report in the target's role. -/
def sampleReversedRequest : RelayRequest := sampleRequest (sampleReport 1 .eager .target ["a", "b"] 5)

/-- The target's cancellation of the allocation of call 1, in the controller's role. -/
def sampleReversedCancel : CancelRequest :=
  ⟨sampleTarget 50000, (sampleTarget 50000).ip,
    ⟨1, (sampleUuid 1).val, Stage.eager.wire, (sampleUuid 101).val, 1, 1⟩⟩

def sampleOffered : List (Env × Call) :=
  [(sampleEnv .eager 1, .createOffer (sampleOffer (sampleTarget 50000)))]

theorem misplaced_call_unchanged_cancel : ∃ w a,
    Run (Guarded World.step freshDraws) World.init sampleOffered w ∧
    w.state.allocations.get (sampleUuid 1).val = some a ∧
    Misplaced (.cancelAllocation sampleReversedCancel) a ∧
    ¬ ExpiresIn (sampleEnv .eager 2) (.cancelAllocation sampleReversedCancel) a ∧
    (w.state.handle (sampleEnv .eager 2) (.cancelAllocation sampleReversedCancel)).1.allocations.get
      (sampleUuid 1).val = some a := by
  have h : (exec World.step freshDraws World.init sampleOffered).any (fun w =>
      (w.state.allocations.get (sampleUuid 1).val).any fun a =>
        sourceMatches a (normalizeSocket (sampleTarget 50000))
          (normalizeIp (sampleTarget 50000).ip) .target &&
        !sourceMatches a (normalizeSocket (sampleTarget 50000))
          (normalizeIp (sampleTarget 50000).ip) .controller && a.created == 0) = true := by
    decide
  simp only [Option.any_eq_true, Bool.and_eq_true, Bool.not_eq_true', beq_iff_eq] at h
  obtain ⟨w, hw, a, ha, ⟨hs, hs'⟩, hc⟩ := h
  have hm : Misplaced (.cancelAllocation sampleReversedCancel) a :=
    ⟨_, _, rfl, .inr ⟨.target, hs, hs', rfl⟩⟩
  have hexp : ¬ ExpiresIn (sampleEnv .eager 2) (.cancelAllocation sampleReversedCancel) a := by
    rintro ⟨-, hlt⟩
    rw [hc] at hlt
    revert hlt
    decide
  refine ⟨w, a, .of_exec hw, ha, hm, hexp, ?_⟩
  exact (misplaced_call_unchanged (.of_exec hw) ha hm hexp).mpr fun ht => ht

/-- The controller's request is blocked for its reversed role, but its uuid stays pinned. -/
theorem reversed_role_pins_uuid : ∃ w a,
    Run (Guarded World.step freshDraws) World.init sampleOffered w ∧
    w.state.allocations.get (sampleUuid 1).val = some a ∧
    Misplaced (.selectForRequest sampleReversedRequest) a ∧
    ¬ ExpiresIn (sampleEnv .eager 2) (.selectForRequest sampleReversedRequest) a ∧
    (w.state.handle (sampleEnv .eager 2) (.selectForRequest sampleReversedRequest)).1.allocations.get
      (sampleUuid 1).val ≠ some a := by
  have h : (exec World.step freshDraws World.init sampleOffered).any (fun w =>
      (w.state.allocations.get (sampleUuid 1).val).any fun a =>
        sourceMatches a (normalizeSocket sampleController)
          (normalizeIp sampleController.ip) .controller &&
        !sourceMatches a (normalizeSocket sampleController)
          (normalizeIp sampleController.ip) .target && a.created == 0 &&
        a.pendingUuid == none &&
        ((w.state.handle (sampleEnv .eager 2)
          (.selectForRequest sampleReversedRequest)).1.allocations.get (sampleUuid 1).val).any
            fun a' => a'.pendingUuid == some "session") = true := by
    decide
  simp only [Option.any_eq_true, Bool.and_eq_true, Bool.not_eq_true', beq_iff_eq] at h
  obtain ⟨w, hw, a, ha, ⟨⟨⟨hs, hs'⟩, hc⟩, hp⟩, a', ha', hp'⟩ := h
  refine ⟨w, a, .of_exec hw, ha, ⟨_, _, rfl, .inr ⟨.controller, hs, hs', .inr ⟨_, rfl, rfl⟩⟩⟩, ?_, ?_⟩
  · rintro ⟨-, hlt⟩
    rw [hc] at hlt
    revert hlt
    decide
  · rw [ha']
    rintro ⟨⟩
    rw [hp] at hp'
    cases hp'

end Starry.Quality
