import Starry.Quality.Handlers

/-!
# Relay quality: what one call can do

`handle_effect` says it once for all handlers: after its cleanup a call leaves the tables alone,
adds an allocation, puts a changed allocation back, finalizes one, cancels one, or sweeps the
expired ones. Every invariant is proved from it.
-/

open Library

namespace Starry.Quality

open QualityState

/-- The state after the cleanup of a call. -/
def QualityState.cleanedBy (s : QualityState) (env : Env) : QualityState :=
  s.cleanup (env.active.config.getD {}) env.cleaned

/-- An allocation is taken out and finalized. -/
def QualityState.finalizeWith (s : QualityState) (env : Env) (id : Bytes) (a : Allocation)
    (d : RelayQualityDecision × Option (CacheKey × String)) : QualityState :=
  ((s.take id).recordFinalDecision env a d.1 d.2).1

def Allocation.pin (a : Allocation) (uuid : String) : Allocation :=
  { a with pendingUuid := some uuid }

/-- A call that draws nothing and cancels nothing. -/
structure Answer.Plain (call : Call) (answer : Answer) : Prop where
  id : answer.drawsId = false
  token : answer.drawsToken = false
  cancels : answer.cancels call = []

/-- How a call may change the allocation it is about, other than by expanding it. -/
inductive Evolves (env : Env) : Call → Allocation → Allocation → Prop
  | same (call : Call) (a : Allocation) : Evolves env call a a
  | responded (q : ResponseRequest) (a : Allocation) (report : RelayProbeReport)
      (v : ValidatedReport)
      (hsource : initialResponseSourceMatches a (normalizeSocket q.targetRoute)
        (normalizeIp q.targetIp) q.targetId = true)
      (hreport : q.report = some report)
      (hv : validateReportUntil report a .target env.received = .ok v) :
      Evolves env (.responseContext q) a (a.store .target v).2
  | reported (q : StageReportRequest) (a : Allocation) (role : EndpointRole) (v : ValidatedReport)
      (hsource : sourceMatches a (normalizeSocket q.sourceRoute) (normalizeIp q.sourceIp) role = true)
      (hv : validateReportUntil q.report a role env.received = .ok v) :
      Evolves env (.handleStageReport q) a (a.store role v).2
  | pinned (q : RelayRequest) (a : Allocation) (hbound : requestBound env q a = true) :
      Evolves env (.selectForRequest q) a (a.pin q.uuid)
  | requested (q : RelayRequest) (a : Allocation) (report : RelayProbeReport) (v : ValidatedReport)
      (hbound : requestBound env q a = true) (hreport : q.report = some report)
      (hv : validateReportUntil report (a.pin q.uuid) .controller env.received = .ok v) :
      Evolves env (.selectForRequest q) a ((a.pin q.uuid).store .controller v).2

inductive Effect (env : Env) (s : QualityState) : Call → Answer → QualityState → Prop
  | same {call : Call} {answer : Answer} (h : answer.Plain call) : Effect env s call answer s
  | offered (q : OfferRequest) (o : RelayQualityOffer) (config : RelayQualityConfig)
      (views : List Observer.RelayRuntimeView) (hconfig : env.active.config = some config)
      (hviews : offerViews env config q = some views) :
      Effect env s (.createOffer q) (.offer (some o))
        (s.addAllocation env config (offeredAllocation env config q views))
  | put {call : Call} {answer : Answer} (id : Bytes) (a a' : Allocation)
      (ha : s.allocations.get id = some a) (hev : Evolves env call a a')
      (h : answer.Plain call) : Effect env s call answer (s.putBack id a')
  | expanded (q : RelayRequest) (d : StageDispatch) (id : Bytes) (a a' : Allocation)
      (ha : s.allocations.get id = some a) (hev : Evolves env (.selectForRequest q) a a')
      (hstage : a'.stage = .primary) :
      Effect env s (.selectForRequest q) (.request (.expanded d))
        (s.putBack id (transitionToExpanded a' env.token))
  | finalized {call : Call} {answer : Answer} (id : Bytes) (a a' : Allocation)
      (d : RelayQualityDecision × Option (CacheKey × String))
      (ha : s.allocations.get id = some a) (hev : Evolves env call a a')
      (hd : d.1.allocationId = a'.allocationId) (h : answer.Plain call) :
      Effect env s call answer (s.finalizeWith env id a' d)
  | cancelled (q : CancelRequest) (d : StageDispatch) (a : Allocation) (role : EndpointRole)
      (ha : s.allocations.get q.cancel.allocationId = some a)
      (hrole : EndpointRole.fromWire q.cancel.endpointRole = some role)
      (hsource : sourceMatches a (normalizeSocket q.sourceRoute) (normalizeIp q.sourceIp) role = true) :
      Effect env s (.cancelAllocation q) (.cancelled (some d))
        (s.removeAllocation q.cancel.allocationId)
  | swept (ds : List StageDispatch) :
      Effect env s .finalizeExpired (.finalized ds)
        ((s.expiredIds env).foldl (finalizeOne env) (s, [])).1

/-! ## Small facts -/

theorem cleanedBy_eq {s : QualityState} {env : Env} {config : RelayQualityConfig}
    (h : env.active.config = some config) : s.cleanedBy env = s.cleanup config env.cleaned := by
  rw [cleanedBy, h]
  rfl

@[simp] theorem putBack_take (s : QualityState) (id : Bytes) (a : Allocation) :
    (s.take id).putBack id a = s.putBack id a := by
  simp only [take, putBack, Table.insert_remove]

@[simp] theorem store_allocationId (a : Allocation) (role : EndpointRole) (v : ValidatedReport) :
    (a.store role v).2.allocationId = a.allocationId := rfl

@[simp] theorem store_stage (a : Allocation) (role : EndpointRole) (v : ValidatedReport) :
    (a.store role v).2.stage = a.stage := rfl

theorem primaryDecision_id (a : Allocation) (c : CandidateState) :
    (primaryDecision a c).1.allocationId = a.allocationId := rfl

theorem scoreTerminalAllocation_id (cache : Table CacheKey CachedSelection) (now : Instant)
    (a : Allocation) (stage : Stage) (reason : DecisionReason) :
    (scoreTerminalAllocation cache now a stage reason).1.allocationId = a.allocationId := by
  unfold scoreTerminalAllocation
  dsimp only
  split <;> rfl

theorem lateDecision_id (s : QualityState) (env : Env) (a : Allocation) :
    (s.lateDecision env a).1.allocationId = a.allocationId := by
  unfold lateDecision
  split
  · exact scoreTerminalAllocation_id ..
  · rfl

theorem plain_request {q : RelayRequest} {r : RequestResolution} (h : ∀ d, r ≠ .expanded d) :
    (Answer.request r).Plain (.selectForRequest q) := by
  refine ⟨rfl, ?_, rfl⟩
  cases r with
  | expanded d => exact absurd rfl (h d)
  | _ => rfl

theorem plain_report {q : StageReportRequest} (r : StageReportResolution) :
    (Answer.report r).Plain (.handleStageReport q) := ⟨rfl, rfl, rfl⟩

/-! ## The handlers -/

section

variable {env : Env} {s : QualityState} {id : Bytes} {a a' : Allocation}

theorem selectFinal_effect {q : RelayRequest}
    {d : RelayQualityDecision × Option (CacheKey × String)}
    (ha : s.allocations.get id = some a) (hev : Evolves env (.selectForRequest q) a a')
    (hd : d.1.allocationId = a'.allocationId) :
    Effect env s (.selectForRequest q) (.request ((s.take id).selectFinal env a' d).2)
      ((s.take id).selectFinal env a' d).1 :=
  .finalized id a a' d ha hev hd (plain_request (by simp [selectFinal]))

theorem advanceRequest_effect {q : RelayRequest} (ha : s.allocations.get id = some a)
    (hev : Evolves env (.selectForRequest q) a a') :
    Effect env s (.selectForRequest q) (.request ((s.take id).advanceRequest env id a').2)
      ((s.take id).advanceRequest env id a').1 := by
  unfold advanceRequest
  split
  · rename_i hstage
    split
    · exact selectFinal_effect ha hev (primaryDecision_id ..)
    · simp only [putBack_take]
      exact .expanded q _ id a a' ha hev hstage
  · exact selectFinal_effect ha hev (scoreTerminalAllocation_id ..)
  · split
    · exact selectFinal_effect ha hev (scoreTerminalAllocation_id ..)
    · simp only [putBack_take]
      exact .put id a a' ha hev (plain_request (by simp))

theorem resolveRequest_effect {q : RelayRequest} {report : RelayProbeReport}
    (ha : s.allocations.get id = some a) (hbound : requestBound env q a = true)
    (hreport : q.report = some report) :
    Effect env s (.selectForRequest q)
      (.request ((s.take id).resolveRequest env id (a.pin q.uuid) report).2)
      ((s.take id).resolveRequest env id (a.pin q.uuid) report).1 := by
  have hpin : Evolves env (.selectForRequest q) a (a.pin q.uuid) := .pinned q a hbound
  unfold resolveRequest
  split
  · exact selectFinal_effect ha hpin rfl
  · simp only [putBack_take]
    exact .put id a _ ha hpin (plain_request (by simp))
  · exact selectFinal_effect ha hpin rfl
  · rename_i v hv
    have hstored := Evolves.requested q a report v hbound hreport hv
    dsimp only
    split
    · simp only [putBack_take]
      exact .put id a _ ha hstored (plain_request (by simp))
    · exact advanceRequest_effect ha hstored

theorem bindRequest_effect (s : QualityState) (q : RelayRequest) :
    Effect env s (.selectForRequest q) (.request (s.bindRequest env q).2) (s.bindRequest env q).1 := by
  unfold bindRequest
  split
  · split <;> exact .same (plain_request (by simp))
  · rename_i report hreport
    dsimp only
    split
    · exact .same (plain_request (by simp))
    · split
      · exact .same (plain_request (by simp))
      · rename_i a ha
        split
        · simp only [putBack_take]
          exact .put _ a a ha (.same _ a) (plain_request (by simp))
        · rename_i hbound
          simp only [Bool.not_eq_true', Bool.not_eq_false] at hbound
          exact resolveRequest_effect ha hbound hreport

theorem reportFinal_effect {q : StageReportRequest}
    {d : RelayQualityDecision × Option (CacheKey × String)}
    (ha : s.allocations.get id = some a) (hev : Evolves env (.handleStageReport q) a a')
    (hd : d.1.allocationId = a'.allocationId) :
    Effect env s (.handleStageReport q) (.report ((s.take id).reportFinal env a' d).2)
      ((s.take id).reportFinal env a' d).1 :=
  .finalized id a a' d ha hev hd (plain_report _)

theorem resolveReport_effect {q : StageReportRequest} {role : EndpointRole}
    (ha : s.allocations.get id = some a)
    (hsource : sourceMatches a (normalizeSocket q.sourceRoute) (normalizeIp q.sourceIp) role = true) :
    Effect env s (.handleStageReport q)
      (.report ((s.take id).resolveReport env id a q.report role).2)
      ((s.take id).resolveReport env id a q.report role).1 := by
  have hsame : Evolves env (.handleStageReport q) a a := .same _ a
  unfold resolveReport
  split
  · simp only [putBack_take]
    exact .put id a a ha hsame (plain_report _)
  · simp only [putBack_take]
    exact .put id a a ha hsame (plain_report _)
  · exact reportFinal_effect ha hsame (lateDecision_id ..)
  · rename_i v hv
    have hstored := Evolves.reported q a role v hsource hv
    dsimp only
    split
    · simp only [putBack_take]
      exact .put id a _ ha hstored (plain_report _)
    · unfold advanceReport
      dsimp only
      split
      · simp only [putBack_take]
        exact .put id a _ ha hstored (plain_report _)
      · exact reportFinal_effect ha hstored (scoreTerminalAllocation_id ..)

theorem createOffer_effect (s : QualityState) (q : OfferRequest) :
    (s.createOffer env q).1 = s ∧ (Answer.offer (s.createOffer env q).2).Plain (.createOffer q) ∨
      Effect env (s.cleanedBy env) (.createOffer q) (.offer (s.createOffer env q).2)
        (s.createOffer env q).1 := by
  unfold createOffer
  split
  · exact .inl ⟨rfl, rfl, rfl, rfl⟩
  · rename_i config hconfig
    split
    · exact .inl ⟨rfl, rfl, rfl, rfl⟩
    · rename_i views hviews
      right
      rw [cleanedBy_eq hconfig]
      exact .offered q _ config views hconfig hviews

theorem responseContext_effect (s : QualityState) (q : ResponseRequest) :
    (s.responseContext env q).1 = s ∨
      Effect env (s.cleanedBy env) (.responseContext q) (.context (s.responseContext env q).2)
        (s.responseContext env q).1 := by
  unfold responseContext
  split
  · exact .inl rfl
  · rename_i config hconfig
    split
    · exact .inl rfl
    · right
      rw [cleanedBy_eq hconfig]
      dsimp only
      split
      · exact .same ⟨rfl, rfl, rfl⟩
      · rename_i id hid
        split
        · exact .same ⟨rfl, rfl, rfl⟩
        · rename_i a ha
          split
          · exact .same ⟨rfl, rfl, rfl⟩
          · rename_i hcond
            simp only [Bool.or_eq_true, Bool.not_eq_true', not_or, Bool.not_eq_false] at hcond
            refine .put id a _ ha ?_ ⟨rfl, rfl, rfl⟩
            unfold storeTargetReport
            split
            · exact .same _ a
            · rename_i report hreport
              split
              · rename_i v hv
                exact .responded q a report v hcond.2 hreport hv
              · exact .same _ a

theorem selectForRequest_effect (s : QualityState) (q : RelayRequest) :
    (s.selectForRequest env q).1 = s ∧
        (Answer.request (s.selectForRequest env q).2).Plain (.selectForRequest q) ∨
      Effect env (s.cleanedBy env) (.selectForRequest q) (.request (s.selectForRequest env q).2)
        (s.selectForRequest env q).1 := by
  unfold selectForRequest
  split
  · exact .inl ⟨rfl, plain_request (by simp)⟩
  · rename_i config hconfig
    split
    · exact .inl ⟨rfl, plain_request (by simp)⟩
    · right
      rw [cleanedBy_eq hconfig]
      dsimp only
      split
      · split <;> exact .same (plain_request (by simp))
      · exact bindRequest_effect _ q

theorem handleStageReport_effect (s : QualityState) (q : StageReportRequest) :
    (s.handleStageReport env q).1 = s ∨
      Effect env (s.cleanedBy env) (.handleStageReport q) (.report (s.handleStageReport env q).2)
        (s.handleStageReport env q).1 := by
  unfold handleStageReport
  split
  · exact .inl rfl
  · rename_i config hconfig
    split
    · exact .inl rfl
    · split
      · exact .inl rfl
      · rename_i role hrole
        right
        rw [cleanedBy_eq hconfig]
        dsimp only
        split
        · split <;> exact .same (plain_report _)
        · split
          · exact .same (plain_report _)
          · rename_i a ha
            split
            · simp only [putBack_take]
              exact .put _ a a ha (.same _ a) (plain_report _)
            · rename_i hcond
              simp only [Bool.or_eq_true, Bool.not_eq_true', not_or, Bool.not_eq_false] at hcond
              exact resolveReport_effect ha hcond.2

theorem cancelAllocation_effect (s : QualityState) (q : CancelRequest) :
    (s.cancelAllocation env q).1 = s ∧
        (Answer.cancelled (s.cancelAllocation env q).2).Plain (.cancelAllocation q) ∨
      Effect env (s.cleanedBy env) (.cancelAllocation q) (.cancelled (s.cancelAllocation env q).2)
        (s.cancelAllocation env q).1 := by
  unfold cancelAllocation
  split
  · exact .inl ⟨rfl, rfl, rfl, rfl⟩
  · rename_i config hconfig
    dsimp only
    split
    · exact .inl ⟨rfl, rfl, rfl, rfl⟩
    · split
      · exact .inl ⟨rfl, rfl, rfl, rfl⟩
      · rename_i role hrole
        right
        rw [cleanedBy_eq hconfig]
        split
        · exact .same ⟨rfl, rfl, rfl⟩
        · rename_i a ha
          split
          · exact .same ⟨rfl, rfl, rfl⟩
          · rename_i hcond
            simp only [Bool.or_eq_true, Bool.not_eq_true', not_or, Bool.not_eq_false] at hcond
            exact .cancelled q _ a role ha hrole hcond.2

end

/-- A call either returns before its cleanup, with nothing done, or has one of the effects on the
cleaned state. -/
theorem handle_effect (s : QualityState) (env : Env) (call : Call) :
    (s.handle env call).1 = s ∧ (s.handle env call).2.Plain call ∨
      Effect env (s.cleanedBy env) call (s.handle env call).2 (s.handle env call).1 := by
  cases call with
  | createOffer q => exact createOffer_effect s q
  | responseContext q => exact (responseContext_effect s q).imp_left fun h => ⟨h, rfl, rfl, rfl⟩
  | selectForRequest q => exact selectForRequest_effect s q
  | handleStageReport q => exact (handleStageReport_effect s q).imp_left fun h => ⟨h, plain_report _⟩
  | cancelAllocation q => exact cancelAllocation_effect s q
  | decisionForResponse uuid ip =>
    simp only [handle, decisionForResponse]
    split
    · exact .inl ⟨rfl, rfl, rfl, rfl⟩
    · split
      · exact .inl ⟨rfl, rfl, rfl, rfl⟩
      · rename_i config hconfig
        right
        rw [cleanedBy_eq hconfig]
        exact .same ⟨rfl, rfl, rfl⟩
  | finalizeExpired =>
    simp only [handle, finalizeExpired]
    split
    · exact .inl ⟨rfl, rfl, rfl, rfl⟩
    · rename_i config hconfig
      split
      · exact .inl ⟨rfl, rfl, rfl, rfl⟩
      · right
        rw [cleanedBy_eq hconfig]
        exact .swept _
  | runtimeSnapshot => exact .inr (.same ⟨rfl, rfl, rfl⟩)

end Starry.Quality
