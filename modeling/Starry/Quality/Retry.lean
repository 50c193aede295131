import Starry.Library.Paired
import Starry.Quality.Agreement

/-!
# Relay quality: a finalized allocation answers its controller

A retried request is answered from `request_decisions`, where a decision is entered under the uuid
then pinned. As long as every allocation is finalized with a uuid that no other answer uses, that
table and `finalized_allocations` are paired, and every retry finds the recorded decision. A stage
report can finalize an allocation before any uuid is pinned; its controller is then blocked.
-/

open Library

namespace Starry.Quality

open QualityState

/-! ## When an answer is kept -/

/-- The record `r` under the key `k` answers for the finalized allocation `f`. -/
structure Answers (recorded : List (RelayQualityDecision × Option String))
    (k : RequestDecisionKey) (r : DecisionRecord) (f : FinalizedAllocation) : Prop where
  uuid : k.uuid.isEmpty = false
  pinned : (f.decision, some k.uuid) ∈ recorded
  initiatorIp : k.initiatorIp = f.initiatorIp
  targetIp : k.targetIp = f.targetIp
  decision : r.decision = f.decision
  created : r.created = f.created
  configGeneration : r.configGeneration = f.configGeneration
  answerIp : r.targetIp = f.targetIp

def Answered (s : QualityState) : Prop :=
  Paired (·.allocationId) (Answers s.recorded) s.requestDecisions s.finalizedAllocations

section

variable {issued : List Bytes} {s t : QualityState} {env : Env} {id : Bytes} {a : Allocation}

theorem Answered.of_eq (h : Answered s) (h1 : t.requestDecisions = s.requestDecisions)
    (h2 : t.finalizedAllocations = s.finalizedAllocations) (h3 : t.recorded = s.recorded) :
    Answered t := by
  rw [Answered, h1, h2, h3]
  exact h

variable {configs : Nat → Option RelayQualityConfig}

end

end Starry.Quality
