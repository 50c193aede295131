import Starry.ControlAgent.Api
import Starry.Library.Run

/-!
# What the API lets through

Requests are served side by side: their handlers interleave where they ask for something. Whatever a
handler asks of the configuration, the enrollments or HBBS, it has been authorized for before.
-/

open Library

namespace Starry.ControlAgent

open Starry.ConfigStore (TransactionCaller Value)

/-! ## What needs a permission -/

/-- The scopes that a call of HBBS may be made for. -/
def callScopes : String → Option (List String)
  | "status" => none
  | "capabilities" => some ["starry.control.read"]
  | "relays" => some ["starry.relay.read", "starry.relay.enroll"]
  | "peer.verify" => some ["starry.peer.verify"]
  | "allocation.simulate" => some ["starry.relay.simulate"]
  | "config.runtime_state" => some ["starry.control.read", "starry.config.read",
      "starry.config.plan", "starry.config.apply", "starry.config.rollback"]
  | _ => some []

namespace Action

/-- The scopes that an action may be done for. The status of HBBS is asked for without one, to tell
whether the Agent is ready. -/
def scopes : Action → Option (List String)
  | .verify .. | .enter _ | .newRequestId => none
  | .call _ method _ => callScopes method
  | .readConfig | .history => some ["starry.config.read"]
  | .operation _ => some ["starry.control.read", "starry.relay.enroll"]
  | .createPlan _ => some ["starry.config.plan"]
  | .acceptApply _ => some ["starry.config.apply"]
  | .acceptRollback _ => some ["starry.config.rollback"]
  | .runtimeReload _ => some ["starry.runtime.reload"]
  | .enrollmentList | .enrollmentGet _ => some ["starry.relay.read"]
  | .enrollmentPrepare .. | .enrollmentComplete _ | .enrollmentActivate .. | .enrollmentRevoke _ =>
    some ["starry.relay.enroll"]

def mutates : Action → Bool
  | .createPlan _ | .acceptApply _ | .acceptRollback _ | .runtimeReload _ | .enrollmentPrepare ..
  | .enrollmentComplete _ | .enrollmentActivate .. | .enrollmentRevoke _ => true
  | _ => false

/-- On whose behalf a transaction is done. -/
def caller : Action → Option TransactionCaller
  | .createPlan r => some r.caller
  | .acceptApply r => some r.caller
  | .acceptRollback r => some r.caller
  | .runtimeReload r => some r.caller
  | _ => none

end Action

/-- An action that was done, with its reply. -/
structure Performed where
  act : Action
  reply : Reply act

section

variable (build : Build) (state : AgentState) (jwt : ServiceJwt)

/-! ## Requests side by side -/

structure Task where
  request : Request
  rest : Prog Action Reply Response
  trace : List Performed

structure System where
  now : Instant
  rate : Table String FixedWindow
  tasks : List Task
  /-- What the rates admitted, in its order. -/
  admitted : List (String × Instant)

def System.init : System := ⟨0, .empty, [], []⟩

/-- The section of `authorize` under the lock. -/
def System.enter (s : System) (key : String) : Bool × System :=
  let window := (s.rate.get key).getD ⟨s.now, 0⟩
  let entry := window.enter (secs 60) requestsPerMinute s.now
  (entry.1, { s with
    rate := s.rate.insert key entry.2
    admitted := if entry.1 then s.admitted ++ [(key, s.now)] else s.admitted })

/-- What an action may reply, and what it does to the rates. The clock of `verify` may be set. -/
inductive Outcome (s : System) : (a : Action) → Reply a → System → Prop
  | verify (token certificate : Option String) (scope : String) (epoch : Nat) :
      Outcome s (.verify token certificate scope)
        (state.verifier.verify jwt token certificate scope epoch) s
  | enter (key : String) : Outcome s (.enter key) (some (s.enter key).1) (s.enter key).2
  | poisoned (key : String) : Outcome s (.enter key) none s
  | any {a : Action} (r : Reply a) (hverify : ∀ token certificate scope,
      a ≠ .verify token certificate scope) (hother : ∀ key, a ≠ .enter key) : Outcome s a r s

inductive Turn
  | wait | arrive | act

inductive Proceed : System → Turn → System → Prop
  | wait {s : System} (d : Nat) : Proceed s .wait { s with now := s.now + d }
  | arrive {s : System} (request : Request) : Proceed s .arrive
      { s with tasks := s.tasks ++ [⟨request, serve build state request, []⟩] }
  | act {s t : System} {i : Nat} {request : Request} {a : Action}
      {k : Reply a → Prog Action Reply Response} {trace : List Performed} {r : Reply a}
      (hi : s.tasks[i]? = some ⟨request, .act a k, trace⟩) (h : Outcome state jwt s a r t) :
      Proceed s .act { t with tasks := t.tasks.set i ⟨request, k r, trace ++ [⟨a, r⟩]⟩ }

/-! ## Permissions -/

/-- The request was verified for the scope, and admitted. -/
structure Authorized (request : Request) (scope : String) (principal : ControlPrincipal)
    (trace : List Performed) : Prop where
  verified : ⟨.verify request.bearerToken (request.uriSan state.allowedSans) scope,
    .ok principal⟩ ∈ trace
  admitted : ⟨.enter (rateKey principal), some true⟩ ∈ trace

/-- What a handler may do for a principal. -/
structure Within (request : Request) (scope : String) (principal : ControlPrincipal) (a : Action) :
    Prop where
  scope : ∀ scopes, a.scopes = some scopes → scope ∈ scopes
  writes : a.mutates = true → state.writeEnabled = true
  caller : ∀ caller, a.caller = some caller → caller = request.caller principal

/-- What a handler does before its trace allows for it. -/
def Allowed (request : Request) (trace : List Performed) (a : Action) : Prop :=
  a.scopes = none ∧ a.mutates = false ∧ a.caller = none ∨
    ∃ scope principal, Authorized state request scope principal trace ∧
      Within state request scope principal a

/-- Every reply is taken for possible here. -/
def rules (request : Request) : Rules Action Reply (List Performed) :=
  .every (Allowed state request) fun trace a r trace' => trace' = trace ++ [⟨a, r⟩]

end

section

variable {build : Build} {state : AgentState} {jwt : ServiceJwt} {request : Request}
  {scope : String} {principal : ControlPrincipal} {trace : List Performed}

theorem Authorized.more (h : Authorized state request scope principal trace) (e : Performed) :
    Authorized state request scope principal (trace ++ [e]) :=
  ⟨List.mem_append_left _ h.verified, List.mem_append_left _ h.admitted⟩

theorem tries_check {α ε : Type} {problem : ε → ApiProblem} {x : Except ε α}
    {Q : α → List Performed → Prop} {E : ApiProblem → List Performed → Prop}
    (hok : ∀ a, x = .ok a → Q a trace) (herror : ∀ e, E e trace) :
    (rules state request).Tries (check problem x) Q E trace := by
  cases x with
  | ok a => exact hok a rfl
  | error e => exact herror _

section Writes

variable (hw : state.writeEnabled = true)
include hw

end Writes

/-- What the verifier said was said at some reading of the clock. -/
def Genuine (state : AgentState) (jwt : ServiceJwt) (e : Performed) : Prop :=
  ∀ token certificate scope reply, e = ⟨.verify token certificate scope, reply⟩ →
    ∃ epoch, reply = state.verifier.verify jwt token certificate scope epoch

/-- What is left of a task is allowed by what it has done. -/
structure Covered (state : AgentState) (jwt : ServiceJwt) (task : Task) : Prop where
  genuine : ∀ e ∈ task.trace, Genuine state jwt e
  safe : (rules state task.request).Safe task.rest (fun _ _ => True) task.trace

theorem outcome_tasks {s t : System} {a : Action} {r : Reply a} (h : Outcome state jwt s a r t) :
    t.tasks = s.tasks := by
  cases h <;> rfl

end

/-! ## A reload -/

def reloadClaims : Claims where
  iss := "https://issuer.example"
  aud := .one "urn:starry:i"
  sub := "center"
  azp := "spiffe://center"
  scope := .text "starry.config.read starry.runtime.reload"
  act := none
  iat := 1000
  nbf := 1000
  exp := 1200
  jti := "j"

def reloadJwt : ServiceJwt where
  decodeBase64Url _ := none
  decodeHeader token := if token = "t" then some ⟨.edDSA, some "JWT", some "k"⟩ else none
  decode token key _ := if token = "t" ∧ key = [7] then some reloadClaims else none

def reloadState : AgentState where
  instanceId := "i"
  maxConfigBytes := 1024 * 1024
  writeEnabled := true
  verifier := ⟨"https://issuer.example", "urn:starry:i", Table.empty.insert "k" [7]⟩
  enrollments := false
  allowedSans := ["spiffe://center"]

def reloadBuild : Build where
  store :=
    { instanceId := "i", maxConfigBytes := 1024 * 1024, sha256Hex := fun _ => "", toVec := fun _ => []
      parseAndValidate := fun _ => .error [], parseFromRfc3339 := fun _ => none
      isUuid := fun _ => false, order := .stored }
  peerVerify _ := none
  value _ := none
  candidate _ := none
  apply _ := none
  rollback _ := none
  reload _ := some "sha256:0"
  prepare _ := none
  complete _ := none
  activate _ := none
  revoke _ := none
  schema := .null
  uiSchema := .null
  schemaDigest := ""
  starryVersion := ""
  upstreamVersion := ""

def reloadRequest : Request where
  requestId := "r"
  headers name :=
    [("authorization", "Bearer t"), ("content-length", "2"),
      ("idempotency-key", "0123456789abcdef")].lookup name
  certificateUris := some ["spiffe://center"]
  route := .action "runtime:reload"
  body := [.ok [0x7b, 0x7d]]

def reloadPrincipal : ControlPrincipal := ⟨"center", "center", "spiffe://center"⟩

theorem reload_verified : reloadState.verifier.verify reloadJwt reloadRequest.bearerToken
    (reloadRequest.uriSan reloadState.allowedSans) "starry.runtime.reload" 1100 =
      .ok reloadPrincipal := by
  rfl

theorem reload_outcome (s : System) : Outcome reloadState reloadJwt s
    (.verify reloadRequest.bearerToken (reloadRequest.uriSan reloadState.allowedSans)
      "starry.runtime.reload") (.ok reloadPrincipal) s := by
  rw [← reload_verified]
  exact .verify _ _ _ 1100

/-- The handler is about to hand the reload over. -/
theorem reload_reachable : ∃ s task r k,
    Reachable (Proceed reloadBuild reloadState reloadJwt) System.init s ∧ task ∈ s.tasks ∧
      task.request = reloadRequest ∧ task.rest = .act (.runtimeReload r) k ∧
      s.admitted = [(rateKey reloadPrincipal, 0)] := by
  have hinit : Reachable (Proceed reloadBuild reloadState reloadJwt) System.init System.init :=
    .refl _
  have harrived := hinit.step (.arrive reloadRequest)
  have hverified := harrived.step (.act (i := 0) rfl (reload_outcome _))
  have hagain := hverified.step (.act (i := 0) rfl (reload_outcome _))
  have hadmitted := hagain.step (.act (i := 0) rfl (.enter _))
  exact ⟨_, _, _, _, hadmitted, List.mem_cons_self, rfl, rfl, rfl⟩

end Starry.ControlAgent
