import DoclingServeRay.Lib.Fleet
import DoclingServeRay.Relay.Delivery

/-! Workflows behind one relay do not get into each other's way: what becomes of
one of them depends on the traffic for it and on nothing else. -/
namespace DoclingServeRay.Relay
open Strings EventMachine Machine

variable {β : Type} {token : Text} {decoder : Decoder β}

/-- The workflow that something is about: the one started or going on, or the
one in a request's path. -/
def Traffic.workflowId : Traffic β → Text
  | .starts workflowId _ => workflowId
  | .proceeds workflowId _ => workflowId
  | .posts _ request _ => request.workflowId

/-! ### One workflow -/

/-- A workflow is open under this id. -/
def running (execution : Option Execution) : Bool :=
  match execution with
  | some execution => execution.state.await.outcome?.isNone
  | none => false

/-- The latest run, if there is one, takes an event. -/
def resume (execution : Option Execution) (event : Orchestration.Event) :
    Option (Option Execution) :=
  execution.bind fun execution =>
    (Orchestration.step execution.env execution.state event).map fun next =>
      some { execution with state := next }

/-- What happens under one workflow id. A request is no more than the terminal
event that it carries. -/
def aloneStep (token : Text) (decoder : Decoder β) (execution : Option Execution) :
    Traffic β → Option (Option Execution)
  | .starts _ env =>
    if running execution then none else some (some ⟨env, Orchestration.start env⟩)
  | .proceeds _ event => if event.signal?.isSome then none else resume execution event
  | .posts now request signaled =>
    match carried token decoder request with
    | none => some execution
    | some event =>
      if signaled.possible (running execution) then
        if signaled.landed then resume execution ⟨now, .signal event⟩ else some execution
      else none

def alone (token : Text) (decoder : Decoder β) : Machine (Option Execution) (Traffic β) :=
  ⟨none, aloneStep token decoder⟩

/-! ### All of them -/

theorem advance_eq (workflows : Workflows) (workflowId : Text) (event : Orchestration.Event) :
    advance workflows workflowId event =
      (resume (workflows workflowId) event).map (Function.update workflows workflowId) := by
  unfold advance resume
  cases workflows workflowId with
  | none => rfl
  | some execution =>
    simp only [Option.bind_some, Option.map_map]
    rfl

theorem posts_eq (workflows : Workflows) (now : Orchestration.Instant) (request : Request β)
    (signaled : Signaled) :
    relayStep token decoder workflows (.posts now request signaled) =
      match carried token decoder request with
      | none => some workflows
      | some event =>
        if signaled.possible (isOpen workflows request.workflowId) then
          if signaled.landed then advance workflows request.workflowId ⟨now, .signal event⟩
          else some workflows
        else none := by
  rw [relayStep]
  cases carries : carried token decoder request with
  | none =>
    rw [callback_uncarried carries]
    rfl
  | some event =>
    obtain ⟨call, called, addressed, named, arrives⟩ :=
      @callback_carried _ _ _ _ (fun _ => signaled.error) _ carries
    have delivered : [call].foldlM (deliver now signaled) workflows =
        deliver now signaled workflows call := by simp
    rw [called, delivered, deliver, addressed, named, arrives]
    simp

/-- The relay keeps its workflows apart: each step is one workflow's own. -/
theorem relayed_fleet : relayed token decoder = fleet (alone token decoder) Traffic.workflowId := by
  have still : ∀ (workflows : Workflows) workflowId, some workflows =
      (some (workflows workflowId)).map (Function.update workflows workflowId) := by
    intro workflows workflowId
    rw [Option.map_some, Function.update_eq_self]
  have steps : ∀ workflows traffic, relayStep token decoder workflows traffic =
      (aloneStep token decoder (workflows traffic.workflowId) traffic).map
        (Function.update workflows traffic.workflowId) := by
    intro workflows traffic
    cases traffic with
    | starts workflowId env =>
      have known : isOpen workflows workflowId = running (workflows workflowId) := rfl
      change _ = (aloneStep token decoder (workflows workflowId) (.starts workflowId env)).map _
      simp only [relayStep, aloneStep, known]
      by_cases opened : running (workflows workflowId) = true
      · rw [if_pos opened, if_pos opened]
        rfl
      · rw [if_neg opened, if_neg opened]
        rfl
    | proceeds workflowId event =>
      change _ = (aloneStep token decoder (workflows workflowId) (.proceeds workflowId event)).map _
      simp only [relayStep, aloneStep]
      split
      · rfl
      · exact advance_eq workflows workflowId event
    | posts now request signaled =>
      have known : isOpen workflows request.workflowId = running (workflows request.workflowId) := rfl
      change _ = (aloneStep token decoder (workflows request.workflowId)
        (.posts now request signaled)).map _
      rw [posts_eq]
      simp only [aloneStep, known]
      cases carried token decoder request with
      | none => exact still workflows request.workflowId
      | some event =>
        dsimp only
        by_cases possible : signaled.possible (running (workflows request.workflowId)) = true
        · rw [if_pos possible, if_pos possible]
          cases signaled.landed with
          | true => exact advance_eq workflows request.workflowId _
          | false => exact still workflows request.workflowId
        · rw [if_neg possible, if_neg possible]
          rfl
  unfold relayed fleet
  congr 1
  funext workflows traffic
  exact steps workflows traffic

/-- Traffic goes through and leaves the workflows in these states exactly when
the traffic for each of them would have done so by itself. -/
theorem workflows_independent (token : Text) (decoder : Decoder β) (traffic : List (Traffic β))
    (workflows : Workflows) :
    (relayed token decoder).run traffic = some workflows ↔
      ∀ workflowId, (alone token decoder).run (addressed Traffic.workflowId workflowId traffic) =
        some (workflows workflowId) := by
  rw [relayed_fleet]
  exact fleet_run_iff

/-- Traffic may reach the relay and the workflows in any other order that each
workflow cannot tell from this one. -/
theorem traffic_reordered {traffic others : List (Traffic β)}
    (same : ∀ workflowId, addressed Traffic.workflowId workflowId traffic =
      addressed Traffic.workflowId workflowId others) :
    (relayed token decoder).run traffic = (relayed token decoder).run others := by
  rw [relayed_fleet]
  exact fleet_reorder same

/-- Another workflow starts somewhere among what happens to the first. -/
def interrupted (before after : List (Traffic Json)) : List (Traffic Json) :=
  before ++ .starts "v".toList (Orchestration.plainEnv 300 600) :: after

theorem traffic_reordered_other :
    (relayed "secret".toList plainDecoder).run (interrupted (retried.take 2) (retried.drop 2)) =
      (relayed "secret".toList plainDecoder).run (interrupted retried []) := by
  refine traffic_reordered fun workflowId => ?_
  by_cases first : workflowId = "w".toList
  · subst first
    rfl
  by_cases second : workflowId = "v".toList
  · subst second
    rfl
  have nothing : ∀ traffic : List (Traffic Json),
      (∀ event ∈ traffic, event.workflowId = "w".toList ∨ event.workflowId = "v".toList) →
      addressed Traffic.workflowId workflowId traffic = [] := by
    intro traffic named
    refine List.filter_eq_nil_iff.mpr fun event member same => ?_
    rcases named event member with own | own
    · exact first ((of_decide_eq_true same).symm.trans own)
    · exact second ((of_decide_eq_true same).symm.trans own)
  rw [nothing _ (by decide), nothing _ (by decide)]

end DoclingServeRay.Relay
