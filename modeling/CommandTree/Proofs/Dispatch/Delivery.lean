import CommandTree.Dispatch

namespace CommandTree

variable {σ : Type}

namespace Delivery

@[simp] theorem handled_declined (state : σ) : (declined state).handled = false := rfl

@[simp] theorem state_declined (state : σ) : (declined state).state = state := rfl

@[simp] theorem calls_declined (state : σ) : (declined state).calls = [] := rfl

@[simp] theorem handled_told (text : String) (state : σ) : (told text state).handled = true := rfl

@[simp] theorem calls_told (text : String) (state : σ) : (told text state).calls = [] := rfl

@[simp] theorem declined_followedBy (state : σ) (d : Delivery σ) :
    (declined state).followedBy d = d := rfl

end Delivery

theorem Logged.unlessHandled_value_of_handled {x : Logged (Delivery σ)}
    {next : σ → Logged (Delivery σ)} (h : x.value.handled = true) :
    (x.unlessHandled next).value = x.value := by
  simp [unlessHandled, h]

theorem Logged.unlessHandled_value_of_declined {x : Logged (Delivery σ)}
    {next : σ → Logged (Delivery σ)} {state : σ} (h : x.value = .declined state) :
    (x.unlessHandled next).value = (next state).value := by
  simp [unlessHandled, h]

theorem Logged.unlessHandled_value_congr {x y : Logged (Delivery σ)} (h : x.value = y.value)
    (next : σ → Logged (Delivery σ)) : (x.unlessHandled next).value = (y.unlessHandled next).value := by
  simp only [unlessHandled, Logged.value_bind, h]

theorem Logged.unlessHandled_eq_of_handled {x : Logged (Delivery σ)}
    (next next' : σ → Logged (Delivery σ)) (h : x.value.handled = true) :
    x.unlessHandled next = x.unlessHandled next' := by
  simp only [unlessHandled, bind, andThen, h, if_true]

def Invocation.delivery (m : Messages) (actor : Actor) (call : Invocation σ) (state : σ) : Delivery σ :=
  let reply := call.handler.call actor call.slots state
  ⟨true, reply.messages ++ (if reply.ending = .completed then [] else [m.handlerFailure]), [call],
    reply.state⟩

theorem CallEnd.error?_eq_none_iff {ending : CallEnd} : ending.error? = none ↔ ending = .completed := by
  cases ending <;> simp [error?]

theorem Invocation.run_value (m : Messages) (actor : Actor) (call : Invocation σ) (state : σ) :
    (call.run m actor state).value = call.delivery m actor state := by
  simp only [run, delivery, Logged.value_bind]
  cases h : (call.handler.call actor call.slots state).ending.error? with
  | none => simp [CallEnd.error?_eq_none_iff.mp h]
  | some error =>
      have hc : (call.handler.call actor call.slots state).ending ≠ .completed := by
        intro hc
        simp [CallEnd.error?_eq_none_iff.mpr hc] at h
      simp [hc]

namespace Node

theorem runAmong_eq_runEach (m : Messages) (actor : Actor) (siblings : List (Node σ)) (first : String)
    (rest : List String) (nodes : List (Node σ)) :
    runAmong m actor siblings first rest nodes =
      runEach m actor siblings rest (nodes.filter (·.command.hasAlias first)) := by
  induction nodes with
  | nil =>
      funext state
      rw [runAmong, List.filter_nil, runEach]
  | cons node nodes ih =>
      funext state
      rw [runAmong, List.filter_cons]
      split
      · rw [runEach, ih]
      · rw [ih]

def runBelow (m : Messages) (actor : Actor) (node : Node σ) (tokens : List String) (state : σ) :
    Logged (Delivery σ) :=
  match tokens with
  | [] => pure (.declined state)
  | first :: rest =>
      runEach m actor node.children rest (node.children.filter (·.command.hasAlias first)) state

theorem run_eq (m : Messages) (actor : Actor) (node : Node σ) (tokens : List String) (hasTwin : Bool)
    (state : σ) :
    node.run m actor tokens hasTwin state =
      if !node.command.isPermitted actor then do
        Logged.report (.permissionDenied node.command.path)
        pure (.told m.noPermission state)
      else if asksForHelp tokens then pure (.told (node.helpText m actor) state)
      else if !node.command.senderKind.accepts actor.kind then do
        Logged.report (.senderRejected node.command.path node.command.senderKind)
        pure (.told (m.wrongSenderFor node.command.senderKind) state)
      else
        ((node.runOwn m actor tokens state).unlessHandled (node.runBelow m actor tokens)).unlessHandled
          (node.fallback m actor hasTwin) := by
  cases node with
  | mk c children =>
      rw [run]
      simp only [runAmong_eq_runEach]
      rfl

end Node

end CommandTree
