import CommandTree.Registry

namespace CommandTree

inductive HandlerError where
  | parameter (index : Nat) (source : SlotError)
  | failed (message : String)
  | panicked (message : String)
  deriving DecidableEq

def HandlerError.message : HandlerError → String
  | .parameter index source => "parameter " ++ toString index ++ ": " ++ source.message
  | .failed message => message
  | .panicked message => "handler panicked: " ++ message

inductive CallEnd where
  | completed
  | failed (error : HandlerError)
  | panicked (text : Option String)
  deriving DecidableEq

def CallEnd.error? : CallEnd → Option HandlerError
  | .completed => none
  | .failed error => some error
  | .panicked text => some (.panicked (text.getD "unknown panic"))

structure Reply (σ : Type) where
  state : σ
  messages : List String
  events : List Event
  ending : CallEnd

/-- A handler that takes the actor and `arity - 1` slots. -/
structure Handler (σ : Type) where
  arity : Nat
  call : Actor → List (Option Value) → σ → Reply σ

inductive Response where
  | nothing
  | text (text : String)
  | failure (message : String)
  | panic (text : Option String)

def Response.messages : Response → List String
  | .text sent => if sent.isEmpty then [] else [sent]
  | _ => []

def Response.ending : Response → CallEnd
  | .failure message => .failed (.failed message)
  | .panic payload => .panicked payload
  | _ => .completed

/-- Fills the parameters in order from the slots, counting from `index`. Slots that are not there count
as absent, and slots without a parameter are left over. -/
def takeParameters :
    Nat → List Parameter → List (Option Value) → Except HandlerError (List (Option Value))
  | _, [], _ => .ok []
  | index, p :: ps, slots =>
      match p.take (slots.head?.getD none) with
      | .error source => .error (.parameter index source)
      | .ok value =>
          match takeParameters (index + 1) ps slots.tail with
          | .error error => .error error
          | .ok values => .ok (value :: values)

structure BodyResult (σ : Type) where
  state : σ
  events : List Event
  response : Response

def Handler.typed {σ : Type} (parameters : List Parameter)
    (body : Actor → List (Option Value) → σ → BodyResult σ) : Handler σ where
  arity := 1 + parameters.length
  call actor slots state :=
    match takeParameters 0 parameters slots with
    | .error error => ⟨state, [], [], .failed error⟩
    | .ok values =>
        let result := body actor values state
        ⟨result.state, result.response.messages, result.events, result.response.ending⟩

structure HookTable (σ : Type) where
  entries : List (String × Handler σ)

namespace HookTable

variable {σ : Type}

def empty : HookTable σ := ⟨[]⟩

def get? (t : HookTable σ) (hook : String) : Option (Handler σ) :=
  (t.entries.find? (·.1 == hook)).map (·.2)

def insert (t : HookTable σ) (hook : String) (handler : Handler σ) : Logged (HookTable σ) := do
  Logged.report (.hookAdded hook handler.arity)
  pure ⟨t.entries.filter (·.1 != hook) ++ [(hook, handler)]⟩

def ofList (hooks : List (String × Handler σ)) : Logged (HookTable σ) :=
  hooks.foldlM (fun t (hook, handler) => t.insert hook handler) empty

def names (t : HookTable σ) : List String :=
  (t.entries.map (·.1)).mergeSort fun a b => !decide (b < a)

def firstOf (tables : List (HookTable σ)) (hook : String) : Option (Handler σ) :=
  tables.findSome? (·.get? hook)

end HookTable

end CommandTree
