import CommandTree.Settings

/-!
Reading settings from a document. A setting that the document does not mention keeps its standard value,
and an entry that is no setting is passed over. Entries are read in the order of their keys; the first
that does not fit ends the reading, and the fault is the way to it.
-/

namespace CommandTree.Settings

/-- The keys and list indices on the way to the part of a document that does not fit. -/
abbrev Fault := List String

abbrev Decoder (α : Type) := Document → Except Fault α

def within {α : Type} (key : String) (result : Except Fault α) : Except Fault α :=
  result.mapError (key :: ·)

def boolean : Decoder Bool
  | .boolean b => .ok b
  | _ => .error []

def text : Decoder String
  | .text s => .ok s
  | .character c => .ok (String.singleton c)
  | _ => .error []

def natural : Decoder Nat
  | .integer n => if 0 ≤ n && n < Nat.pow 2 32 then .ok n.toNat else .error []
  | _ => .error []

def optional {α : Type} (decode : Decoder α) : Decoder (Option α)
  | .nothing => .ok none
  | d => (decode d).map some

def word {α : Type} (ofWord? : String → Option α) : Decoder α
  | .text s =>
      match ofWord? s with
      | some a => .ok a
      | none => .error []
  | .table ((key, value) :: rest) =>
      match ofWord? key, value, rest with
      | some a, .nothing, [] => .ok a
      | some _, .nothing, _ => .error []
      | some _, _, _ => .error [key]
      | none, _, _ => .error [key]
  | _ => .error []

def itemsFrom {α : Type} (decode : Decoder α) : Nat → List Document → Except Fault (List α)
  | _, [] => .ok []
  | index, d :: rest => do
      let first ← within (toString index) (decode d)
      let others ← itemsFrom decode (index + 1) rest
      .ok (first :: others)

def list {α : Type} (decode : Decoder α) : Decoder (List α)
  | .list items => itemsFrom decode 0 items
  | _ => .error []

def entries {α : Type} (decode : Decoder α) : Decoder (List (String × α))
  | .table entries =>
      entries.mapM fun (key, d) => do
        let value ← within key (decode d)
        .ok (key, value)
  | _ => .error []

/-- A field of a structure: its key, and the structure with the field read from a document. -/
structure Slot (σ : Type) where
  key : String
  fill : σ → Document → Except Fault σ

def Slot.of {σ α : Type} (key : String) (decode : Decoder α) (set : σ → α → σ) : Slot σ :=
  ⟨key, fun s d => (decode d).map (set s)⟩

def fillByKey {σ : Type} (slots : List (Slot σ)) : σ → List (String × Document) → Except Fault σ
  | s, [] => .ok s
  | s, (key, d) :: rest => do
      let filled ←
        match slots.find? (·.key == key) with
        | some slot => within key (slot.fill s d)
        | none => .ok s
      fillByKey slots filled rest

def fillInOrder {σ : Type} (isExact : Bool) :
    Nat → List (Slot σ) → σ → List Document → Except Fault σ
  | _, _, s, [] => .ok s
  | _, [], s, _ :: _ => if isExact then .error [] else .ok s
  | index, slot :: slots, s, d :: rest => do
      let filled ← within (toString index) (slot.fill s d)
      fillInOrder isExact (index + 1) slots filled rest

/-- A structure, from a table or from the list of its fields. Where reading is exact, a list has no more
items than the structure has fields. -/
def structureOf {σ : Type} (isExact : Bool) (slots : List (Slot σ)) (start : σ) : Decoder σ
  | .table entries => fillByKey slots start entries
  | .list items => fillInOrder isExact 0 slots start items
  | _ => .error []

def messagesFrom (isExact : Bool) : Decoder Messages :=
  structureOf isExact
    [.of "no_permission" text fun m s => { m with noPermission := s },
      .of "wrong_sender" text fun m s => { m with wrongSender := s },
      .of "handler_failure" text fun m s => { m with handlerFailure := s },
      .of "hidden_subcommands" text fun m s => { m with hiddenSubcommands := s },
      .of "help_header" (optional text) fun m s => { m with helpHeader := s }]
    .standard

def spanEventsFrom (isExact : Bool) : Decoder SpanEvents :=
  structureOf isExact
    [.of "new" boolean fun e b => { e with created := b },
      .of "enter" boolean fun e b => { e with entered := b },
      .of "exit" boolean fun e b => { e with exited := b },
      .of "close" boolean fun e b => { e with closed := b }]
    .none

def loggingFrom (isExact : Bool) : Decoder LoggingSettings :=
  structureOf isExact
    [.of "level" (word Level.ofWord?) fun l a => { l with level := a },
      .of "format" (word LogFormat.ofWord?) fun l a => { l with format := a },
      .of "output" (word LogOutput.ofWord?) fun l a => { l with output := a },
      .of "file_path" (optional text) fun l a => { l with filePath := a },
      .of "rotation" (word LogRotation.ofWord?) fun l a => { l with rotation := a },
      .of "max_files" natural fun l a => { l with maxFiles := a },
      .of "thread_ids" boolean fun l a => { l with threadIds := a },
      .of "file_location" boolean fun l a => { l with fileLocation := a },
      .of "span_events" (spanEventsFrom isExact) fun l a => { l with spanEvents := a },
      .of "filters" (entries (word Level.ofWord?)) fun l a => { l with filters := a }]
    .standard

def commandsFrom (isExact : Bool) : Decoder CommandSettings :=
  structureOf isExact
    [.of "fallback_prefix" text fun c s => { c with owner := s },
      .of "files" (list text) fun c files => { c with files := files }]
    .standard

def settingsFrom (isExact : Bool) : Decoder Settings :=
  structureOf isExact
    [.of "logging" (loggingFrom isExact) fun s a => { s with logging := a },
      .of "messages" (messagesFrom isExact) fun s a => { s with messages := a },
      .of "commands" (commandsFrom isExact) fun s a => { s with commands := a }]
    .standard

end CommandTree.Settings
