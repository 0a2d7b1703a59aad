import CommandTree.Event

namespace CommandTree

def Field.plain (name text : String) : Field :=
  ⟨name, text, false⟩

def Field.quoted (name text : String) : Field :=
  ⟨name, text, true⟩

def Field.count (name : String) (n : Nat) : Field :=
  ⟨name, toString n, false⟩

namespace Event

open CommandTree.Field

inductive Source where
  | types
  | providers
  | handlers
  | definitions
  | binding
  | matching
  | dispatcher
  | manager
  | settings

def Source.target : Source → String
  | .types => "quill_core::types"
  | .providers => "quill_core::context"
  | .handlers => "quill_framework::handler"
  | .definitions => "quill_framework::parser"
  | .binding => "quill_framework::registration"
  | .matching => "quill_framework::matcher"
  | .dispatcher => "quill_framework::dispatcher"
  | .manager => "quill_runtime::manager"
  | .settings => "quill_runtime::config::loader"

def dispatchSpan (command actor : String) : Record :=
  ⟨.debug, Source.dispatcher.target, "dispatch", [plain "command" command, plain "actor" actor]⟩

def record? : Event → Option Record
  | .typeRegistered name =>
      some ⟨.debug, Source.types.target, "Registered argument type", [plain "type_name" name]⟩
  | .converterPanicked type token =>
      some ⟨.warn, Source.types.target, "Argument converter panicked",
        [plain "type_name" type, Field.quoted "token" token]⟩
  | .supplierPanicked type =>
      some ⟨.warn, Source.types.target, "Completion supplier panicked", [plain "type_name" type]⟩
  | .providerRegistered name =>
      some ⟨.debug, Source.providers.target, "Registered context provider", [plain "provider" name]⟩
  | .providerPanicked provider actor =>
      some ⟨.warn, Source.providers.target, "Context provider panicked",
        [plain "provider" provider, Field.quoted "actor" actor]⟩
  | .hookAdded hook arity =>
      some ⟨.debug, Source.handlers.target, "Added hook", [plain "hook" hook, count "arity" arity]⟩
  | .blockClosed path =>
      some ⟨.trace, Source.definitions.target, "Closed command block", [plain "command" path]⟩
  | .commandParsed name children =>
      some ⟨.debug, Source.definitions.target, "Parsed command definition",
        [plain "command" name, count "children" children]⟩
  | .hookBound path hook =>
      some ⟨.debug, Source.binding.target, "Bound hook",
        [plain "command" path, Field.quoted "hook" hook]⟩
  | .hookAbsent path =>
      some ⟨.trace, Source.binding.target, "No hook declared", [plain "command" path]⟩
  | .flagRejected path =>
      some ⟨.trace, Source.matching.target, "Flag value missing or invalid", [plain "command" path]⟩
  | .positionalRejected path tokens =>
      some ⟨.trace, Source.matching.target, "Positional arguments do not match",
        [plain "command" path, count "tokens" tokens]⟩
  | .candidateChosen argument skipped =>
      some ⟨.trace, Source.matching.target, "Chose optional candidate",
        [plain "argument" argument, count "skipped" skipped]⟩
  | .asserterAbsent provider =>
      some ⟨.trace, Source.matching.target, "Asserter produced no value", [plain "provider" provider]⟩
  | .contextAbsent provider =>
      some ⟨.trace, Source.matching.target, "Context provider produced no value",
        [plain "provider" provider]⟩
  | .dispatchEntered command actor => some (dispatchSpan command actor)
  | .dispatchLeft _ _ => none
  | .permissionDenied path =>
      some ⟨.trace, Source.dispatcher.target, "Permission denied", [plain "command" path]⟩
  | .senderRejected path required =>
      some ⟨.trace, Source.dispatcher.target, "Sender kind rejected",
        [plain "command" path, plain "required" required.word]⟩
  | .siblingDeferred path =>
      some ⟨.trace, Source.dispatcher.target, "Deferring to sibling", [plain "command" path]⟩
  | .nothingHandled => some ⟨.trace, Source.dispatcher.target, "No candidate handled the call", []⟩
  | .handlerInvoked path actor =>
      some ⟨.debug, Source.dispatcher.target, "Invoking handler",
        [plain "command" path, plain "actor" actor]⟩
  | .handlerFailed path actor error =>
      some ⟨.error, Source.dispatcher.target, "Command handler failed",
        [plain "command" path, plain "actor" actor, plain "error" error]⟩
  | .definitionsLoading path =>
      some ⟨.info, Source.manager.target, "Loading command definitions", [plain "path" path]⟩
  | .labelShared command =>
      some ⟨.debug, Source.manager.target, "Label shared with an existing root",
        [plain "command" command]⟩
  | .commandRegistered command owner =>
      some ⟨.info, Source.manager.target, "Registered command",
        [plain "command" command, Field.quoted "prefix" owner]⟩
  | .commandUnregistered label removed =>
      some ⟨.info, Source.manager.target, "Unregistered command",
        [Field.quoted "command" label, count "removed" removed]⟩
  | .commandUnknown label actor =>
      some ⟨.debug, Source.manager.target, "Unknown command",
        [Field.quoted "command" label, plain "actor" actor]⟩
  | .settingsLoading path =>
      some ⟨.info, Source.settings.target, "Loading configuration file", [plain "path" path]⟩
  | .settingsMerging path =>
      some ⟨.debug, Source.settings.target, "Merging configuration file", [plain "path" path]⟩
  | .settingsAbsent paths =>
      some ⟨.warn, Source.settings.target, "No configuration file found, using defaults",
        [plain "paths" paths]⟩
  | .environmentRead =>
      some ⟨.trace, Source.settings.target, "Loading environment variables with QUILL_ prefix", []⟩
  | .settingsLoaded profile level files =>
      some ⟨.debug, Source.settings.target, "Configuration loaded successfully",
        [plain "profile" profile, plain "logging_level" level.word, count "files" files]⟩
  | .noted record => some record

end Event

end CommandTree
