import CommandTree.Logging.Filter
import CommandTree.Logging.Line

namespace CommandTree.Logging

structure OpenSpan where
  record : Record
  limits : List Limit

/-- The entries so far, and the open spans from the outside in. A span that is not let through is open
without a record. -/
structure Journal where
  entries : List LogEntry
  spans : List (Option OpenSpan)

namespace Journal

def empty : Journal := ⟨[], []⟩

def told (j : Journal) : List OpenSpan :=
  j.spans.filterMap id

def limits (j : Journal) : List Limit :=
  j.told.flatMap (·.limits)

def writeIf (j : Journal) (s : Setup) (isWanted : Bool) (r : Record) : Journal :=
  if isWanted then { j with entries := j.entries ++ [entryOf s (j.told.map (·.record)) r] } else j

def moment (span : Record) (word : String) : Record :=
  ⟨span.level, span.target, word, []⟩

def openSpan (j : Journal) (s : Setup) (f : Filter) (span : Record) : Journal :=
  if f.admitsSpan j.limits span then
    let opened := { j with spans := j.spans ++ [some (OpenSpan.mk span (f.limitsInside span))] }
    (opened.writeIf s s.spanEvents.created (moment span "new")).writeIf s s.spanEvents.entered
      (moment span "enter")
  else { j with spans := j.spans ++ [none] }

def closeSpan (j : Journal) (s : Setup) : Journal :=
  let written :=
    match j.spans.getLast? with
    | some (some span) =>
        (j.writeIf s s.spanEvents.exited (moment span.record "exit")).writeIf s s.spanEvents.closed
          (moment span.record "close")
    | _ => j
  { written with spans := written.spans.dropLast }

def note (s : Setup) (f : Filter) (j : Journal) (e : Event) : Journal :=
  match e with
  | .dispatchEntered command actor => j.openSpan s f (Event.dispatchSpan command actor)
  | .dispatchLeft _ _ => j.closeSpan s
  | e =>
      match e.record? with
      | some r => j.writeIf s (f.admitsWithin j.limits r) r
      | none => j

end Journal

def journalEntries (s : Setup) (f : Filter) (events : List Event) : List LogEntry :=
  (events.foldl (Journal.note s f) .empty).entries

end CommandTree.Logging
