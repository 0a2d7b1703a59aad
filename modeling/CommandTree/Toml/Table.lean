import CommandTree.Document

/-!
Tables under construction. A table that a header names may be named once; one that a header below it
implies may still be named; one that dotted keys make belongs to the table in which they stand. What a key
gives as its value is closed to all of them.
-/

namespace CommandTree.Toml

inductive Origin where
  | implied
  | dotted
  | named
  deriving DecidableEq

inductive Item where
  | value (d : Document)
  | table (origin : Origin) (entries : List (String × Item))
  | tables (finished : List Document) (last : List (String × Item))

abbrev Entries := List (String × Item)

mutual

def Item.toDocument : Item → Document
  | .value d => d
  | .table _ entries => .table (documents entries)
  | .tables finished last => .list (finished ++ [.table (documents last)])

def documents : List (String × Item) → List (String × Document)
  | [] => []
  | (key, item) :: rest => (key, item.toDocument) :: documents rest

end

/-- Gives a key its value in a table that is written now. Only a table of dotted keys, or the written one
itself, takes the last part of the key. -/
def define (d : Document) : List String → Bool → Entries → Option Entries
  | [], _, _ => none
  | [key], isOpen, entries =>
      if isOpen && (Document.lookup? key entries).isNone then some (Document.insert key (.value d) entries)
      else none
  | key :: path, _, entries => do
      let item ←
        match Document.lookup? key entries with
        | none => (define d path true []).map (.table .dotted)
        | some (.table .dotted below) => (define d path true below).map (.table .dotted)
        | some (.table .implied below) => (define d path false below).map (.table .implied)
        | some (.table .named _) => none
        | some (.tables finished last) => (define d path false last).map (.tables finished)
        | some (.value _) => none
      some (Document.insert key item entries)

def atHeader (change : Option Item → Option Item) : List String → Entries → Option Entries
  | [], _ => none
  | [key], entries =>
      (change (Document.lookup? key entries)).map (Document.insert key · entries)
  | key :: path, entries => do
      let item ←
        match Document.lookup? key entries with
        | none => (atHeader change path []).map (.table .implied)
        | some (.table origin below) => (atHeader change path below).map (.table origin)
        | some (.tables finished last) => (atHeader change path last).map (.tables finished)
        | some (.value _) => none
      some (Document.insert key item entries)

def openTable : Option Item → Option Item
  | none => some (.table .named [])
  | some (.table .implied below) => some (.table .named below)
  | some _ => none

def openListed : Option Item → Option Item
  | none => some (.tables [] [])
  | some (.tables finished last) => some (.tables (finished ++ [.table (documents last)]) [])
  | some _ => none

def defineIn (key : List String) (d : Document) : Option Item → Option Item
  | some (.table .named entries) => (define d key true entries).map (.table .named)
  | some (.tables finished last) => (define d key true last).map (.tables finished)
  | _ => none

def inlineTable (pairs : List (List String × Document)) : Option Document :=
  (pairs.foldlM (fun entries (key, d) => define d key true entries) []).map fun entries =>
    .table (documents entries)

end CommandTree.Toml
