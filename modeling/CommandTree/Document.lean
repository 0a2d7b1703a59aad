import CommandTree.Number.Double

/-!
Documents: nested data that settings are read from. The entries of a table are kept in the order of their
keys, each key once, so two tables that hold the same are equal. Laying one document over another unites
tables and replaces everything else.
-/

namespace CommandTree

open Number

inductive Document where
  | nothing
  | boolean (b : Bool)
  | integer (n : Int)
  | float (x : Double)
  | character (c : Char)
  | text (s : String)
  | list (items : List Document)
  | table (entries : List (String × Document))
  deriving Inhabited

namespace Document

def lookup? {α : Type} (key : String) : List (String × α) → Option α
  | [] => none
  | (k, v) :: rest => if k = key then some v else lookup? key rest

def insert {α : Type} (key : String) (value : α) : List (String × α) → List (String × α)
  | [] => [(key, value)]
  | (k, v) :: rest =>
      if key < k then (key, value) :: (k, v) :: rest
      else if k = key then (key, value) :: rest
      else (k, v) :: insert key value rest

theorem lookup?_insert_self {α : Type} (key : String) (value : α) (entries : List (String × α)) :
    lookup? key (insert key value entries) = some value := by
  induction entries with
  | nil => simp [insert, lookup?]
  | cons entry rest ih =>
    obtain ⟨k, v⟩ := entry
    unfold insert
    split
    · simp [lookup?]
    · split
      · simp [lookup?]
      · simp_all [lookup?]

def ofEntries (entries : List (String × Document)) : Document :=
  .table (entries.foldl (fun sorted (key, value) => insert key value sorted) [])

mutual

/-- The document `upper` laid over `lower`. -/
def merge (lower : Document) : Document → Document
  | .table upper =>
      match lower with
      | .table entries => .table (mergeEntries entries upper)
      | _ => .table upper
  | upper => upper

def mergeEntries (lower : List (String × Document)) :
    List (String × Document) → List (String × Document)
  | [] => lower
  | (key, value) :: rest =>
      match lookup? key lower with
      | some old => mergeEntries (insert key (merge old value) lower) rest
      | none => mergeEntries (insert key value lower) rest

end

def nest (value : Document) : List String → Document
  | [] => value
  | key :: path => .table [(key, nest value path)]

end Document

end CommandTree
