import CommandTree.Document
import CommandTree.Text.Escape

/-!
Dates and times in TOML. A moment is a date, a time, or both, the latter with or without an offset.
Settings know no moments, so one is kept as a table with an entry of a reserved name.
-/

namespace CommandTree.Toml

open Text

def fixedDigits (count low high : Nat) : Reader (List Char) := fun cs =>
  let ds := cs.take count
  let n := ds.foldl (fun n c => 10 * n + (c.toNat - '0'.toNat)) 0
  if ds.length = count && ds.all Char.isDigit && low ≤ n && n ≤ high then some (ds, cs.drop count)
  else none

def mark (c : Char) : Reader (List Char)
  | d :: rest => if c = d then some ([c], rest) else none
  | [] => none

def toNumber (ds : List Char) : Nat :=
  ds.foldl (fun n c => 10 * n + (c.toNat - '0'.toNat)) 0

def isLeap (year : Nat) : Bool :=
  year % 4 == 0 && (year % 100 != 0 || year % 400 == 0)

def daysIn (year month : Nat) : Nat :=
  if month = 2 then (if isLeap year then 29 else 28)
  else if month = 4 || month = 6 || month = 9 || month = 11 then 30
  else 31

def date : Reader (List Char) := fun cs => do
  let (year, cs) ← fixedDigits 4 0 9999 cs
  let (_, cs) ← mark '-' cs
  let (month, cs) ← fixedDigits 2 1 12 cs
  let (_, cs) ← mark '-' cs
  let (day, cs) ← fixedDigits 2 1 (daysIn (toNumber year) (toNumber month)) cs
  some (year ++ '-' :: (month ++ '-' :: day), cs)

def fraction (cs : List Char) : List Char × List Char :=
  match cs with
  | '.' :: rest =>
      match rest.takeWhile Char.isDigit with
      | [] => ([], cs)
      | ds => ('.' :: ds, rest.dropWhile Char.isDigit)
  | _ => ([], cs)

def time : Reader (List Char) := fun cs => do
  let (hour, cs) ← fixedDigits 2 0 23 cs
  let (_, cs) ← mark ':' cs
  let (minute, cs) ← fixedDigits 2 0 59 cs
  let (_, cs) ← mark ':' cs
  let (second, cs) ← fixedDigits 2 0 60 cs
  let (part, cs) := fraction cs
  some (hour ++ ':' :: (minute ++ ':' :: (second ++ part)), cs)

def offset : Reader (List Char)
  | [] => none
  | c :: cs =>
      if c == 'Z' || c == 'z' then some (['Z'], cs)
      else if c == '+' || c == '-' then do
        let (hour, cs) ← fixedDigits 2 0 23 cs
        let (_, cs) ← mark ':' cs
        let (minute, cs) ← fixedDigits 2 0 59 cs
        some (c :: (hour ++ ':' :: minute), cs)
      else none

def timeBehind (cs : List Char) : List Char × List Char :=
  match cs with
  | c :: rest =>
      if c == 'T' || c == 't' || c == ' ' then
        match time rest with
        | some (t, rest) =>
            match offset rest with
            | some (o, rest) => ('T' :: (t ++ o), rest)
            | none => ('T' :: t, rest)
        | none => ([], cs)
      else ([], cs)
  | [] => ([], cs)

def momentKey : String := "$__toml_private_datetime"

def moment : Reader Document := fun cs =>
  let found :=
    match date cs with
    | some (d, rest) =>
        let (t, rest) := timeBehind rest
        some (d ++ t, rest)
    | none => time cs
  found.map fun (text, rest) => (.table [(momentKey, .text (String.ofList text))], rest)

end CommandTree.Toml
