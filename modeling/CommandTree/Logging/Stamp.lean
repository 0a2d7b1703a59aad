
namespace CommandTree.Logging

structure Day where
  year : Nat
  month : Nat
  day : Nat

/-- The day that lies this many days after the first of January 1970. Years are counted from March, so
that the day that some of them lack is their last one; 400 of them have 146097 days. -/
def Day.ofEpoch (days : Nat) : Day :=
  let n := days + 719468
  let inEra := n % 146097
  let yearInEra := (inEra - inEra / 1460 + inEra / 36524 - inEra / 146096) / 365
  let inYear := inEra - (365 * yearInEra + yearInEra / 4 - yearInEra / 100)
  let month := (5 * inYear + 2) / 153
  let day := inYear - (153 * month + 2) / 5 + 1
  let year := yearInEra + n / 146097 * 400
  if month < 10 then ⟨year, month + 3, day⟩ else ⟨year + 1, month - 9, day⟩

def padded (width n : Nat) : String :=
  let digits := toString n
  String.ofList (List.replicate (width - digits.length) '0') ++ digits

def Day.text (d : Day) : String :=
  padded 4 d.year ++ "-" ++ padded 2 d.month ++ "-" ++ padded 2 d.day

structure Stamp where
  microseconds : Nat

namespace Stamp

def seconds (t : Stamp) : Nat :=
  t.microseconds / 1000000

def day (t : Stamp) : Day :=
  .ofEpoch (t.seconds / 86400)

def hour (t : Stamp) : Nat :=
  t.seconds / 3600 % 24

def text (t : Stamp) : String :=
  t.day.text ++ "T" ++ padded 2 t.hour ++ ":" ++ padded 2 (t.seconds / 60 % 60) ++ ":"
    ++ padded 2 (t.seconds % 60) ++ "." ++ padded 6 (t.microseconds % 1000000) ++ "Z"

end Stamp

end CommandTree.Logging
