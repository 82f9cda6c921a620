import SystemSketch.Text.Digits
import SystemSketch.Text.Search
import SystemSketch.Yaml.Fault

/-!
# Dates and times

A date is written with its year, month and day, and a time of day may follow, with a fraction of
a second and the offset of a time zone.

## Main definitions

* `Moment` — a date with or without a time of day.
* `Moment.read?` — the moment that a text has the form of.
* `Moment.fault?` — why there is no such moment.
-/

namespace SystemSketch.Yaml

/-- A time of day. -/
structure TimeOfDay where
  hour : Nat
  minute : Nat
  second : Nat
  /-- How many minutes the time zone is away, if one is given. -/
  zone? : Option Int

/-- A date with or without a time of day. -/
structure Moment where
  year : Nat
  month : Nat
  day : Nat
  time? : Option TimeOfDay

namespace Moment

/-- Between `least` and `most` digits at the front, as many as there are. -/
def digitsAt? (least most : Nat) (cs : List Char) : Option (List Char × List Char) :=
  let ds := (cs.take most).takeWhile Char.isDigit
  if ds.length < least then none else some (ds, cs.drop ds.length)

/-- A number of between `least` and `most` digits at the front. -/
def numberAt? (least most : Nat) (cs : List Char) : Option (Nat × List Char) :=
  (digitsAt? least most cs).map fun (ds, rest) => (Text.decimalValue ds, rest)

/-- The minutes behind the hours of an offset, none if they are missing. -/
def zoneMinutes? : List Char → Option (Nat × List Char)
  | ':' :: rest => numberAt? 2 2 rest
  | rest => some (0, rest)

/-- The offset at the end of a text, if there is one. -/
def zoneOf? (cs : List Char) : Option (Option Int) :=
  match cs.dropWhile fun c => c == ' ' || c == '\t' with
  | [] => if cs.isEmpty then some none else none
  | ['Z'] => some (some 0)
  | c :: rest => do
    if c != '+' && c != '-' then none
    let (hours, rest) ← numberAt? 1 2 rest
    let (minutes, rest) ← zoneMinutes? rest
    if !rest.isEmpty then none
    let away : Int := hours * 60 + minutes
    return some (if c == '-' then -away else away)

/-- The time of day that a text is. -/
def timeOf? (cs : List Char) : Option TimeOfDay := do
  let (hour, rest) ← numberAt? 1 2 cs
  let (minute, rest) ← numberAt? 2 2 (← Text.after? [':'] rest)
  let (second, rest) ← numberAt? 2 2 (← Text.after? [':'] rest)
  let rest := match rest with
    | '.' :: rest => rest.dropWhile Char.isDigit
    | rest => rest
  return ⟨hour, minute, second, ← zoneOf? rest⟩

/-- The moment that a text is. -/
def read? (cs : List Char) : Option Moment := do
  let (year, rest) ← numberAt? 4 4 cs
  let (month, rest) ← numberAt? 1 2 (← Text.after? ['-'] rest)
  let (day, rest) ← numberAt? 1 2 (← Text.after? ['-'] rest)
  match rest with
  | [] => return ⟨year, month, day, none⟩
  | c :: time =>
    if c == 'T' || c == 't' then return ⟨year, month, day, some (← timeOf? time)⟩
    else if c == ' ' || c == '\t' then
      let time := time.dropWhile fun c => c == ' ' || c == '\t'
      return ⟨year, month, day, some (← timeOf? time)⟩
    else none

/-- The number of days of a month. -/
def daysOfMonth (year month : Nat) : Nat :=
  let isLeap := year % 4 == 0 && (year % 100 != 0 || year % 400 == 0)
  if month == 2 then (if isLeap then 29 else 28)
  else if [4, 6, 9, 11].contains month then 30
  else 31

/-- Why there is no such time of day. -/
def timeFault? (t : TimeOfDay) : Option CalendarFault :=
  if 23 < t.hour then some .hour
  else if 59 < t.minute then some .minute
  else if 59 < t.second then some .second
  else none

/-- Why there is no such date or time of day. -/
def calendarFault? (m : Moment) : Option CalendarFault :=
  if m.year == 0 then some .year
  else if m.month == 0 || 12 < m.month then some .month
  else if m.day == 0 || daysOfMonth m.year m.month < m.day then some .day
  else m.time?.bind timeFault?

/-- How many minutes a time zone may be away, not included. -/
def zoneBound : Nat := 24 * 60

/-- Why there is no such moment. The time zone is looked at first. -/
def fault? (m : Moment) : Option Fault :=
  match m.time?.bind TimeOfDay.zone? with
  | some minutes =>
    if zoneBound ≤ minutes.natAbs then some (.zone minutes) else m.calendarFault?.map .calendar
  | none => m.calendarFault?.map .calendar

end Moment

end SystemSketch.Yaml
