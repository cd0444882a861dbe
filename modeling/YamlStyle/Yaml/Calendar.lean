import YamlStyle.Text.Class
import YamlStyle.Text.Quoted

/-!
# The calendar

Timestamps, and the dates and times that they stand for.
-/

/-!
## Timestamps

A date, or a date with a time of day and a distance from universal time.
-/

namespace YamlStyle.Yaml

/-- A time of day as written: runs of digits. -/
structure ClockText where
  hour : Text
  minute : Text
  second : Text
  fraction : Text
  deriving DecidableEq, Repr

/-- A zone as written; no sign for universal time. -/
structure ZoneText where
  sign : Option Char
  hours : Text
  minutes : Text
  written : Text
  deriving DecidableEq, Repr

/-- The fields of a timestamp as written, each a run of digits. -/
structure Timestamp where
  year : Text
  month : Text
  day : Text
  time : Option ClockText
  zone : Option ZoneText
  deriving DecidableEq, Repr

namespace Timestamp

/-- Between `least` and `most` leading digits, as many as there are, and the rest. -/
def digits? (least most : Nat) (t : Text) : Option (Text × Text) :=
  let found := (t.take most).takeWhile Text.isDigit
  if least ≤ found.length then some (found, t.drop found.length) else none

/-- The text after a character. -/
def past? (c : Char) : Text → Option Text
  | [] => none
  | d :: r => if c == d then some r else none

def isBlank (c : Char) : Bool := c == ' ' || c == '\t'

/-- What may follow a time: nothing, or blanks and a zone. -/
def zone? (t : Text) : Option (Option ZoneText) := do
  if t.isEmpty then return none
  let written := t.dropWhile isBlank
  match written with
  | ['Z'] => return some ⟨none, [], [], written⟩
  | sign :: r =>
    if sign != '+' && sign != '-' then none
    else
      let (hours, r) ← digits? 1 2 r
      if r.isEmpty then return some ⟨some sign, hours, [], written⟩
      else
        let (minutes, r) ← digits? 2 2 (← past? ':' r)
        if r.isEmpty then return some ⟨some sign, hours, minutes, written⟩ else none
  | [] => none

/-- The digits after a point, if there is a point. -/
def fraction (t : Text) : Text × Text :=
  match past? '.' t with
  | some r => (r.takeWhile Text.isDigit, r.dropWhile Text.isDigit)
  | none => ([], t)

/-- The text after what stands between a date and a time. -/
def separator? : Text → Option Text
  | [] => none
  | c :: r =>
    if c == 'T' || c == 't' then some r
    else if isBlank c then some (r.dropWhile isBlank)
    else none

def ofText? (t : Text) : Option Timestamp := do
  let (year, r) ← digits? 4 4 t
  let (month, r) ← digits? 1 2 (← past? '-' r)
  let (day, r) ← digits? 1 2 (← past? '-' r)
  if r.isEmpty then return ⟨year, month, day, none, none⟩
  let (hour, r) ← digits? 1 2 (← separator? r)
  let (minute, r) ← digits? 2 2 (← past? ':' r)
  let (second, r) ← digits? 2 2 (← past? ':' r)
  let (fractional, r) := fraction r
  return ⟨year, month, day, some ⟨hour, minute, second, fractional⟩, ← zone? r⟩

/-- Whether a plain scalar with these fields is a timestamp: a date alone has two digits for
month and day. -/
def isImplicit (s : Timestamp) : Bool :=
  s.time.isSome || (s.month.length == 2 && s.day.length == 2)

end Timestamp

end YamlStyle.Yaml

/-!
## Dates and times

The date or time that a timestamp stands for. Years run from 1 to 9999. A time may have a zone;
two times with zones are the same if they are the same moment, and a time without a zone is the
same as no time with one.
-/

namespace YamlStyle.Yaml

structure Date where
  year : Nat
  month : Nat
  day : Nat
  deriving DecidableEq, Repr

/-- A distance from universal time in seconds, and what it is called. -/
structure Zone where
  seconds : Int
  name : String
  deriving DecidableEq, Repr

/-- A date with a time of day. -/
structure Time where
  date : Date
  hour : Nat
  minute : Nat
  second : Nat
  micro : Nat
  zone : Option Zone
  deriving DecidableEq, Repr

/-- Digits of `n`, at least `width` of them. -/
def padded (width n : Nat) : String :=
  let shown := toString n
  String.ofList (List.replicate (width - shown.length) '0') ++ shown

/-- A span of time in messages, in days and seconds of a day. -/
def describeSpan (seconds : Int) : String :=
  let days := seconds.fdiv 86400
  let rest := seconds.fmod 86400
  let parts := (if days == 0 then [] else [s!"days={days}"]) ++
    (if rest == 0 then [] else [s!"seconds={rest}"])
  if parts.isEmpty then "datetime.timedelta(0)"
  else "datetime.timedelta(" ++ ", ".intercalate parts ++ ")"

/-- Why a timestamp is no date or time. -/
inductive CalendarFault where
  /-- A zone a whole day or more away. -/
  | zone (seconds : Int)
  | year (n : Nat)
  | month
  | day
  | hour
  | minute
  | second
  /-- Rounding up leads out of the years there are. -/
  | overflow
  deriving DecidableEq, Repr

def CalendarFault.message : CalendarFault → String
  | .zone seconds =>
    "offset must be a timedelta strictly between -timedelta(hours=24) and timedelta(hours=24), not "
      ++ describeSpan seconds ++ "."
  | .year n => s!"year {n} is out of range"
  | .month => "month must be in 1..12"
  | .day => "day is out of range for month"
  | .hour => "hour must be in 0..23"
  | .minute => "minute must be in 0..59"
  | .second => "second must be in 0..59"
  | .overflow => "date value out of range"

namespace Date

def isLeap (year : Nat) : Bool := year % 4 == 0 && (year % 100 != 0 || year % 400 == 0)

def monthLength (year month : Nat) : Nat :=
  if month == 2 then if isLeap year then 29 else 28
  else if [4, 6, 9, 11].contains month then 30
  else 31

def check (d : Date) : Except CalendarFault Unit :=
  if d.year == 0 || 9999 < d.year then .error (.year d.year)
  else if d.month == 0 || 12 < d.month then .error .month
  else if d.day == 0 || monthLength d.year d.month < d.day then .error .day
  else .ok ()

/-- The days from the first day of year 1 on. -/
def dayNumber (d : Date) : Nat :=
  let years := d.year - 1
  let months := (List.range (d.month - 1)).foldl (fun n m => n + monthLength d.year (m + 1)) 0
  years * 365 + years / 4 - years / 100 + years / 400 + months + d.day - 1

/-- The day after. -/
def next (d : Date) : Except CalendarFault Date :=
  if d.day < monthLength d.year d.month then .ok { d with day := d.day + 1 }
  else if d.month < 12 then .ok ⟨d.year, d.month + 1, 1⟩
  else if d.year < 9999 then .ok ⟨d.year + 1, 1, 1⟩
  else .error .overflow

def shown (d : Date) : String := s!"{padded 4 d.year}-{padded 2 d.month}-{padded 2 d.day}"

/-- How a date is written as part of something. -/
def inner (d : Date) : String := s!"datetime.date({d.year}, {d.month}, {d.day})"

end Date

namespace Zone

/-- The zone of a timestamp, called as it is written there. -/
def ofTimestamp (z : ZoneText) : Except CalendarFault Zone :=
  let distance : Int := Text.numberIn 10 z.hours * 3600 + Text.numberIn 10 z.minutes * 60
  let seconds := if z.sign == some '-' then -distance else distance
  if 86400 ≤ distance then .error (.zone seconds) else .ok ⟨seconds, String.ofList z.written⟩

def shown (z : Zone) : String :=
  let minutes := z.seconds.natAbs / 60
  let sign := if z.seconds < 0 then "-" else "+"
  s!"{sign}{padded 2 (minutes / 60)}:{padded 2 (minutes % 60)}"

def inner (z : Zone) : String :=
  s!"datetime.timezone({describeSpan z.seconds}, {Text.quoted z.name.toList})"

end Zone

namespace Time

def check (t : Time) : Except CalendarFault Unit := do
  t.date.check
  if 23 < t.hour then .error .hour
  else if 59 < t.minute then .error .minute
  else if 59 < t.second then .error .second
  else .ok ()

/-- The time a second later. -/
def nextSecond (t : Time) : Except CalendarFault Time :=
  if t.second < 59 then .ok { t with second := t.second + 1 }
  else if t.minute < 59 then .ok { t with minute := t.minute + 1, second := 0 }
  else if t.hour < 23 then .ok { t with hour := t.hour + 1, minute := 0, second := 0 }
  else t.date.next.map fun date => { t with date, hour := 0, minute := 0, second := 0 }

/-- The microseconds that have passed in universal time, if there is a zone to tell it. -/
def moment? (t : Time) : Option Int :=
  t.zone.map fun z =>
    let seconds : Int := t.date.dayNumber * 86400 + t.hour * 3600 + t.minute * 60 + t.second
    (seconds - z.seconds) * 1000000 + t.micro

/-- Whether two times are the same. -/
def isSame (t u : Time) : Bool :=
  match t.moment?, u.moment? with
  | some m, some n => m == n
  | none, none => t == u
  | _, _ => false

def shown (t : Time) : String :=
  let fraction := if t.micro == 0 then "" else s!".{padded 6 t.micro}"
  s!"{t.date.shown} {padded 2 t.hour}:{padded 2 t.minute}:{padded 2 t.second}{fraction}" ++
    (t.zone.map Zone.shown).getD ""

/-- How a time is written as part of something: without seconds where there are none. -/
def inner (t : Time) : String :=
  let rest :=
    if t.micro != 0 then [t.second, t.micro] else if t.second != 0 then [t.second] else []
  let fields := ([t.date.year, t.date.month, t.date.day, t.hour, t.minute] ++ rest).map toString
  let zone := (t.zone.map fun z => s!"tzinfo={z.inner}").toList
  "datetime.datetime(" ++ ", ".intercalate (fields ++ zone) ++ ")"

end Time

/-- Digits after the point as millionths, rounded at the seventh digit. -/
def microseconds (fraction : Text) : Nat :=
  let digits := fraction.take 6 ++ List.replicate (6 - fraction.length) '0'
  Text.numberIn 10 digits + if (fraction[6]?).any ('4' < ·) then 1 else 0

namespace Timestamp

def date (s : Timestamp) : Date :=
  ⟨Text.numberIn 10 s.year, Text.numberIn 10 s.month, Text.numberIn 10 s.day⟩

/-- The date that a timestamp without a time of day stands for. -/
def date? (s : Timestamp) : Except CalendarFault Date := do
  s.date.check
  return s.date

/-- The time that a timestamp with this time of day stands for. The zone is looked at before all
else, and a fraction that is rounded up to a second makes it a second later. -/
def timeOf (s : Timestamp) (c : ClockText) : Except CalendarFault Time := do
  let zone ← match s.zone with
    | some z => (Zone.ofTimestamp z).map some
    | none => .ok none
  let micro := microseconds c.fraction
  let number := Text.numberIn 10
  let t : Time :=
    ⟨s.date, number c.hour, number c.minute, number c.second, micro % 1000000, zone⟩
  t.check
  if 1000000 ≤ micro then t.nextSecond else return t

end Timestamp

end YamlStyle.Yaml
