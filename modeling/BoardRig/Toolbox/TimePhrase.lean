/-
Times as people write them.

A phrase is a row of items in any order: a date, a time of day, a day of the
week, a zone, and steps forward or back from what the others say. Of the first
four there may be one each. What a phrase leaves open is taken from the present,
but a date without a time of day means its start.
-/
import BoardRig.Toolbox.Calendar

namespace BoardRig.Toolbox.TimePhrase

/-! ## Words -/

/-- What a step is counted in. -/
inductive Span where
  | years
  | months
  | days
  | hours
  | minutes
  | seconds
deriving DecidableEq, Repr

/-- A word or a number of a phrase. A number keeps how many digits it was
written with; one with a sign in front is of another kind. -/
inductive Token where
  | number (value digits : Nat)
  | signed (value : Int) (digits : Nat)
  /-- A number of seconds with a part behind the point, in nanoseconds. -/
  | fraction (signed : Bool) (nanos : Int)
  | half (afternoon : Bool)
  | month (n : Nat)
  | weekday (n : Nat)
  /-- A zone, in minutes east. -/
  | zone (minutes : Int)
  | localZone
  | summer
  /-- The letter between a date and a time, which is a zone as well. -/
  | letter
  | span (s : Span) (count : Int)
  | ordinal (n : Int)
  | shift (days : Int)
  | ago
  | sign (c : Char)
  | unknown
deriving DecidableEq, Repr

/-- Zones by name, with their distance in minutes; a mark says that clocks are
put forward. -/
def zones : List (String × Int × Bool) := [
  ("GMT", 0, false), ("UT", 0, false), ("UTC", 0, false), ("WET", 0, false), ("WEST", 0, true),
  ("BST", 0, true), ("ART", -180, false), ("BRT", -180, false), ("BRST", -180, true),
  ("NST", -210, false), ("NDT", -210, true), ("AST", -240, false), ("ADT", -240, true),
  ("CLT", -240, false), ("CLST", -240, true), ("EST", -300, false), ("EDT", -300, true),
  ("CST", -360, false), ("CDT", -360, true), ("MST", -420, false), ("MDT", -420, true),
  ("PST", -480, false), ("PDT", -480, true), ("AKST", -540, false), ("AKDT", -540, true),
  ("HST", -600, false), ("HAST", -600, false), ("HADT", -600, true), ("SST", -720, false),
  ("WAT", 60, false), ("CET", 60, false), ("CEST", 60, true), ("MET", 60, false),
  ("MEZ", 60, false), ("MEST", 60, true), ("MESZ", 60, true), ("EET", 120, false),
  ("EEST", 120, true), ("CAT", 120, false), ("SAST", 120, false), ("EAT", 180, false),
  ("MSK", 180, false), ("MSD", 180, true), ("IST", 330, false), ("SGT", 480, false),
  ("KST", 540, false), ("JST", 540, false), ("GST", 600, false), ("NZST", 720, false),
  ("NZDT", 720, true)]

def spans : List (String × Span × Int) := [
  ("YEAR", .years, 1), ("MONTH", .months, 1), ("FORTNIGHT", .days, 14), ("WEEK", .days, 7),
  ("DAY", .days, 1), ("HOUR", .hours, 1), ("MINUTE", .minutes, 1), ("MIN", .minutes, 1),
  ("SECOND", .seconds, 1), ("SEC", .seconds, 1)]

/-- Words with a meaning of their own. -/
def words : List (String × Token) := [
  ("TOMORROW", .shift 1), ("YESTERDAY", .shift (-1)), ("TODAY", .shift 0), ("NOW", .shift 0),
  ("LAST", .ordinal (-1)), ("THIS", .ordinal 0), ("NEXT", .ordinal 1), ("FIRST", .ordinal 1),
  ("THIRD", .ordinal 3), ("FOURTH", .ordinal 4), ("FIFTH", .ordinal 5), ("SIXTH", .ordinal 6),
  ("SEVENTH", .ordinal 7), ("EIGHTH", .ordinal 8), ("NINTH", .ordinal 9), ("TENTH", .ordinal 10),
  ("ELEVENTH", .ordinal 11), ("TWELFTH", .ordinal 12), ("AGO", .ago)]

def letterZone (c : Char) : Token :=
  let n : Int := c.toNat
  if c = 'J' then .localZone
  else if c = 'T' then .letter
  else if c = 'Z' then .zone 0
  else if c ≤ 'I' then .zone ((n - 64) * 60)
  else if c ≤ 'M' then .zone ((n - 65) * 60)
  else .zone (-(n - 77) * 60)

/-- The name of a day or a month that a word stands for, whole or by its first
three letters. -/
def dayOrMonth? (word : String) : Option Token :=
  let cs := word.toList
  let short := cs.length = 3 || (cs.length = 4 && cs.getLast? == some '.')
  let place? (names : List String) : Option Nat := names.findIdx? fun name =>
    let name := name.toUpper.toList
    if short then name.take 3 == cs.take 3 else name == cs
  match place? Calendar.monthNames, place? Calendar.dayNames with
  | some n, _ => some (.month (n + 1))
  | none, some n => some (.weekday n)
  | none, none =>
    [("SEPT", Token.month 9), ("TUES", .weekday 2), ("WEDNES", .weekday 3), ("THUR", .weekday 4),
      ("THURS", .weekday 4)].lookup word

def zone? (word : String) : Option Token :=
  (zones.lookup word).map fun (minutes, forward) => .zone (if forward then minutes + 60 else minutes)

def tokenOf (word : String) : Token :=
  let span? (word : String) : Option Token :=
    (spans.lookup word).map fun (s, count) => .span s count
  let half? : Option Token :=
    if word = "AM" || word = "A.M." then some (.half false)
    else if word = "PM" || word = "P.M." then some (.half true)
    else none
  let plural? : Option Token :=
    if word.endsWith "S" then span? (String.ofList word.toList.dropLast) else none
  let single? : Option Token :=
    match word.toList with
    | [c] => if 'A' ≤ c && c ≤ 'Z' then some (letterZone c) else none
    | _ => none
  let bare := String.ofList (word.toList.filter (· != '.'))
  ((half?.or (dayOrMonth? word)).or (zone? word)).or
    ((if word = "DST" then some .summer else none).or
      (((span? word).or plural?).or
        (((words.lookup word).or single?).or (if bare = word then none else zone? bare))))
    |>.getD .unknown

def behindRemark : (depth : Nat) → Octets → Octets
  | _, [] => []
  | depth, c :: cs =>
    if c = '(' then behindRemark (depth + 1) cs
    else if c = ')' then if depth ≤ 1 then cs else behindRemark (depth - 1) cs
    else behindRemark depth cs

/-- The nanoseconds that digits behind a point stand for, toward zero, and
whether something was cut off. -/
def nanosOf (digits : Octets) : Nat × Bool :=
  let kept := digits.take 9
  ((Octets.leadingNat (kept ++ List.replicate (9 - kept.length) '0')).1,
    (digits.drop 9).any (· != '0'))

def numberToken (sign : Option Char) (cs : Octets) : Token × Octets :=
  let digits := cs.takeWhile Char.isDigit
  let rest := cs.drop digits.length
  let n := (Octets.leadingNat digits).1
  let value : Int := if sign = some '-' then -(n : Int) else n
  match rest with
  | point :: d :: more =>
    if (point = '.' || point = ',') && d.isDigit then
      let part := (d :: more).takeWhile Char.isDigit
      let (nanos, cut) := nanosOf part
      let size : Int := n * Nat.pow 10 9 + nanos
      (.fraction sign.isSome (if sign = some '-' then -(size + if cut then 1 else 0) else size),
        (d :: more).drop part.length)
    else if sign.isSome then (.signed value digits.length, rest)
    else (.number n digits.length, rest)
  | _ => if sign.isSome then (.signed value digits.length, rest) else (.number n digits.length, rest)

def tokens : (fuel : Nat) → Octets → List Token
  | 0, _ => []
  | _ + 1, [] => []
  | fuel + 1, c :: cs =>
    if c = ' ' || ('\t' ≤ c && c ≤ '\r') then tokens fuel cs
    else if c.isDigit then
      let (t, rest) := numberToken none (c :: cs)
      t :: tokens fuel rest
    else if c = '-' || c = '+' then
      let behind := cs.dropWhile fun c => c = ' ' || ('\t' ≤ c && c ≤ '\r')
      if behind.head?.any Char.isDigit then
        let (t, rest) := numberToken (some c) behind
        t :: tokens fuel rest
      else tokens fuel behind
    else if c.isAlpha then
      let word := (c :: cs).takeWhile fun c => c.isAlpha || c = '.'
      tokenOf (String.ofList (word.map Char.toUpper)) :: tokens fuel ((c :: cs).drop word.length)
    else if c = '(' then tokens fuel (behindRemark 1 cs)
    else .sign c :: tokens fuel cs

/-! ## Items -/

/-- What a phrase has said so far. -/
structure Said where
  year : Int
  /-- How many digits the year was written with; none if it was not written. -/
  yearDigits : Nat := 0
  month : Int
  day : Int
  hour : Int
  minute : Int
  second : Int
  nanos : Int
  half : Option Bool := none
  weekday : Nat := 0
  which : Int := 0
  zone : Int := 0
  years : Int := 0
  months : Int := 0
  days : Int := 0
  /-- Steps of less than a day, in nanoseconds. -/
  steps : Int := 0
  dates : Nat := 0
  times : Nat := 0
  weekdays : Nat := 0
  namedZones : Nat := 0
  localZones : Nat := 0
  summers : Nat := 0
  relative : Bool := false

namespace Said

def withDate (s : Said) (year? : Option (Int × Nat)) (month day : Int) : Said :=
  let s := { s with month, day, dates := s.dates + 1 }
  match year? with
  | some (year, digits) => { s with year, yearDigits := digits }
  | none => s

def withTime (s : Said) (hour minute : Int) (nanos : Int) (half : Option Bool) : Said :=
  { s with hour, minute, second := nanos / Nat.pow 10 9, nanos := nanos % Nat.pow 10 9, half
           times := s.times + 1 }

def withSteps (s : Said) (span : Span) (count : Int) : Said :=
  let s := { s with relative := true }
  match span with
  | .years => { s with years := s.years + count }
  | .months => { s with months := s.months + count }
  | .days => { s with days := s.days + count }
  | .hours => { s with steps := s.steps + count * 3600 * Nat.pow 10 9 }
  | .minutes => { s with steps := s.steps + count * 60 * Nat.pow 10 9 }
  | .seconds => { s with steps := s.steps + count * Nat.pow 10 9 }

def withNanos (s : Said) (nanos : Int) : Said :=
  { s with relative := true, steps := s.steps + nanos }

def withWeekday (s : Said) (which : Int) (weekday : Nat) : Said :=
  { s with which, weekday, weekdays := s.weekdays + 1 }

def withZone (s : Said) (minutes : Int) : Said :=
  { s with zone := minutes, namedZones := s.namedZones + 1 }

/-- With a number that stands by itself: a year if a date lacks one, a date if
it is long, and an hour with or without minutes otherwise. -/
def withNumber (s : Said) (value digits : Nat) : Said :=
  if 0 < s.dates && s.yearDigits = 0 && !s.relative && (0 < s.times || 2 < digits) then
    { s with year := value, yearDigits := digits }
  else if 4 < digits then
    s.withDate (some (value / 10000, digits - 4)) (value / 100 % 100) (value % 100)
  else if digits ≤ 2 then s.withTime value 0 0 none
  else s.withTime (value / 100) (value % 100) 0 none

end Said

/-- The distance that a number with a sign means, alone or with minutes behind a
colon: hours, or hours and minutes. -/
def distance? (value : Int) (digits : Nat) (minutes? : Option Nat) : Option Int :=
  let minutes : Int := match minutes? with
    | some m => value * 60 + if value < 0 then -(m : Int) else m
    | none =>
      let value := if digits ≤ 2 then value * 100 else value
      value.tdiv 100 * 60 + value.tmod 100
  if minutes.natAbs ≤ 24 * 60 then some minutes else none

def distanceIn? : List Token → Option (Int × List Token)
  | .signed v d :: .sign ':' :: .number m _ :: rest => (distance? v d (some m)).map (·, rest)
  | .signed v d :: rest => (distance? v d none).map (·, rest)
  | _ => none

/-- A time of day with its zone at the front, and the rest. -/
def timeIn? (s : Said) : List Token → Option (Said × List Token)
  | .number h _ :: .sign ':' :: .number m _ :: rest =>
    let clock := fun (nanos : Int) (rest : List Token) => match rest with
      | .half afternoon :: rest => some (s.withTime h m nanos (some afternoon), rest)
      | .signed v d :: rest =>
        (distanceIn? (.signed v d :: rest)).map fun (zone, rest) =>
          ((s.withTime h m nanos none).withZone zone, rest)
      | rest => some (s.withTime h m nanos none, rest)
    match rest with
    | .sign ':' :: .number sec _ :: rest => clock (sec * Nat.pow 10 9) rest
    | .sign ':' :: .fraction false nanos :: rest => clock nanos rest
    | .sign ':' :: _ => none
    | rest => clock 0 rest
  | .number h _ :: .signed v d :: rest =>
    (distanceIn? (.signed v d :: rest)).map fun (zone, rest) =>
      ((s.withTime h 0 0 none).withZone zone, rest)
  | _ => none

/-- Steps at the front, back if a word behind them says so. -/
def stepped (s : Said) (span : Span) (count : Int) : List Token → Said × List Token
  | .ago :: rest => (s.withSteps span (-count), rest)
  | rest => (s.withSteps span count, rest)

/-- What follows a zone with a name: a step, a distance from it, or nothing. -/
def behindZone? (s : Said) (minutes : Int) : List Token → Option (Said × List Token)
  | .signed v _ :: .span span count :: rest =>
    some ((s.withZone minutes).withSteps span (v * count), rest)
  | .signed v d :: rest =>
    (distanceIn? (.signed v d :: rest)).map fun (more, rest) => (s.withZone (minutes + more), rest)
  | .summer :: rest => some (s.withZone (minutes + 60), rest)
  | rest => some (s.withZone minutes, rest)

def itemIn? (s : Said) : List Token → Option (Said × List Token)
  | .number a d :: .sign '/' :: .number b _ :: .sign '/' :: .number c e :: rest =>
    if 4 ≤ d then some (s.withDate (some (a, d)) b c, rest)
    else some (s.withDate (some (c, e)) a b, rest)
  | .number a _ :: .sign '/' :: .number b _ :: rest => some (s.withDate none a b, rest)
  | .number h d :: .sign ':' :: rest => timeIn? s (.number h d :: .sign ':' :: rest)
  | .number d _ :: .month m :: .signed y e :: rest => some (s.withDate (some (-y, e)) m d, rest)
  | .number d _ :: .month m :: .number y e :: rest => some (s.withDate (some (y, e)) m d, rest)
  | .number d _ :: .month m :: rest => some (s.withDate none m d, rest)
  | .number n d :: .signed v _ :: .span span count :: rest =>
    some ((s.withNumber n d).withSteps span (v * count), rest)
  | .number y d :: .signed m _ :: .signed day _ :: rest =>
    let s := s.withDate (some (y, d)) (-m) (-day)
    match rest with
    | .letter :: .number h e :: more => timeIn? s (.number h e :: more)
    | rest => some (s, rest)
  | .number h d :: .signed v e :: rest => timeIn? s (.number h d :: .signed v e :: rest)
  | .number h _ :: .half afternoon :: rest => some (s.withTime h 0 0 (some afternoon), rest)
  | .number n _ :: .span span count :: rest => some (stepped s span (n * count) rest)
  | .number n _ :: .weekday day :: rest => some (s.withWeekday n day, rest)
  | .number n d :: rest => some (s.withNumber n d, rest)
  | .fraction _ nanos :: .span .seconds _ :: .ago :: rest => some (s.withNanos (-nanos), rest)
  | .fraction _ nanos :: .span .seconds _ :: rest => some (s.withNanos nanos, rest)
  | .signed n _ :: .span span count :: rest => some (stepped s span (n * count) rest)
  | .span span count :: rest => some (stepped s span count rest)
  | .ordinal n :: .span span count :: rest => some (stepped s span (n * count) rest)
  | .ordinal n :: .weekday day :: rest => some (s.withWeekday n day, rest)
  | .shift days :: rest => some (s.withSteps .days days, rest)
  | .weekday day :: .sign ',' :: rest => some (s.withWeekday 0 day, rest)
  | .weekday day :: rest => some (s.withWeekday 0 day, rest)
  | .month m :: .number d _ :: .sign ',' :: .number y e :: rest =>
    some (s.withDate (some (y, e)) m d, rest)
  | .month m :: .number d _ :: rest => some (s.withDate none m d, rest)
  | .month m :: .signed d _ :: .signed y e :: rest =>
    some (s.withDate (some (-y, e)) m (-d), rest)
  | .zone minutes :: rest => behindZone? s minutes rest
  | .letter :: rest => behindZone? s (-420) rest
  | .localZone :: rest => some ({ s with localZones := s.localZones + 1 }, rest)
  | _ => none

def items : (fuel : Nat) → Said → List Token → Option Said
  | 0, _, _ => none
  | _ + 1, s, [] => some s
  | fuel + 1, s, ts =>
    match itemIn? s ts with
    | some (s, rest) => items fuel s rest
    | none => none

/-! ## The time -/

/-- The hour of the day, for hours of the half of a day that was named. -/
def hourOf? (hour : Int) : Option Bool → Option Int
  | none => if 0 ≤ hour && hour < 24 then some hour else none
  | some afternoon =>
    if hour < 1 || 12 < hour then none
    else some (hour % 12 + if afternoon then 12 else 0)

def monthLength (year month : Int) : Int :=
  let next := if month = 12 then Calendar.daysTo (year + 1) 1 1 else Calendar.daysTo year (month + 1) 1
  next - Calendar.daysTo year month 1

/-- The time that was said, in nanoseconds, where clocks are some seconds ahead.
There is none if something was said twice, or a date or a time does not exist. -/
def Said.time? (s : Said) (ahead : Int) : Option Int :=
  if 1 < s.dates || 1 < s.times || 1 < s.weekdays || 1 < s.namedZones + s.localZones then none
  else
    let year := if s.yearDigits = 2 then s.year + if s.year < 69 then 2000 else 1900 else s.year
    let hasClock := 0 < s.times || (s.relative && s.dates = 0 && s.weekdays = 0)
    let clock? : Option Int :=
      if hasClock then do
        let hour ← hourOf? s.hour s.half
        if s.minute < 0 || 59 < s.minute || 59 < s.second then none
        else some ((hour * 3600 + s.minute * 60 + s.second) * Nat.pow 10 9 + s.nanos)
      else some 0
    if s.month < 1 || 12 < s.month || s.day < 1 || monthLength year s.month < s.day then none
    else clock?.map fun clock =>
      let day := Calendar.daysTo year s.month s.day
      let weekday := (day + 4) % 7
      let later := if 0 < s.weekdays && s.dates = 0 then
          (s.weekday - weekday + 7) % 7 +
            7 * (s.which - if 0 < s.which && weekday != s.weekday then 1 else 0)
        else 0
      let there := Calendar.moment ((day + later) * 86400)
      let months := there.year * 12 + there.month - 1 + s.years * 12 + s.months
      let day := Calendar.daysTo (months / 12) (months % 12 + 1) 1 + (there.day - 1) + s.days
      let behind := if 0 < s.namedZones then s.zone * 60 else ahead
      (day * 86400 - behind) * Nat.pow 10 9 + clock + s.steps

/-- The time that a phrase means, in nanoseconds, at a time where clocks are some
seconds ahead. -/
def time? (now ahead : Int) (cs : Octets) : Option Int :=
  let ts := tokens (cs.length + 1) cs
  match ts with
  | .sign '@' :: rest =>
    match rest with
    | [.number n _] => some (n * Nat.pow 10 9)
    | [.signed n _] => some (n * Nat.pow 10 9)
    | [.fraction _ nanos] => some nanos
    | _ => none
  | ts =>
    let seconds := now / Nat.pow 10 9 + ahead
    let m := Calendar.moment seconds
    let start : Said := {
      year := m.year, month := m.month, day := m.day, hour := m.hour, minute := m.minute
      second := m.second, nanos := now % Nat.pow 10 9 }
    (items (ts.length + 1) start ts).bind (·.time? ahead)

end BoardRig.Toolbox.TimePhrase
