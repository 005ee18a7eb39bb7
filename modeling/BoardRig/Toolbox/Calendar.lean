/-
Dates and times of day.

A time is a number of seconds since the start of 1970. A day is found from its
number by counting years that begin in March, so that the day that is inserted
in some of them comes last.
-/
import BoardRig.Shell.Octets

namespace BoardRig.Toolbox.Calendar

/-- A date with the time of day. -/
structure Moment where
  year : Int
  month : Nat
  day : Nat
  hour : Nat
  minute : Nat
  second : Nat
  /-- The day of the week; Sunday is zero. -/
  weekday : Nat
  /-- How many days of the year are over. -/
  yearDay : Nat

/-- How many days lie between the start of 1970 and a day. -/
def daysTo (year month day : Int) : Int :=
  let y := if month ≤ 2 then year - 1 else year
  let m := (month + 9) % 12
  365 * y + y / 4 - y / 100 + y / 400 + (m * 153 + 2) / 5 + day - 1 - 719468

/-- How far the clocks of a place are ahead, in seconds, and what the place calls
that. -/
structure Zone where
  name : Octets := "UTC".toList
  ahead : Int := 0

/-- A name of a zone in front of a text, and the rest. -/
def zoneName? (cs : Octets) : Option (Octets × Octets) :=
  match cs with
  | '<' :: rest =>
    let name := rest.takeWhile (· != '>')
    if name.length < rest.length then some (name, rest.drop (name.length + 1)) else none
  | cs =>
    let name := cs.takeWhile Char.isAlpha
    if 3 ≤ name.length then some (name, cs.drop name.length) else none

/-- The zone that a text describes: a name, and how far clocks are behind in
hours, minutes and seconds. -/
def Zone.read (cs : Octets) : Zone :=
  match zoneName? cs with
  | none => {}
  | some (name, rest) =>
    let (sign, digits) : Int × Octets := match rest with
      | '-' :: rest => (1, rest)
      | '+' :: rest => (-1, rest)
      | rest => (-1, rest)
    let clock := digits.takeWhile fun c => c.isDigit || c = ':'
    match (Text.split ':' clock).mapM Octets.nat? with
    | some (h :: more) =>
      { name, ahead := sign * (h * 3600 + more.head?.getD 0 * 60 + (more[1]?).getD 0 : Nat) }
    | _ => { name }

/-- How far a zone is ahead: hours and minutes, with so many colons. -/
def Zone.shown (z : Zone) (colons : Nat) : Octets :=
  let n := z.ahead.natAbs
  let two (n : Nat) : Octets := Octets.padLeft 2 '0' (Octets.ofNat n)
  let sign : Char := if z.ahead < 0 then '-' else '+'
  let hours := two (n / 3600)
  let minutes := two (n / 60 % 60)
  let seconds := two (n % 60)
  sign :: match colons with
    | 0 => hours ++ minutes
    | 1 => hours ++ ':' :: minutes
    | 2 => hours ++ ':' :: minutes ++ ':' :: seconds
    | _ =>
      if n % 60 != 0 then hours ++ ':' :: minutes ++ ':' :: seconds
      else if n % 3600 != 0 then hours ++ ':' :: minutes
      else hours

/-- The time that digits denote: month, day, hour and minute, with a year in
front, or in the present one, and seconds behind a point if they are given. -/
def stamp? (present : Int) (cs : Octets) : Option Int := do
  let (digits, seconds) := match Text.cutAt? '.' cs with
    | some (digits, s) => (digits, (Octets.nat? s).getD 0)
    | none => (cs, 0)
  if !digits.all Char.isDigit then none
  let digits ← match digits.length with
    | 8 => some (Octets.ofInt present ++ digits)
    | 10 => some ((if digits.take 2 < "69".toList then "20" else "19").toList ++ digits)
    | 12 => some digits
    | _ => none
  let number (start size : Nat) : Int := ((Octets.leadingNat ((digits.drop start).take size)).1 : Nat)
  if 12 < number 4 2 || 31 < number 6 2 || 23 < number 8 2 || 59 < number 10 2 then none
  else some (daysTo (number 0 4) (number 4 2) (number 6 2) * 86400 + number 8 2 * 3600 +
    number 10 2 * 60 + seconds)

def moment (seconds : Int) : Moment :=
  let days := seconds / 86400
  let rest := (seconds % 86400).toNat
  let z := days + 719468
  let era := z / 146097
  let doe := z % 146097
  let yoe := (doe - doe / 1460 + doe / 36524 - doe / 146096) / 365
  let doy := doe - (365 * yoe + yoe / 4 - yoe / 100)
  let mp := (5 * doy + 2) / 153
  let day := doy - (153 * mp + 2) / 5 + 1
  let month := if mp < 10 then mp + 3 else mp - 9
  let year := yoe + era * 400 + if month ≤ 2 then 1 else 0
  { year, month := month.toNat, day := day.toNat
    hour := rest / 3600, minute := rest / 60 % 60, second := rest % 60
    weekday := ((days + 4) % 7).toNat
    yearDay := (days - daysTo year 1 1).toNat }

def dayNames : List String :=
  ["Sunday", "Monday", "Tuesday", "Wednesday", "Thursday", "Friday", "Saturday"]

def monthNames : List String := [
  "January", "February", "March", "April", "May", "June", "July", "August", "September",
  "October", "November", "December"]

def Moment.dayName (m : Moment) : Octets := ((dayNames[m.weekday]?).getD "").toList

def Moment.monthName (m : Moment) : Octets := ((monthNames[m.month - 1]?).getD "").toList

def padded (width : Nat) (n : Nat) : Octets := Octets.padLeft width '0' (Octets.ofNat n)

def Moment.week (m : Moment) (first : Nat) : Nat :=
  (m.yearDay + 7 - (m.weekday + 7 - first) % 7) / 7

/-- The year and the week of it by the rule that a week belongs to the year in
which its Thursday is. -/
def Moment.isoWeek (m : Moment) : Int × Nat :=
  let monday : Int := (m.weekday + 6) % 7
  let thursday := (m.yearDay : Int) - monday + 3
  let start := daysTo m.year 1 1
  let t := moment ((start + thursday) * 86400)
  (t.year, t.yearDay / 7 + 1)

/-- A year with four digits at least, and a sign in front of longer ones. -/
def longYear (year : Int) : Octets :=
  let digits := padded 4 year.natAbs
  if year < 0 then '-' :: digits else if 9999 < year then '+' :: digits else digits

/-- A way to fill up a field. -/
inductive Filling where
  | zeros
  | blanks
  | none

/-- What a letter in a format stands for: a text, or a number with the way to
fill it up and its usual width. -/
inductive Field where
  | text (cs : Octets)
  | number (n : Int) (filling : Filling) (width : Nat)

/-- What a letter in a format stands for, given the time in seconds and the
moment that it is in a zone. -/
def field (z : Zone) (seconds : Int) (m : Moment) (letter : Char) : Option Field :=
  let hour12 := if m.hour % 12 = 0 then 12 else m.hour % 12
  let clock := padded 2 m.hour ++ ':' :: padded 2 m.minute ++ ':' :: padded 2 m.second
  let number (n : Nat) : Option Field := some (.number n .zeros 2)
  match letter with
  | 'Y' => some (.number m.year .zeros 4)
  | 'C' => number (m.year / 100).toNat
  | 'y' => number (m.year % 100).toNat
  | 'm' => number m.month
  | 'd' => number m.day
  | 'e' => some (.number m.day .blanks 2)
  | 'H' => number m.hour
  | 'I' => number hour12
  | 'k' => some (.number m.hour .blanks 2)
  | 'l' => some (.number hour12 .blanks 2)
  | 'M' => number m.minute
  | 'S' => number m.second
  | 's' => some (.number seconds .zeros 1)
  | 'j' => some (.number (m.yearDay + 1 : Nat) .zeros 3)
  | 'a' => some (.text (m.dayName.take 3))
  | 'A' => some (.text m.dayName)
  | 'b' | 'h' => some (.text (m.monthName.take 3))
  | 'B' => some (.text m.monthName)
  | 'p' => some (.text (if m.hour < 12 then "AM" else "PM").toList)
  | 'P' => some (.text (if m.hour < 12 then "am" else "pm").toList)
  | 'u' => some (.number (if m.weekday = 0 then 7 else m.weekday : Nat) .zeros 1)
  | 'w' => some (.number m.weekday .zeros 1)
  | 'q' => some (.number ((m.month + 2) / 3 : Nat) .zeros 1)
  | 'U' => number (m.week 0)
  | 'W' => number (m.week 1)
  | 'V' => number m.isoWeek.2
  | 'G' => some (.number m.isoWeek.1 .zeros 4)
  | 'g' => number (m.isoWeek.1 % 100).toNat
  | 'F' => some (.text (longYear m.year ++ '-' :: padded 2 m.month ++ '-' :: padded 2 m.day))
  | 'D' | 'x' =>
    some (.text (padded 2 m.month ++ '/' :: padded 2 m.day ++ '/' ::
      padded 2 (m.year % 100).toNat))
  | 'T' | 'X' => some (.text clock)
  | 'R' => some (.text (padded 2 m.hour ++ ':' :: padded 2 m.minute))
  | 'r' => some (.text (padded 2 hour12 ++ ':' :: padded 2 m.minute ++ ':' :: padded 2 m.second ++
      (if m.hour < 12 then " AM" else " PM").toList))
  | 'c' => some (.text (m.dayName.take 3 ++ ' ' :: m.monthName.take 3 ++ ' ' ::
      Octets.padLeft 2 ' ' (Octets.ofNat m.day) ++ ' ' :: clock ++ ' ' :: Octets.ofInt m.year))
  | 'z' => some (.text (z.shown 0))
  | 'Z' => some (.text z.name)
  | 'n' => some (.text ['\n'])
  | 't' => some (.text ['\t'])
  | '%' => some (.text ['%'])
  | _ => none

/-- A field filled up as flags and a width say. -/
def Field.shown (flags : Octets) (width? : Option Nat) : Field → Octets
  | text cs =>
    let cs := if flags.contains '^' then cs.map Char.toUpper
      else if flags.contains '#' then
        (if cs.all Char.isUpper then cs.map Char.toLower else cs.map Char.toUpper)
      else cs
    Octets.padLeft (width?.getD 0) (if flags.contains '0' then '0' else ' ') cs
  | number n filling usual =>
    let chosen := flags.reverse.find? fun c => c = '-' || c = '_' || c = '0'
    let filling := match chosen with
      | some '-' => Filling.none
      | some '_' => .blanks
      | some _ => .zeros
      | none => filling
    let digits := Octets.ofNat n.natAbs
    let sign : Octets := if n < 0 then ['-'] else []
    let width := (width?.getD usual) - sign.length
    match filling with
    | .none => sign ++ digits
    | .zeros => sign ++ Octets.padLeft width '0' digits
    | .blanks => Octets.padLeft (width?.getD usual) ' ' (sign ++ digits)

/-- The letters that a modifier may stand in front of. -/
def isModified (modifier letter : Char) : Bool :=
  if modifier = 'E' then ['c', 'C', 'x', 'X', 'y', 'Y'].contains letter
  else "deHImMSuUVwWy".toList.contains letter

/-- A time as a format says. Signs behind the percent sign change how a field
is filled up. -/
def formatted (z : Zone) (seconds : Int) (nanos : Nat) (m : Moment) : (fuel : Nat) → Octets → Octets
  | 0, _ => []
  | _ + 1, [] => []
  | fuel + 1, '%' :: rest =>
    let flags := rest.takeWhile fun c => ['-', '_', '0', '^', '#'].contains c
    let behind := rest.drop flags.length
    let digits := behind.takeWhile Char.isDigit
    let width? := if digits.isEmpty then none else some (Octets.leadingNat digits).1
    let more := behind.drop digits.length
    let colons := (more.takeWhile (· = ':')).length
    let verbatim (length : Nat) : Octets := '%' :: rest.take length
    let start := flags.length + digits.length
    match more with
    | [] => '%' :: rest
    | 'N' :: more =>
      (Octets.padLeft 9 '0' (Octets.ofNat nanos)).take (width?.getD 9) ++
        List.replicate (width?.getD 9 - 9) '0' ++ formatted z seconds nanos m fuel more
    | letter :: more =>
      match colons, more.drop (colons - 1), more with
      | n + 1, 'z' :: more, _ =>
        if n < 3 then z.shown (n + 1) ++ formatted z seconds nanos m fuel more
        else verbatim (start + n + 2) ++ formatted z seconds nanos m fuel more
      | 0, _, inner :: behind =>
        if (letter = 'E' || letter = 'O') then
          match if isModified letter inner then field z seconds m inner else none with
          | some f => f.shown flags width? ++ formatted z seconds nanos m fuel behind
          | none => verbatim (start + 1) ++ formatted z seconds nanos m fuel more
        else
          match field z seconds m letter with
          | some f => f.shown flags width? ++ formatted z seconds nanos m fuel more
          | none => verbatim (start + 1) ++ formatted z seconds nanos m fuel more
      | _, _, _ =>
        match field z seconds m letter with
        | some f => f.shown flags width? ++ formatted z seconds nanos m fuel more
        | none => verbatim (start + 1) ++ formatted z seconds nanos m fuel more
  | fuel + 1, c :: rest => c :: formatted z seconds nanos m fuel rest

def formatIn (z : Zone) (seconds : Int) (nanos : Nat) (cs : Octets) : Octets :=
  formatted z seconds nanos (moment (seconds + z.ahead)) (cs.length + 1) cs

def format : (seconds : Int) → (nanos : Nat) → Octets → Octets := formatIn {}

end BoardRig.Toolbox.Calendar
