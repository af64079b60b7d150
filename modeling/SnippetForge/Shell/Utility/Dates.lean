import SnippetForge.Text.Digits

/-!
# Dates

Points in time as people write them. A point in time is a number of nanoseconds since the start of
1970; its day is counted from there and turned into a year, a month and a day of the month by the rule
of the Gregorian calendar, in which a cycle of four hundred years has the same days over and over.
-/

namespace SnippetForge.Shell.Utility

/-! ### Days -/

/-- The nanoseconds of a second. -/
def secondNanos : Nat := 1000000000

/-- The seconds of a day. -/
def daySeconds : Nat := 86400

/-- A day of the calendar. -/
structure CalendarDay where
  year : Nat
  month : Nat
  day : Nat
  deriving DecidableEq, Repr

/-- The day of a number, counted from the start of 1970. A year counts from March on here, so that
the day that comes only in some years is the last one. -/
def CalendarDay.ofNumber (n : Nat) : CalendarDay :=
  let n := n + 719468
  let cycle := n / 146097
  let inCycle := n % 146097
  let year := (inCycle - inCycle / 1460 + inCycle / 36524 - inCycle / 146096) / 365
  let inYear := inCycle - (365 * year + year / 4 - year / 100)
  let shifted := (5 * inYear + 2) / 153
  let month := if shifted < 10 then shifted + 3 else shifted - 9
  ⟨year + cycle * 400 + (if month ≤ 2 then 1 else 0), month, inYear - (153 * shifted + 2) / 5 + 1⟩

/-- The number of a day, counted from the start of 1970, before which there is none. -/
def CalendarDay.number (d : CalendarDay) : Nat :=
  let year := if d.month ≤ 2 then d.year - 1 else d.year
  let shifted := if 2 < d.month then d.month - 3 else d.month + 9
  let inYear := (153 * shifted + 2) / 5 + d.day - 1
  year / 400 * 146097 + (year % 400 * 365 + year % 400 / 4 - year % 400 / 100 + inYear) - 719468

/-- How many days a month has. -/
def monthLength (year month : Nat) : Nat :=
  let isLeap := year % 4 = 0 && (year % 100 != 0 || year % 400 = 0)
  match month with
  | 2 => if isLeap then 29 else 28
  | 4 => 30
  | 6 => 30
  | 9 => 30
  | 11 => 30
  | _ => 31

example : CalendarDay.ofNumber 0 = ⟨1970, 1, 1⟩ := by decide
example : CalendarDay.ofNumber 11016 = ⟨2000, 2, 29⟩ := by decide
example : (CalendarDay.mk 2000 2 29).number = 11016 := by decide

/-! ### Names -/

/-- The names of the months. -/
def monthNames : List String :=
  ["January", "February", "March", "April", "May", "June", "July", "August", "September", "October",
    "November", "December"]

/-- The names of the days of a week. -/
def weekdayNames : List String :=
  ["Sunday", "Monday", "Tuesday", "Wednesday", "Thursday", "Friday", "Saturday"]

/-- The first three letters of a name. -/
def shortName (name : String) : String :=
  String.ofList (name.toList.take 3)

/-! ### Writing -/

/-- A number in a field of some width, filled up at the left. -/
def inField (width : Nat) (fill : Char) (n : Nat) : String :=
  let digits := (toString n).toList
  String.ofList (List.replicate (width - digits.length) fill ++ digits)

/-- What a letter of a format for points in time stands for. -/
def dateItem (time : Nat) (letter : Char) : String :=
  let seconds := time / secondNanos
  let number := seconds / daySeconds
  let day := CalendarDay.ofNumber number
  let inDay := seconds % daySeconds
  let weekday := (number + 4) % 7
  let inYear := number - (CalendarDay.mk day.year 1 1).number
  let two := inField 2 '0'
  let hour := inDay / 3600
  let half := if hour % 12 = 0 then 12 else hour % 12
  let clock := two hour ++ ":" ++ two (inDay / 60 % 60)
  let month := (monthNames[day.month - 1]?).getD ""
  let name := (weekdayNames[weekday]?).getD ""
  let date := inField 4 '0' day.year ++ "-" ++ two day.month ++ "-" ++ two day.day
  let usual := two day.month ++ "/" ++ two day.day ++ "/" ++ two (day.year % 100)
  match letter with
  | 'Y' => toString day.year
  | 'C' => two (day.year / 100)
  | 'y' => two (day.year % 100)
  | 'm' => two day.month
  | 'd' => two day.day
  | 'e' => inField 2 ' ' day.day
  | 'H' => two hour
  | 'k' => inField 2 ' ' hour
  | 'I' => two half
  | 'l' => inField 2 ' ' half
  | 'M' => two (inDay / 60 % 60)
  | 'S' => two (inDay % 60)
  | 'N' => inField 9 '0' (time % secondNanos)
  | 's' => toString seconds
  | 'j' => inField 3 '0' (inYear + 1)
  | 'a' => shortName name
  | 'A' => name
  | 'b' => shortName month
  | 'h' => shortName month
  | 'B' => month
  | 'u' => toString (if weekday = 0 then 7 else weekday)
  | 'w' => toString weekday
  | 'U' => two ((inYear + 7 - weekday) / 7)
  | 'W' => two ((inYear + 7 - (weekday + 6) % 7) / 7)
  | 'p' => if hour < 12 then "AM" else "PM"
  | 'P' => if hour < 12 then "am" else "pm"
  | 'F' => date
  | 'T' => clock ++ ":" ++ two (inDay % 60)
  | 'X' => clock ++ ":" ++ two (inDay % 60)
  | 'R' => clock
  | 'D' => usual
  | 'x' => usual
  | 'c' =>
    shortName name ++ " " ++ shortName month ++ " " ++ inField 2 ' ' day.day ++ " " ++ clock ++ ":"
      ++ two (inDay % 60) ++ " " ++ toString day.year
  | 'r' =>
    two half ++ ":" ++ two (inDay / 60 % 60) ++ ":" ++ two (inDay % 60)
      ++ (if hour < 12 then " AM" else " PM")
  | 'z' => "+0000"
  | 'Z' => "UTC"
  | 'n' => "\n"
  | 't' => "\t"
  | '%' => "%"
  | c => String.ofList ['%', c]

/-- A point in time by a format. A mark after the percent sign changes how numbers are filled up. -/
def dateText (time : Nat) : List Char → String
  | '%' :: '-' :: c :: rest =>
    let cs := (dateItem time c).toList
    let short := cs.dropWhile fun c => c == '0' || c == ' '
    String.ofList (if short.isEmpty then cs.drop (cs.length - 1) else short) ++ dateText time rest
  | '%' :: '_' :: c :: rest =>
    let cs := (dateItem time c).toList
    let zeros := (cs.dropLast.takeWhile (· == '0')).length
    String.ofList (List.replicate zeros ' ' ++ cs.drop zeros) ++ dateText time rest
  | '%' :: '^' :: c :: rest => (dateItem time c).toUpper ++ dateText time rest
  | '%' :: ':' :: 'z' :: rest => "+00:00" ++ dateText time rest
  | '%' :: '3' :: 'N' :: rest =>
    inField 3 '0' (time % secondNanos / 1000000) ++ dateText time rest
  | '%' :: c :: rest => dateItem time c ++ dateText time rest
  | c :: rest => String.singleton c ++ dateText time rest
  | [] => ""

/-! ### Reading -/

/-- What the words for a point in time say so far. -/
structure DateDraft where
  day : Option CalendarDay
  /-- The nanoseconds since the start of the day. -/
  inDay : Option Nat
  /-- How much later it is. -/
  shift : Int
  /-- How many months later it is. -/
  months : Int
  /-- The whole point in time. -/
  time : Option Nat

/-- The nanoseconds of a fraction of a second. -/
def fractionNanos (digits : List Char) : Nat :=
  Text.digitsValue ((digits ++ List.replicate 9 '0').take 9)

/-- The time of a day that a word means. -/
def clockTime? (word : String) : Option Nat :=
  let (main, fraction) := match (word.toList.splitOn '.') with
    | [main] => (main, [])
    | [main, fraction] => (main, fraction)
    | _ => ([], [])
  let parts := main.splitOn ':'
  let numbers := parts.filterMap fun cs => Text.natural? (String.ofList cs)
  if numbers.length != parts.length || !fraction.all Char.isDigit then none
  else
    match numbers with
    | [h, m] => if h < 24 && m < 60 then some ((h * 3600 + m * 60) * secondNanos) else none
    | [h, m, s] =>
      if h < 24 && m < 60 && s < 61 then
        some ((h * 3600 + m * 60 + s) * secondNanos + fractionNanos fraction)
      else none
    | _ => none

/-- A day, if there is such a day. -/
def checkedDay? (year month day : Nat) : Option CalendarDay :=
  if 1 ≤ month && month ≤ 12 && 1 ≤ day && day ≤ monthLength year month then some ⟨year, month, day⟩
  else none

/-- The day that a word means. -/
def calendarDay? (now : CalendarDay) (word : String) : Option CalendarDay :=
  let numbers (separator : Char) : List (Option Nat) :=
    (word.toList.splitOn separator).map fun cs => Text.natural? (String.ofList cs)
  match numbers '-', numbers '/' with
  | [some y, some m, some d], _ => checkedDay? (if y < 69 then y + 2000 else if y < 100 then y + 1900
    else y) m d
  | _, [some m, some d, some y] => checkedDay? y m d
  | _, [some m, some d] => checkedDay? now.year m d
  | _, _ =>
    let cs := word.toList
    if cs.length = 8 && cs.all Char.isDigit then
      checkedDay? (Text.digitsValue (cs.take 4)) (Text.digitsValue ((cs.drop 4).take 2))
        (Text.digitsValue (cs.drop 6))
    else none

/-- The seconds of a unit of time, or its months. -/
def dateUnit? (word : String) : Option (Nat × Nat) :=
  let word := word.toLower
  let word := if word.endsWith "s" then String.ofList word.toList.dropLast else word
  match word with
  | "sec" => some (1, 0)
  | "second" => some (1, 0)
  | "min" => some (60, 0)
  | "minute" => some (60, 0)
  | "hour" => some (3600, 0)
  | "day" => some (86400, 0)
  | "week" => some (604800, 0)
  | "fortnight" => some (1209600, 0)
  | "month" => some (0, 1)
  | "year" => some (0, 12)
  | _ => none

/-- The number of the month that a word means. -/
def monthOf? (word : String) : Option Nat :=
  let word := word.toLower
  ((List.range 12).find? fun n =>
    let name := ((monthNames[n]?).getD "").toLower
    word == name || word == shortName name).map (· + 1)

/-- A draft that is some units later. -/
def DateDraft.later (d : DateDraft) (n : Int) (unit : Nat × Nat) : DateDraft :=
  { d with
    shift := d.shift + n * unit.1 * secondNanos, months := d.months + n * unit.2 }

/-- Reads the words for a point in time. `fuel` bounds how many there are. -/
def readDate (now : CalendarDay) : (fuel : Nat) → List String → DateDraft → Option DateDraft
  | 0, _, d => some d
  | _, [], d => some d
  | fuel + 1, word :: rest, d =>
    let lower := word.toLower
    let go (rest : List String) (d : DateDraft) : Option DateDraft := readDate now fuel rest d
    match word.toList with
    | '@' :: cs =>
      let whole := cs.takeWhile (· != '.')
      match Text.natural? (String.ofList whole) with
      | some n =>
        go rest { d with
          time := some (n * secondNanos + fractionNanos (cs.drop (whole.length + 1))) }
      | none => none
    | _ =>
      if lower = "now" then go rest d
      else if lower = "today" then go rest d
      else if lower = "yesterday" then go rest (d.later (-1) (86400, 0))
      else if lower = "tomorrow" then go rest (d.later 1 (86400, 0))
      else if lower = "ago" then go rest { d with shift := -d.shift, months := -d.months }
      else if ["utc", "z", "gmt", "+0000", "+00:00"].contains lower then go rest d
      else
        match Text.integer? word, (rest.head?).bind dateUnit?, dateUnit? word with
        | some n, some unit, _ => go (rest.drop 1) (d.later n unit)
        | none, _, some unit => go rest (d.later 1 unit)
        | _, _, _ =>
          if lower = "next" || lower = "last" then
            match (rest.head?).bind dateUnit? with
            | some unit => go (rest.drop 1) (d.later (if lower = "next" then 1 else -1) unit)
            | none => none
          else
            match clockTime? word, calendarDay? now word with
            | some time, _ => go rest { d with inDay := some time }
            | none, some day =>
              go rest { d with day := some day, inDay := d.inDay.orElse fun _ => some 0 }
            | none, none =>
              match word.splitOn "T" with
              | [day, time] =>
                match calendarDay? now day, clockTime? (time.dropEndWhile (· == 'Z')).toString with
                | some day, some time => go rest { d with day := some day, inDay := some time }
                | _, _ => none
              | _ =>
                match monthOf? word, rest, Text.natural? word with
                | some month, day :: year :: rest, _ =>
                  match Text.natural? day, Text.natural? year with
                  | some day, some year =>
                    go rest { d with day := checkedDay? year month day, inDay := some 0 }
                  | _, _ => none
                | none, month :: year :: rest, some day =>
                  match monthOf? month, Text.natural? year with
                  | some month, some year =>
                    go rest { d with day := checkedDay? year month day, inDay := some 0 }
                  | _, _ => none
                | _, _, _ => none

/-- A day some months later. Days that the month does not have are those after its end. -/
def CalendarDay.monthsLater (d : CalendarDay) (months : Int) : Nat :=
  let total := (d.year * 12 + (d.month - 1) : Int) + months
  (CalendarDay.mk (total.toNat / 12) (total.toNat % 12 + 1) 1).number + (d.day - 1)

/-- The point in time that a text means, seen from another one. -/
def pointInTime? (now : Nat) (text : String) : Option Nat :=
  let words := ((text.toList.map fun c => if c = '\t' then ' ' else c).splitOn ' ').filter
    (!·.isEmpty)
  let words := words.map String.ofList
  let today := CalendarDay.ofNumber (now / secondNanos / daySeconds)
  (readDate today (words.length + 1) words ⟨none, none, 0, 0, none⟩).map fun d =>
    let day := (d.day.getD today).monthsLater d.months
    let inDay := d.inDay.getD (if words.isEmpty then 0 else now % (daySeconds * secondNanos))
    let time := d.time.getD (day * daySeconds * secondNanos + inDay)
    ((time : Int) + d.shift).toNat

/-- The point in time that digits mean: a year, of which the century may be missing, or all of it, a
month, a day, hours and minutes, and seconds after a point. -/
def stampTime? (now : Nat) (text : String) : Option Nat :=
  let (main, seconds) := match text.toList.splitOn '.' with
    | [main] => (main, ['0', '0'])
    | [main, seconds] => (main, seconds)
    | _ => ([], [])
  let year := (CalendarDay.ofNumber (now / secondNanos / daySeconds)).year
  let pair (n : Nat) : Nat := Text.digitsValue ((main.reverse.drop (2 * n)).take 2).reverse
  let year? :=
    match main.length with
    | 8 => some year
    | 10 => some (if pair 4 < 69 then pair 4 + 2000 else pair 4 + 1900)
    | 12 => some (pair 5 * 100 + pair 4)
    | _ => none
  if !main.all Char.isDigit || seconds.length != 2 || !seconds.all Char.isDigit then none
  else
    (year?.bind fun year => checkedDay? year (pair 3) (pair 2)).bind fun day =>
      let s := Text.digitsValue seconds
      if pair 1 < 24 && pair 0 < 60 && s < 61 then
        some ((day.number * daySeconds + pair 1 * 3600 + pair 0 * 60 + s) * secondNanos)
      else none

end SnippetForge.Shell.Utility
