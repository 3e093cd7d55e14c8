import ChunkArena.Log.Calendar
import ChunkArena.Log.TimeFormat

/-!
The time in a log line: a reading of the clock, written in a format. `maskReadings` replaces clock
readings in a text, so that texts written at different times can be compared.
-/

namespace ChunkArena

structure Clock where
  date : Date
  hour : Nat
  minute : Nat
  second : Nat
  nanosecond : Nat

namespace Clock

/-- A reading all of whose numbers have their full width. Where readings are masked, it stands for
any other such reading. -/
def sample : Clock := ⟨⟨2026, 11, 19⟩, 12, 34, 56, 789123456⟩

def monthNames : List String :=
  ["January", "February", "March", "April", "May", "June", "July", "August", "September",
    "October", "November", "December"]

def weekdayNames : List String :=
  ["Monday", "Tuesday", "Wednesday", "Thursday", "Friday", "Saturday", "Sunday"]

def monthName (clock : Clock) : List Char :=
  (monthNames[clock.date.month - 1]?.getD "").toList

def weekdayName (clock : Clock) : List Char :=
  (weekdayNames[clock.date.sinceMonday]?.getD "").toList

def epoch : Nat := Date.daysBefore 1970

def number (clock : Clock) : TimeNumber → Nat
  | .year => clock.date.year
  | .century => clock.date.year / 100
  | .yearOfCentury => clock.date.year % 100
  | .weekYear => clock.date.week.1
  | .weekYearOfCentury => clock.date.week.1 % 100
  | .quarter => (clock.date.month + 2) / 3
  | .month => clock.date.month
  | .day => clock.date.day
  | .dayOfYear => clock.date.dayOfYear
  | .week => clock.date.week.2
  | .weekFromSunday => clock.date.startedWeeks clock.date.sinceSunday
  | .weekFromMonday => clock.date.startedWeeks clock.date.sinceMonday
  | .weekday => clock.date.sinceMonday + 1
  | .sinceSunday => clock.date.sinceSunday
  | .hour => clock.hour
  | .hourOfHalf => (clock.hour + 11) % 12 + 1
  | .minute => clock.minute
  | .second => clock.second
  | .nanosecond => clock.nanosecond
  | .timestamp =>
      (((clock.date.dayNumber - epoch) * 24 + clock.hour) * 60 + clock.minute) * 60 + clock.second

def width : TimeNumber → Nat
  | .year | .weekYear => 4
  | .dayOfYear => 3
  | .quarter | .weekday | .sinceSunday => 1
  | .nanosecond | .timestamp => 9
  | _ => 2

def numeral (filling : Filling) (width n : Nat) : List Char :=
  let digits := Nat.toDigits 10 n
  match filling with
  | .zeros => digits.leftpad width '0'
  | .blanks => digits.leftpad width ' '
  | .nothing => digits

def fraction (clock : Clock) (length : Nat) : List Char :=
  numeral .zeros length (clock.nanosecond / Nat.pow 10 (9 - length))

def write (clock : Clock) : TimeField → List Char
  | .text c => [c]
  | .number which filling => numeral filling (width which) (clock.number which)
  | .fraction length => clock.fraction length
  | .pointAndFraction =>
      if clock.nanosecond = 0 then []
      else if clock.nanosecond % 1000000 = 0 then '.' :: clock.fraction 3
      else if clock.nanosecond % 1000 = 0 then '.' :: clock.fraction 6
      else '.' :: clock.fraction 9
  | .weekdayName => clock.weekdayName
  | .weekdayAbbreviation => clock.weekdayName.take 3
  | .monthName => clock.monthName
  | .monthAbbreviation => clock.monthName.take 3
  | .half capital =>
      match decide (clock.hour < 12), capital with
      | true, true => ['A', 'M']
      | true, false => ['a', 'm']
      | false, true => ['P', 'M']
      | false, false => ['p', 'm']

def format? (clock : Clock) (format : String) : Option String :=
  (TimeFormat.fields? format.toList).map fun fields => String.ofList (fields.flatMap clock.write)

theorem format?_of_no_percent (clock : Clock) {format : String} (plain : '%' ∉ format.toList) :
    clock.format? format = some format := by
  have letters : ∀ text : List Char,
      text.flatMap (fun c => clock.write (TimeField.text c)) = text := by
    intro text
    induction text with
    | nil => rfl
    | cons c rest ih => simp [write]
  simp [format?, TimeFormat.fields?_of_no_percent plain, List.flatMap_map, letters]

end Clock

def startsWithReading : List Char → Bool
  | a :: b :: ':' :: c :: d :: ':' :: e :: f :: '.' :: g :: h :: i :: _ =>
      [a, b, c, d, e, f, g, h, i].all Char.isDigit
  | _ => false

/-- Writes `<time>` for every clock reading, from left to right; `skip` is the number of characters
that belong to a reading already written. -/
def maskFrom : Nat → List Char → List Char
  | _, [] => []
  | skip + 1, _ :: rest => maskFrom skip rest
  | 0, c :: rest =>
      if startsWithReading (c :: rest) then "<time>".toList ++ maskFrom 11 rest
      else c :: maskFrom 0 rest

def maskReadings (text : String) : String := String.ofList (maskFrom 0 text.toList)

end ChunkArena
