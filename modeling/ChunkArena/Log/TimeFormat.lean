/-!
Formats for the time in a log line. A format is literal text with directives. A directive is a
percent sign and the letters of one field or of a fixed sequence of fields; a number may have a mark
before its letter that says how it is filled up to its width. Any other use of the percent sign
makes the format invalid.

`fields?` reads a format, and `fields?_of_no_percent` says that a text without percent signs stands
for itself. Times are those of the zone at the zero meridian, so what a format says about the zone
is literal text.
-/

namespace ChunkArena

inductive Filling
  | zeros
  | blanks
  | nothing
  deriving DecidableEq

inductive TimeNumber
  | year
  | century
  | yearOfCentury
  | weekYear
  | weekYearOfCentury
  | quarter
  | month
  | day
  | dayOfYear
  | week
  | weekFromSunday
  | weekFromMonday
  /-- Monday is 1, Sunday is 7. -/
  | weekday
  | sinceSunday
  | hour
  | hourOfHalf
  | minute
  | second
  | nanosecond
  | timestamp
  deriving DecidableEq

inductive TimeField
  | text (c : Char)
  | number (which : TimeNumber) (filling : Filling)
  | fraction (length : Nat)
  /-- A point and as many groups of three digits as the fraction needs; nothing at all for a whole
  second. -/
  | pointAndFraction
  | weekdayName
  | weekdayAbbreviation
  | monthName
  | monthAbbreviation
  | half (capital : Bool)
  deriving DecidableEq

structure Directive where
  letters : List Char
  fields : List TimeField

namespace TimeFormat

def numbers : List (Char × TimeNumber × Filling) :=
  [('Y', .year, .zeros), ('C', .century, .zeros), ('y', .yearOfCentury, .zeros),
    ('G', .weekYear, .zeros), ('g', .weekYearOfCentury, .zeros), ('q', .quarter, .nothing),
    ('m', .month, .zeros), ('d', .day, .zeros), ('e', .day, .blanks), ('j', .dayOfYear, .zeros),
    ('V', .week, .zeros), ('U', .weekFromSunday, .zeros), ('W', .weekFromMonday, .zeros),
    ('u', .weekday, .nothing), ('w', .sinceSunday, .nothing), ('H', .hour, .zeros),
    ('k', .hour, .blanks), ('I', .hourOfHalf, .zeros), ('l', .hourOfHalf, .blanks),
    ('M', .minute, .zeros), ('S', .second, .zeros), ('f', .nanosecond, .zeros),
    ('s', .timestamp, .nothing)]

def numberDirectives (entry : Char × TimeNumber × Filling) : List Directive :=
  let (letter, number, filling) := entry
  [⟨[letter], [.number number filling]⟩, ⟨['0', letter], [.number number .zeros]⟩,
    ⟨['_', letter], [.number number .blanks]⟩, ⟨['-', letter], [.number number .nothing]⟩]

def joined (between : Char) (numbers : List TimeNumber) : List TimeField :=
  (numbers.map fun number => TimeField.number number .zeros).intersperse (.text between)

def timeOfDay : List TimeField := joined ':' [.hour, .minute, .second]

def shortDate : List TimeField := joined '/' [.month, .day, .yearOfCentury]

def longDate : List TimeField := joined '-' [.year, .month, .day]

def zone : List TimeField := ['+', '0', '0', ':', '0', '0'].map .text

def otherDirectives : List Directive :=
  [⟨['%'], [.text '%']⟩, ⟨['n'], [.text '\n']⟩, ⟨['t'], [.text '\t']⟩,
    ⟨['A'], [.weekdayName]⟩, ⟨['a'], [.weekdayAbbreviation]⟩,
    ⟨['B'], [.monthName]⟩, ⟨['b'], [.monthAbbreviation]⟩, ⟨['h'], [.monthAbbreviation]⟩,
    ⟨['p'], [.half true]⟩, ⟨['P'], [.half false]⟩,
    ⟨['T'], timeOfDay⟩, ⟨['X'], timeOfDay⟩, ⟨['R'], joined ':' [.hour, .minute]⟩,
    ⟨['r'], joined ':' [.hourOfHalf, .minute, .second] ++ [.text ' ', .half true]⟩,
    ⟨['D'], shortDate⟩, ⟨['x'], shortDate⟩, ⟨['F'], longDate⟩,
    ⟨['v'], [.number .day .blanks, .text '-', .monthAbbreviation, .text '-',
      .number .year .zeros]⟩,
    ⟨['c'], [.weekdayAbbreviation, .text ' ', .monthAbbreviation, .text ' ',
      .number .day .blanks, .text ' '] ++ timeOfDay ++ [.text ' ', .number .year .zeros]⟩,
    ⟨['+'], longDate ++ [.text 'T'] ++ timeOfDay ++ [.pointAndFraction] ++ zone⟩,
    ⟨['3', 'f'], [.fraction 3]⟩, ⟨['6', 'f'], [.fraction 6]⟩, ⟨['9', 'f'], [.fraction 9]⟩,
    ⟨['.', '3', 'f'], [.text '.', .fraction 3]⟩, ⟨['.', '6', 'f'], [.text '.', .fraction 6]⟩,
    ⟨['.', '9', 'f'], [.text '.', .fraction 9]⟩, ⟨['.', 'f'], [.pointAndFraction]⟩,
    ⟨['Z'], zone⟩, ⟨[':', 'z'], zone⟩, ⟨['z'], ['+', '0', '0', '0', '0'].map .text⟩,
    ⟨[':', ':', 'z'], zone ++ [.text ':', .text '0', .text '0']⟩,
    ⟨[':', ':', ':', 'z'], ['+', '0', '0'].map .text⟩]

/-- All directives. The letters of one are never the start of another's. -/
def directives : List Directive := numbers.flatMap numberDirectives ++ otherDirectives

def directive? (text : List Char) : Option Directive :=
  directives.find? fun directive => directive.letters.isPrefixOf text

/-- Reads a format from left to right; `skip` is the number of characters that belong to a directive
already read. -/
def fieldsFrom? : Nat → List Char → Option (List TimeField)
  | _, [] => some []
  | skip + 1, _ :: rest => fieldsFrom? skip rest
  | 0, c :: rest =>
      if c = '%' then
        match directive? rest with
        | some directive =>
            (fieldsFrom? directive.letters.length rest).map (directive.fields ++ ·)
        | none => none
      else (fieldsFrom? 0 rest).map (.text c :: ·)

def fields? (format : List Char) : Option (List TimeField) := fieldsFrom? 0 format

theorem fields?_of_no_percent {format : List Char} (plain : '%' ∉ format) :
    fields? format = some (format.map .text) := by
  induction format with
  | nil => rfl
  | cons c rest ih =>
    simp only [List.mem_cons, not_or] at plain
    obtain ⟨other, plain⟩ := plain
    have same : fieldsFrom? 0 rest = some (rest.map .text) := ih plain
    simp [fields?, fieldsFrom?, Ne.symm other, same]

end TimeFormat

end ChunkArena
