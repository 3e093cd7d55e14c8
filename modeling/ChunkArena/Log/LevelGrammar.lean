import ChunkArena.Text.Blank
import ChunkArena.Text.Padding
import ChunkArena.Log.Level
import ChunkArena.Log.LogError
import ChunkArena.Failure

/-!
Reading and writing levels. A level is read from one of six words, in any mixture of upper and lower
case ASCII letters, with white space around it. It is written as its name, fitted into a column.
-/

namespace ChunkArena

namespace Level

def words : List (List Char × Level) :=
  [("debug".toList, debug), ("info".toList, info), ("warn".toList, warn),
    ("warning".toList, warn), ("error".toList, error), ("critical".toList, critical)]

def ofChars? (text : List Char) : Option Level := words.lookup ((trimBlank text).map Char.toLower)

/-- Reads a level; the error keeps the text as it was. -/
def parse (text : String) : Except LogError Level :=
  match ofChars? text.toList with
  | some level => .ok level
  | none => .error (.unknownLevel text)

def format (level : Level) (column : Column) : String :=
  String.ofList (column.fit level.name.toList)

/-- The name, fitted into a column that may be past the limit. -/
def checkedFormat (level : Level) (column : Column) : Except Panic String :=
  if column.isWithinLimit then .ok (level.format column) else .error .columnLimit

theorem parse_eq_ok_iff {text : String} {level : Level} :
    parse text = .ok level ↔ ofChars? text.toList = some level := by
  unfold parse
  split <;> simp_all

theorem format_free (level : Level) : level.format .free = level.name := by
  simp [format, Column.fit_free]

end Level

end ChunkArena
