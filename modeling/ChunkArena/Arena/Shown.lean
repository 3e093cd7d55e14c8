import ChunkArena.Text.Quoted
import ChunkArena.Arena.Basic

/-!
The texts that stand for arenas, builders and snapshots. An address in a snapshot is written as the
serial number of its chunk and the offset in it.
-/

namespace ChunkArena

def recordLine (name : String) (fields : List (String × String)) : String :=
  name ++ " \x7b " ++ ", ".intercalate (fields.map fun field => field.1 ++ ": " ++ field.2) ++
    " \x7d"

def recordLines (name : String) (fields : List (String × String)) : String :=
  name ++ " \x7b\n" ++ String.join (fields.map fun field =>
    "    " ++ field.1 ++ ": " ++ field.2 ++ ",\n") ++ "\x7d"

def Builder.shown (builder : Builder) : String :=
  recordLine "LinkedBumpAllocatorBuilder"
    [("label", quoted builder.label), ("chunk_capacity", toString builder.chunkCapacity)]

namespace Arena

def fields (arena : Arena) : List (String × String) :=
  [("label", quoted arena.label), ("chunk_capacity", toString arena.chunkCapacity),
    ("chunk_count", toString arena.chunkCount), ("remaining", toString arena.remaining)]

def shown (arena : Arena) : String := recordLine "LinkedBumpAllocator" arena.fields

def shownLines (arena : Arena) : String := recordLines "LinkedBumpAllocator" arena.fields

def shownAddress (arena : Arena) (address : Nat) : String :=
  match arena.locate? address with
  | some (serial, offset) => s!"[{serial},{offset}]"
  | none => "null"

def shownHandle : Option Handle → String
  | none => "None"
  | some handle => "Some(" ++ recordLine "ChunkHandle"
      [("index", toString handle.index), ("serial", toString handle.serial)] ++ ")"

def shownSnapshot (arena : Arena) (snapshot : Snapshot) : String :=
  recordLine "RewindState"
    [("cursor", recordLine "Cursor"
      [("chunk", shownHandle snapshot.cursor.chunk),
        ("next", arena.shownAddress snapshot.cursor.next),
        ("end", arena.shownAddress snapshot.cursor.limit)]),
      ("release_generation", toString snapshot.generation)]

end Arena

end ChunkArena
