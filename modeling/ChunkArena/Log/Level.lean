/-!
Severity of a log message. Levels are ordered from the least to the most severe; each has the name
that a log line shows and the word under which the library prints the value itself.
-/

namespace ChunkArena

inductive Level
  | debug
  | info
  | warn
  | error
  | critical
  deriving DecidableEq

namespace Level

def rank : Level → Nat
  | debug => 0
  | info => 1
  | warn => 2
  | error => 3
  | critical => 4

instance : LE Level := ⟨fun a b => a.rank ≤ b.rank⟩

instance : LT Level := ⟨fun a b => a.rank < b.rank⟩

instance (a b : Level) : Decidable (a ≤ b) := inferInstanceAs (Decidable (a.rank ≤ b.rank))

instance (a b : Level) : Decidable (a < b) := inferInstanceAs (Decidable (a.rank < b.rank))

instance : Ord Level := ⟨fun a b => compare a.rank b.rank⟩

instance : Max Level := maxOfLe

def all : List Level := [debug, info, warn, error, critical]

def name : Level → String
  | debug => "DEBUG"
  | info => "INFO"
  | warn => "WARN"
  | error => "ERROR"
  | critical => "CRITICAL"

def word : Level → String
  | debug => "Debug"
  | info => "Info"
  | warn => "Warn"
  | error => "Error"
  | critical => "Critical"

theorem rank_injective {a b : Level} (h : a.rank = b.rank) : a = b := by
  cases a <;> cases b <;> first | rfl | exact absurd h (by decide)

theorem mem_all (level : Level) : level ∈ all := by cases level <;> decide

end Level

end ChunkArena
