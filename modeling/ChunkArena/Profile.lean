import ChunkArena.Word
import ChunkArena.Failure

/-!
The two ways to build the library. A debug build checks word arithmetic and assertions, fills
memory, counts disable guards and tests ownership; a release build does none of that, and its
word arithmetic wraps.
-/

namespace ChunkArena

inductive Profile
  | debug
  | release
  deriving DecidableEq

namespace Profile

def checks : Profile → Bool
  | debug => true
  | release => false

def add (profile : Profile) (a b : Nat) : Except Panic Nat :=
  if a + b < wordLimit then .ok (a + b)
  else if profile.checks then .error .addOverflow
  else .ok ((a + b) % wordLimit)

def sub (profile : Profile) (a b : Nat) : Except Panic Nat :=
  if b ≤ a then .ok (a - b)
  else if profile.checks then .error .subOverflow
  else .ok (a + wordLimit - b)

theorem add_ok (profile : Profile) {a b : Nat} (h : a + b < wordLimit) :
    profile.add a b = .ok (a + b) := by
  simp [add, h]

theorem sub_ok (profile : Profile) {a b : Nat} (h : b ≤ a) : profile.sub a b = .ok (a - b) := by
  simp [sub, h]

end Profile

end ChunkArena
