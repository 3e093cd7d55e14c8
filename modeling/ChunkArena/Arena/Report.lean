import ChunkArena.Log.Level

/-!
What an arena reports about its chunks. The wording and the level of each report are fixed here.
-/

namespace ChunkArena

inductive Report
  | appended (index capacity : Nat)
  | released (chunks bytes : Nat)
  | emptied (chunks : Nat)
  | reactivated (chunks index : Nat)
  | alreadyReleased (index : Nat)
  deriving DecidableEq

namespace Report

def level : Report → Level
  | alreadyReleased _ => .warn
  | _ => .debug

def text (label : String) : Report → String
  | appended index capacity => s!"{label}: appended chunk #{index} ({capacity} bytes)"
  | released chunks bytes => s!"{label}: released {chunks} chunk(s), {bytes} bytes"
  | emptied chunks => s!"{label}: rewind discarded {chunks} chunk(s), allocator is empty"
  | reactivated chunks index =>
      s!"{label}: rewind discarded {chunks} chunk(s), chunk #{index} is active again"
  | alreadyReleased index => s!"{label}: rewinding to chunk #{index} which was already released"

end Report

end ChunkArena
