import ChunkArena.Arena.Basic

/-!
Disable guards. While at least one is alive, a debug build stops every allocating call. Guards may
be dropped in any order, and one that is never dropped disables the arena for good. Release builds
do not count guards.
-/

namespace ChunkArena.Arena

def disable (arena : Arena) (profile : Profile) : Reply Unit :=
  if profile.checks then
    match profile.add arena.disabled 1 with
    | .error cause => ⟨.error (.panic cause), arena, []⟩
    | .ok count => ⟨.ok (), { arena with disabled := count }, []⟩
  else ⟨.ok (), arena, []⟩

def enable (arena : Arena) (profile : Profile) : Reply Unit :=
  if profile.checks then
    if arena.disabled = 0 then
      ⟨.error (.panic (.assertionFailed "assertion failed: count > 0")), arena, []⟩
    else ⟨.ok (), { arena with disabled := arena.disabled - 1 }, []⟩
  else ⟨.ok (), arena, []⟩

end ChunkArena.Arena
