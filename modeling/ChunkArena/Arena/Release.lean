import ChunkArena.Arena.Basic

/-!
Giving memory back.

Chunks go back to the system newest first. A rewind returns to a snapshot: the snapshot's chunk
becomes the newest again and the cursor takes its saved place. A snapshot that names no chunk
empties the arena. If the snapshot's chunk is gone, that is either because of a release since the
snapshot was taken, and the arena is released once more, or because of a rewind to an older
snapshot, and then the call stops. No destructor runs.
-/

namespace ChunkArena

structure Sweep (α : Type) where
  result : Except Panic α
  left : List Chunk
  effects : List Effect

def Profile.surrender (profile : Profile) (chunk : Chunk) : List Effect :=
  profile.discard chunk.start chunk.capacity ++ [.giveBack chunk]

def Sweep.after {α : Type} (sweep : Sweep α) (effects : List Effect) : Sweep α :=
  { sweep with effects := effects ++ sweep.effects }

/-- Gives back the chunks that are reached from a handle by the links to the chunk below. Counts
chunks and bytes. -/
def sweepLinks (profile : Profile) :
    List Chunk → Option Handle → Nat → Nat → Sweep (Nat × Nat)
  | chunks, none, count, bytes => ⟨.ok (count, bytes), chunks, []⟩
  | [], some handle, count, bytes =>
      if profile.checks then
        ⟨.error (.assertionUnequal (toString (handle.index + 1)) "0"), [], []⟩
      else ⟨.ok (count, bytes), [], []⟩
  | chunk :: rest, some handle, count, bytes =>
      if profile.checks ∧ handle.index + 1 ≠ rest.length + 1 then
        ⟨.error (.assertionUnequal (toString (handle.index + 1)) (toString (rest.length + 1))),
          chunk :: rest, []⟩
      else if profile.checks ∧ chunk.serial ≠ handle.serial then
        ⟨.error (.assertionUnequal (toString chunk.serial) (toString handle.serial)), rest,
          [.giveBack chunk]⟩
      else
        match profile.add count 1 with
        | .error cause => ⟨.error cause, rest, profile.surrender chunk⟩
        | .ok count =>
            match profile.add bytes chunk.capacity with
            | .error cause => ⟨.error cause, rest, profile.surrender chunk⟩
            | .ok bytes =>
                (sweepLinks profile rest chunk.previous count bytes).after
                  (profile.surrender chunk)

def sweepAbove (profile : Profile) (keep : Nat) : List Chunk → Nat → Sweep Nat
  | [], count => ⟨.ok count, [], []⟩
  | chunk :: rest, count =>
      if rest.length + 1 ≤ keep then ⟨.ok count, chunk :: rest, []⟩
      else if profile.checks ∧ chunk.previous.map Handle.index ≠ some (rest.length - 1) then
        ⟨.error (.assertionUnequal
            (match chunk.previous with
              | some handle => s!"Some({handle.index})"
              | none => "None")
            s!"Some({rest.length - 1})"),
          rest, [.giveBack chunk]⟩
      else
        match profile.add count 1 with
        | .error cause => ⟨.error cause, rest, profile.surrender chunk⟩
        | .ok count => (sweepAbove profile keep rest count).after (profile.surrender chunk)

namespace Arena

/-- Gives back every chunk and counts chunks and bytes. Chunks that the links do not reach would be
given back too, oldest first. -/
def freeAll (arena : Arena) (profile : Profile) : Reply (Nat × Nat) :=
  let sweep := sweepLinks profile arena.chunks arena.cursor.chunk 0 0
  match sweep.result with
  | .error cause => ⟨.error (.panic cause), { arena with chunks := sweep.left }, sweep.effects⟩
  | .ok totals =>
      if profile.checks ∧ sweep.left ≠ [] then
        ⟨.error (.panic (.assertionFailed "chunk list out of sync with the cursor")),
          { arena with chunks := sweep.left }, sweep.effects⟩
      else
        ⟨.ok totals, { arena with chunks := [], cursor := .empty },
          sweep.effects ++ sweep.left.reverse.map .giveBack⟩

def release (arena : Arena) (env : Env) : Reply Unit :=
  let freed := arena.freeAll env.profile
  match freed.result with
  | .error failure => ⟨.error failure, freed.arena, freed.effects⟩
  | .ok (count, bytes) =>
      let emptied : Arena :=
        { freed.arena with generation := (arena.generation + 1) % wordLimit }
      if count = 0 then ⟨.ok (), emptied, freed.effects⟩
      else env.conclude emptied freed.effects (.released count bytes)

def snapshot (arena : Arena) : Snapshot := ⟨arena.cursor, arena.generation⟩

def restore (arena : Arena) (env : Env) (saved : Cursor) (handle : Handle) (chunk : Chunk) :
    Reply Unit :=
  if saved.limit ≠ chunk.finish ∨ saved.next < chunk.start ∨ saved.limit < saved.next then
    ⟨.error (.panic (.foreignSnapshot arena.label)), arena, []⟩
  else
    let used := if arena.cursor.chunk = some handle then arena.cursor.next else saved.limit
    let cleared :=
      if saved.next < used then env.profile.discard saved.next (used - saved.next) else []
    let sweep := sweepAbove env.profile (handle.index + 1) arena.chunks 0
    match sweep.result with
    | .error cause =>
        ⟨.error (.panic cause), { arena with chunks := sweep.left }, cleared ++ sweep.effects⟩
    | .ok count =>
        let restored : Arena := { arena with chunks := sweep.left, cursor := saved }
        if count = 0 then ⟨.ok (), restored, cleared ++ sweep.effects⟩
        else env.conclude restored (cleared ++ sweep.effects) (.reactivated count handle.index)

def restoreReleased (arena : Arena) (env : Env) (index : Nat) : Reply Unit :=
  let warned := env.conclude arena [] (.alreadyReleased index)
  match warned.result with
  | .error failure => ⟨.error failure, arena, warned.effects⟩
  | .ok () =>
      let released := arena.release env
      { released with effects := warned.effects ++ released.effects }

def restoreEmpty (arena : Arena) (env : Env) : Reply Unit :=
  let freed := arena.freeAll env.profile
  match freed.result with
  | .error failure => ⟨.error failure, freed.arena, freed.effects⟩
  | .ok (count, _) =>
      if count = 0 then ⟨.ok (), freed.arena, freed.effects⟩
      else env.conclude freed.arena freed.effects (.emptied count)

def liveChunk? (arena : Arena) (handle : Handle) : Option Chunk :=
  (arena.chunkAt? handle.index).filter (·.serial == handle.serial)

def rewind (arena : Arena) (env : Env) (snapshot : Snapshot) : Reply Unit :=
  match snapshot.cursor.chunk with
  | none => arena.restoreEmpty env
  | some handle =>
      match arena.liveChunk? handle with
      | some chunk => arena.restore env snapshot.cursor handle chunk
      | none =>
          if snapshot.generation = arena.generation then
            ⟨.error (.panic (.staleSnapshot arena.label handle.index)), arena, []⟩
          else arena.restoreReleased env handle.index

end Arena

end ChunkArena
