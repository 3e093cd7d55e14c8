import ChunkArena.Arena.Basic

/-!
Handing out memory.

An allocation takes the next suitably aligned bytes of the newest chunk. If they do not fit, a chunk
is appended that is large enough for the request, and the bytes are taken from there. The last array
of the newest chunk can also be made longer where it is.
-/

namespace ChunkArena.Arena

/-- Takes aligned bytes from the newest chunk: their address and the cursor after them, or nothing
if they do not fit. -/
def bump (arena : Arena) (profile : Profile) (size align : Nat) :
    Except Panic (Option (Nat × Cursor)) :=
  match arena.cursor.chunk with
  | none => .ok none
  | some _ =>
      let needed := padding arena.cursor.next align + size
      if wordLimit ≤ needed then .ok none
      else match profile.sub arena.cursor.limit arena.cursor.next with
        | .error cause => .error cause
        | .ok free =>
            if free < needed then .ok none
            else
              let start := roundUp arena.cursor.next align
              .ok (some (start, { arena.cursor with next := start + size }))

def append (arena : Arena) (env : Env) (size align : Nat) : Reply Unit :=
  let capacity := max arena.chunkCapacity size
  match Layout.ofSizeAlign? (max capacity 1) (max align chunkAlign) with
  | none => ⟨.error (.error (.sizeOverflow capacity align)), arena, []⟩
  | some layout =>
      let chunk : Chunk := ⟨arena.cursor.chunk, arena.nextSerial, env.site layout, layout⟩
      match env.profile.add arena.nextSerial 1 with
      | .error cause => ⟨.error (.panic cause), arena, [.obtain chunk, .giveBack chunk]⟩
      | .ok serial =>
          let index := arena.chunks.length
          let extended : Arena := { arena with
            chunks := chunk :: arena.chunks
            cursor := ⟨some ⟨index, chunk.serial⟩, chunk.start, chunk.finish⟩
            nextSerial := serial }
          env.conclude extended [.obtain chunk] (.appended index chunk.capacity)

def reserve (arena : Arena) (env : Env) (size align : Nat) : Reply Nat :=
  match arena.bump env.profile size align with
  | .error cause => ⟨.error (.panic cause), arena, []⟩
  | .ok (some (start, cursor)) =>
      ⟨.ok start, { arena with cursor := cursor }, env.profile.handOut start size⟩
  | .ok none =>
      let appended := arena.append env size align
      match appended.result with
      | .error failure => ⟨.error failure, appended.arena, appended.effects⟩
      | .ok () =>
          match appended.arena.bump env.profile size align with
          | .error cause => ⟨.error (.panic cause), appended.arena, appended.effects⟩
          | .ok none =>
              ⟨.error (.panic (.unreachable
                "a fresh chunk always fits the request it was sized for")),
                appended.arena, appended.effects⟩
          | .ok (some (start, cursor)) =>
              ⟨.ok start, { appended.arena with cursor := cursor },
                appended.effects ++ env.profile.handOut start size⟩

def tryAllocate (arena : Arena) (env : Env) (size align : Nat) : Reply Nat :=
  if env.profile.checks && arena.isDisabled then
    ⟨.error (.panic (.disabled arena.label)), arena, []⟩
  else if isPowerOfTwo align then arena.reserve env size align
  else ⟨.error (.error (.invalidAlignment align)), arena, []⟩

def allocate (arena : Arena) (env : Env) (size align : Nat) : Reply Nat :=
  let reply := arena.tryAllocate env size align
  match reply.result with
  | .error (.error cause) => { reply with result := .error (.panic (.refused arena.label cause)) }
  | _ => reply

/-- Makes the array of `old` elements at `start` one of `new` elements, if it ends at the cursor and
the bytes added fit in the newest chunk. -/
def grow (arena : Arena) (env : Env) (start old new elementSize : Nat) : Reply Bool :=
  let refused : Reply Bool := ⟨.ok false, arena, []⟩
  if env.profile.checks && arena.isDisabled then
    ⟨.error (.panic (.disabled arena.label)), arena, []⟩
  else if new < old then refused
  else if wordLimit ≤ old * elementSize ∨ wordLimit ≤ new * elementSize then refused
  else match arena.cursor.chunk with
    | none => refused
    | some handle =>
        match arena.chunkAt? handle.index with
        | none => refused
        | some chunk =>
            if start < chunk.start ∨ wordLimit ≤ start + old * elementSize ∨
                start + old * elementSize ≠ arena.cursor.next then refused
            else
              match env.profile.sub (new * elementSize) (old * elementSize) with
              | .error cause => ⟨.error (.panic cause), arena, []⟩
              | .ok extra =>
                  match env.profile.sub arena.cursor.limit arena.cursor.next with
                  | .error cause => ⟨.error (.panic cause), arena, []⟩
                  | .ok free =>
                      if free < extra then refused
                      else
                        ⟨.ok true,
                          { arena with
                            cursor := { arena.cursor with next := arena.cursor.next + extra } },
                          env.profile.handOut arena.cursor.next extra⟩

/-- Forgets one allocation. No bytes come back before a rewind or a release; debug builds refuse
addresses that are not the arena's and mark the bytes as given back. -/
def deallocate (arena : Arena) (env : Env) (address : Nat) (layout : Layout) : Reply Unit :=
  if env.profile.checks && !arena.owns address then
    ⟨.error (.error .notFromAllocator), arena, []⟩
  else ⟨.ok (), arena, env.profile.discard address layout.size⟩

end ChunkArena.Arena
