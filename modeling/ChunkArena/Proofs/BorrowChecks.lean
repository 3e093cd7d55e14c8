import ChunkArena.Arena.Borrow
import ChunkArena.Proofs.RequestPieces

/-!
No borrow of the chunks is ever refused. Each call borrows in a statement or in a block of its own,
and has given the borrow back when code of others runs and when it ends. So it does not matter what
others call meanwhile: they find the chunks free, and leave them free.
-/

namespace ChunkArena

theorem Cell.follow_append (cell : Cell) (first rest : List Access) :
    cell.follow (first ++ rest) = (cell.follow first).bind fun next => next.follow rest := by
  induction first generalizing cell with
  | nil => rfl
  | cons access first ih =>
    simp only [List.cons_append, follow, ih, Option.bind_assoc]

/-- Accesses that find a cell free, are never refused, let others in only while it is free and leave
it free. -/
def LeavesFree (accesses : List Access) : Prop := Cell.free.follow accesses = some .free

theorem LeavesFree.append {first rest : List Access} (head : LeavesFree first)
    (tail : LeavesFree rest) : LeavesFree (first ++ rest) := by
  rw [LeavesFree, Cell.follow_append, head]
  exact tail

namespace Traced

/-- Whether a computation has a value and treats the cell well. -/
structure Settles {α : Type} (traced : Traced α) (value : α) : Prop where
  value : traced.value = value
  leavesFree : LeavesFree traced.accesses

variable {α β : Type}

theorem Settles.pure (value : α) : Settles (Pure.pure value) value := ⟨rfl, rfl⟩

theorem Settles.bind {first : Traced α} {next : α → Traced β} {a : α} {b : β}
    (head : first.Settles a) (tail : (next a).Settles b) : (first >>= next).Settles b := by
  obtain ⟨same, leavesFree⟩ := head
  rw [← same] at tail
  exact ⟨tail.value, leavesFree.append tail.leavesFree⟩

theorem Settles.ite {condition : Prop} [Decidable condition] {first second : Traced α} {a b : α}
    (holds : first.Settles a) (fails : second.Settles b) :
    (if condition then first else second).Settles (if condition then a else b) := by
  split
  · exact holds
  · exact fails

end Traced

open Traced (Settles)

theorem Reply.owning_settles {α : Type} (reply : Reply α) : reply.owning.Settles reply := by
  refine ⟨rfl, ?_⟩
  simp only [owning]
  induction reply.effects with
  | nil => rfl
  | cons effect rest ih =>
    rw [List.flatMap_cons]
    cases effect with
    | report => exact LeavesFree.append rfl ih
    | obtain | giveBack | fill => exact ih

namespace Arena

variable (arena : Arena) (env : Env)

theorem chunkCountTraced_settles : arena.chunkCountTraced.Settles arena.chunkCount := ⟨rfl, rfl⟩

theorem ownsTraced_settles (address : Nat) :
    (arena.ownsTraced address).Settles (arena.owns address) := ⟨rfl, rfl⟩

theorem chunkAtTraced_settles (index : Nat) :
    (arena.chunkAtTraced index).Settles (arena.chunkAt? index) := ⟨rfl, rfl⟩

theorem appendTraced_settles (size align : Nat) :
    (arena.appendTraced env size align).Settles (arena.append env size align) := by
  unfold appendTraced append
  simp only
  cases Layout.ofSizeAlign? (max (max arena.chunkCapacity size) 1) (max align chunkAlign) with
  | none => exact .pure _
  | some layout =>
    simp only
    cases env.profile.add arena.nextSerial 1 with
    | error cause => exact .pure _
    | ok serial => exact ⟨rfl, rfl⟩

theorem reserveTraced_settles (size align : Nat) :
    (arena.reserveTraced env size align).Settles (arena.reserve env size align) := by
  unfold reserveTraced reserve
  cases arena.bump env.profile size align with
  | error cause => exact .pure _
  | ok fits =>
    cases fits with
    | some fit => exact .pure _
    | none =>
      apply Settles.bind (arena.appendTraced_settles env size align)
      simp only
      cases (arena.append env size align).result with
      | error failure => exact .pure _
      | ok done =>
        simp only
        cases (arena.append env size align).arena.bump env.profile size align with
        | error cause => exact .pure _
        | ok fits =>
          cases fits with
          | none => exact .pure _
          | some fit => exact .pure _

theorem tryAllocateTraced_settles (size align : Nat) :
    (arena.tryAllocateTraced env size align).Settles (arena.tryAllocate env size align) := by
  unfold tryAllocateTraced tryAllocate
  exact .ite (.pure _) (.ite (arena.reserveTraced_settles env size align) (.pure _))

theorem allocateTraced_settles (size align : Nat) :
    (arena.allocateTraced env size align).Settles (arena.allocate env size align) := by
  unfold allocateTraced allocate
  apply Settles.bind (arena.tryAllocateTraced_settles env size align)
  simp only
  cases (arena.tryAllocate env size align).result with
  | ok start => exact .pure _
  | error failure => cases failure <;> exact .pure _

theorem growTraced_settles (start old new elementSize : Nat) :
    (arena.growTraced env start old new elementSize).Settles
      (arena.grow env start old new elementSize) := by
  unfold growTraced grow
  simp only
  apply Settles.ite (.pure _)
  apply Settles.ite (.pure _)
  apply Settles.ite (.pure _)
  cases arena.cursor.chunk with
  | none => exact .pure _
  | some handle =>
    apply Settles.bind (arena.chunkAtTraced_settles handle.index)
    simp only
    cases arena.chunkAt? handle.index with
    | none => exact .pure _
    | some chunk =>
      apply Settles.ite (.pure _)
      cases env.profile.sub (new * elementSize) (old * elementSize) with
      | error cause => exact .pure _
      | ok extra =>
        simp only
        cases env.profile.sub arena.cursor.limit arena.cursor.next with
        | error cause => exact .pure _
        | ok free =>
          exact .ite (.pure _) (.pure _)

theorem deallocateTraced_settles (address : Nat) (layout : Layout) :
    (arena.deallocateTraced env address layout).Settles (arena.deallocate env address layout) := by
  unfold deallocateTraced deallocate
  have asked : (arena.disownsTraced env.profile address).Settles
      (env.profile.checks && !arena.owns address) := by
    unfold disownsTraced
    cases env.profile.checks with
    | false => exact .pure _
    | true => exact (arena.ownsTraced_settles address).bind (.pure _)
  apply asked.bind
  exact .ite (.pure _) (.pure _)

theorem allocateArrayTraced_settles (kind : Kind) (count : Nat) :
    (arena.allocateArrayTraced env kind count).Settles (arena.allocateArray env kind count) := by
  unfold allocateArrayTraced allocateArray
  cases kind.layout.array? count with
  | none => exact .pure _
  | some layout => exact arena.allocateTraced_settles env layout.size layout.align

end Arena

def Ask.traced : Ask → Arena → Env → Traced (Reply Nat)
  | bytes size align => fun arena env => arena.allocateTraced env size align
  | tryBytes size align => fun arena env => arena.tryAllocateTraced env size align
  | array kind count => fun arena env => arena.allocateArrayTraced env kind count

theorem Ask.traced_settles (ask : Ask) (arena : Arena) (env : Env) :
    (ask.traced arena env).Settles (ask.call arena env) := by
  cases ask with
  | bytes size align => exact arena.allocateTraced_settles env size align
  | tryBytes size align => exact arena.tryAllocateTraced_settles env size align
  | array kind count => exact arena.allocateArrayTraced_settles env kind count

inductive ReentrantCall
  | chunkCount
  | owns (address : Nat)
  | ask (question : Ask)
  | grow (start old new elementSize : Nat)
  | deallocate (address : Nat) (layout : Layout)

def ReentrantCall.accesses (arena : Arena) (env : Env) : ReentrantCall → List Access
  | chunkCount => arena.chunkCountTraced.accesses
  | owns address => (arena.ownsTraced address).accesses
  | ask question => (question.traced arena env).accesses
  | grow start old new elementSize => (arena.growTraced env start old new elementSize).accesses
  | deallocate address layout => (arena.deallocateTraced env address layout).accesses

theorem ReentrantCall.leavesFree (reentrant : ReentrantCall) (arena : Arena) (env : Env) :
    LeavesFree (reentrant.accesses arena env) := by
  cases reentrant with
  | chunkCount => exact arena.chunkCountTraced_settles.leavesFree
  | owns address => exact (arena.ownsTraced_settles address).leavesFree
  | ask question => exact (question.traced_settles arena env).leavesFree
  | grow start old new elementSize =>
    exact (arena.growTraced_settles env start old new elementSize).leavesFree
  | deallocate address layout =>
      exact (arena.deallocateTraced_settles env address layout).leavesFree

/-- Whether a list of accesses comes from another one by what others do to the cell when they come
in: any number of calls, on whatever the arena is then, during which others come in again. -/
inductive Interleaved : List Access → List Access → Prop
  | done : Interleaved [] []
  | own {access : Access} {rest whole : List Access} (tail : Interleaved rest whole) :
      Interleaved (access :: rest) (access :: whole)
  | call {rest inner whole : List Access} (arena : Arena) (env : Env) (reentrant : ReentrantCall)
      (head : Interleaved (reentrant.accesses arena env) inner)
      (tail : Interleaved (.outside :: rest) whole) :
      Interleaved (.outside :: rest) (inner ++ whole)

/-- Calls that come in are never refused where the cell is treated well, and leave it as it was. -/
theorem Interleaved.follow {accesses whole : List Access} (interleaved : Interleaved accesses whole)
    {cell last : Cell} (followed : cell.follow accesses = some last) :
    cell.follow whole = some last := by
  induction interleaved generalizing cell last with
  | done => exact followed
  | own tail ih =>
    rw [Cell.follow] at followed ⊢
    obtain ⟨next, accessed, later⟩ := Option.bind_eq_some_iff.mp followed
    exact Option.bind_eq_some_iff.mpr ⟨next, accessed, ih later⟩
  | call arena env reentrant head tail before after =>
    have free : cell = .free := by
      cases cell with
      | writing => cases followed
      | reading borrows =>
        cases borrows with
        | zero => rfl
        | succ borrows => cases followed
    rw [free] at followed ⊢
    rw [Cell.follow_append, before (reentrant.leavesFree arena env)]
    exact after followed

/-- A call that came in while chunks are appended would be refused. -/
example : Cell.free.follow [.beginWrite, .beginRead, .endRead, .endWrite] = none := rfl

namespace World

def onArenaTraced {α : Type} (world : World) (owner : Nat)
    (call : Arena → Env → Traced (Reply α)) : Traced (Except Failure α × World) :=
  match world.tenants[owner]? with
  | none => return (.error (.refused .badInput), world)
  | some tenant =>
      match tenant.arena with
      | none => return (.error (.refused .dropped), world)
      | some arena => do
          let reply ← call arena (world.env tenant.skew)
          return world.commit owner tenant reply

theorem onArenaTraced_settles (world : World) (owner : Nat) {α : Type}
    {call : Arena → Env → Traced (Reply α)} {plain : Arena → Env → Reply α}
    (settles : ∀ arena env, (call arena env).Settles (plain arena env)) :
    (world.onArenaTraced owner call).Settles (world.onArena owner plain) := by
  unfold onArenaTraced onArena
  cases world.tenants[owner]? with
  | none => exact .pure _
  | some tenant =>
    simp only
    cases tenant.arena with
    | none => exact .pure _
    | some arena => exact (settles arena (world.env tenant.skew)).bind (.pure _)

def carveTraced (world : World) (owner : Nat) : List Ask → Traced World
  | [] => return world
  | ask :: rest => do
      let answer ← world.onArenaTraced owner ask.traced
      Traced.note .outside
      match answer with
      | (.error _, after) => return after
      | (.ok _, after) => after.carveTraced owner rest

theorem carveTraced_settles (world : World) (owner : Nat) (asks : List Ask) :
    (world.carveTraced owner asks).Settles (world.carve owner asks).2 := by
  induction asks generalizing world with
  | nil => exact .pure _
  | cons ask rest ih =>
    apply Settles.bind (world.onArenaTraced_settles owner fun arena env =>
      ask.traced_settles arena env)
    have outside : (Traced.note .outside).Settles () := ⟨rfl, rfl⟩
    apply outside.bind
    simp only [carve]
    cases world.onArena owner ask.call with
    | mk result after =>
      cases result with
      | error failure => exact .pure _
      | ok start => exact ih after

end World

def Disposal.given? : Disposal → Option Layout
  | bytes layout => some layout
  | object kind dropPanics => if dropPanics = true then none else some kind.layout
  | slice kind number dropPanics =>
      if dropPanics = true ∧ 0 < number then none else kind.layout.array? number

namespace World

def actTraced (world : World) (action : Action) : Traced World := do
  Traced.note .outside
  match action with
  | .create .. | .write .. | .log .. | .disable _ | .enable _ => return world.act action
  | .place owner request => world.carveTraced owner request.asks
  | .grow owner start old new elementSize => do
      let answer ← world.onArenaTraced owner fun arena env =>
        arena.growTraced env start old new elementSize
      return answer.2
  | .dispose owner _ address disposal =>
      match disposal.given? with
      | none => return world
      | some layout => do
          let answer ← world.onArenaTraced owner fun arena env =>
            arena.deallocateTraced env address layout
          return answer.2
  | .rewind owner snapshot => do
      let answer ← world.onArenaTraced owner fun arena env => (arena.rewind env snapshot).owning
      return answer.2
  | .release owner => do
      let answer ← world.onArenaTraced owner fun arena env => (arena.release env).owning
      return answer.2
  | .drop owner => do
      let answer ← world.onArenaTraced owner fun arena env => (arena.release env).owning
      return answer.2.vacated owner

theorem onArena_count_beside (world : World) (kind : Kind) (change : Tally → Tally) (owner : Nat)
    {α : Type} (call : Arena → Env → Reply α) :
    (world.onArena owner call).2.Beside ((world.count kind change).onArena owner call).2 := by
  rw [count_eq, world.onArena_recount owner
    (if kind.tracked then change world.tally else world.tally) call]
  exact ⟨_, _, rfl⟩

theorem demolish_beside (world : World) (owner depth : Nat) (kind : Kind) (number address : Nat)
    (layout : Layout) (dropPanics : Bool) :
    (if dropPanics = true ∧ 0 < number then world
      else (world.onArena owner fun arena env => arena.deallocate env address layout).2).Beside
        (world.demolish (.nested owner depth) kind number address layout dropPanics).2 := by
  unfold demolish
  have destroyed : world.Beside (world.destroy kind number) := (Beside.refl world).count kind _
  by_cases panics : dropPanics = true ∧ 0 < number
  · rw [if_pos panics, if_pos panics]
    exact destroyed
  · rw [if_neg panics, if_neg panics, destroy, deallocateRaw_nested]
    exact world.onArena_count_beside kind _ owner _

theorem dispose_beside (world : World) (owner depth address : Nat) (disposal : Disposal) :
    (disposal.given?.elim world fun layout =>
      (world.onArena owner fun arena env => arena.deallocate env address layout).2).Beside
        (disposal.dispose world (.nested owner depth) address).2 := by
  cases disposal with
  | bytes layout =>
    simp only [Disposal.given?, Disposal.dispose, Option.elim_some, deallocateRaw_nested]
    exact .refl _
  | object kind dropPanics =>
    have beside := world.demolish_beside owner depth kind 1 address kind.layout dropPanics
    cases dropPanics <;> exact beside
  | slice kind number dropPanics =>
    simp only [Disposal.given?, Disposal.dispose, deallocateSlice]
    cases shape : kind.layout.array? number with
    | none => simpa using Beside.refl world
    | some layout =>
      have beside := world.demolish_beside owner depth kind number address layout dropPanics
      by_cases panics : dropPanics = true ∧ 0 < number
      · rw [if_pos panics] at beside ⊢
        exact beside
      · rw [if_neg panics] at beside ⊢
        exact beside

/-- Apart from what the client's code stores and counts, an action is what it is without a cell. -/
theorem actTraced_settles (world : World) (action : Action) :
    ∃ after, (world.actTraced action).Settles after ∧ after.Beside (world.act action) := by
  have outside : (Traced.note .outside).Settles () := ⟨rfl, rfl⟩
  have owning {owner : Nat} {call : Arena → Env → Reply Unit} :
      (world.onArenaTraced owner fun arena env => (call arena env).owning).Settles
        (world.onArena owner call) :=
    world.onArenaTraced_settles owner fun arena env => (call arena env).owning_settles
  cases action with
  | create | write | log | disable | enable => exact ⟨_, outside.bind (.pure _), .refl _⟩
  | place owner request =>
    exact ⟨_, outside.bind (world.carveTraced_settles owner request.asks),
      (request.serve_carved world owner).beside⟩
  | grow owner start old new elementSize =>
    have grown := world.onArenaTraced_settles owner fun arena env =>
      arena.growTraced_settles env start old new elementSize
    exact ⟨_, outside.bind (grown.bind (.pure _)), .refl _⟩
  | dispose owner depth address disposal =>
    refine ⟨_, outside.bind ?_, world.dispose_beside owner depth address disposal⟩
    simp only
    cases disposal.given? with
    | none => exact .pure _
    | some layout =>
      have given := world.onArenaTraced_settles owner fun arena env =>
        arena.deallocateTraced_settles env address layout
      exact given.bind (.pure _)
  | rewind owner snapshot => exact ⟨_, outside.bind (owning.bind (.pure _)), .refl _⟩
  | release owner => exact ⟨_, outside.bind (owning.bind (.pure _)), .refl _⟩
  | drop owner => exact ⟨_, outside.bind (owning.bind (.pure _)), .refl _⟩

end World

end ChunkArena
