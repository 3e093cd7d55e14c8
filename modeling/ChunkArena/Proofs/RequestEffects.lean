import ChunkArena.Proofs.RequestInvariants

/-!
What a request does to the world. It asks one arena for memory, a number of times, and in between it
stores values and counts them. So it leaves everything alone but that arena, the memory, the tally,
the traffic and the logs.
-/

namespace ChunkArena

namespace World

/-- Whether one world follows another through requests to one arena and through what is stored and
counted between them. -/
inductive Served (owner : Nat) : World → World → Prop where
  | done (world : World) : Served owner world world
  | ask {first last : World} (call : Arena → Env → Reply Nat) (size align : Nat)
      (answers : ∀ arena : Arena, arena.Consistent → ∀ env : Env,
        arena.Answers env.profile size align (call arena env))
      (rest : Served owner (first.onArena owner call).2 last) : Served owner first last
  | note {first last : World} (memory : Memory) (tally : Tally)
      (rest : Served owner { first with memory := memory, tally := tally } last) :
      Served owner first last

namespace Served

variable {owner : Nat} {first next last : World}

theorem trans (head : Served owner first next) (tail : Served owner next last) :
    Served owner first last := by
  induction head with
  | done => exact tail
  | ask call size align answers _ ih => exact .ask call size align answers (ih tail)
  | note memory tally _ ih => exact .note memory tally (ih tail)

theorem profile (served : Served owner first last) : last.profile = first.profile := by
  induction served with
  | done => rfl
  | ask call size align answers _ ih => exact ih.trans (onArena_profile _ owner call)
  | note memory tally _ ih => exact ih

theorem traffic_suffix (served : Served owner first last) : first.traffic <:+ last.traffic := by
  induction served with
  | done => exact List.suffix_refl _
  | ask call size align answers _ ih => exact (onArena_suffix _ owner call).trans ih
  | note memory tally _ ih => exact ih

theorem arena?_other (served : Served owner first last) {other : Nat} (different : other ≠ owner) :
    last.arena? other = first.arena? other := by
  induction served with
  | done => rfl
  | ask call size align answers _ ih => exact ih.trans (onArena_other _ different call)
  | note memory tally _ ih => exact ih

end Served

section Requests

variable {owner : Nat} (world : World)

theorem count_served (kind : Kind) (change : Tally → Tally) :
    Served owner world (world.count kind change) := by
  rw [count_eq]
  exact .note world.memory _ (.done _)

theorem store_served (kind : Kind) (start : Nat) (values : List Value) :
    Served owner world (world.store kind start values) := by
  obtain ⟨tally, same⟩ := world.store_eq kind start values
  rw [same]
  exact .note _ tally (.done _)

theorem settle_served {result : Except Failure Nat × World} (served : Served owner world result.2)
    (kind : Kind) (value : Value) : Served owner world (settle kind value result).2 := by
  obtain ⟨answer, after⟩ := result
  cases answer with
  | error failure =>
    have abandoned : Served owner after (after.abandon kind) := after.count_served kind _
    exact served.trans abandoned
  | ok start => exact served.trans (after.store_served kind start [value])

end Requests

variable {owner : Nat}

theorem Served.asked {first world : World} (served : Served owner first world) {size align : Nat}
    {call : Arena → Env → Reply Nat} (asks : Arena.Asks size align call) :
    Served owner first (world.onArena owner call).2 :=
  served.trans
    (.ask call size align (fun _ consistent env => asks.answers consistent env) (.done _))

def Served.invariant (owner : Nat) (first : World) : RequestInvariant owner where
  holds _ _ world := Served owner first world
  fails _ _ := True
  refused served asks made := by
    have asked := served.asked asks
    rw [made] at asked
    exact ⟨trivial, asked⟩
  supplied served asks made _ _ _ := by
    have asked := served.asked asks
    rw [made] at asked
    exact asked
  stored served _ := served.trans (store_served _ _ _ _)
  counted served kind change := served.trans (count_served _ kind change)
  abandoned _ _ := trivial
  stopped _ _ := trivial
  fewer served _ _ := served
  reordered served _ := served

section Requests

variable (world : World)

theorem fillSlots_served (kind : Kind) (start number : Nat) (first : Nat → List Value)
    (stop : Option Nat) (change : Nat → Tally → Tally) (cause : Panic) :
    Served owner world (world.fillSlots kind start number first stop change cause).2 := by
  have stored : Served owner world (world.store kind start (first (madeUntil stop number))) :=
    store_served world kind start _
  have filled := stored.trans (count_served _ kind (change (madeUntil stop number)))
  simp only [fillSlots]
  split <;> exact filled

theorem allocateEach_served (owner : Nat) (requests : List (Nat × Nat)) :
    Served owner world (world.allocateEach owner requests).2.2 := by
  have kept : (Served.invariant owner world).holds (0 + requests.length) [] world := .done world
  exact (RequestInvariant.allocateEach kept).2

theorem serve_served (owner : Nat) (request : Request) :
    Served owner world (request.serve world owner).2 := by
  have kept : (Served.invariant owner world).holds (0 + request.calls) [] world := .done world
  exact RequestInvariant.serve kept

end Requests

end World

end ChunkArena
