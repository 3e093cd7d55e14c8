import ChunkArena.Proofs.GuardIndifference
import ChunkArena.Proofs.IntervalBytes

/-!
Rewinding is as if nothing had happened. Whatever came between, the rewind to a snapshot gives the
arena back as it was, up to the next serial number, and with the bytes that its chunks held below
the cursor. So what is requested from then on is served at the same addresses, as far as it fits
into the newest chunk.
-/

namespace ChunkArena

namespace Arena

theorem reserve_length_le (arena : Arena) (env : Env) (size align : Nat) :
    arena.chunks.length ≤ (arena.reserve env size align).arena.chunks.length := by
  unfold reserve
  cases fits : arena.bump env.profile size align with
  | error cause => exact Nat.le_refl _
  | ok taken =>
    cases taken with
    | some place => exact Nat.le_refl _
    | none =>
      obtain ⟨mid, effects, spill, ⟨failure, failed⟩ | ⟨_, appended⟩⟩ :=
        append_cases arena env size align
      · rw [failed]
        exact spill.length_le
      · rw [appended]
        simp only
        cases mid.bump env.profile size align with
        | error cause => exact spill.length_le
        | ok taken => cases taken <;> exact spill.length_le

theorem allocate_ok_iff {arena : Arena} {env : Env} {size align start : Nat} :
    (arena.allocate env size align).result = .ok start ↔
      (arena.tryAllocate env size align).result = .ok start := by
  simp only [allocate]
  split
  · rename_i refused
    rw [refused]
    constructor <;> intro served <;> cases served
  · exact Iff.rfl

theorem allocate_length_le (arena : Arena) (env : Env) (size align : Nat) :
    arena.chunks.length ≤ (arena.allocate env size align).arena.chunks.length := by
  rw [allocate_arena]
  unfold tryAllocate
  split
  · exact Nat.le_refl _
  · split
    · exact arena.reserve_length_le env size align
    · exact Nat.le_refl _

theorem reserve_fits {arena : Arena} {env : Env} {size align start : Nat}
    (served : (arena.reserve env size align).result = .ok start)
    (few : (arena.reserve env size align).arena.chunks.length ≤ arena.chunks.length) :
    ∃ cursor, arena.bump env.profile size align = .ok (some (start, cursor)) := by
  unfold reserve at served few
  cases fits : arena.bump env.profile size align with
  | error cause =>
    rw [fits] at served
    cases served
  | ok taken =>
    rw [fits] at served few
    cases taken with
    | some place =>
      cases served
      exact ⟨place.2, rfl⟩
    | none =>
      -- The second attempt comes after a new chunk, of which there is none.
      exfalso
      obtain ⟨mid, effects, spill, ⟨failure, failed⟩ | ⟨⟨chunk, grown⟩, appended⟩⟩ :=
        append_cases arena env size align
      · rw [failed] at served
        cases served
      · rw [appended] at served few
        simp only at served few
        have longer : mid.chunks.length = arena.chunks.length + 1 := by
          rw [grown]
          rfl
        cases again : mid.bump env.profile size align with
        | error cause =>
          rw [again] at served
          cases served
        | ok taken =>
          cases taken with
          | none =>
            rw [again] at served
            cases served
          | some place =>
            rw [again] at few
            simp only at few
            omega

theorem allocate_renumbered {arena : Arena} {env env' : Env} (profile : env'.profile = env.profile)
    {size align start : Nat} (served : (arena.allocate env size align).result = .ok start)
    (few : (arena.allocate env size align).arena.chunks.length ≤ arena.chunks.length)
    (serial : Nat) :
    ((arena.renumbered serial).allocate env' size align).result = .ok start ∧
      ((arena.renumbered serial).allocate env' size align).arena =
        (arena.allocate env size align).arena.renumbered serial := by
  rw [allocate_arena] at few
  rw [allocate_ok_iff] at served ⊢
  rw [allocate_arena, allocate_arena]
  have disabled : (arena.renumbered serial).isDisabled = arena.isDisabled := rfl
  unfold tryAllocate at served few ⊢
  rw [profile, disabled]
  by_cases off : (env.profile.checks && arena.isDisabled) = true
  · rw [if_pos off] at served
    cases served
  · by_cases power : isPowerOfTwo align = true
    · rw [if_neg off, if_pos power] at served few ⊢
      obtain ⟨cursor, fits⟩ := reserve_fits served few
      have fits' : (arena.renumbered serial).bump env'.profile size align =
          .ok (some (start, cursor)) := by
        rw [profile]
        exact fits
      simp only [reserve, fits, fits', if_neg off, if_pos power, true_and]
      rfl
    · rw [if_neg off, if_neg power] at served
      cases served

end Arena

namespace World

theorem allocateEach_length_le {world : World} {owner : Nat} {arena : Arena}
    (found : world.arena? owner = some arena) (requests : List (Nat × Nat)) :
    ∃ after, (world.allocateEach owner requests).2.2.arena? owner = some after ∧
      arena.chunks.length ≤ after.chunks.length := by
  induction requests generalizing world arena with
  | nil => exact ⟨arena, found, Nat.le_refl _⟩
  | cons request rest ih =>
    obtain ⟨size, align⟩ := request
    obtain ⟨skew, _, present⟩ := onArena_self found fun arena env => arena.allocate env size align
    have present : (world.allocate owner size align).2.arena? owner = _ := present
    have longer := arena.allocate_length_le (world.env skew) size align
    unfold allocateEach
    generalize world.allocate owner size align = result at present
    obtain ⟨answer, next⟩ := result
    cases answer with
    | error failure => exact ⟨_, present, longer⟩
    | ok start =>
      obtain ⟨after, last, more⟩ := ih present
      exact ⟨after, last, Nat.le_trans longer more⟩

/-- Requests that fit into the newest chunk are served at the same addresses in every world where
the arena is the same up to its next serial number. -/
theorem allocateEach_renumbered {first second : World} {owner serial : Nat} {arena : Arena}
    (profile : second.profile = first.profile) (found : first.arena? owner = some arena)
    (found' : second.arena? owner = some (arena.renumbered serial)) (requests : List (Nat × Nat))
    (served : (first.allocateEach owner requests).1 = .ok ())
    (few : ∀ after, (first.allocateEach owner requests).2.2.arena? owner = some after →
      after.chunks.length ≤ arena.chunks.length) :
    (second.allocateEach owner requests).1 = .ok () ∧
      (second.allocateEach owner requests).2.1 = (first.allocateEach owner requests).2.1 := by
  induction requests generalizing first second arena with
  | nil => exact ⟨rfl, rfl⟩
  | cons request rest ih =>
    obtain ⟨size, align⟩ := request
    obtain ⟨skew, answer, present⟩ :=
      onArena_self found fun arena env => arena.allocate env size align
    obtain ⟨skew', answer', present'⟩ :=
      onArena_self found' fun arena env => arena.allocate env size align
    have answer : (first.allocate owner size align).1 = _ := answer
    have answer' : (second.allocate owner size align).1 = _ := answer'
    have present : (first.allocate owner size align).2.arena? owner = _ := present
    have present' : (second.allocate owner size align).2.arena? owner = _ := present'
    have same : (second.allocate owner size align).2.profile =
        (first.allocate owner size align).2.profile :=
      (second.onArena_profile owner _).trans (profile.trans (first.onArena_profile owner _).symm)
    unfold allocateEach at served few ⊢
    generalize first.allocate owner size align = result at answer present same served few ⊢
    generalize second.allocate owner size align = result' at answer' present' same ⊢
    obtain ⟨outcome, next⟩ := result
    obtain ⟨outcome', next'⟩ := result'
    cases outcome with
    | error failure => cases served
    | ok start =>
      obtain ⟨after, last, longer⟩ := allocateEach_length_le present rest
      have bound := few after last
      have profiles : (second.env skew').profile = (first.env skew).profile := profile
      obtain ⟨started, moved⟩ :=
        Arena.allocate_renumbered profiles answer.symm (Nat.le_trans longer bound) serial
      simp only at answer'
      rw [started] at answer'
      rw [moved] at present'
      subst answer'
      obtain ⟨finished, starts⟩ := ih same present present' served fun later found =>
        Nat.le_trans (few later found) (arena.allocate_length_le _ size align)
      exact ⟨finished, congrArg (start :: ·) starts⟩

end World

/-- What a rewind at the end of an interval has to bring about. -/
structure SnapshotInterval.Restored (interval : SnapshotInterval) (owner : Nat) (before : World)
    (base : Arena) (answer : Except Failure Unit × World) : Prop where
  arena : ∃ serial, answer.2.arena? owner = some { base with nextSerial := serial }
  /-- The call returns, unless it gave chunks back and cannot report that. -/
  returns : answer.1 = .ok () ∨
    (∃ arena, interval.world.arena? owner = some arena ∧ base.chunkCount < arena.chunkCount) ∧
      ∃ cause, interval.world.logs.complaint .debug = some cause ∧
        answer.1 = .error (.panic cause)
  bytes : ∀ chunk ∈ base.chunks, ∀ address, chunk.start ≤ address → address < chunk.finish →
    (base.chunks.head? = some chunk → address < base.cursor.next) →
      Untouched interval.touched address →
        answer.2.memory.read address = before.memory.read address
  requests : ∀ requests, (before.allocateEach owner requests).1 = .ok () →
    ((before.allocateEach owner requests).2.2.arena? owner).map Arena.chunkCount =
        some base.chunkCount →
      (answer.2.allocateEach owner requests).1 = .ok () ∧
        (answer.2.allocateEach owner requests).2.1 = (before.allocateEach owner requests).2.1

theorem Arena.holds_of_mem {arena : Arena} {chunk : Chunk} (member : chunk ∈ arena.chunks)
    {address : Nat} (low : chunk.start ≤ address) (high : address < chunk.finish)
    (below : arena.chunks.head? = some chunk → address < arena.cursor.next) :
    ∃ position, arena.Holds position address (address + 1) := by
  obtain ⟨position, found⟩ := List.getElem?_of_mem (List.mem_reverse.mpr member)
  refine ⟨position, ⟨chunk, found, low, high⟩, ?_⟩
  intro top
  apply below
  rw [← reverse_getElem?_head, ← top, Nat.add_sub_cancel]
  exact found

namespace SnapshotInterval

variable {before : World} {owner : Nat} {base : Arena}

theorem AllUpon.rewind_back {interval : SnapshotInterval} (allUpon : interval.AllUpon owner base)
    (settled : base.Consistent) (balanced : interval.guards = 0)
    (provided : Provided interval.world.traffic) :
    ∃ arena, interval.world.arena? owner = some arena ∧
      (interval.world.rewind owner base.snapshot).2.arena? owner =
        some (base.renumbered arena.nextSerial) ∧
      ((interval.world.rewind owner base.snapshot).1 = .ok () ∨
        base.chunkCount < arena.chunkCount ∧
          ∃ cause, interval.world.logs.complaint .debug = some cause ∧
            (interval.world.rewind owner base.snapshot).1 = .error (.panic cause)) := by
  obtain ⟨arena, present, upon⟩ := allUpon.upholds
  rw [balanced, Profile.counted_zero] at upon
  obtain ⟨skew, answer, after⟩ :=
    World.onArena_self present fun arena env => arena.rewind env base.snapshot
  have answer : (interval.world.rewind owner base.snapshot).1 = _ := answer
  have after : (interval.world.rewind owner base.snapshot).2.arena? owner = _ := after
  have back := upon.rewind_back settled (allUpon.sound owner arena present).consistent
    (allUpon.sound.small provided present) (interval.world.env skew)
  rw [back.1] at after
  rw [answer]
  exact ⟨arena, present, after, back.2⟩

theorem restored (sound : before.Sound) (found : before.arena? owner = some base)
    (turns : List Turn) (balanced : ((start before).run owner turns).guards = 0)
    (provided : Provided
      (((start before).run owner turns).world.rewind owner base.snapshot).2.traffic) :
    ((start before).run owner turns).Restored owner before base
      (((start before).run owner turns).world.rewind owner base.snapshot) := by
  have middle : Provided ((start before).run owner turns).world.traffic :=
    provided_of_suffix provided (World.onArena_suffix _ owner _)
  have settled := (sound owner base found).consistent
  have beginning := AllUpon.start sound found
  obtain ⟨arena, present, after, outcome⟩ :=
    (beginning.run settled turns middle).rewind_back settled balanced middle
  refine ⟨⟨arena.nextSerial, after⟩, ?_, ?_, ?_⟩
  · exact outcome.imp_right fun ⟨more, stopped⟩ => ⟨⟨arena, present, more⟩, stopped⟩
  · intro chunk member address low high below untouched
    obtain ⟨position, holds⟩ := Arena.holds_of_mem member low high below
    have some_chunk := List.ne_nil_of_mem member
    have remembers := (start_remembers sound found holds).run beginning settled some_chunk turns
      middle
    have chunks : (((start before).run owner turns).rewind owner base.snapshot).world.hasChunks
        owner = true := by
      simp only [SnapshotInterval.rewind, World.hasChunks, after, Arena.renumbered]
      simpa using some_chunk
    have kept := remembers.rewind List.mem_cons_self chunks untouched provided
    exact Holding.byte_intact_iff.mp (kept.intact _ List.mem_cons_self)
  · intro requests served few
    have profiles : (((start before).run owner turns).world.rewind owner base.snapshot).2.profile =
        before.profile :=
      (World.onArena_profile _ owner _).trans ((start before).run_profile owner turns)
    apply World.allocateEach_renumbered profiles found after requests served
    intro last reached
    rw [reached] at few
    exact Nat.le_of_eq (Option.some.inj few)

end SnapshotInterval

/-- After every interval, the rewind to where it began restores the arena. -/
theorem rewind_restores (profile : Profile) (site : Site) (logs : Logs) (earlier : List Action)
    {owner : Nat} {base : Arena}
    (found : ((World.new profile site logs).run earlier).arena? owner = some base)
    (turns : List Turn)
    (balanced : ((SnapshotInterval.start ((World.new profile site logs).run earlier)).run owner
      turns).guards = 0)
    (provided :
      Provided (((SnapshotInterval.start ((World.new profile site logs).run earlier)).run owner
      turns).world.rewind owner base.snapshot).2.traffic) :
    ((SnapshotInterval.start ((World.new profile site logs).run earlier)).run owner turns).Restored
    owner
      ((World.new profile site logs).run earlier) base
      (((SnapshotInterval.start ((World.new profile site logs).run earlier)).run owner
        turns).world.rewind
        owner base.snapshot) := by
  have middle := provided_of_suffix provided (World.onArena_suffix _ owner _)
  have first := provided_of_suffix middle (SnapshotInterval.run_traffic_suffix owner _ turns)
  have sound := (World.new_soundIfProvided profile site logs).run earlier first
  exact SnapshotInterval.restored sound found turns balanced provided

def settling : List Action :=
  [.create ⟨"pairs", 16⟩ 0, .create ⟨"lines", 64⟩ 0, .place 0 (.object .u32 [7]),
    .place 1 (.bytes 5 1)]

def detour : List Turn :=
  [.act (.place 0 (.bytes 3 1)), .save, .act (.disable 0), .act (.place 0 (.bytes 3 1)),
    .act (.enable 0), .act (.place 0 (.objectWith .u64 [(24, 8)] true [1])), .save,
    .act (.place 0 (.slice .u16 40 (fun _ => [0]) none)), .rewind 1, .rewind 0,
    .act (.place 0 (.bytes 8 8)),
    .rewind 1, .act (.rewind 1 ⟨.empty, 0⟩), .act (.drop 1),
    .act (.grow 0 105553116332036 3 5 1), .act (.place 0 (.bytes 100 64))]

theorem detour_restored :
    ∃ base, ((World.new .debug pagedSite (Logs.empty none)).run settling).arena? 0 = some base ∧
      ((SnapshotInterval.start ((World.new .debug pagedSite (Logs.empty none)).run settling)).run 0
        detour).Restored 0 ((World.new .debug pagedSite (Logs.empty none)).run settling) base
        (((SnapshotInterval.start ((World.new .debug pagedSite (Logs.empty none)).run settling)).run
          0
          detour).world.rewind 0 base.snapshot) := by
  have present : (((World.new .debug pagedSite (Logs.empty none)).run settling).arena? 0).isSome =
      true := by
    decide +kernel
  have provided : ∀ base ∈ ((World.new .debug pagedSite (Logs.empty none)).run settling).arena? 0,
      Provided (((SnapshotInterval.start ((World.new .debug pagedSite (Logs.empty none)).run
        settling)).run 0 detour).world.rewind 0 base.snapshot).2.traffic := by
    decide +kernel
  obtain ⟨base, found⟩ := Option.isSome_iff_exists.mp present
  exact ⟨base, found, rewind_restores .debug pagedSite (Logs.empty none) settling found detour
    (by decide +kernel) (provided base found)⟩

/-- With a core logger whose time format does not exist, a rewind that gives a chunk back stops. -/
theorem unwritable_report_stops_rewind :
    let logs := ((Logs.empty none).init Logs.coreName ⟨.debug, "Core", [.stdout], "%Q"⟩).2
    let before := (World.new .debug pagedSite logs).run [.create (Builder.mk "pairs" 16) 0]
    let interval := (SnapshotInterval.start before).run 0 [.act (.place 0 (.bytes 4 4))]
    ∃ base, before.arena? 0 = some base ∧ interval.guards = 0 ∧
      Provided (interval.world.rewind 0 base.snapshot).2.traffic ∧
      (interval.world.rewind 0 base.snapshot).1 = .error (.panic .timeFormat) := by
  refine ⟨(Builder.mk "pairs" 16).build, rfl, ?_⟩
  decide +kernel

end ChunkArena
