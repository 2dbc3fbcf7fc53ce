import UnitCache.Proofs.Balance
import UnitCache.Proofs.Refusals
/-!
Rounds in which all units are to be built anew. A round goes through the units one by one: it marks the path of each
that has no mark and queues a job for it as long as there is room, and leaves the others as they were. It goes through
them in any order, so which jobs are queued is open if there is no room for all; how many there are is not.
-/
namespace UnitCache

variable {α κ : Type}

def Queue.room (queue : Queue κ) : Nat := queue.capacity - queue.jobs.length

def Request.refresh (request : Request) : Job κ := { request, kind := .reparse }

namespace Store

def idlePaths (store : Store α κ) : List Path := store.units.keys.filter fun path => !store.isParsing path

/-- Whether a round is through without waiting: the queue is open, and it has room for all jobs of the round or
refuses those for which it has none. -/
def TakesRound (store : Store α κ) (background : Bool) : Prop :=
  store.queue.isOpen = true ∧ (background = true ∨ store.idlePaths.length ≤ store.queue.room)

/-- The requests for which jobs are queued if a round goes through them in this order. -/
def chosen (store : Store α κ) (order : List Request) : List Request :=
  (order.filter fun request => !store.isParsing request.path).take store.queue.room

def refreshing (store : Store α κ) (requests : List Request) : Store α κ :=
  { store with
    parsing := requests.foldl (fun marks request => marks.insert request.path ()) store.parsing
    queue := { store.queue with jobs := store.queue.jobs ++ requests.map Request.refresh } }

section Queueing

variable {store : Store α κ}

theorem isParsing_refreshing (store : Store α κ) (requests : List Request) (path : Path) :
    (store.refreshing requests).isParsing path =
      (store.isParsing path || requests.any fun request => request.path == path) := by
  suffices general : ∀ marks : PathSet,
      (requests.foldl (fun marks request => marks.insert request.path ()) marks).contains path =
        (marks.contains path || requests.any fun request => request.path == path) from general store.parsing
  induction requests with
  | nil => simp
  | cons request rest ih =>
    intro marks
    rw [List.foldl_cons, ih, PathMap.contains_insert, List.any_cons]
    cases request.path == path <;> simp

theorem refreshing_nil (store : Store α κ) : store.refreshing [] = store := by simp [refreshing]

theorem refreshing_append (store : Store α κ) (first second : List Request) :
    (store.refreshing first).refreshing second = store.refreshing (first ++ second) := by
  simp [refreshing]

theorem room_refreshing (store : Store α κ) (requests : List Request) :
    (store.refreshing requests).queue.room = store.queue.room - requests.length := by
  simp only [refreshing, Queue.room, List.length_append, List.length_map]
  omega

theorem chosen_of_marked {request : Request} (marked : store.isParsing request.path = true) :
    store.chosen [request] = [] := by simp [chosen, marked]

theorem chosen_of_room {request : Request} (free : store.isParsing request.path = false)
    (room : 0 < store.queue.room) : store.chosen [request] = [request] := by
  simp only [chosen, List.filter_cons, free, Bool.not_false, if_true, List.filter_nil]
  exact List.take_of_length_le room

theorem chosen_of_full (full : store.queue.room = 0) (order : List Request) : store.chosen order = [] := by
  simp [chosen, full]

theorem chosen_cons {request : Request} {rest : List Request}
    (apart : ∀ other ∈ rest, (request.path == other.path) = false) :
    store.chosen (request :: rest) =
      store.chosen [request] ++ (store.refreshing (store.chosen [request])).chosen rest := by
  cases marked : store.isParsing request.path with
  | true =>
    rw [chosen_of_marked marked, refreshing_nil]
    simp [chosen, marked]
  | false =>
    rcases Nat.eq_zero_or_pos store.queue.room with full | room
    · rw [chosen_of_full full, chosen_of_full full, refreshing_nil, chosen_of_full full]
      rfl
    · rw [chosen_of_room marked room]
      have others : rest.filter (fun other => !(store.refreshing [request]).isParsing other.path) =
          rest.filter fun other => !store.isParsing other.path :=
        List.filter_congr fun other inside => by simp [isParsing_refreshing, apart other inside]
      obtain ⟨less, known⟩ : ∃ less, store.queue.room = less + 1 := Nat.exists_eq_succ_of_ne_zero room.ne'
      rw [chosen, chosen, others, room_refreshing, known]
      simp [marked]

end Queueing

end Store

namespace Interleaving

section Units

variable {background : Bool} {store : Store α κ} {last : Turn α κ} {warnings : List Warning}

structure Ahead (background : Bool) (store : Store α κ) (left : List Request) : Prop where
  isOpen : store.queue.isOpen = true
  there : ∀ request ∈ left, (store.peek request.path).isSome = true
  tidy : ∀ request ∈ left, store.isParsing request.path = false → store.pending.get? request.path = none
  apart : left.Pairwise fun first second => (first.path == second.path) = false
  room : background = true ∨ (left.filter fun request => !store.isParsing request.path).length ≤ store.queue.room

theorem Ahead.of_perm {left order : List Request} (ahead : Ahead background store left) (same : order.Perm left) :
    Ahead background store order where
  isOpen := ahead.isOpen
  there request inside := ahead.there request (same.mem_iff.mp inside)
  tidy request inside := ahead.tidy request (same.mem_iff.mp inside)
  apart := (same.pairwise_iff fun {first second} apart => by rwa [BEq.comm]).mpr ahead.apart
  room := ahead.room.imp_right fun enough => by rwa [(same.filter _).length_eq]

theorem Ahead.tail {request : Request} {left : List Request} (ahead : Ahead background store (request :: left)) :
    Ahead background (store.refreshing (store.chosen [request])) left := by
  obtain ⟨isOpen, there, tidy, apart, room⟩ := ahead
  obtain ⟨elsewhere, apart⟩ := List.pairwise_cons.mp apart
  have others : left.filter (fun other => !(store.refreshing (store.chosen [request])).isParsing other.path) =
      left.filter fun other => !store.isParsing other.path := by
    refine List.filter_congr fun other inside => ?_
    have unmarked : (store.chosen [request]).any (fun own => own.path == other.path) = false := by
      rw [List.any_eq_false]
      intro own taken
      have same : own = request := List.mem_singleton.mp (List.mem_of_mem_filter (List.mem_of_mem_take taken))
      rw [same, elsewhere other inside]
      exact Bool.false_ne_true
    rw [Store.isParsing_refreshing, unmarked, Bool.or_false]
  refine ⟨isOpen, fun other inside => there other (.tail _ inside), fun other inside free => ?_, apart,
    room.imp_right fun enough => ?_⟩
  · rw [Store.isParsing_refreshing, Bool.or_eq_false_iff] at free
    exact tidy other (.tail _ inside) free.1
  · rw [others, Store.room_refreshing, Store.chosen, List.length_take]
    cases marked : store.isParsing request.path with
    | true => simpa [marked] using enough
    | false =>
      simp only [List.filter_cons, List.filter_nil, marked, Bool.not_false, if_true, List.length_cons,
        List.length_nil] at enough ⊢
      omega

theorem comes_unit {request : Request} {left : List Request} {queued : Nat}
    (ahead : Ahead background store (request :: left)) :
    Comes background ((Activity.refreshNext (request :: left) queued).step background store) last ↔
      Comes background (.next (store.refreshing (store.chosen [request]))
        (.refreshNext left (queued + (store.chosen [request]).length)) []) last := by
  have there := ahead.there request List.mem_cons_self
  have tidy := ahead.tidy request List.mem_cons_self
  simp only [Activity.step]
  rw [comes_next rfl]
  rcases admitReparse_cases store request.path with ⟨absent | marked, told⟩ | ⟨_, free, told⟩
  · rw [absent] at there
    cases there
  · rw [Store.chosen_of_marked marked, Store.refreshing_nil]
    simp only [Activity.step, told]
    rfl
  · simp only [Activity.step, told]
    rcases Nat.eq_zero_or_pos store.queue.room with full | room
    · have patient : background = true := ahead.room.resolve_right (by simp [free, full])
      have refuses : store.Refuses background := .inr ⟨patient, Nat.sub_eq_zero_iff_le.mp full⟩
      rw [comes_marked refuses { request, kind := .reparse } _ free (tidy free), Store.chosen_of_full full,
        Store.refreshing_nil]
      rfl
    · have accepted : (store.mark request.path).enqueue background (Request.refresh request) =
          (.accepted, store.refreshing [request]) := by
        have space : store.queue.jobs.length < store.queue.capacity := Nat.lt_of_sub_pos room
        simp [Store.enqueue, Store.mark, free, ahead.isOpen, space, Store.refreshing]
      rw [comes_next rfl, Store.chosen_of_room free room]
      simp only [Activity.step]
      rw [← Request.refresh, accepted]
      rfl

theorem comes_refreshNext {left : List Request} {queued : Nat} :
    Comes background (.next store (.refreshNext left queued) warnings) last ↔
      ∃ order, order.Perm left ∧
        Comes background ((Activity.refreshNext order queued).step background store) last := by
  constructor
  · intro comes
    generalize going : Turn.next store (.refreshNext left queued) warnings = turn at comes
    induction comes generalizing left warnings with
    | rests rests =>
      cases going
      cases rests
    | next _ _ _ chosen rest ih =>
      cases going
      cases rule_of_turn chosen with
      | refreshed => exact ⟨[], .refl _, rest⟩
      | refreshNext request left => exact ⟨request :: left, .refl _, rest⟩
      | reorder _ order _ same =>
        obtain ⟨final, again, comes⟩ := ih rfl
        exact ⟨final, again.trans (List.isPerm_iff.mp same).symm, comes⟩
  · rintro ⟨order, same, comes⟩
    have reordered : turn? background store (.refreshNext left queued) (.reorder order) =
        some (.next store (.refreshNext order queued) []) := if_pos (List.isPerm_iff.mpr same.symm)
    exact .next store _ warnings reordered (.of_step store _ [] comes)

theorem comes_round {left : List Request} {queued : Nat} (ahead : Ahead background store left) :
    Comes background (.next store (.refreshNext left queued) warnings) last ↔
      ∃ order, order.Perm left ∧
        last = .done (store.refreshing (store.chosen order)) (.refreshed (queued + (store.chosen order).length)) [] := by
  induction length : left.length generalizing store left queued warnings with
  | zero =>
    obtain rfl := List.length_eq_zero_iff.mp length
    simp only [comes_refreshNext, List.perm_nil, exists_eq_left]
    rw [show store.chosen [] = [] by simp [Store.chosen], Store.refreshing_nil]
    exact comes_of_rests rfl
  | succ size ih =>
    rw [comes_refreshNext]
    constructor
    · rintro ⟨order, same, comes⟩
      obtain ⟨request, rest, rfl⟩ : ∃ request rest, order = request :: rest :=
        List.exists_cons_of_length_eq_add_one (same.length_eq.trans length)
      have now := ahead.of_perm same
      obtain ⟨later, moved, rfl⟩ := (ih now.tail (by simpa [length] using same.length_eq)).mp ((comes_unit now).mp comes)
      have again := same.symm.trans (moved.symm.cons request)
      refine ⟨request :: later, again.symm, ?_⟩
      rw [Store.chosen_cons (List.pairwise_cons.mp (ahead.of_perm again.symm).apart).1, Store.refreshing_append,
        List.length_append, Nat.add_assoc]
    · rintro ⟨order, same, rfl⟩
      obtain ⟨request, rest, rfl⟩ : ∃ request rest, order = request :: rest :=
        List.exists_cons_of_length_eq_add_one (same.length_eq.trans length)
      have now := ahead.of_perm same
      refine ⟨request :: rest, same, (comes_unit now).mpr ((ih now.tail (by simpa [length] using same.length_eq)).mpr ?_)⟩
      refine ⟨rest, .refl _, ?_⟩
      rw [Store.chosen_cons (List.pairwise_cons.mp now.apart).1, Store.refreshing_append, List.length_append,
        Nat.add_assoc]

end Units

section Stores

variable {background : Bool} {store : Store α κ} {last : Turn α κ}

/-- Units stand under paths of their own, each path has one, and nothing is put down for a path without a mark. -/
structure Regular (store : Store α κ) : Prop where
  keyed : Keyed store
  distinct : store.units.Distinct
  tidy : ∀ path, store.isParsing path = false → store.pending.get? path = none

theorem Regular.refreshing (regular : Regular store) (requests : List Request) : Regular (store.refreshing requests) where
  keyed := ⟨regular.keyed.units, regular.keyed.pending⟩
  distinct := regular.distinct
  tidy path free := by
    rw [Store.isParsing_refreshing, Bool.or_eq_false_iff] at free
    exact regular.tidy path free.1

theorem perm_requests (store : Store α κ) :
    store.requests.Perm (store.units.entries.map fun entry => entry.2.request) := by
  have requests : store.units.values.map Handle.request = store.units.entries.map fun entry => entry.2.request := by
    simp [PathMap.values]
  rw [Store.requests, requests]
  exact List.mergeSort_perm ..

theorem Regular.path_eq (regular : Regular store) {entry : Path × Handle} (inside : entry ∈ store.units.entries) :
    (entry.2.request.path == entry.1) = true :=
  regular.keyed.units _ _ (PathMap.get?_of_mem regular.distinct inside)

theorem Regular.peek_of_request (regular : Regular store) {request : Request} (inside : request ∈ store.requests) :
    (store.peek request.path).map Handle.request = some request := by
  obtain ⟨entry, known, rfl⟩ := List.mem_map.mp ((perm_requests store).mem_iff.mp inside)
  have found : store.peek entry.1 = some entry.2 := PathMap.get?_of_mem regular.distinct known
  rw [Store.peek, store.units.get?_congr (regular.path_eq known), ← Store.peek, found]
  rfl

theorem mem_requests {path : Path} {handle : Handle} (found : store.peek path = some handle) :
    handle.request ∈ store.requests := by
  obtain ⟨key, inside, _⟩ := PathMap.mem_of_get? found
  exact (perm_requests store).mem_iff.mpr (List.mem_map_of_mem inside)

theorem Regular.apart (regular : Regular store) :
    store.requests.Pairwise fun first second => (first.path == second.path) = false := by
  have keys : store.units.entries.Pairwise fun first second => (first.1 == second.1) = false :=
    List.pairwise_map.mp regular.distinct
  refine ((perm_requests store).pairwise_iff fun {first second} apart => by rwa [BEq.comm]).mpr
    (List.pairwise_map.mpr (keys.imp_of_mem fun {first second} known also apart => ?_))
  rw [Bool.eq_false_iff] at apart ⊢
  exact fun same => apart (BEq.trans (BEq.symm (regular.path_eq known)) (BEq.trans same (regular.path_eq also)))

theorem Regular.length_idle (regular : Regular store) {order : List Request} (same : order.Perm store.requests) :
    (order.filter fun request => !store.isParsing request.path).length = store.idlePaths.length := by
  have marks : ∀ entry ∈ store.units.entries,
      (!store.isParsing entry.2.request.path) = !store.isParsing entry.1 := fun entry inside => by
    rw [Store.isParsing, Store.isParsing, store.parsing.contains_congr (regular.path_eq inside)]
  rw [((same.trans (perm_requests store)).filter _).length_eq, Store.idlePaths, PathMap.keys, List.filter_map,
    List.filter_map, List.length_map, List.length_map]
  exact congrArg List.length (List.filter_congr marks)

theorem Regular.ahead (regular : Regular store) (takes : store.TakesRound background) :
    Ahead background store store.requests where
  isOpen := takes.1
  there request inside := by
    have found := regular.peek_of_request inside
    cases entry : store.peek request.path with
    | none => simp [entry] at found
    | some => rfl
  tidy request _ := regular.tidy request.path
  apart := regular.apart
  room := takes.2.imp_right fun enough => by rwa [regular.length_idle (.refl _)]

theorem comes_collect (regular : Regular store) (takes : store.TakesRound background) :
    Comes background (Activity.collect.step background store) last ↔
      ∃ order, order.Perm store.requests ∧
        last = .done (store.refreshing (store.chosen order)) (.refreshed (store.chosen order).length) [] := by
  simp only [Activity.step, comes_round (regular.ahead takes), Nat.zero_add]

theorem length_chosen (regular : Regular store) {order : List Request} (same : order.Perm store.requests) :
    (store.chosen order).length = min store.idlePaths.length store.queue.room := by
  rw [Store.chosen, List.length_take, regular.length_idle same, Nat.min_comm]

theorem of_mem_chosen {order : List Request} {request : Request} (inside : request ∈ store.chosen order) :
    request ∈ order ∧ store.isParsing request.path = false := by
  simpa using List.mem_filter.mp (List.mem_of_mem_take inside)

theorem Regular.mem_chosen (regular : Regular store) {order : List Request} (same : order.Perm store.requests)
    (room : store.idlePaths.length ≤ store.queue.room) {request : Request} (inside : request ∈ store.requests)
    (free : store.isParsing request.path = false) : request ∈ store.chosen order := by
  rw [← regular.length_idle same] at room
  rw [Store.chosen, List.take_of_length_le room, List.mem_filter]
  exact ⟨same.mem_iff.mpr inside, by rw [free]; rfl⟩

/-- After a round there is no unit without a mark, or no room. -/
theorem Regular.chosen_again (regular : Regular store) {order again : List Request}
    (same : order.Perm store.requests) (also : again.Perm (store.refreshing (store.chosen order)).requests) :
    (store.refreshing (store.chosen order)).chosen again = [] := by
  have also : again.Perm store.requests := also
  rcases Nat.le_total store.idlePaths.length store.queue.room with room | full
  · have marked : again.filter (fun request =>
        !(store.refreshing (store.chosen order)).isParsing request.path) = [] := by
      rw [List.filter_eq_nil_iff]
      intro request inside
      rw [Store.isParsing_refreshing]
      cases free : store.isParsing request.path with
      | true => simp
      | false =>
        have taken := regular.mem_chosen same room (also.mem_iff.mp inside) free
        simpa using ⟨request, taken, BEq.rfl⟩
    rw [Store.chosen, marked, List.take_nil]
  · refine Store.chosen_of_full ?_ again
    rw [Store.room_refreshing, length_chosen regular same, Nat.min_eq_right full, Nat.sub_self]

theorem Regular.comes_again (regular : Regular store) {order : List Request} (same : order.Perm store.requests)
    (takes : (store.refreshing (store.chosen order)).TakesRound background) :
    Comes background (Activity.collect.step background (store.refreshing (store.chosen order))) last ↔
      last = .done (store.refreshing (store.chosen order)) (.refreshed 0) [] := by
  rw [comes_collect (regular.refreshing _) takes]
  constructor
  · rintro ⟨again, also, rfl⟩
    rw [regular.chosen_again same also, Store.refreshing_nil]
    rfl
  · rintro rfl
    refine ⟨_, .refl _, ?_⟩
    rw [regular.chosen_again same (.refl _), Store.refreshing_nil]
    rfl

end Stores

structure Round (store next : Store α κ) (chosen : List Request) : Prop where
  /-- The jobs stand behind those that were queued before, and have no callbacks. -/
  queue : next.queue = { store.queue with
    jobs := store.queue.jobs ++ chosen.map fun request => { request, kind := .reparse, callback := none } }
  /-- Each is for the request of a unit whose path had no mark, -/
  idle : ∀ request ∈ chosen,
    (store.peek request.path).map Handle.request = some request ∧ store.isParsing request.path = false
  /-- no two are for one path, -/
  apart : chosen.Pairwise fun first second => (first.path == second.path) = false
  /-- and there are as many as there are such paths, or as there is room for. -/
  count : chosen.length = min store.idlePaths.length store.queue.room
  all : store.idlePaths.length ≤ store.queue.room → ∀ path handle, store.peek path = some handle →
    store.isParsing path = false → handle.request ∈ chosen
  /-- Their paths are marked, and those that were. -/
  marks : ∀ path, next.isParsing path = (store.isParsing path || chosen.any fun request => request.path == path)
  same : next = { store with parsing := next.parsing, queue := next.queue }

theorem Regular.round {store : Store α κ} (regular : Regular store) {order : List Request}
    (same : order.Perm store.requests) : Round store (store.refreshing (store.chosen order)) (store.chosen order) where
  queue := rfl
  idle request inside := by
    obtain ⟨known, free⟩ := of_mem_chosen inside
    exact ⟨regular.peek_of_request (same.mem_iff.mp known), free⟩
  apart := by
    have apart : order.Pairwise fun first second => (first.path == second.path) = false :=
      (same.pairwise_iff fun {first second} apart => by rwa [BEq.comm]).mpr regular.apart
    exact (apart.filter _).sublist (List.take_sublist ..)
  count := length_chosen regular same
  all room path handle found free := by
    have unmarked : store.isParsing handle.request.path = false :=
      (store.parsing.contains_congr (regular.keyed.units path handle found)).trans free
    exact regular.mem_chosen same room (mem_requests found) unmarked
  marks := store.isParsing_refreshing _
  same := rfl

section Runs

variable {flags : ParseFlags} {capacity : Nat} {roles : List Role} {history : List (Moment α κ)} {system : System α κ}

theorem Run.regular (run : Run flags capacity roles history system) : Regular system.store :=
  ⟨run.sound.1.keyed, run.balanced.distinct, fun _ => run.pending_of_free⟩

/-- A round that need not wait comes to an end, and queues a job for each unit whose path has no mark, or as many as
there is room for: each for the request that the unit was built for, behind all jobs that wait. It marks the paths of
these, leaves all else as it was, and tells how many they are. Another round right after it queues none and changes
nothing. -/
theorem rounds_queue_idle_units (run : Run flags capacity roles history system) {background : Bool}
    (takes : system.store.TakesRound background) :
    (∃ last, Comes background (Activity.collect.step background system.store) last) ∧
    ∀ last, Comes background (Activity.collect.step background system.store) last →
      ∃ next chosen, last = .done next (.refreshed chosen.length) [] ∧ Round system.store next chosen ∧
        ∀ again, next.TakesRound again → ∀ after : Turn α κ,
          Comes again (Activity.collect.step again next) after ↔ after = .done next (.refreshed 0) [] := by
  have regular := run.regular
  refine ⟨⟨_, (comes_collect regular takes).mpr ⟨_, .refl _, rfl⟩⟩, fun last comes => ?_⟩
  obtain ⟨order, same, rfl⟩ := (comes_collect regular takes).mp comes
  exact ⟨_, _, rfl, regular.round same, fun again takes_again after => regular.comes_again same takes_again⟩

end Runs

def queuesOne : List (Move Unit Unit) :=
  ["a.c", "b.c", "c.c"].flatMap (fun file =>
    [.thread 0 (.call (.getUnit ⟨⟨file⟩, ["-g"], none⟩)), .thread 0 .proceed, .thread 0 .proceed,
      .thread 0 (.parsed (.ok ())), .thread 0 .proceed, .thread 0 .proceed]) ++
    [.thread 0 (.call (.addReparse { request := ⟨⟨"c.c"⟩, ["-g"], none⟩ })), .thread 0 .proceed, .thread 0 .proceed]

/-- There is room for one more job and two units have no mark; so one of them is chosen. -/
theorem round_queues_as_many_as_there_is_room_for :
    ∃ (history : List (Moment Unit Unit)) (system : System Unit Unit), Run ⟨0⟩ 2 [.client] history system ∧
      system.store.TakesRound true ∧ system.store.idlePaths = [⟨"a.c"⟩, ⟨"b.c"⟩] ∧
      (∃ last, Comes true (Activity.collect.step true system.store) last) ∧
      ∀ last, Comes true (Activity.collect.step true system.store) last →
        ∃ next chosen, last = .done next (.refreshed 1) [] ∧ Round system.store next chosen ∧
          ∀ again, next.TakesRound again → ∀ after : Turn Unit Unit,
            Comes again (Activity.collect.step again next) after ↔ after = .done next (.refreshed 0) [] := by
  obtain ⟨history, system, run, checked⟩ := Run.of_follow ⟨0⟩ 2 [.client] queuesOne
    (fun _ system => system.store.queue.isOpen && system.store.queue.room == 1 &&
      decide (system.store.idlePaths = [⟨"a.c"⟩, ⟨"b.c"⟩])) (by decide)
  obtain ⟨⟨isOpen, room⟩, idle⟩ : (system.store.queue.isOpen = true ∧ system.store.queue.room = 1) ∧
      system.store.idlePaths = [⟨"a.c"⟩, ⟨"b.c"⟩] := by simpa using checked
  have takes : system.store.TakesRound true := ⟨isOpen, .inl rfl⟩
  obtain ⟨ends, all⟩ := rounds_queue_idle_units run takes
  refine ⟨history, system, run, takes, idle, ends, fun last comes => ?_⟩
  obtain ⟨next, chosen, rfl, round, again⟩ := all last comes
  have one : chosen.length = 1 := by rw [round.count, idle, room]; rfl
  exact ⟨next, chosen, by rw [one], round, again⟩

end Interleaving
end UnitCache
