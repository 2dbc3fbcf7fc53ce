import UnitCache.Proofs.Passage
/-!
The course of a path through a run. No mark has two owners, so what a run does to a path is a row of deeds, and how the
path stands after each of them hangs on nothing but how it stood before. What is to be known of one path can be proved
along its course, without regard to threads.
-/
namespace UnitCache.Interleaving

variable {α κ : Type}

/-- No mark has two owners, and what is owned is marked. -/
structure Coherent (system : System α κ) : Prop where
  single : ∀ path, (system.phases path).length ≤ 1
  marked : ∀ path, system.phases path ≠ [] → system.store.isParsing path = true

def System.phase? (system : System α κ) (path : Path) : Option Phase := (system.phases path).head?

def deeds (path : Path) (history : List (Moment α κ)) : List (Nat × Deed) := history.filterMap (Moment.at? path)

/-- How a deed changes a path, for which the frame that does it owns the mark or not. -/
inductive Passage (path : Path) : Option (Nat × Deed) → View → Option Phase → View → Option Phase → Prop where
  | still (held : View) (phase : Option Phase) : Passage path none held phase held phase
  | own {number : Nat} {deed : Deed} {held next : View} {phase later : Option Phase}
      (effect : Effect number path (some deed) held phase next later) :
      Passage path (some (number, deed)) held phase next later
  | aside {number : Nat} {deed : Deed} {held next : View} (effect : Effect number path (some deed) held none next none)
      (phase : Option Phase) : Passage path (some (number, deed)) held phase next phase
  | discarded (number : Nat) (held : View) (phase : Phase)
      (waits : phase = .busy ∨ ∃ request, phase = .wanted request none) :
      Passage path (some (number, .discarded)) held (some phase) held none

inductive Course (path : Path) : List (Nat × Deed) → View → Option Phase → Prop where
  | start : Course path [] ⟨none, false, none⟩ none
  | deed {earlier : List (Nat × Deed)} {held next : View} {phase later : Option Phase} {number : Nat} {deed : Deed}
      (course : Course path earlier held phase) (passage : Passage path (some (number, deed)) held phase next later) :
      Course path (earlier ++ [(number, deed)]) next later

section Effects

variable {number : Nat} {path : Path} {deed : Option Deed} {held next : View} {phase later : Option Phase}

theorem Effect.keeps_entry (effect : Effect number path deed held phase next later)
    (keyed : ∀ handle, held.entry = some handle → (handle.request.path == path) = true) :
    ∀ handle, next.entry = some handle → (handle.request.path == path) = true := by
  intro handle found
  cases effect with
  | kept _ other same => exact Option.some.inj found ▸ same
  | dropped _ other there => cases found
  | stocked _ request stale => cases found
  | evicted _ there =>
    cases there with
    | true => cases found
    | false => exact keyed handle found
  | _ => exact keyed handle found

theorem Effect.keeps_pending (effect : Effect number path deed held phase next later)
    (keyed : ∀ request, held.pending = some request → (request.path == path) = true) :
    ∀ request, next.pending = some request → (request.path == path) = true := by
  intro request found
  cases effect with
  | recorded _ other same => exact Option.some.inj found ▸ same
  | tookOver _ other byJob put stale => cases found
  | cleared _ served => cases found
  | released => cases found
  | _ => exact keyed request found

theorem Effect.gains {last : Phase} (effect : Effect number path deed held none next (some last)) :
    held.marked = false ∧ next.marked = true := by
  cases effect with
  | first _ _ _ _ free => exact ⟨free, rfl⟩
  | admitted _ _ _ _ free => exact ⟨free, rfl⟩
  | refreshing _ _ free => exact ⟨free, rfl⟩

/-- Only the owner of a mark takes it off. -/
theorem Effect.marked_of_aside (effect : Effect number path deed held none next none) : next.marked = held.marked := by
  cases effect <;> rfl

theorem Effect.marked_of_own {first last : Phase}
    (effect : Effect number path deed held (some first) next (some last)) :
    next.marked = held.marked := by
  cases effect <;> rfl

theorem Effect.still {deed : Option Deed} (effect : Effect number path deed held phase next later)
    (nothing : deed = none) : next = held ∧ later = phase := by
  subst nothing
  cases effect
  exact ⟨rfl, rfl⟩

end Effects

theorem phases_perm {system : System α κ} {mark : Option (Path × Phase)} {others : List (Path × Phase)}
    (known : system.stakes.Perm (mark.toList ++ others)) (path : Path) :
    (system.phases path).Perm
      ((onPath path mark).toList ++ others.filterMap fun stake => onPath path (some stake)) := by
  have cut : (mark.toList.filterMap fun stake => onPath path (some stake)) = (onPath path mark).toList := by
    cases mark with
    | none => rfl
    | some stake => cases here : onPath path (some stake) <;> simp [here]
  have moved := known.filterMap fun stake => onPath path (some stake)
  rwa [List.filterMap_append, cut] at moved

theorem head?_of_perm {phases : List Phase} {phase : Phase} (known : phases.Perm [phase]) :
    phases.head? = some phase := by
  rw [List.perm_singleton.mp known]
  rfl

theorem short_cases {phases : List Phase} (short : phases.length ≤ 1) : phases = [] ∨ ∃ phase, phases = [phase] := by
  cases phases with
  | nil => exact .inl rfl
  | cons phase rest => exact .inr ⟨phase, by simpa using short⟩

theorem head?_of_perm_short {phases others : List Phase} (moved : phases.Perm others) (short : others.length ≤ 1) :
    phases.head? = others.head? := by
  rcases short_cases short with rfl | ⟨phase, rfl⟩
  · rw [moved.eq_nil]
  · rw [List.perm_singleton.mp moved]

section Moves

variable {system next : System α κ} {move : Move α κ}

/-- What a trade of marks does to the owners of one path. -/
structure Trade (system next : System α κ) (path : Path) (number : Nat) (deed : Option Deed) where
  gone : Option Phase
  come : Option Phase
  others : List Phase
  before : (system.phases path).Perm (gone.toList ++ others)
  behind : (next.phases path).Perm (come.toList ++ others)
  effect : Effect number path deed (view system.store path) gone (view next.store path) come

def Exchange.trade (exchange : Exchange system move next) (path : Path) :
    Trade system next path exchange.number (onPath path exchange.deed) where
  gone := onPath path exchange.gone
  come := onPath path exchange.come
  others := exchange.others.filterMap fun stake => onPath path (some stake)
  before := phases_perm exchange.before path
  behind := phases_perm exchange.behind path
  effect := exchange.works path

theorem Exchange.at? (exchange : Exchange system move next) (path : Path) :
    (⟨system, move⟩ : Moment α κ).at? path = (onPath path exchange.deed).map (exchange.number, ·) := by
  rw [Moment.at?, exchange.told, Option.map_map]
  exact onPath_map path (exchange.number, ·) _

theorem Trade.cases {path : Path} {number : Nat} {deed : Option Deed} (trade : Trade system next path number deed)
    (coherent : Coherent system) :
    (∃ phase, trade.gone = some phase ∧ trade.others = []) ∨ (trade.gone = none ∧ trade.come = none) ∨
      (∃ phase, trade.gone = none ∧ trade.come = some phase ∧ trade.others = []) := by
  cases gone : trade.gone with
  | some phase =>
    have short := coherent.single path
    rw [trade.before.length_eq, gone] at short
    refine .inl ⟨phase, rfl, ?_⟩
    simpa using short
  | none =>
    cases come : trade.come with
    | none => exact .inr (.inl ⟨rfl, rfl⟩)
    | some phase =>
      refine .inr (.inr ⟨phase, rfl, rfl, ?_⟩)
      have effect := trade.effect
      rw [gone, come] at effect
      -- The path was free before it was marked, and what has an owner is not free.
      have free : system.store.isParsing path = false := effect.gains.1
      by_contra owned
      have unowned : system.phases path ≠ [] := by
        intro nobody
        have before := trade.before
        rw [nobody, gone] at before
        exact owned (by simpa using before.symm.eq_nil)
      rw [coherent.marked path unowned] at free
      cases free

theorem Passage.of_effect {path : Path} {number : Nat} {deed : Option Deed} {held behind : View}
    {phase later : Option Phase} (effect : Effect number path deed held phase behind later) :
    Passage path (deed.map (number, ·)) held phase behind later := by
  cases told : deed with
  | none =>
    obtain ⟨rfl, rfl⟩ := effect.still told
    exact .still _ _
  | some deed =>
    subst told
    exact .own effect

theorem Passage.of_aside {path : Path} {number : Nat} {deed : Option Deed} {held behind : View}
    (effect : Effect number path deed held none behind none) (phase : Option Phase) :
    Passage path (deed.map (number, ·)) held phase behind phase := by
  cases told : deed with
  | none =>
    obtain ⟨rfl, _⟩ := effect.still told
    exact .still _ _
  | some deed =>
    subst told
    exact .aside effect phase

theorem Passage.nothing {path : Path} {held behind : View} {phase later : Option Phase}
    (passage : Passage path none held phase behind later) : behind = held ∧ later = phase := by
  cases passage
  exact ⟨rfl, rfl⟩

theorem passage_of_exchange (coherent : Coherent system) (exchange : Exchange system move next) (path : Path) :
    Passage path ((⟨system, move⟩ : Moment α κ).at? path) (view system.store path) (system.phase? path)
      (view next.store path) (next.phase? path) := by
  rw [exchange.at?]
  have before := (exchange.trade path).before
  have behind := (exchange.trade path).behind
  have effect := (exchange.trade path).effect
  rcases (exchange.trade path).cases coherent with ⟨phase, gone, alone⟩ | ⟨gone, come⟩ | ⟨phase, gone, come, alone⟩
  · rw [gone] at effect before
    rw [alone, List.append_nil] at before behind
    have was : system.phase? path = some phase := head?_of_perm before
    have is : next.phase? path = (exchange.trade path).come := by
      cases come : (exchange.trade path).come with
      | none =>
        rw [come] at behind
        rw [System.phase?, behind.eq_nil]
        rfl
      | some last =>
        rw [come] at behind
        exact head?_of_perm behind
    rw [was, is]
    exact .of_effect effect
  · rw [gone, come] at effect
    rw [gone] at before
    rw [come] at behind
    have same : next.phase? path = system.phase? path :=
      head?_of_perm_short (behind.trans before.symm) (coherent.single path)
    rw [same]
    exact .of_aside effect _
  · rw [gone, come] at effect
    rw [gone, alone] at before
    rw [come, alone] at behind
    have was : system.phase? path = none := by rw [System.phase?, before.eq_nil]; rfl
    have is : next.phase? path = some phase := head?_of_perm behind
    rw [was, is]
    exact .of_effect effect

theorem coherent_of_exchange (coherent : Coherent system) (exchange : Exchange system move next) : Coherent next := by
  have each (path : Path) : (next.phases path).length ≤ 1 ∧
      (next.phases path ≠ [] → next.store.isParsing path = true) := by
    have short := coherent.single path
    have before := (exchange.trade path).before
    have behind := (exchange.trade path).behind
    have effect := (exchange.trade path).effect
    rcases (exchange.trade path).cases coherent with ⟨phase, gone, alone⟩ | ⟨gone, come⟩ | ⟨phase, gone, come, alone⟩
    · rw [gone] at effect before
      rw [alone, List.append_nil] at before behind
      have marked : system.store.isParsing path = true := coherent.marked path fun nobody => by
        rw [nobody] at before
        simpa using before.length_eq
      cases come : (exchange.trade path).come with
      | none =>
        rw [come] at behind
        simp [behind.eq_nil]
      | some last =>
        rw [come] at effect behind
        refine ⟨Nat.le_of_eq behind.length_eq, fun _ => ?_⟩
        exact effect.marked_of_own.trans marked
    · rw [gone, come] at effect
      rw [gone] at before
      rw [come] at behind
      have moved := behind.trans before.symm
      refine ⟨moved.length_eq ▸ short, fun owned => ?_⟩
      have marked : system.store.isParsing path = true := coherent.marked path fun nobody => by
        rw [nobody] at moved
        exact owned moved.eq_nil
      exact effect.marked_of_aside.trans marked
    · rw [gone, come] at effect
      rw [come, alone] at behind
      exact ⟨Nat.le_of_eq behind.length_eq, fun _ => effect.gains.2⟩
  exact ⟨fun path => (each path).1, fun path => (each path).2⟩

theorem keyed_of_exchange (keyed : Keyed system.store) (exchange : Exchange system move next) : Keyed next.store where
  units path := (exchange.works path).keeps_entry (keyed.units path)
  pending path := (exchange.works path).keeps_pending (keyed.pending path)

theorem Exchange.keeps_job (exchange : Exchange system move next) (path : Path) (number : Nat) :
    (⟨system, move⟩ : Moment α κ).at? path ≠ some (number, .discarded) := by
  intro told
  rw [exchange.at?, Option.map_eq_some_iff] at told
  obtain ⟨deed, found, same⟩ := told
  cases same
  have effect := exchange.works path
  rw [found] at effect
  cases effect

/-- A job that is thrown away leaves its path marked for ever. -/
theorem passage_of_discard (coherent : Coherent system) (made : system.move? .discard = some next) (path : Path) :
    Passage path ((⟨system, .discard⟩ : Moment α κ).at? path) (view system.store path) (system.phase? path)
      (view next.store path) (next.phase? path) ∧
    (next.phases path).length ≤ (system.phases path).length := by
  obtain ⟨job, stakes, same, told⟩ := discard_stakes made
  have before := stakes.filterMap fun stake => onPath path (some stake)
  rw [same path, Moment.at?, told]
  by_cases here : (job.request.path == path) = true
  · have own : onPath path (some (jobStake job)) = some (jobStake job).2 := onPath_same _ here
    rw [List.filterMap_cons, own] at before
    have short := coherent.single path
    have none_left : next.phases path = [] := by
      have count : (system.phases path).length = (next.phases path).length + 1 := before.length_eq
      exact List.length_eq_zero_iff.mp (by omega)
    have was : system.phase? path = some (jobStake job).2 :=
      head?_of_perm (before.trans (by rw [← System.phases, none_left]))
    have is : next.phase? path = none := by rw [System.phase?, none_left]; rfl
    rw [was, is, none_left]
    refine ⟨?_, Nat.zero_le _⟩
    simp only [Option.map_some, onPath_same _ here]
    exact .discarded _ _ _ (jobStake_waits job)
  · have other : onPath path (some (jobStake job)) = none := onPath_apart _ (by simpa using here)
    rw [List.filterMap_cons, other] at before
    have phases : (system.phases path).Perm (next.phases path) := before
    refine ⟨?_, Nat.le_of_eq phases.length_eq.symm⟩
    have same : next.phase? path = system.phase? path := head?_of_perm_short phases.symm (coherent.single path)
    rw [same]
    simp only [Option.map_some, onPath_apart _ (by simpa using here : (job.request.path == path) = false)]
    exact .still _ _

theorem fits_of_activity (operation : Operation κ) : Fits (operation.activity : Activity α κ) := by
  cases operation <;> exact fits_of_free rfl

theorem fits_of_job (job : Job κ) : Fits (Activity.ofJob job : Activity α κ) := by
  have owned : (Owner.job job).path? = some job.request.path := rfl
  cases kind : job.kind <;> simp only [Activity.ofJob, kind] <;> exact fits_of_owned rfl owned (by simp)

theorem fits_of_move (sound : Sound system) (made : system.move? move = some next) :
    ∀ frame ∈ next.frames, Fits frame.activity := by
  refine frames_of_move made (fun _ operation _ _ => fits_of_activity operation) (fun job _ => fits_of_job job)
    (fun _ => fits_of_free rfl) ?_ sound.fits
  intro background choice frame turn store left fits chosen went
  cases turn <;> cases went
  exact fits.of_follows sound.keyed (follows_of_turn chosen)

theorem sound_of_move (sound : Sound system) (made : system.move? move = some next) : Sound next := by
  refine ⟨?_, fits_of_move sound made⟩
  by_cases discards : move = .discard
  · subst discards
    obtain ⟨_, _, same, _⟩ := discard_stakes made
    refine ⟨fun path handle found => ?_, fun path request put => ?_⟩
    · have held : (view system.store path).entry = some handle := by rw [← same path]; exact found
      exact sound.keyed.units path handle held
    · have held : (view system.store path).pending = some request := by rw [← same path]; exact put
      exact sound.keyed.pending path request held
  · obtain ⟨exchange⟩ := exchange_of_move sound made discards
    exact keyed_of_exchange sound.keyed exchange

theorem coherent_of_move (sound : Sound system) (coherent : Coherent system) (made : system.move? move = some next) :
    Coherent next := by
  by_cases discards : move = .discard
  · subst discards
    obtain ⟨_, _, same, _⟩ := discard_stakes made
    have shorter (path : Path) := (passage_of_discard coherent made path).2
    refine ⟨fun path => Nat.le_trans (shorter path) (coherent.single path), fun path owned => ?_⟩
    have marked : system.store.isParsing path = true := coherent.marked path fun nobody => by
      have none_left := shorter path
      rw [nobody] at none_left
      exact owned (List.length_eq_zero_iff.mp (Nat.le_zero.mp none_left))
    exact (congrArg View.marked (same path)).trans marked
  · obtain ⟨exchange⟩ := exchange_of_move sound made discards
    exact coherent_of_exchange coherent exchange

/-- Every move takes each path at most one step on in its course. -/
theorem passage_of_move (sound : Sound system) (coherent : Coherent system) (made : system.move? move = some next)
    (path : Path) :
    Passage path ((⟨system, move⟩ : Moment α κ).at? path) (view system.store path) (system.phase? path)
      (view next.store path) (next.phase? path) := by
  by_cases discards : move = .discard
  · subst discards
    exact (passage_of_discard coherent made path).1
  · obtain ⟨exchange⟩ := exchange_of_move sound made discards
    exact passage_of_exchange coherent exchange path

end Moves

section Runs

variable {flags : ParseFlags} {capacity : Nat} {roles : List Role} {history : List (Moment α κ)} {system : System α κ}

theorem frames_start : (System.start flags capacity roles : System α κ).frames = [] := by
  simp [System.start, System.frames]

theorem stakes_start : (System.start flags capacity roles : System α κ).stakes = [] := by
  rw [System.stakes, frames_start]
  rfl

theorem Run.sound (run : Run flags capacity roles history system) : Sound system ∧ Coherent system := by
  induction run with
  | start =>
    have nobody (path : Path) : (System.start flags capacity roles : System α κ).phases path = [] := by
      rw [System.phases, stakes_start]
      rfl
    refine ⟨⟨⟨?_, ?_⟩, ?_⟩, ⟨?_, ?_⟩⟩
    · intro path handle found
      cases found
    · intro path request put
      cases put
    · intro frame inside
      rw [frames_start] at inside
      cases inside
    · intro path
      rw [nobody]
      exact Nat.zero_le _
    · intro path owned
      exact absurd (nobody path) owned
  | move _ made ih => exact ⟨sound_of_move ih.1 made, coherent_of_move ih.1 ih.2 made⟩

/-- How a path stands in a run is how its course has left it. -/
theorem Run.course (run : Run flags capacity roles history system) (path : Path) :
    Course path (deeds path history) (view system.store path) (system.phase? path) := by
  induction run with
  | start =>
    have nobody : (System.start flags capacity roles : System α κ).phase? path = none := by
      rw [System.phase?, System.phases, stakes_start]
      rfl
    rw [nobody]
    exact .start
  | @move history system next move run made ih =>
    have passage := passage_of_move run.sound.1 run.sound.2 made path
    rw [deeds, List.filterMap_append]
    cases told : (⟨system, move⟩ : Moment α κ).at? path with
    | none =>
      rw [told] at passage
      rw [List.filterMap_cons_none told, List.filterMap_nil, List.append_nil]
      obtain ⟨same, still⟩ := passage.nothing
      rw [same, still]
      exact ih
    | some pair =>
      rw [told] at passage
      rw [List.filterMap_cons_some told, List.filterMap_nil]
      exact .deed ih passage

/-- As long as the cache is not given up, no job is thrown away. -/
theorem Run.keeps_jobs (run : Run flags capacity roles history system) (alive : system.stopping = false) (path : Path) :
    ∀ number, (number, .discarded) ∉ deeds path history := by
  induction run with
  | start => exact fun _ => List.not_mem_nil
  | @move history system next move run made ih =>
    intro number inside
    have lived : system.stopping = false ∧ move ≠ .discard := by
      rcases move?_cases made with ⟨_, _, _, _, rfl, _, _, _, same⟩ | ⟨_, _, _, stopped⟩ | ⟨_, _, _, _, _, stopped⟩ |
        ⟨rfl, _, _, same⟩
      · exact ⟨same.symm.trans alive, by simp⟩
      · rw [alive] at stopped
        cases stopped
      · rw [alive] at stopped
        cases stopped
      · exact ⟨same.symm.trans alive, by simp⟩
    obtain ⟨exchange⟩ := exchange_of_move run.sound.1 made lived.2
    rw [deeds, List.filterMap_append, List.mem_append] at inside
    rcases inside with inside | inside
    · exact ih lived.1 number inside
    · obtain ⟨moment, here, told⟩ := List.mem_filterMap.mp inside
      rw [List.mem_singleton.mp here] at told
      exact exchange.keeps_job path number told

theorem Run.numbered (run : Run flags capacity roles history system) :
    system.numbers.Nodup ∧ ∀ number ∈ system.numbers, number < system.clock := by
  induction run with
  | start =>
    rw [System.numbers, frames_start]
    exact ⟨List.nodup_nil, by simp⟩
  | @move history system next move run made ih =>
    obtain ⟨distinct, past⟩ := ih
    have clock : next.clock = system.clock + 1 := move?_clock made
    rcases numbers_of_move made with same | begun | ⟨number, ended⟩
    · refine ⟨same.nodup_iff.mpr distinct, ?_⟩
      intro number inside
      have earlier := past number (same.subset inside)
      omega
    · have fresh : system.clock ∉ system.numbers := fun inside => Nat.lt_irrefl _ (past _ inside)
      refine ⟨begun.nodup_iff.mpr (List.nodup_cons.mpr ⟨fresh, distinct⟩), ?_⟩
      intro number inside
      rcases List.mem_cons.mp (begun.subset inside) with rfl | earlier
      · omega
      · have before := past number earlier
        omega
    · refine ⟨(List.nodup_cons.mp (ended.nodup_iff.mp distinct)).2, ?_⟩
      intro other inside
      have earlier := past other (ended.symm.subset (List.mem_cons_of_mem _ inside))
      omega

end Runs

end UnitCache.Interleaving
