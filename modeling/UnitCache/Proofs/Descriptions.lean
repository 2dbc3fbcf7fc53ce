import UnitCache.Proofs.Fates
import UnitCache.Proofs.Origins
import UnitCache.Proofs.Reloads
/-!
What a handle tells of its unit. The path, the options and the script are those that the engine was called with when it
made the unit, and the cache never asks about a unit under another path than that.
-/
namespace UnitCache

section Trees

open C (TreeUnit)

theorem C.TreeUnit.complete_own (unit : TreeUnit) {path : Path} (own : unit.path = path) (line column : UInt32)
    (other asked : Path) : unit.complete path line column ≠ .failed (.otherFile other asked) := by
  have same : (path == unit.path) = true := by rw [own]; exact BEq.rfl
  rw [TreeUnit.complete, if_pos same]
  cases typed : C.typedName unit.contents.source line column with
  | found | unsplittable => simp
  | refused error =>
    unfold C.typedName at typed
    split at typed
    next =>
      cases typed
      simp
    next =>
      split at typed
      next =>
        cases typed
        simp
      next =>
        unfold C.nameAtEnd at typed
        dsimp only at typed
        split at typed
        next => cases typed
        next => split at typed <;> cases typed

end Trees

namespace Interleaving

variable {α κ : Type}

/-- The engine answers an act as an engine of the program does, whose units are seen in what it gives. -/
def Act.Answers (parser : C.Parser) (engine : Engine) (shows : α → Artifact) (act : Act α κ) : Prop :=
  match act.frame.activity, act.choice with
  | .parsing request _, .parsed answer => ∃ world, (engine.parse world request parser).1 = answer.map shows
  | .using handle _, .reparsed answer =>
    ∀ held, act.store.artifact? handle.number = some held →
      ∃ world, ((shows held).reparse world parser).1 = answer.map shows
  | .using handle (.query line column), .completed answer _
  | .using handle (.complete line column _), .completed answer _ =>
    ∀ held, act.store.artifact? handle.number = some held →
      ∃ world, ((shows held).complete handle.request.path line column world).1 = answer
  | _, _ => True

def TreeFor (request : Request) (artifact : Artifact) : Prop :=
  ∃ contents, artifact = .tree ⟨request.path, request.options, contents⟩

def found? : Activity α κ → Option Handle
  | .acquire handle (.refresh ..) | .using handle (.refresh ..) | .acquire handle (.query ..)
  | .using handle (.query ..) => some handle
  | _ => none

section Engine

variable {parser : C.Parser} {shows : α → Artifact} {act : Act α κ} {request : Request} {artifact : α}

theorem treeFor_of_parses (answers : act.Answers parser .treeSitter shows) (parses : act.Parses request artifact) :
    TreeFor request (shows artifact) := by
  obtain ⟨⟨owner, activity⟩, answered⟩ := parses
  rw [Act.Answers, activity, answered] at answers
  obtain ⟨world, same⟩ := answers
  simp only [Engine.parse, C.TreeUnit.build, Answer.map] at same
  cases loaded : C.Contents.load parser world.disk request.path with
  | ok contents =>
    rw [loaded] at same
    exact ⟨contents, (Answer.ok.inj same).symm⟩
  | error => simp [loaded, Except.map] at same

theorem treeFor_of_reparse {handle : Handle} {use : Use κ} {held : α} (answers : act.Answers parser .treeSitter shows)
    (uses : act.frame.activity = .using handle use) (answered : act.choice = .reparsed (.ok artifact))
    (there : act.store.artifact? handle.number = some held) (tree : TreeFor request (shows held)) :
    TreeFor request (shows artifact) := by
  rw [Act.Answers, uses, answered] at answers
  obtain ⟨world, same⟩ := answers held there
  obtain ⟨contents, shown⟩ := tree
  simp only [shown, Artifact.reparse, C.TreeUnit.reparse, Answer.map] at same
  cases loaded : C.Contents.load parser world.disk request.path with
  | ok contents =>
    rw [loaded] at same
    exact ⟨contents, (Answer.ok.inj same).symm⟩
  | error => simp [loaded, Except.map] at same

theorem complete_own_of_tree {path : Path} {line column : UInt32} {world : World} {tree : Artifact}
    (made : TreeFor request tree) (own : request.path = path) (unit file : Path) :
    (tree.complete path line column world).1 ≠ .error (.otherFile unit file) := by
  obtain ⟨contents, rfl⟩ := made
  simp only [Artifact.complete]
  have fine := C.TreeUnit.complete_own ⟨request.path, request.options, contents⟩ own line column unit file
  split
  next => simp
  next error failed =>
    rintro ⟨⟩
    exact fine failed
  next => simp

end Engine

section Runs

variable {flags : ParseFlags} {capacity : Nat} {roles : List Role} {history : List (Moment α κ)} {system : System α κ}
  {parser : C.Parser}

theorem artifact?_eq (store : Store α κ) (number : Nat) : store.artifact? number = store.artifacts[number]? := by
  rw [Store.artifact?, Store.artifacts, List.getElem?_map]

theorem found?_of_turn {background : Bool} {store next : Store α κ} {activity behind : Activity α κ}
    {choice : Choice α κ} {warnings : List Warning} {handle : Handle}
    (chosen : turn? background store activity choice = some (.next next behind warnings))
    (found : found? behind = some handle) :
    found? activity = some handle ∨ ∃ path, store.peek path = some handle := by
  cases follows_of_turn chosen with
  | finds request owner other there =>
    cases found
    exact .inr ⟨_, there⟩
  | uses other use =>
    cases use <;> cases found <;> exact .inl rfl
  | queries query other line column =>
    cases found
    cases choice with
    | proceed =>
      generalize same : Turn.next next (.acquire handle (.query line column)) warnings = turn at chosen
      cases rule_of_turn chosen with
      | ask _ handle saved there =>
        cases same
        exact .inr ⟨_, there⟩
      | _ => cases same
    | _ => cases chosen
  | _ => cases found

/-- What the cache itself has found is one of its units, under the handle that it was made with. -/
theorem Run.found (run : Run flags capacity roles history system) : ∀ frame ∈ system.frames, ∀ handle,
    found? frame.activity = some handle → (builds history)[handle.number]?.map Build.request = some handle.request := by
  induction run with
  | start =>
    intro frame inside
    rw [frames_start] at inside
    cases inside
  | @move history system next move run made ih =>
    refine frames_of_move made (fun _ operation _ _ => ?_) (fun job _ => ?_) (fun _ => ?_) ?_
      fun frame inside handle found => builds_grow (ih frame inside handle found)
    · intro handle found
      cases operation <;> cases found
    · intro handle found
      unfold Activity.ofJob at found
      dsimp only at found
      split at found <;> cases found
    · intro handle found
      cases found
    · intro background choice frame turn store left kept chosen went handle found
      cases turn <;> cases went
      rcases found?_of_turn chosen found with before | ⟨path, there⟩
      · exact kept handle before
      · exact builds_grow (run.grounded.entries path handle there)

theorem treeFor_of_set {shows : α → Artifact} {act : Act α κ} {request : Request} {handle : Handle} {use : Use κ}
    {made artifact : α} {number : Nat} (answers : act.Answers parser .treeSitter shows)
    (uses : act.frame.activity = .using handle use) (answered : act.choice = .reparsed (.ok made))
    (before : ∀ held, act.store.artifact? number = some held → TreeFor request (shows held))
    (there : (act.store.artifacts.set handle.number made)[number]? = some artifact) :
    TreeFor request (shows artifact) := by
  rw [List.getElem?_set] at there
  split at there
  next same =>
    subst same
    split at there
    next inside =>
      cases there
      have held : act.store.artifact? handle.number = some act.store.artifacts[handle.number] := by
        rw [artifact?_eq, List.getElem?_eq_getElem inside]
      exact treeFor_of_reparse answers uses answered held (before _ held)
    next => cases there
  next => exact before artifact (by rwa [artifact?_eq])

/-- With the parser built in, each unit is one of the path that it was asked for under. -/
theorem Run.trees (run : Run flags capacity roles history system) {shows : α → Artifact}
    (answers : ∀ act ∈ allActs history, act.Answers parser .treeSitter shows) {number : Nat} {build : Build α} {artifact : α}
    (known : (builds history)[number]? = some build) (there : system.store.artifact? number = some artifact) :
    TreeFor build.request (shows artifact) := by
  induction run generalizing number build artifact with
  | start => cases known
  | @move history system next move run made ih =>
    have before : ∀ act ∈ allActs history, act.Answers parser .treeSitter shows := fun act inside =>
      answers act (by rw [allActs_append]; exact List.mem_append_left _ inside)
    have longer := builds_append history ⟨system, move⟩
    cases progress_of_move made with
    | begins _ _ idle | rests idle =>
      simp only [idle, Option.bind_none, Option.toList_none, List.append_nil] at longer
      rw [longer] at known
      rw [artifact?_eq, (still_of_idle made idle).2, ← artifact?_eq] at there
      exact ih before known there
    | acts act turn left others told old here turned went =>
      have now : act ∈ allActs (history ++ [⟨system, move⟩]) := by simp [allActs_append, told]
      rw [artifact?_eq, artifacts_of_rule (rule_of_turn turned) (storeOf?_after went)] at there
      rw [← here] at ih
      rw [told, Option.bind_some] at longer
      cases act.makes with
      | nothing none_made _ stays =>
        rw [longer, none_made, Option.toList_none, List.append_nil] at known
        rw [stays, ← artifact?_eq] at there
        exact ih before known there
      | anew handle use made uses answered none_made =>
        rw [longer, none_made, Option.toList_none, List.append_nil] at known
        rw [uses, answered, remade] at there
        exact treeFor_of_set (answers act now) uses answered (fun _ held => ih before known held) there
      | unit request artifact owner keeps built =>
        have long : act.store.artifacts.length = (builds history).length :=
          (length_artifacts _).trans (here ▸ run.grounded.length.symm)
        rw [keeps, remade] at there
        rcases builds_cases known with old | ⟨rfl, new⟩
        · rw [List.getElem?_append_left (long ▸ (List.getElem?_eq_some_iff.mp old).1), ← artifact?_eq] at there
          exact ih before old there
        · rw [← long, List.getElem?_concat_length] at there
          rw [told, Option.bind_some, built] at new
          cases there
          cases new
          obtain ⟨_, parse, _, _, inside, parses⟩ := (run.move made).parse_of_build now built
          exact treeFor_of_parses (answers parse inside) parses

theorem otherFile_of_turn {background : Bool} {store next : Store α κ} {activity : Activity α κ} {choice : Choice α κ}
    {warnings : List Warning} {unit file : Path}
    (chosen : turn? background store activity choice =
      some (.done next (.completed (.error (.otherFile unit file))) warnings)) :
    ∃ handle line column noted, activity = .using handle (.query line column) ∧
      choice = .completed (.error (.otherFile unit file)) noted := by
  generalize same : Turn.done next (.completed (.error (.otherFile unit file))) warnings = turn at chosen
  cases rule_of_turn chosen with
  | queryFailed handle line column error noted =>
    obtain rfl : error = .otherFile unit file := by
      have told : Error.otherFile unit file = queryError error := by
        injection same with _ outcome
        injection outcome with outcome
        injection outcome
      unfold queryError at told
      split at told
      next => exact told.symm
      next => cases told
    exact ⟨handle, line, column, noted, rfl, rfl⟩
  | present _ giving | record _ giving | spare _ giving | accepted _ giving | withdraw _ giving =>
    cases giving <;> cases same
  | served _ owner | keep _ _ owner | noteFailure _ _ owner | findNothing _ owner | noteReparse _ _ owner
  | evict _ owner | parsePanicked _ owner | refreshPanicked _ _ owner | takeOver owner =>
    cases owner <;> cases same
  | settleAlone owner | settle owner =>
    cases owner with
    | job work => cases called : work.callback <;> simp only [Owner.finish, called] at same <;> cases same
    | _ => cases same
  | returned _ panicked => cases panicked <;> cases same
  | _ => cases same

/-- With the parser built in, the cache is never told that a unit is not of the file that it was asked about. -/
theorem Run.never_otherFile (run : Run flags capacity roles history system) {shows : α → Artifact}
    (answers : ∀ act ∈ allActs history, act.Answers parser .treeSitter shows) (number : Nat) (unit file : Path) :
    outcome? number history ≠ some (.completed (.error (.otherFile unit file))) := by
  intro ended
  obtain ⟨act, last, outcome⟩ := Option.bind_eq_some_iff.mp ended
  have inside : act ∈ allActs history := (List.mem_filter.mp (List.mem_of_getLast? last)).1
  obtain ⟨turn, turned, done⟩ : ∃ turn, act.turn? = some turn ∧ ∃ store warnings,
      turn = .done store (.completed (.error (.otherFile unit file))) warnings := by
    unfold Act.outcome? at outcome
    split at outcome
    next store _ warnings turned =>
      cases outcome
      exact ⟨_, turned, store, warnings, rfl⟩
    next => cases outcome
  obtain ⟨store, warnings, rfl⟩ := done
  obtain ⟨handle, line, column, noted, uses, answered⟩ := otherFile_of_turn turned
  have honest := answers act inside
  rw [Act.Answers, uses, answered] at honest
  -- The unit was one that the cache had found, so it was made for the very path that it was asked about.
  obtain ⟨earlier, before, move, later, rfl, reached, told⟩ := run.at_act inside
  have known := reached.found act.frame (act_inside told) handle (by rw [uses]; rfl)
  obtain ⟨build, made, same⟩ := Option.map_eq_some_iff.mp known
  have there := reached.grounded.holds handle.number
  rw [made, Option.map_some, ← artifact?_eq, ← act_store told] at there
  obtain ⟨world, said⟩ := honest _ there
  rw [act_store told] at there
  have before : ∀ act ∈ allActs earlier, act.Answers parser .treeSitter shows := fun act inside =>
    answers act (by rw [allActs, List.filterMap_append]; exact List.mem_append_left _ inside)
  have tree := reached.trees before made there
  exact complete_own_of_tree tree (congrArg Request.path same) unit file said

end Runs

/-- A handle tells what its unit was made for. With that, under the flags of the cache, the engine was called when it
made what the unit held at first, and this is the unit that its frame put into the cache with what the engine gave it.
What the unit holds is the last that the engine has made of it since. -/
structure Describes (flags : ParseFlags) (history : List (Moment α κ)) (store : Store α κ) (handle : Handle)
    (build : Build α) : Prop where
  made : (builds history)[handle.number]? = some build
  same : build.request = handle.request
  parsed : ∃ earlier parse keep later, acts build.frame history = earlier ++ parse :: keep :: later ∧
    parse.call? = some (.parse handle.request flags) ∧ parse.choice = .parsed (.ok build.artifact) ∧
    keep.build? = some build
  holds : store.artifact? handle.number = some ((renewals handle.number history).getLast?.getD build.artifact)

section Runs

variable {flags : ParseFlags} {capacity : Nat} {roles : List Role} {history : List (Moment α κ)} {system : System α κ}

theorem Run.describes (run : Run flags capacity roles history system) {handle : Handle} {build : Build α}
    (made : (builds history)[handle.number]? = some build) (same : build.request = handle.request) :
    Describes flags history system.store handle build := by
  refine ⟨made, same, ?parsed, ?holds⟩
  case holds => rw [artifact?_eq, run.grounded.holds, made, Option.map_some]
  case parsed =>
    obtain ⟨keep, inside, puts⟩ := List.mem_filterMap.mp (List.mem_of_getElem? made)
    obtain ⟨earlier, parse, later, row, parse_inside, parses⟩ := run.parse_of_build inside puts
    obtain ⟨_, before, _, _, _, reached, told⟩ := run.at_act parse_inside
    refine ⟨earlier, parse, keep, later, row, ?_, parses.2, puts⟩
    rw [parses.call?, act_store told, reached.flags_eq, same]

/-- Every handle in the cache is found under the path that its unit was made for, and describes that unit for ever,
whatever is done to the cache. A question about a saved file is put to the unit that is there, and every unit is asked
about the path that it was made for; so the parser built in never answers that it has not that file. -/
theorem handles_describe_their_units (run : Run flags capacity roles history system) {path : Path} {handle : Handle}
    (found : system.store.peek path = some handle) :
    (handle.request.path == path) = true ∧
    (∃ build, Describes flags history system.store handle build ∧
      ∀ moves later last, system.follow moves = some (later, last) →
        Describes flags (history ++ later) last.store handle build ∧
        ∀ other twin, last.store.peek other = some twin → twin.number = handle.number → twin = handle) ∧
    (∀ query : CompletionQuery, (query.cursor.file.name == path) = true →
      query.cursor.file.hasUnsavedContents = false → ∀ background,
      (Activity.ask query).step background system.store =
        .next system.store (.acquire handle (.query query.cursor.line query.cursor.column)) []) ∧
    (∀ frame ∈ system.frames, ∀ asked line column, frame.activity = .using asked (.query line column) →
      (∃ build, Describes flags history system.store asked build) ∧ ∀ background,
      frame.activity.step background system.store = .engine (.complete asked line column flags)) ∧
    ∀ parser shows, (∀ act ∈ allActs history, act.Answers parser .treeSitter shows) →
      (∃ contents, (system.store.artifact? handle.number).map shows =
        some (.tree ⟨handle.request.path, handle.request.options, contents⟩)) ∧
      ∀ number unit file, outcome? number history ≠ some (.completed (.error (.otherFile unit file))) := by
  obtain ⟨build, made, same⟩ := Option.map_eq_some_iff.mp (run.grounded.entries path handle found)
  refine ⟨run.sound.1.keyed.units path handle found, ⟨build, run.describes made same, ?later⟩, ?asked, ?answered, ?trees⟩
  case later =>
    intro moves later last followed
    have after := run.follow followed
    have still : (builds (history ++ later))[handle.number]? = some build := by
      rw [builds, allActs, List.filterMap_append, List.filterMap_append]
      exact (List.getElem?_append_left (List.getElem?_eq_some_iff.mp made).1).trans made
    refine ⟨after.describes still same, fun other twin there number => ?_⟩
    have its_own := after.grounded.entries other twin there
    rw [number, still, Option.map_some, same] at its_own
    obtain ⟨place, request⟩ := twin
    obtain ⟨known, wanted⟩ := handle
    cases number
    cases its_own
    rfl
  case asked =>
    intro query spelled saved background
    have there : system.store.peek query.cursor.file.name = some handle :=
      (system.store.units.get?_congr spelled).trans found
    simp [Activity.step, saved, there]
  case answered =>
    intro frame inside asked line column uses
    obtain ⟨other, known, its_own⟩ := Option.map_eq_some_iff.mp (run.found frame inside asked (by rw [uses]; rfl))
    refine ⟨⟨other, run.describes known its_own⟩, fun background => ?_⟩
    rw [uses, ← run.flags_eq]
    rfl
  case trees =>
    intro parser shows answers
    refine ⟨?_, run.never_otherFile answers⟩
    have there := (run.describes made same).holds
    obtain ⟨contents, shown⟩ := run.trees answers made there
    exact ⟨contents, by rw [there, Option.map_some, shown, same]⟩

def inDirectory : World where
  disk := ⟨[(["d", "a.c"], .file (.text "point"))]⟩

def structUnitFor (request : Request) : Artifact :=
  .tree ⟨request.path, request.options, ⟨"point", [⟨"point", .struct, ⟨request.path.text, 1, 1⟩⟩], []⟩⟩

def structCandidate : Candidate := { cursorKind := .structDecl, chunks := [⟨.typedText, "point"⟩] }

/-- Whether an act that asks the engine is answered from that file, under some of its spellings. -/
def fromDirectory (act : Act Request Unit) : Bool :=
  match act.frame.activity, act.choice with
  | .parsing request _, .parsed (.ok made) =>
    made == request && (request.path.text == "d//a.c" || request.path.text == "d/./a.c")
  | .using handle (.query line column), .completed (.ok candidates) _ =>
    act.store.artifact? handle.number == some handle.request && line == 1 && column == 3 &&
      candidates == [structCandidate]
  | .parsing .., .parsed _ | .using .., .reparsed _ | .using .., .completed .. => false
  | _, _ => true

theorem read_inDirectory {path : Path} (spelled : path.text = "d//a.c" ∨ path.text = "d/./a.c") :
    inDirectory.disk.read path = .ok "point" := by
  obtain ⟨text⟩ := path
  rcases spelled with rfl | rfl <;>
    simp [inDirectory, Disk.read, Disk.locate, Path.parts, String.any, String.contains_bool_eq] <;> rfl

theorem complete_structUnitFor (request : Request) (world : World) :
    (structUnitFor request).complete request.path 1 3 world = (.ok [structCandidate], [], world) := by
  have own : (request.path == request.path) = true := BEq.rfl
  have typed : C.typedName "point" 1 3 = .found ['p', 'o'] := by decide
  have starts : ['p', 'o'].isPrefixOf "point".toList = true := by decide
  simp only [structUnitFor, Artifact.complete, C.TreeUnit.complete, own, if_true, typed,
    C.TreeUnit.declarationsStarting, List.filter_cons, starts, List.filter_nil, List.mergeSort_singleton]
  rfl

theorem answers_of_fromDirectory {act : Act Request Unit} (answered : fromDirectory act = true) :
    act.Answers wholeName .treeSitter structUnitFor := by
  unfold Act.Answers
  unfold fromDirectory at answered
  split
  next request _ answer parsing parsed =>
    rw [parsing, parsed] at answered
    cases answer with
    | ok made =>
      simp only [Bool.and_eq_true, Bool.or_eq_true, beq_iff_eq] at answered
      obtain ⟨rfl, spelled⟩ := answered
      refine ⟨inDirectory, ?_⟩
      simp only [Engine.parse, C.TreeUnit.build, C.Contents.load, read_inDirectory spelled]
      rfl
    | error | panic => cases answered
  next handle use answer uses reparsed =>
    rw [uses, reparsed] at answered
    cases use <;> cases answered
  next handle line column answer noted uses completed =>
    rw [uses, completed] at answered
    cases answer with
    | ok candidates =>
      simp only [Bool.and_eq_true, beq_iff_eq] at answered
      obtain ⟨⟨⟨there, rfl⟩, rfl⟩, rfl⟩ := answered
      intro held found
      rw [there] at found
      cases found
      exact ⟨inDirectory, by rw [complete_structUnitFor]⟩
    | error | panic => cases answered
  next handle line column flags answer noted uses completed =>
    rw [uses, completed] at answered
    cases answered
  next => trivial

def structResult : CompletionResult := { types := [⟨"point", .classType⟩] }

def gives (result : CompletionResult) : Outcome → Bool
  | .completed (.ok given) => given == result
  | _ => false

theorem eq_of_gives {result : CompletionResult} {outcome : Outcome} (given : gives result outcome = true) :
    outcome = .completed (.ok result) := by
  unfold gives at given
  split at given
  next => rw [eq_of_beq given]
  next => cases given

/-- A client asks for a file while another one has it built under another spelling, a worker builds it for both, and a
third spelling of it is asked about. -/
def spelledThrice : List (Move Request Unit) :=
  let first : Request := ⟨⟨"d//a.c"⟩, ["-O2"], none⟩
  let second : Request := ⟨⟨"d/./a.c"⟩, ["-O3"], some "o.sh"⟩
  [.thread 0 (.call (.getUnit first)), .thread 0 .proceed, .thread 0 .proceed,
    .thread 1 (.call (.getUnit second)), .thread 1 .proceed,
    .thread 0 (.parsed (.ok first)), .thread 0 .proceed, .thread 0 .proceed, .thread 0 .proceed,
    .thread 2 .take, .thread 2 .proceed, .thread 2 .proceed, .thread 2 .proceed, .thread 2 (.parsed (.ok second)),
    .thread 2 .proceed, .thread 2 .proceed,
    .thread 1 (.call (.complete (.inSaved ⟨"d/a.c"⟩ 1 3))), .thread 1 .proceed, .thread 1 .proceed,
    .thread 1 (.completed (.ok [structCandidate]) [])]

theorem unit_of_other_spelling_is_described :
    ∃ (history : List (Moment Request Unit)) (system : System Request Unit) (build : Build Request),
      Run ⟨0⟩ 1 [.client, .client, .worker] history system ∧
      system.store.peek ⟨"d/a.c"⟩ = some ⟨1, ⟨⟨"d/./a.c"⟩, ["-O3"], some "o.sh"⟩⟩ ∧
      Describes ⟨0⟩ history system.store ⟨1, ⟨⟨"d/./a.c"⟩, ["-O3"], some "o.sh"⟩⟩ build ∧
      (∀ act ∈ allActs history, act.Answers wholeName .treeSitter structUnitFor) ∧
      outcome? 16 history = some (.completed (.ok structResult)) ∧
      (∃ contents, (system.store.artifact? 1).map structUnitFor = some (.tree ⟨⟨"d/./a.c"⟩, ["-O3"], contents⟩)) ∧
      ∀ number unit file, outcome? number history ≠ some (.completed (.error (.otherFile unit file))) := by
  obtain ⟨history, system, run, checked⟩ := Run.of_follow ⟨0⟩ 1 [.client, .client, .worker] spelledThrice
    (fun history system =>
      system.store.peek ⟨"d/a.c"⟩ == some ⟨1, ⟨⟨"d/./a.c"⟩, ["-O3"], some "o.sh"⟩⟩ &&
        (allActs history).all fromDirectory && (outcome? 16 history).any (gives structResult)) (by decide)
  simp only [Bool.and_eq_true, beq_iff_eq, List.all_eq_true] at checked
  obtain ⟨⟨found, answered⟩, told⟩ := checked
  have offered : outcome? 16 history = some (.completed (.ok structResult)) := by
    obtain ⟨outcome, ended, given⟩ := (Option.any_eq_true _ _).mp told
    rw [ended, eq_of_gives given]
  have honest : ∀ act ∈ allActs history, act.Answers wholeName .treeSitter structUnitFor :=
    fun act inside => answers_of_fromDirectory (answered act inside)
  obtain ⟨-, ⟨build, described, -⟩, -, -, trees⟩ := handles_describe_their_units run found
  obtain ⟨shown, never⟩ := trees wholeName structUnitFor honest
  exact ⟨history, system, build, run, found, described, honest, offered, shown, never⟩

end Runs

end Interleaving
end UnitCache
