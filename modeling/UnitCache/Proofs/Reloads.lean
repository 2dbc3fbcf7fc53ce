import UnitCache.Engine
/-!
Units that are built anew. A unit is changed in place, a field after the other, and what goes wrong on the way goes
wrong before the first of them. So a unit is either what would be built from the files as they are now, or what it was.
-/
namespace UnitCache

namespace C

def TreeUnit.load (parser : Parser) (disk : Disk) : EStateM Error TreeUnit Unit := do
  let path := (← get).path
  let text ← match disk.read path with
    | .ok text => pure text
    | .error failure => throw (.file failure)
  let source := Syntax.Source.ofString text
  let root ← match parser source with
    | some root => pure root
    | none => throw (.gaveUp path)
  let shown := Contents.ofRoot path.text text source root
  modify fun unit => { unit with contents.declarations := shown.declarations }
  modify fun unit => { unit with contents.diagnostics := shown.diagnostics }
  modify fun unit => { unit with contents.source := text }

theorem Contents.source_ofText {parser : Parser} {path : Path} {text : String} {contents : Contents}
    (shown : Contents.ofText parser path text = .ok contents) : contents.source = text := by
  unfold Contents.ofText at shown
  dsimp only at shown
  split at shown
  next => cases shown
  next root parsed => rw [← Except.ok.inj shown, Contents.ofRoot]

/-- A unit is loaded whole or not at all. -/
theorem TreeUnit.load_eq (parser : Parser) (disk : Disk) (unit : TreeUnit) :
    TreeUnit.load parser disk unit =
      match unit.reparse disk parser with
      | .ok renewed => .ok () renewed
      | .error error => .error error unit := by
  obtain ⟨path, options, contents⟩ := unit
  change (TreeUnit.load parser disk).run _ = _
  unfold TreeUnit.load TreeUnit.reparse Contents.load
  rw [EStateM.run_bind, EStateM.run_get]
  dsimp only
  cases read : disk.read path with
  | error failure => rfl
  | ok text =>
    unfold Contents.ofText
    simp only [pure_bind]
    cases parser (Syntax.Source.ofString text) <;> rfl

end C

namespace ClangUnit

def load : EStateM Error (ClangUnit × World) Unit := do
  let (unit, world) ← get
  unless world.disk.exists? unit.path do throw (.sourceMissing unit.path)
  let (ran, world) := world.run unit.compiler (unit.arguments [])
  set (unit, world)
  let run ← match ran with
    | .ok run => pure run
    | .error failure => throw (.file failure)
  let diagnostics := Clang.diagnosticsOf run.complaints.lossyText
  if let some fatal := diagnostics.find? Diagnostic.isFatal then throw (.fatal fatal.message)
  modify fun (unit, world) => ({ unit with diagnostics }, world)

theorem load_eq (unit : ClangUnit) (world : World) :
    load (unit, world) =
      match unit.reparse world with
      | (.ok renewed, world) => .ok () (renewed, world)
      | (.error error, world) => .error error (unit, world) := by
  change load.run _ = _
  unfold load ClangUnit.reparse
  rw [EStateM.run_bind, EStateM.run_get]
  dsimp only
  cases there : world.disk.exists? unit.path with
  | false => rfl
  | true =>
    simp only [if_true, pure_bind]
    cases ran : world.run unit.compiler (unit.arguments []) with
    | mk result later =>
      cases result with
      | error failure => rfl
      | ok run =>
        simp only [withComplaints, EStateM.run_bind, EStateM.run_set]
        cases (Clang.diagnosticsOf run.complaints.lossyText).find? Diagnostic.isFatal <;> rfl

inductive Refused (compiler path : Path) (options : List String) (world : World) : Error → Prop where
  | missing (gone : world.disk.exists? path = false) : Refused compiler path options world (.sourceMissing path)
  | notRun (failure : FileFailure) (there : world.disk.exists? path = true)
      (fails : (world.run compiler (({ compiler, path, options } : ClangUnit).arguments [])).1 = .error failure) :
      Refused compiler path options world (.file failure)
  | fatal (run : Run) (milder later : List Diagnostic) (complaint : Diagnostic) (there : world.disk.exists? path = true)
      (ran : (world.run compiler (({ compiler, path, options } : ClangUnit).arguments [])).1 = .ok run)
      (complains : Clang.diagnosticsOf run.complaints.lossyText = milder ++ complaint :: later)
      (mild : ∀ diagnostic ∈ milder, diagnostic.isFatal = false) (stops : complaint.isFatal = true) :
      Refused compiler path options world (.fatal complaint.message)

section Runs

variable {unit : ClangUnit} {world later : World} {error : Error}

theorem reparse_of_missing (gone : world.disk.exists? unit.path = false) :
    unit.reparse world = (.error (.sourceMissing unit.path), world) := by
  simp [ClangUnit.reparse, gone]

theorem reparse_of_notRun {failure : FileFailure} (there : world.disk.exists? unit.path = true)
    (fails : world.run unit.compiler (unit.arguments []) = (.error failure, later)) :
    unit.reparse world = (.error (.file failure), later) := by
  simp [ClangUnit.reparse, there, fails]

theorem reparse_of_run {run : Run} (there : world.disk.exists? unit.path = true)
    (ran : world.run unit.compiler (unit.arguments []) = (.ok run, later)) :
    unit.reparse world = (unit.withComplaints run.complaints.lossyText, later) := by
  simp [ClangUnit.reparse, there, ran]

theorem withComplaints_error (complaints : String) :
    unit.withComplaints complaints = .error error ↔
      ∃ milder complaint later, Clang.diagnosticsOf complaints = milder ++ complaint :: later ∧
        (∀ diagnostic ∈ milder, diagnostic.isFatal = false) ∧ complaint.isFatal = true ∧
        error = .fatal complaint.message := by
  unfold withComplaints
  dsimp only
  cases first : (Clang.diagnosticsOf complaints).find? Diagnostic.isFatal with
  | none =>
    simp only [reduceCtorEq, false_iff]
    rintro ⟨milder, complaint, later, whole, -, stops, -⟩
    exact List.find?_eq_none.mp first complaint (by simp [whole]) stops
  | some complaint =>
    simp only [Except.error.injEq]
    constructor
    · rintro rfl
      obtain ⟨stops, milder, later, whole, mild⟩ := List.find?_eq_some_iff_append.mp first
      exact ⟨milder, complaint, later, whole, by simpa using mild, stops, rfl⟩
    · rintro ⟨milder, other, later, whole, mild, stops, rfl⟩
      have found : (Clang.diagnosticsOf complaints).find? Diagnostic.isFatal = some other :=
        List.find?_eq_some_iff_append.mpr ⟨stops, milder, later, whole, by simpa using mild⟩
      rw [Option.some.inj (first.symm.trans found)]

/-- A unit cannot be built anew exactly if its file is missing, the compiler cannot be run, or a complaint is fatal. -/
theorem reparse_error_iff (unit : ClangUnit) (world : World) (error : Error) :
    (unit.reparse world).1 = .error error ↔ Refused unit.compiler unit.path unit.options world error := by
  constructor
  · intro fails
    cases there : world.disk.exists? unit.path with
    | false =>
      rw [reparse_of_missing there] at fails
      cases fails
      exact .missing there
    | true =>
      cases ran : world.run unit.compiler (unit.arguments []) with
      | mk result later =>
        cases result with
        | error failure =>
          rw [reparse_of_notRun there ran] at fails
          cases fails
          exact .notRun failure there (congrArg Prod.fst ran)
        | ok run =>
          rw [reparse_of_run there ran] at fails
          obtain ⟨milder, complaint, rest, whole, mild, stops, rfl⟩ := (withComplaints_error _).mp fails
          exact .fatal run milder rest complaint there (congrArg Prod.fst ran) whole mild stops
  · intro refused
    cases refused with
    | missing gone => rw [reparse_of_missing gone]
    | notRun failure there fails =>
      rw [reparse_of_notRun there (Prod.ext fails rfl)]
    | fatal run milder rest complaint there ran whole mild stops =>
      rw [reparse_of_run there (Prod.ext ran rfl)]
      exact (withComplaints_error _).mpr ⟨milder, complaint, rest, whole, mild, stops, rfl⟩

theorem reparse_ok {renewed : ClangUnit} (built : unit.reparse world = (.ok renewed, later)) :
    ∃ run, (∀ diagnostic ∈ Clang.diagnosticsOf run.complaints.lossyText, diagnostic.isFatal = false) ∧
      (world.run unit.compiler (unit.arguments [])).1 = .ok run ∧
      renewed = { unit with diagnostics := Clang.diagnosticsOf run.complaints.lossyText } := by
  cases there : world.disk.exists? unit.path with
  | false =>
    rw [reparse_of_missing there] at built
    cases built
  | true =>
    cases ran : world.run unit.compiler (unit.arguments []) with
    | mk result behind =>
      cases result with
      | error failure =>
        rw [reparse_of_notRun there ran] at built
        cases built
      | ok run =>
        rw [reparse_of_run there ran] at built
        unfold withComplaints at built
        dsimp only at built
        split at built
        next => cases built
        next mild =>
          cases built
          exact ⟨run, by simpa using mild, rfl, rfl⟩

end Runs

end ClangUnit

/-- What an engine has made of a request, and nothing in it is of another source than the rest. -/
inductive MadeFor (parser : C.Parser) (request : Request) : Engine → Artifact → Prop where
  | tree (contents : C.Contents) (extracted : C.Contents.ofText parser request.path contents.source = .ok contents) :
      MadeFor parser request .treeSitter (.tree ⟨request.path, request.options, contents⟩)
  | clang (compiler : Path) (run : Run)
      (mild : ∀ diagnostic ∈ Clang.diagnosticsOf run.complaints.lossyText, diagnostic.isFatal = false) :
      MadeFor parser request (.clang compiler)
        (.clang ⟨compiler, request.path, request.options, Clang.diagnosticsOf run.complaints.lossyText⟩)

namespace Artifact

def renew (artifact : Artifact) (world : World) (parser : C.Parser := C.parser) :
    Except Error Unit × Artifact × World :=
  match artifact with
  | .tree unit =>
    match C.TreeUnit.load parser world.disk unit with
    | .ok () unit => (.ok (), .tree unit, world)
    | .error error unit => (.error error, .tree unit, world)
  | .clang unit =>
    match ClangUnit.load (unit, world) with
    | .ok () (unit, world) => (.ok (), .clang unit, world)
    | .error error (unit, world) => (.error error, .clang unit, world)

/-- What becomes of a unit in its place, as the engine answers. -/
inductive Renewal (artifact : Artifact) : Answer Artifact × World → Except Error Unit × Artifact × World → Prop where
  | done (renewed : Artifact) (world : World) : Renewal artifact (.ok renewed, world) (.ok (), renewed, world)
  | failed (error : Error) (world : World) : Renewal artifact (.error error, world) (.error error, artifact, world)

theorem Renewal.eq_of_ok {artifact renewed : Artifact} {world : World} {behind : Except Error Unit × Artifact × World}
    (renewal : Renewal artifact (.ok renewed, world) behind) : behind = (.ok (), renewed, world) := by
  cases renewal
  rfl

theorem Renewal.eq_of_error {artifact : Artifact} {error : Error} {world : World}
    {behind : Except Error Unit × Artifact × World} (renewal : Renewal artifact (.error error, world) behind) :
    behind = (.error error, artifact, world) := by
  cases renewal
  rfl

/-- A unit is what the engine makes of it, or stays what it was. -/
theorem renewal (artifact : Artifact) (world : World) (parser : C.Parser) :
    Renewal artifact (artifact.reparse world parser) (artifact.renew world parser) := by
  cases artifact with
  | tree unit =>
    simp only [renew, Artifact.reparse, C.TreeUnit.load_eq]
    cases unit.reparse world.disk parser <;> constructor
  | clang unit =>
    simp only [renew, Artifact.reparse, ClangUnit.load_eq]
    cases unit.reparse world with
    | mk result later => cases result <;> constructor

theorem renew_error_iff (artifact : Artifact) (world : World) (parser : C.Parser) (error : Error) :
    (artifact.renew world parser).1 = .error error ↔ (artifact.reparse world parser).1 = .error error := by
  have renewal := artifact.renewal world parser
  generalize artifact.reparse world parser = answer at renewal ⊢
  generalize artifact.renew world parser = behind at renewal ⊢
  cases renewal <;> simp

theorem reparse_clang_error_iff (unit : ClangUnit) (world : World) (parser : C.Parser) (error : Error) :
    ((Artifact.clang unit).reparse world parser).1 = .error error ↔ (unit.reparse world).1 = .error error := by
  simp only [Artifact.reparse]
  cases unit.reparse world with
  | mk result later => cases result <;> simp

end Artifact

section Sessions

variable {parser : C.Parser} {engine : Engine} {request : Request} {artifact : Artifact} {world later : World}

theorem MadeFor.reparse (made : MadeFor parser request engine artifact) (world : World) :
    artifact.reparse world parser = engine.parse world request parser := by
  cases made <;> rfl

theorem MadeFor.of_parse (built : engine.parse world request parser = (.ok artifact, later)) :
    MadeFor parser request engine artifact := by
  cases engine with
  | treeSitter =>
    simp only [Engine.parse, C.TreeUnit.build, C.Contents.load] at built
    cases read : world.disk.read request.path with
    | error failure => simp [read, Except.map] at built
    | ok text =>
      cases shown : C.Contents.ofText parser request.path text with
      | error => simp [read, shown, Except.map] at built
      | ok contents =>
        simp only [read, shown, Except.map, Prod.mk.injEq, Answer.ok.injEq] at built
        rw [← built.1]
        exact .tree contents (by rw [C.Contents.source_ofText shown, shown])
  | clang compiler =>
    simp only [Engine.parse, ClangUnit.build] at built
    split at built
    next unit world done =>
      obtain ⟨run, mild, -, rfl⟩ := ClangUnit.reparse_ok done
      cases built
      exact .clang compiler run mild
    next => cases built

inductive Happening where
  /-- Files are written or removed, and the compiler will answer otherwise. -/
  | world (world : World)
  | reparse
  | complete (path : Path) (line column : UInt32)

structure Session where
  artifact : Artifact
  world : World

def Session.after (parser : C.Parser) (session : Session) : Happening → Session
  | .world world => { session with world }
  | .reparse =>
    let renewed := session.artifact.renew session.world parser
    ⟨renewed.2.1, renewed.2.2⟩
  | .complete path line column =>
    { session with world := (session.artifact.complete path line column session.world).2.2 }

theorem MadeFor.after {session : Session} (made : MadeFor parser request engine session.artifact)
    (happening : Happening) :
    MadeFor parser request engine (session.after parser happening).artifact := by
  cases happening with
  | world | complete => exact made
  | reparse =>
    have renewal := session.artifact.renewal session.world parser
    rw [made.reparse] at renewal
    simp only [Session.after]
    generalize built : engine.parse session.world request parser = answer at renewal
    generalize session.artifact.renew session.world parser = behind at renewal
    cases renewal with
    | done renewed world => exact .of_parse built
    | failed error world => exact made

theorem MadeFor.follow {session : Session} (made : MadeFor parser request engine session.artifact)
    (happenings : List Happening) :
    MadeFor parser request engine (happenings.foldl (Session.after parser) session).artifact := by
  induction happenings generalizing session with
  | nil => exact made
  | cons happening rest ih => exact ih (made.after happening)

/-- With any parser, a unit that is built anew is what its engine would make of the files as they are then, whatever it
held before, and one that cannot be built anew is what it was. So all that is found in it is always of the source that
it holds. The compiler makes no unit of a file exactly if the file is missing, the compiler cannot be run, or it
complains about something fatal, the first of which is told. -/
theorem reparse_is_rebuild (built : engine.parse world request parser = (.ok artifact, later))
    (happenings : List Happening) :
    let session := happenings.foldl (Session.after parser) ⟨artifact, later⟩
    MadeFor parser request engine session.artifact ∧
      session.artifact.reparse session.world parser = engine.parse session.world request parser ∧
      session.artifact.Renewal (engine.parse session.world request parser)
        (session.artifact.renew session.world parser) ∧
      ∀ compiler, engine = .clang compiler → ∀ error,
        (session.artifact.renew session.world parser).1 = .error error ↔
          ClangUnit.Refused compiler request.path request.options session.world error := by
  intro session
  have made : MadeFor parser request engine session.artifact := (MadeFor.of_parse built).follow happenings
  have renewal := session.artifact.renewal session.world parser
  have rebuilt := made.reparse session.world
  refine ⟨made, rebuilt, rebuilt ▸ renewal, ?_⟩
  rintro compiler rfl error
  rw [Artifact.renew_error_iff]
  generalize session.artifact = artifact at made
  cases made with
  | clang _ run mild =>
    rw [Artifact.reparse_clang_error_iff]
    exact ClangUnit.reparse_error_iff _ _ _

end Sessions

/-- Reads a source as one structure whose name is all of it, and gives up on an empty one. -/
def wholeName : C.Parser := fun source =>
  let stop := source.chars.size
  let name := Syntax.Node.mk { kind := "type_identifier", field := some "name", point := ⟨0, 0⟩, start := 0, stop } []
  if stop = 0 then none else some (.mk { kind := "struct_specifier", point := ⟨0, 0⟩, start := 0, stop } [name])

def structUnit (name : String) : Artifact :=
  .tree ⟨⟨"a.c"⟩, [], ⟨name, [⟨name, .struct, ⟨"a.c", 1, 1⟩⟩], []⟩⟩

def saved (text : String) : World where
  disk := ⟨[(["a.c"], .file (.text text))]⟩

def complained (complaints : String) (calls : List (List String)) : World where
  disk := ⟨[(["a.c"], .file (.text "")), (["cc"], .program)]⟩
  compiler := { answers := [{ complaints := .text complaints }], calls }

def warnedUnit : Artifact := .clang ⟨⟨"./cc"⟩, ⟨"a.c"⟩, [], [⟨.warning, some ⟨"a.c", 1, 2⟩, "odd"⟩]⟩

theorem parse_saved (text : String) (parser : C.Parser) :
    Engine.treeSitter.parse (saved text) ⟨⟨"a.c"⟩, [], none⟩ parser =
      match C.Contents.ofText parser ⟨"a.c"⟩ text with
      | .ok contents => (.ok (.tree ⟨⟨"a.c"⟩, [], contents⟩), saved text)
      | .error error => (.error error, saved text) := by
  have read : (saved text).disk.read ⟨"a.c"⟩ = .ok text := by
    simp [saved, Disk.read, Disk.locate, Path.parts, String.any, String.contains_bool_eq]
    rfl
  simp only [Engine.parse, C.TreeUnit.build, C.Contents.load, read]
  cases C.Contents.ofText parser ⟨"a.c"⟩ text <;> rfl

theorem parse_complained (complaints : String) (calls : List (List String)) (parser : C.Parser) :
    (Engine.clang ⟨"./cc"⟩).parse (complained complaints calls) ⟨⟨"a.c"⟩, [], none⟩ parser =
      match (⟨⟨"./cc"⟩, ⟨"a.c"⟩, [], []⟩ : ClangUnit).withComplaints complaints with
      | .ok unit => (.ok (.clang unit), complained complaints (calls ++ [["-fsyntax-only", "a.c"]]))
      | .error error => (.error error, complained complaints (calls ++ [["-fsyntax-only", "a.c"]])) := by
  have there : (complained complaints calls).disk.exists? ⟨"a.c"⟩ = true := by
    simp [complained, Disk.exists?, Disk.locate, Path.parts, String.any, String.contains_bool_eq]
    rfl
  have found : (complained complaints calls).findProgram ⟨"./cc"⟩ = .ok .program := by
    simp [complained, World.findProgram, Disk.locate, Path.parts, String.any, String.contains_bool_eq]
    rfl
  have ran : (complained complaints calls).run ⟨"./cc"⟩ ["-fsyntax-only", "a.c"] =
      (.ok { complaints := .text complaints }, complained complaints (calls ++ [["-fsyntax-only", "a.c"]])) := by
    simp only [World.run, found]
    cases calls <;> rfl
  have asked : ClangUnit.reparse ⟨⟨"./cc"⟩, ⟨"a.c"⟩, [], []⟩ (complained complaints calls) = _ :=
    ClangUnit.reparse_of_run there ran
  simp only [Engine.parse, ClangUnit.build, asked, Content.lossyText]
  cases ClangUnit.withComplaints _ complaints <;> rfl

/-- A unit stays what it was when the parser gives up on its file or the compiler cannot go on, and the next text that
can be read is what it holds. -/
theorem units_stay_until_rebuilt :
    (Engine.treeSitter.parse (saved "point") ⟨⟨"a.c"⟩, [], none⟩ wholeName = (.ok (structUnit "point"), saved "point") ∧
      (structUnit "point").renew (saved "") wholeName = (.error (.gaveUp ⟨"a.c"⟩), structUnit "point", saved "") ∧
      (structUnit "point").renew (saved "size") wholeName = (.ok (), structUnit "size", saved "size")) ∧
    (Engine.clang ⟨"./cc"⟩).parse (complained "a.c:1:2: warning: odd" []) ⟨⟨"a.c"⟩, [], none⟩ =
        (.ok warnedUnit, complained "a.c:1:2: warning: odd" [["-fsyntax-only", "a.c"]]) ∧
      warnedUnit.renew (complained "a.c:1:1: fatal error: gone" []) =
        (.error (.fatal "gone"), warnedUnit, complained "a.c:1:1: fatal error: gone" [["-fsyntax-only", "a.c"]]) := by
  refine ⟨?tree, ?clang⟩
  case tree =>
    have built : Engine.treeSitter.parse (saved "point") ⟨⟨"a.c"⟩, [], none⟩ wholeName =
        (.ok (structUnit "point"), saved "point") := (parse_saved _ _).trans rfl
    have fails : Engine.treeSitter.parse (saved "") ⟨⟨"a.c"⟩, [], none⟩ wholeName =
        (.error (.gaveUp ⟨"a.c"⟩), saved "") := (parse_saved _ _).trans rfl
    have again : Engine.treeSitter.parse (saved "size") ⟨⟨"a.c"⟩, [], none⟩ wholeName =
        (.ok (structUnit "size"), saved "size") := (parse_saved _ _).trans rfl
    obtain ⟨-, -, kept, -⟩ := reparse_is_rebuild built [.world (saved "")]
    simp only [List.foldl_cons, List.foldl_nil, Session.after, fails] at kept
    have stays := kept.eq_of_error
    obtain ⟨-, -, renewed, -⟩ := reparse_is_rebuild built [.world (saved ""), .reparse, .world (saved "size")]
    simp only [List.foldl_cons, List.foldl_nil, Session.after, stays, again] at renewed
    exact ⟨built, stays, renewed.eq_of_ok⟩
  case clang =>
    have built : (Engine.clang ⟨"./cc"⟩).parse (complained "a.c:1:2: warning: odd" []) ⟨⟨"a.c"⟩, [], none⟩ =
        (.ok warnedUnit, complained "a.c:1:2: warning: odd" [["-fsyntax-only", "a.c"]]) :=
      (parse_complained _ _ _).trans rfl
    have fails : (Engine.clang ⟨"./cc"⟩).parse (complained "a.c:1:1: fatal error: gone" []) ⟨⟨"a.c"⟩, [], none⟩ =
        (.error (.fatal "gone"), complained "a.c:1:1: fatal error: gone" [["-fsyntax-only", "a.c"]]) :=
      (parse_complained _ _ _).trans rfl
    obtain ⟨-, -, kept, -⟩ := reparse_is_rebuild built [.world (complained "a.c:1:1: fatal error: gone" [])]
    simp only [List.foldl_cons, List.foldl_nil, Session.after, fails] at kept
    exact ⟨built, kept.eq_of_error⟩

end UnitCache
