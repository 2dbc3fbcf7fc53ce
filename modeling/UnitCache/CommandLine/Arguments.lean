import UnitCache.Path
import UnitCache.Text.Ends

namespace UnitCache.CommandLine

inductive Command where
  | parse (file : Path) (options : List String)
  | complete (file : Path) (line column : UInt32) (format : String) (options : List String)
  /-- Build a unit of every file with one of some extensions under a directory. -/
  | warm (directory : Path) (extensions : List String) (options : List String)
  deriving DecidableEq, Inhabited, Repr

structure Invocation where
  configuration : Option Path := none
  engine : Option String := none
  command : Command
  deriving DecidableEq, Inhabited, Repr

inductive Refusal where
  | help
  | version
  | wrong
  deriving DecidableEq, Inhabited, Repr

inductive OptionName where
  | configuration
  | engine
  | format
  | extensions
  deriving DecidableEq, Inhabited, Repr

namespace OptionName

def long : OptionName → String
  | .configuration => "config"
  | .engine => "engine"
  | .format => "format"
  | .extensions => "ext"

def short? : OptionName → Option Char
  | .configuration => some 'c'
  | .engine => some 'e'
  | .format => some 'f'
  | .extensions => none

def repeats : OptionName → Bool
  | .extensions => true
  | _ => false

def takes (name : OptionName) (value : String) : Bool :=
  match name with
  | .configuration => !value.isEmpty
  | _ => true

end OptionName

inductive Place where
  | path
  | number
  deriving DecidableEq, Inhabited, Repr

/-- The number that digits to base ten give, if it fits. A plus sign may stand before them. -/
def number? (text : String) : Option UInt32 :=
  let digits :=
    match text.toList with
    | '+' :: digits => digits
    | digits => digits
  if digits.isEmpty || !digits.all Char.isDigit then none
  else
    let value := digits.foldl (fun value c => value * 10 + (c.toNat - '0'.toNat)) 0
    if value < UInt32.size then some (UInt32.ofNat value) else none

def Place.takes (place : Place) (text : String) : Bool :=
  match place with
  | .path => !text.isEmpty
  | .number => (number? text).isSome

structure Form where
  options : List OptionName
  places : List Place := []
  /-- Whether the first argument in the row ends this form. -/
  endsAtName : Bool := false
  /-- Whether any arguments may follow behind two dashes. -/
  takesRest : Bool := false
  hasVersion : Bool := false
  deriving Inhabited, Repr

structure Given where
  options : List (OptionName × String) := []
  row : List String := []
  rest : List String := []
  deriving DecidableEq, Inhabited, Repr

namespace Given

def value? (given : Given) (name : OptionName) : Option String := given.options.lookup name

def values (given : Given) (name : OptionName) : List String :=
  (given.options.filter fun entry => entry.1 == name).map Prod.snd

def addOption (given : Given) (name : OptionName) (value : String) : Except Refusal Given :=
  if !name.takes value || (!name.repeats && (given.value? name).isSome) then .error .wrong
  else .ok { given with options := given.options ++ [(name, value)] }

def addPlace (given : Given) (form : Form) (text : String) : Except Refusal Given :=
  match form.places[given.row.length]? with
  | some place => if place.takes text then .ok { given with row := given.row ++ [text] } else .error .wrong
  | none => .error .wrong

end Given

inductive Shape where
  | plain
  | option (name : OptionName) (value : Option String)
  | refusal (refusal : Refusal)
  deriving DecidableEq, Inhabited, Repr

def cutAtEquals (text : List Char) : List Char × Option (List Char) :=
  let before := text.takeWhile (· != '=')
  match text.drop before.length with
  | [] => (before, none)
  | _ :: behind => (before, some behind)

def longShape (form : Form) (text : List Char) : Shape :=
  let (name, value) := cutAtEquals text
  match form.options.find? fun option => option.long.toList == name with
  | some option => .option option (value.map String.ofList)
  | none =>
    if value.isSome then .refusal .wrong
    else if name == "help".toList then .refusal .help
    else if name == "version".toList && form.hasVersion then .refusal .version
    else .refusal .wrong

/-- What an argument behind one dash is. A value may follow its letter, with or without a sign of equality. -/
def shortShape (form : Form) (letter : Char) (behind : List Char) : Shape :=
  match form.options.find? fun option => option.short? == some letter with
  | some option =>
    match behind with
    | [] => .option option none
    | '=' :: value => .option option (some (String.ofList value))
    | value => .option option (some (String.ofList value))
  | none =>
    if letter == 'h' then .refusal .help
    else if letter == 'V' && form.hasVersion then .refusal .version
    else .refusal .wrong

def shape (form : Form) (argument : String) : Shape :=
  match argument.toList with
  | '-' :: '-' :: name => longShape form name
  | '-' :: letter :: behind => shortShape form letter behind
  | _ => .plain

/-- Whether an argument cannot be the value of the option before it. -/
def startsWithDash (argument : String) : Bool :=
  match argument.toList with
  | '-' :: _ :: _ => true
  | _ => false

def readForm (form : Form) (given : Given) : List String → Except Refusal (Given × List String)
  | [] => .ok (given, [])
  | argument :: left =>
    if argument == "--" then
      if form.takesRest || left.isEmpty then .ok ({ given with rest := left }, []) else .error .wrong
    else
      match shape form argument with
      | .refusal refusal => .error refusal
      | .plain =>
        if form.endsAtName then .ok (given, argument :: left)
        else
          match given.addPlace form argument with
          | .ok given => readForm form given left
          | .error refusal => .error refusal
      | .option name (some value) =>
        match given.addOption name value with
        | .ok given => readForm form given left
        | .error refusal => .error refusal
      | .option name none =>
        match left with
        | [] => .error .wrong
        | value :: left =>
          if startsWithDash value then .error .wrong
          else
            match given.addOption name value with
            | .ok given => readForm form given left
            | .error refusal => .error refusal

/-- Cuts a text at each comma. `current` is what was read of the part at hand, the last character first. -/
def cutAtCommas (current : List Char) : List Char → List String
  | [] => [String.ofList current.reverse]
  | c :: rest =>
    if c == ',' then String.ofList current.reverse :: cutAtCommas [] rest else cutAtCommas (c :: current) rest

def commonOptions : List OptionName := [.configuration, .engine]

def outerForm : Form := { options := commonOptions, endsAtName := true, hasVersion := true }

structure CommandForm where
  name : String
  form : Form
  make : Given → Option Command

def parseForm : CommandForm :=
  { name := "parse"
    form := { options := commonOptions, places := [.path], takesRest := true }
    make := fun given =>
      match given.row with
      | [file] => some (.parse ⟨file⟩ given.rest)
      | _ => none }

def completeForm : CommandForm :=
  { name := "complete"
    form := { options := commonOptions ++ [.format], places := [.path, .number, .number], takesRest := true }
    make := fun given =>
      match given.row with
      | [file, line, column] => do
        let format := (given.value? .format).getD "text"
        some (.complete ⟨file⟩ (← number? line) (← number? column) format given.rest)
      | _ => none }

def warmForm : CommandForm :=
  { name := "warm"
    form := { options := commonOptions ++ [.extensions], places := [.path], takesRest := true }
    make := fun given =>
      let extensions := (given.values .extensions).flatMap fun value => cutAtCommas [] value.toList
      match given.row with
      | [directory] => some (.warm ⟨directory⟩ (if extensions.isEmpty then ["c", "h"] else extensions) given.rest)
      | _ => none }

def commandForms : List CommandForm := [parseForm, completeForm, warmForm]

def asksForHelp (left : List String) : Bool :=
  match left with
  | [] => true
  | [name] => name == "help" || commandForms.any fun command => command.name == name
  | _ => false

def readCommand (outer : Given) (command : CommandForm) (arguments : List String) : Except Refusal Invocation := do
  let (given, _) ← readForm command.form {} arguments
  let configuration := (given.value? .configuration).or (outer.value? .configuration)
  match command.make given with
  | some command =>
    .ok { configuration := configuration.map Path.mk
          engine := (given.value? .engine).or (outer.value? .engine)
          command }
  | none => .error .wrong

def read (arguments : List String) : Except Refusal Invocation := do
  match ← readForm outerForm {} arguments with
  | (outer, name :: left) =>
    match commandForms.find? fun command => command.name == name with
    | some command => readCommand outer command left
    | none => .error (if name == "help" && asksForHelp left then .help else .wrong)
  | (_, []) => .error .wrong

end UnitCache.CommandLine
