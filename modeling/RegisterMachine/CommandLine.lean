import RegisterMachine.CommandLine.Files
import RegisterMachine.CommandLine.Options
import RegisterMachine.Program.Layout
import RegisterMachine.Settings.Reading

/-! The command: it assembles a script, shows it as asked for, and runs it. -/

namespace RegisterMachine.CommandLine

variable [Evaluator]

/-- What the command is called with: its own name, its arguments, and what it does not decide on, the
wordings of some failures and the drawing of trees. -/
structure Call where
  name : Bytes
  arguments : List Bytes
  expressionDetail : Expression.Failure → Bytes
  documentDetail : Bytes
  drawing : Program.Tree → Bytes

structure Surroundings (m : Type → Type) where
  find : Bytes → m (Except PathFault Entry)
  input : m Feed

structure Job where
  script : Bytes
  session : Session

inductive Progress where
  | exited (code : Nat)
  | running (job : Job)

structure Stretch where
  output : Bytes
  notes : List Bytes
  progress : Progress

def failureCode : Nat := 1

/-- The exit code for options that are malformed and after a breakdown. -/
def misuseCode : Nat := 2

def Stretch.exit (code : Nat) : Stretch where
  output := []
  notes := []
  progress := .exited code

def Stretch.fatal (subject message : Bytes) : Stretch where
  output := []
  notes := [subject ++ utf8 ": " ++ message]
  progress := .exited failureCode

def Stretch.after (output : Bytes) (notes : List Bytes) (stretch : Stretch) : Stretch :=
  { stretch with output := output ++ stretch.output, notes := notes ++ stretch.notes }

def unknownArguments (arguments : List Bytes) : Bytes :=
  utf8 "Unknown arguments: [" ++ (utf8 " ").intercalate arguments ++ utf8 "]"

def Options.apply (options : Options) (settings : Settings) : Settings :=
  { settings with
    verbose := settings.verbose || options.verbose
    listing := settings.listing || options.listing
    tree := settings.tree || options.tree }

def views? (call : Call) (settings : Settings) (program : Program) : Option Bytes :=
  let listing := if settings.listing then program.listing? else some []
  let tree :=
    if settings.tree then program.tree?.map (call.drawing · ++ [byte '\n']) else some []
  match listing, tree with
  | some listing, some tree => some (listing ++ tree)
  | _, _ => none

def session (settings : Settings) (program : Program) (input : Reader) : Session :=
  let start := { Session.new.configure settings.limits with program := some program }
  let console := (Console.empty.setOutput (some (.plain Drain.unlimited))).connect input
  { start with machine := { start.machine with console } }

def begin (script : Bytes) (session : Session) : Stretch :=
  let notes := session.resetNotes
  match session.reset with
  | (_, some defect) => (Stretch.fatal script (invalidProgram defect)).after [] notes
  | (session, none) => { output := [], notes, progress := .running { script, session } }

def unreadableSettings (trouble : Trouble) : Bytes :=
  utf8 "yaml: input error: " ++ trouble.message

def settingsOf {m : Type → Type} [Monad m] (call : Call) (surroundings : Surroundings m)
    (options : Options) : m (Except Stretch Settings) := do
  if options.settings.isEmpty then return .ok Settings.default
  else
    match ← surroundings.find options.settings with
    | .error fault => return .error (.fatal options.settings (fault.message options.settings))
    | .ok .directory =>
        return .error (.fatal options.settings (unreadableSettings (.directory options.settings)))
    | .ok (.file text) =>
        match Settings.decode text with
        | .ok settings => return .ok settings
        | .error .crashed => return .error (.exit misuseCode)
        | .error refusal =>
            return .error (.fatal options.settings (refusal.message call.documentDetail))

def Entry.feed (name : Bytes) : Entry → Feed
  | .file content => Feed.ofBytes content
  | .directory => { pieces := [], ending := .directory name }

/-- Runs an assembled program on the input that the options name. The standard input comes with the
buffer that it may have been read through already. -/
def launch {m : Type → Type} [Monad m] (call : Call) (surroundings : Surroundings m)
    (options : Options) (settings : Settings) (script : Bytes) (input : m Stream)
    (program : Program) : m Stretch := do
  match views? call settings program with
  | none => return .exit misuseCode
  | some views =>
      if options.check then return (Stretch.exit 0).after views []
      else if options.input = standardInput then
        let reader := Reader.ofStream (← input)
        return (begin script (session settings program reader)).after views []
      else
        match ← surroundings.find options.input with
        | .error fault =>
            return (Stretch.fatal options.input (fault.message options.input)).after views []
        | .ok entry =>
            let reader := Reader.make (entry.feed options.input) .distinct
            return (begin script (session settings program reader)).after views []

def assemble {m : Type → Type} [Monad m] (call : Call) (surroundings : Surroundings m)
    (options : Options) (settings : Settings) (script : Bytes) (input : m Stream) : m Stretch := do
  match ← surroundings.find script with
  | .error fault => return .fatal script (fault.message script)
  | .ok .directory =>
      let rejection := Assembler.SyntaxError.unreadable (.directory script)
      return .fatal script (rejection.message call.expressionDetail)
  | .ok (.file source) =>
      let notes := settings.assembler.account settings.verbose source
      match (settings.assembler.parse source).2 with
      | .error (.crashed _) => return .exit misuseCode
      | .error (.rejected rejection) =>
          return (Stretch.fatal script (rejection.message call.expressionDetail)).after [] notes
      | .ok program =>
          return (← launch call surroundings options settings script input program).after [] notes

/-- Starts the command. The script is named by the argument, or else by the first word of the
input, from which the program then reads on. -/
def start {m : Type → Type} [Monad m] (call : Call) (surroundings : Surroundings m) :
    m Stretch := do
  match Options.parse call.arguments with
  | .error .help => return (Stretch.exit 0).after [] [Options.usage call.name]
  | .error .malformed => return .exit misuseCode
  | .ok options =>
      if 1 < options.arguments.length then
        return .fatal call.name (unknownArguments (options.arguments.drop 1))
      else
        match ← settingsOf call surroundings options with
        | .error stretch => return stretch
        | .ok settings =>
            let settings := options.apply settings
            let input := Stream.ofFeed <$> surroundings.input
            match options.arguments with
            | script :: _ => assemble call surroundings options settings script input
            | [] =>
                match (← input).token with
                | (.error trouble, _) => return .fatal call.name trouble.message
                | (.ok [], _) => return .fatal call.name Trouble.finished.message
                | (.ok script, rest) =>
                    assemble call surroundings options settings (Text.Utf8.encodeAll script)
                      (pure rest)

def Job.runFor (budget : Nat) (job : Job) : Stretch :=
  let notes := if job.session.verbose then job.session.runNotes budget else []
  let (session, outcome) := job.session.runFor budget
  let output :=
    session.machine.console.delivered.drop job.session.machine.console.delivered.length
  let next :=
    match outcome with
    | .done => Stretch.exit 0
    | .failed error => Stretch.fatal job.script error.message
    | .crashed => Stretch.exit misuseCode
    | .unfinished =>
        { output := [], notes := [], progress := .running { job with session } }
  next.after output notes

def logLine (note : Bytes) : Bytes :=
  if note.getLast? = some (byte '\n') then note else note ++ [byte '\n']

end RegisterMachine.CommandLine
