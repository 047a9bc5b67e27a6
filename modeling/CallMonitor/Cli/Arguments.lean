import CallMonitor.Monitor.Command

/-!
The command line: options that every command knows, the commands, and their own options. Options
may stand before and after the command; what stands after it counts more. A short option may be
run together with others and with its value, and two hyphens end all options.
-/

namespace CallMonitor.Cli

inductive Format
  | pretty
  | json
  | compact
  deriving DecidableEq, Repr

def Format.ofWord? : String → Option Format
  | "pretty" => some pretty
  | "json" => some json
  | "compact" => some compact
  | _ => none

def questionOf? : String → Option Monitor.Command
  | "check" => some .checkConnection
  | "logs" => some .getLogs
  | "time" => some .getTime
  | "close" => some .close
  | _ => none

inductive Command
  | serve (ports : List Nat) (package : String) (policy : Option String) (recordInput : Bool)
  | query (question : Monitor.Command) (host : String) (port : Option Nat) (timeout : Nat)
  | policy (method : String) (resources : List String) (file : Option String)
  | init (force : Bool)
  | version
  deriving DecidableEq, Repr

structure Invocation where
  format : Format
  plain : Bool
  config : Option String
  command : Command
  deriving DecidableEq, Repr

/-- Where in a command line one stands: before a command, or after one. -/
inductive Scope
  | program
  | serve
  | query
  | policy
  | init
  | version
  deriving DecidableEq, Repr

namespace Scope

def word : Scope → String
  | program => ""
  | serve => "serve"
  | query => "query"
  | policy => "policy"
  | init => "init"
  | version => "version"

def commands : List Scope := [serve, query, policy, init, version]

def ofWord? (text : String) : Option Scope := commands.find? fun scope => scope.word == text

end Scope

inductive Flag
  | format
  | plain
  | config
  | help
  | version
  | port
  | package
  | policy
  | recordInput
  | host
  | timeout
  | file
  | force
  deriving DecidableEq, Repr

namespace Flag

def names : Flag → String × Option Char
  | format => ("format", some 'f')
  | plain => ("no-color", none)
  | config => ("config", some 'c')
  | help => ("help", some 'h')
  | version => ("version", some 'V')
  | port => ("port", some 'p')
  | package => ("package", none)
  | policy => ("policy", none)
  | recordInput => ("record-stdin", none)
  | host => ("host", none)
  | timeout => ("timeout-ms", none)
  | file => ("file", none)
  | force => ("force", none)

def takesValue : Flag → Bool
  | plain | help | version | recordInput | force => false
  | _ => true

def common : List Flag := [format, plain, config, help, version]

def known : Scope → List Flag
  | .serve => common ++ [port, package, policy, recordInput]
  | .query => common ++ [host, port, timeout]
  | .policy => common ++ [file]
  | .init => common ++ [force]
  | .program | .version => common

def repeats (scope : Scope) (flag : Flag) : Bool := scope == .serve && flag == port

def ofLong? (scope : Scope) (name : String) : Option Flag :=
  (known scope).find? fun flag => flag.names.1 == name

def ofShort? (scope : Scope) (name : Char) : Option Flag :=
  (known scope).find? fun flag => flag.names.2 == some name

end Flag

/-- A whole number up to a largest one; a plus sign may stand before it. -/
def readNumber (largest : Nat) (text : String) : Option Nat :=
  let digits : List Char :=
    match text.toList with
    | '+' :: rest => rest
    | all => all
  let value := digits.foldl (fun value c => value * 10 + (c.toNat - 0x30)) 0
  if digits.isEmpty || !digits.all (fun c => decide ('0' ≤ c ∧ c ≤ '9')) || largest < value then
    none
  else some value

def largestPort : Nat := 65535

def largestTimeout : Nat := 18446744073709551615

/-- Whether a value suits an option. Paths are not empty. -/
def Flag.suits (flag : Flag) (value : String) : Bool :=
  match flag with
  | format => (Format.ofWord? value).isSome
  | port => (readNumber largestPort value).isSome
  | timeout => (readNumber largestTimeout value).isSome
  | config | policy | file => !value.isEmpty
  | _ => true

abbrev Given := Flag × String

structure Reading where
  scope : Scope
  before : List Given
  given : List Given
  plain : List String
  /-- The option whose value comes next. -/
  awaiting : Option Flag
  /-- A value was wrong; it counts when the next option is looked at, or at the end. -/
  doubtful : Bool
  doubtfulBefore : Bool
  optionsEnded : Bool

inductive Outcome
  | run (invocation : Invocation)
  | showVersion (scope : Scope)
  | showHelp (scope : Scope)
  | refused
  deriving DecidableEq, Repr

namespace Reading

def start : Reading := ⟨.program, [], [], [], none, false, false, false⟩

def enter (reading : Reading) (scope : Scope) : Reading :=
  { start with
    scope := scope, before := reading.given, doubtfulBefore := reading.doubtful }

def accepts (reading : Reading) (flag : Flag) (value : String) : Bool :=
  flag.suits value &&
    (flag.repeats reading.scope || reading.given.all fun given => given.1 != flag)

def give (reading : Reading) (flag : Flag) (value : String) : Option Reading :=
  if reading.doubtful || !reading.accepts flag value then none
  else some { reading with given := reading.given ++ [(flag, value)] }

def takeValue (reading : Reading) (flag : Flag) (value : String) : Reading :=
  if reading.accepts flag value then
    { reading with awaiting := none, given := reading.given ++ [(flag, value)] }
  else { reading with awaiting := none, doubtful := true }

/-- The first option of a kind; options after the command come first. -/
def value? (reading : Reading) (flag : Flag) : Option String :=
  (reading.given.lookup flag).or (reading.before.lookup flag)

def has (reading : Reading) (flag : Flag) : Bool := (reading.value? flag).isSome

/-- Takes an argument without a name, if there is room for one. -/
def takePlain (reading : Reading) (word : String) : Option Reading :=
  let taken := { reading with plain := reading.plain ++ [word] }
  match reading.scope with
  | .policy => some { taken with optionsEnded := reading.optionsEnded || !reading.plain.isEmpty }
  | .query =>
      if reading.plain.isEmpty then
        some { taken with doubtful := reading.doubtful || (questionOf? word).isNone }
      else none
  | _ => none

/-- Whether an argument without a name may look like an option here: resources may. -/
def allowsHyphens (reading : Reading) : Bool :=
  reading.scope == .policy && !reading.plain.isEmpty

def command? (reading : Reading) : Option Command :=
  match reading.scope with
  | .program => none
  | .serve =>
      some (.serve
        (reading.given.filterMap fun given =>
          if given.1 = .port then readNumber largestPort given.2 else none)
        ((reading.value? .package).getD "callwatch-cli") (reading.value? .policy)
        (reading.has .recordInput))
  | .query =>
      (reading.plain.head?.bind questionOf?).map fun question =>
        .query question ((reading.value? .host).getD "127.0.0.1")
          ((reading.value? .port).bind (readNumber largestPort))
          (((reading.value? .timeout).bind (readNumber largestTimeout)).getD 10000)
  | .policy =>
      match reading.plain with
      | [] => none
      | method :: resources => some (.policy method resources (reading.value? .file))
  | .init => some (.init (reading.has .force))
  | .version => some .version

def finish (reading : Reading) : Outcome :=
  if reading.awaiting.isSome || reading.doubtful || reading.doubtfulBefore then .refused
  else
    match reading.command? with
    | none => .refused
    | some command =>
        .run ⟨((reading.value? .format).bind Format.ofWord?).getD .pretty, reading.has .plain,
          reading.value? .config, command⟩

end Reading

inductive Hyphenated
  | stop (outcome : Outcome)
  | next (reading : Reading)
  /-- It is no option, but it may be an argument or a value. -/
  | noOption

def readFlag (reading : Reading) (flag : Flag) : Hyphenated :=
  if reading.doubtful || reading.awaiting.isSome then .stop .refused
  else
    match flag with
    | .help => .stop (.showHelp reading.scope)
    | .version => .stop (.showVersion reading.scope)
    | _ =>
        if flag.takesValue then .next { reading with awaiting := some flag }
        else
          match reading.give flag "" with
          | none => .stop .refused
          | some reading => .next reading

def readAttached (reading : Reading) (flag : Flag) (value : String) : Hyphenated :=
  if reading.awaiting.isSome then .stop .refused
  else
    match reading.give flag value with
    | none => .stop .refused
    | some reading => .next reading

def readLong (reading : Reading) (text : List Char) : Hyphenated :=
  let name := text.takeWhile (· != '=')
  match Flag.ofLong? reading.scope (String.ofList name), text.drop name.length with
  | none, _ => if reading.allowsHyphens then .noOption else .stop .refused
  | some flag, [] => readFlag reading flag
  | some flag, _ :: value =>
      if flag.takesValue then readAttached reading flag (String.ofList value) else .stop .refused

/-- Short options run together, after their hyphen. -/
def readShorts (reading : Reading) : List Char → Hyphenated
  | [] => .next reading
  | name :: rest =>
      match Flag.ofShort? reading.scope name with
      | none => .stop .refused
      | some flag =>
          match flag.takesValue, rest with
          | true, '=' :: value => readAttached reading flag (String.ofList value)
          | true, c :: value => readAttached reading flag (String.ofList (c :: value))
          | _, _ =>
              match readFlag reading flag with
              | .next reading => readShorts reading rest
              | other => other

/-- Short options, after their hyphen. Where arguments may look like options, one unknown letter
makes an argument of all. -/
def readShort (reading : Reading) (text : List Char) : Hyphenated :=
  if reading.allowsHyphens &&
      text.any fun name => (Flag.ofShort? reading.scope name).isNone then .noOption
  else readShorts reading text

def readHyphenated (reading : Reading) (word : String) : Hyphenated :=
  match word.toList with
  | '-' :: '-' :: c :: rest => readLong reading (c :: rest)
  | '-' :: c :: rest => if c = '-' then .noOption else readShort reading (c :: rest)
  | _ => .noOption

def readHelp : List String → Outcome
  | [] => .showHelp .program
  | ["help"] => .showHelp .program
  | [word] =>
      match Scope.ofWord? word with
      | none => .refused
      | some scope => .showHelp scope
  | _ => .refused

def readWords (reading : Reading) : List String → Outcome
  | [] => reading.finish
  | word :: rest =>
      let argument : Outcome :=
        match reading.takePlain word with
        | none => .refused
        | some reading => readWords reading rest
      if reading.optionsEnded then argument
      else if reading.scope = .program ∧ reading.awaiting = none ∧ word = "help" then readHelp rest
      else
        match if reading.awaiting = none ∧ reading.scope = .program then Scope.ofWord? word
          else none with
        | some scope => readWords (reading.enter scope) rest
        | none =>
            if word = "--" then
              if reading.awaiting.isSome then .refused
              else readWords { reading with optionsEnded := true } rest
            else
              match readHyphenated reading word with
              | .stop outcome => outcome
              | .next reading => readWords reading rest
              | .noOption =>
                  match reading.awaiting with
                  | some flag => readWords (reading.takeValue flag word) rest
                  | none => argument

def readArguments (words : List String) : Outcome := readWords Reading.start words

end CallMonitor.Cli
