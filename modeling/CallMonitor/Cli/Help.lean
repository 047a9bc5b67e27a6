import CallMonitor.Bindings
import CallMonitor.Cli.Arguments
import CallMonitor.Cli.Rows

/-!
What the program tells about its own command line. Options are listed by their place in their
list and then by their letter or name, the common ones beside a command's own; the two that every
program has come last.
-/

namespace CallMonitor.Cli

def programName : String := "callwatch"

def versionLine (scope : Scope) : String :=
  let name := if scope = .program then programName else programName ++ "-" ++ scope.word
  line (name ++ " " ++ Bindings.version)

def Scope.purpose : Scope → String
  | program => "CLI for CallWatch - run and query API call monitors"
  | serve => "Run a monitor agent in the foreground until a controller sends " ++
      String.ofList ['\x60'] ++ "close" ++ String.ofList ['\x60']
  | query => "Send one command to a running monitor and print the rows"
  | policy => "Evaluate the policy for a method call"
  | init => "Write a default configuration file"
  | version => "Show version information"

def Scope.arguments : Scope → List (String × String)
  | query => [("<COMMAND>", "Command to send [possible values: check, logs, time, close]")]
  | policy => [("<METHOD>", "Method signature"),
      ("[RESOURCES]...", "Resources touched by the call")]
  | _ => []

def Flag.valueName : Flag → String
  | format => "<FORMAT>"
  | config => "<CONFIG>"
  | port => "<PORT>"
  | package => "<PACKAGE>"
  | policy => "<POLICY>"
  | host => "<HOST>"
  | timeout => "<TIMEOUT_MS>"
  | file => "<FILE>"
  | plain | help | version | recordInput | force => ""

def Flag.purpose (scope : Scope) : Flag → String
  | format => "Output format [default: pretty] [possible values: pretty, json, compact]"
  | plain => "Disable colored output"
  | config => "Configuration file path"
  | help => "Print help"
  | version => "Print version"
  | port =>
      if scope = .serve then
        "Candidate port, tried in the given order (can be specified multiple times)"
      else "Monitor port (default: first configured port)"
  | package => "Package name reported to connection checks [default: callwatch-cli]"
  | policy => "Policy file"
  | recordInput => "Record every stdin line as a call payload"
  | host => "Monitor host [default: 127.0.0.1]"
  | timeout => "Connect and read timeout (milliseconds) [default: 10000]"
  | file => "Policy file (default: from configuration)"
  | force => "Overwrite an existing file"

def Flag.usage (scope : Scope) (flag : Flag) : String :=
  let (long, short) := flag.names
  let start :=
    match short with
    | none => "    --" ++ long
    | some letter => String.ofList ['-', letter] ++ ", --" ++ long
  let value := if scope = .serve ∧ flag = .port then "<PORTS>" else flag.valueName
  if flag.takesValue then start ++ " " ++ value else start

def Flag.rank (scope : Scope) (flag : Flag) : Nat :=
  if flag = .help ∨ flag = .version then 999
  else
    match Flag.common.findIdx? (· == flag) with
    | some index => index
    | none => ((Flag.known scope).drop Flag.common.length).findIdx (· == flag)

def Flag.key (flag : Flag) : String :=
  match flag.names.2 with
  | none => flag.names.1
  | some letter => String.ofList [letter.toLower]

def listed (scope : Scope) : List Flag :=
  (Flag.known scope).mergeSort fun a b =>
    Flag.rank scope a < Flag.rank scope b ||
      (Flag.rank scope a == Flag.rank scope b && decide (a.key ≤ b.key))

def columns (entries : List (String × String)) : List String :=
  let width := entries.foldl (fun width entry => max width entry.1.length) 0
  entries.map fun (first, second) =>
    "  " ++ first ++ String.ofList (List.replicate (width - first.length + 2) ' ') ++ second

def part (headline : String) (entries : List (String × String)) : List String :=
  if entries.isEmpty then [] else ["", headline ++ ":"] ++ columns entries

def usageLine (scope : Scope) : String :=
  let words :=
    if scope = .program then [programName, "[OPTIONS]", "<COMMAND>"]
    else [programName, scope.word, "[OPTIONS]"] ++ scope.arguments.map (·.1)
  "Usage: " ++ " ".intercalate words

def commandList (scope : Scope) : List (String × String) :=
  if scope = .program then
    Scope.commands.map (fun command => (command.word, command.purpose)) ++
      [("help", "Print this message or the help of the given subcommand(s)")]
  else []

def help (scope : Scope) : String :=
  String.join <| List.map line <|
    [scope.purpose, "", usageLine scope] ++ part "Commands" (commandList scope) ++
      part "Arguments" scope.arguments ++
      part "Options" ((listed scope).map fun flag => (flag.usage scope, flag.purpose scope))

def usage : String :=
  line "error: the command line makes no sense" ++ line "" ++ line (usageLine .program) ++
    line "" ++ line "For more information, try '--help'."

end CallMonitor.Cli
