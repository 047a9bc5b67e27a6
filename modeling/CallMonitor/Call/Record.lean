import CallMonitor.Call.Value
import CallMonitor.Text.Split

/-!
Intercepted calls and the line that describes one in the log:
thread, class, method, return class, parameters and stack frames, each under its label.
-/

namespace CallMonitor.Call

open CallMonitor.Text

structure Parameter where
  typeName : String
  value : String
  deriving DecidableEq, Repr

/-- An intercepted call. Stack frames are listed innermost first. -/
structure Record where
  thread : String
  className : String
  method : String
  returnClass : String
  parameters : List Parameter
  frames : List String
  deriving DecidableEq, Repr

namespace Record

def noReturn : String := "void"

def absentValue : String := "null"

/-- The resources that a call touches, as policies see them. -/
def resources (record : Record) : List String := record.parameters.map Parameter.value

def describeParameter (parameter : Parameter) : List Char :=
  enclose parameter.typeName ++ [' '] ++ enclose parameter.value

def describeParameters (parameters : List Parameter) : List Char :=
  joinWith [' '] (parameters.map describeParameter)

def describeFrames (frames : List String) : List Char :=
  joinWith ['-', '>'] (frames.map fun frame => escapeQuotes frame.toList)

/-- The line that describes a call. The thread label alone stands without quotes. -/
def payload (record : Record) : String :=
  String.ofList <|
    "TId:".toList ++ record.thread.toList ++
    ";objCls:".toList ++ enclose record.className ++
    ";mthd:".toList ++ enclose record.method ++
    ";retCls:".toList ++ enclose record.returnClass ++
    ";params:".toList ++ describeParameters record.parameters ++
    ";stacktrace:".toList ++ [quoteMark] ++ describeFrames record.frames ++ [quoteMark]

end Record

end CallMonitor.Call
