import CallMonitor.Cli.Arguments
import CallMonitor.Cli.Style
import CallMonitor.Wire.Body

/-!
How the rows of a monitor's answer are shown: laid out for people, as JSON, or one row a line with
tabs between columns.
-/

namespace CallMonitor.Cli

open CallMonitor.Wire

def absentColumn : String := "-"

def showColumn (column : Option String) : String := column.getD absentColumn

def line (text : String) : String := text ++ "\n"

def labelled (colours : Bool) (label text : String) : String :=
  line ("  " ++ paint colours .faint label ++ " " ++ text)

def layOutRow (colours : Bool) (question : Monitor.Command) (row : Row) : String :=
  match question with
  | .checkConnection =>
      labelled colours "pid:" (showColumn row.first) ++
        labelled colours "package:" (showColumn row.second)
  | .getLogs =>
      line ("  " ++ paint colours .faint (showColumn row.second) ++ " [" ++
        showColumn row.first ++ "] " ++ row.third.getD "")
  | .getTime | .close => line ("  " ++ showColumn row.first)

def ruler : String := String.ofList (List.replicate 50 '\u2500')

def layOutRows (colours : Bool) (question : Monitor.Command) (rows : List Row) : String :=
  line "" ++
    line (paint colours .mark "\u25b6" ++ " " ++ paint colours .title question.token) ++
    line ruler ++
    (if rows.isEmpty then line ("  " ++ paint colours .faint "(no rows)") else "") ++
    String.join (rows.map (layOutRow colours question)) ++ line ""

def columnDocument : Option String → Json.Document
  | none => .null
  | some text => .text text

def rowsDocument (rows : List Row) : Json.Document :=
  .list (rows.map fun row => .list (row.columns.map columnDocument))

def showRows (format : Format) (colours : Bool) (question : Monitor.Command) (rows : List Row) :
    String :=
  match format with
  | .pretty => layOutRows colours question rows
  | .json => line ((rowsDocument rows).spread 0)
  | .compact =>
      String.join (rows.map fun row => line ("\t".intercalate (row.columns.map showColumn)))

end CallMonitor.Cli
