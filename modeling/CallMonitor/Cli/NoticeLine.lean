import CallMonitor.Calendar
import CallMonitor.Cli.Style
import CallMonitor.Notice
import CallMonitor.Text.Unstyled

/-!
A notice as a line for people: the time, the level, the target and the text. Further lines of the
text are indented. Where styles are of use, the level has its colour and the brackets are pale;
elsewhere no control character is left.
-/

namespace CallMonitor.Cli

open CallMonitor.Text

/-- An instant as date and time of day with a mark between them, to the second. -/
def secondMark (instant : Instant) : String :=
  let text := instant.write.toList.takeWhile (· != '.')
  String.ofList ((text.map fun c => if c == ' ' then 'T' else c) ++ ['Z'])

def levelColumn (level : Level) : String :=
  level.word ++ String.ofList (List.replicate (5 - level.word.length) ' ')

def levelStyle : Level → Style
  | .error => .failed
  | .warn => .warned
  | .info => .informed
  | .debug => .detail
  | .trace => .mark

def noticeText (notice : Notice) : String := replaceAll "\n" "\n    " notice.text

def noticeLine (colours : Bool) (instant : Instant) (notice : Notice) : String :=
  let text :=
    paint colours .pale "[" ++ secondMark instant ++ " " ++
      paint colours (levelStyle notice.level) (levelColumn notice.level) ++ " " ++
      notice.target ++ paint colours .pale "]" ++ " " ++ noticeText notice ++ "\n"
  if colours then text else unstyled text

end CallMonitor.Cli
