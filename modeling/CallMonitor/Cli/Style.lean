import CallMonitor.Text.Split

/-!
Styled output: colours and weights by escape sequences, or plain text where nobody wants them.
-/

namespace CallMonitor.Cli

open CallMonitor.Text

inductive Style
  /-- Success: green and bold. -/
  | good
  /-- Refusal: red and bold. -/
  | bad
  /-- Attention: yellow and bold. -/
  | notable
  /-- A name: cyan and bold. -/
  | title
  /-- A mark before a name: cyan. -/
  | mark
  /-- What matters less. -/
  | faint
  /-- What hardly matters. -/
  | pale
  | failed
  | warned
  | informed
  | detail
  deriving DecidableEq, Repr

def Style.codes : Style → String
  | good => "1;32"
  | bad => "1;31"
  | notable => "1;33"
  | title => "1;36"
  | mark => "36"
  | faint => "2"
  | pale => "90"
  | failed => "1;31"
  | warned => "33"
  | informed => "32"
  | detail => "34"

def escapeMark : String := "\x1b["

def endOfStyle : String := escapeMark ++ "0m"

/-- A text in a style. Where the text itself ends all styles, the style is taken up again. -/
def paint (colours : Bool) (style : Style) (text : String) : String :=
  if colours then
    let start := escapeMark ++ style.codes ++ "m"
    start ++ replaceAll endOfStyle (endOfStyle ++ start) text ++ endOfStyle
  else text

end CallMonitor.Cli
