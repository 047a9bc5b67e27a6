/-!
How single values of a call are written into the log: quotes are escaped so that a quoted value
ends at its closing quote, and long values are cut to a fixed number of characters.
-/

namespace CallMonitor.Call

def quoteMark : Char := '\x27'

def escapeQuotes : List Char → List Char
  | [] => []
  | c :: rest => if c = quoteMark then '\\' :: c :: escapeQuotes rest else c :: escapeQuotes rest

def enclose (value : String) : List Char :=
  quoteMark :: escapeQuotes value.toList ++ [quoteMark]

def valueLimit : Nat := 1024

def cutMark : String := "_TRUNCATED_TO_1000_CHARS"

/-- A value of at most `valueLimit` characters. A longer one keeps its beginning and ends in the
cut mark. The limit counts characters and the room for the mark is counted in bytes. -/
def capLength (value : String) : String :=
  let chars := value.toList
  if chars.length ≤ valueLimit then value
  else String.ofList (chars.take (valueLimit - cutMark.utf8ByteSize) ++ cutMark.toList)

def escaped (value : String) : String := String.ofList (escapeQuotes value.toList)

theorem cut_mark_size : cutMark.utf8ByteSize = 24 := by decide

theorem cut_mark_length : cutMark.toList.length = 24 := by decide

end CallMonitor.Call
