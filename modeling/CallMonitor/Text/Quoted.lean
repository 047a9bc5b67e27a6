import CallMonitor.Text.Hidden

/-!
Texts as a diagnostic shows them: between double quotes, with the quote, the backslash and
four controls escaped by a letter and every other hidden character by its number.
-/

namespace CallMonitor.Text

def hexDigits (n : Nat) : List Char := Nat.toDigits 16 n

/-- One character inside a quoted text. An apostrophe stays as it is. -/
def quoteChar (c : Char) : List Char :=
  if c = '\x00' then ['\\', '0']
  else if c = '\t' then ['\\', 't']
  else if c = '\n' then ['\\', 'n']
  else if c = '\r' then ['\\', 'r']
  else if c = '\x22' then ['\\', '\x22']
  else if c = '\\' then ['\\', '\\']
  else if isHidden c then ['\\', 'u', '\x7b'] ++ hexDigits c.toNat ++ ['\x7d']
  else [c]

def quote (text : String) : String :=
  String.ofList (['\x22'] ++ text.toList.flatMap quoteChar ++ ['\x22'])

def bracketed (items : List String) : String :=
  "[" ++ String.intercalate ", " items ++ "]"

end CallMonitor.Text
