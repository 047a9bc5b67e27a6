/-!
Splitting a sequence at a separator, and a text into lines. The element type is left open:
policy texts are split as characters, recorded input as bytes.
-/

namespace CallMonitor.Text

variable {α : Type} [DecidableEq α]

/-- The fields between occurrences of `separator`; always at least one. -/
def splitOn (separator : α) : List α → List (List α)
  | [] => [[]]
  | c :: rest =>
      if c = separator then [] :: splitOn separator rest
      else
        match splitOn separator rest with
        | [] => [[c]]
        | field :: fields => (c :: field) :: fields

/-- Drops every carriage return that stands directly before a line feed. -/
def dropReturns (lf cr : α) : List α → List α
  | [] => []
  | c :: rest =>
      if c = cr ∧ rest.head? = some lf then dropReturns lf cr rest
      else c :: dropReturns lf cr rest

/-- The pieces ended by `lf`, and the piece after the last one unless it is empty. -/
def splitEnded (lf : α) : List α → List (List α)
  | [] => []
  | c :: rest =>
      if c = lf then [] :: splitEnded lf rest
      else
        match splitEnded lf rest with
        | [] => [[c]]
        | line :: lines => (c :: line) :: lines

/-- Lines end at a line feed or at a carriage return with a line feed; the last line may lack
its ending. A carriage return elsewhere belongs to its line. -/
def lines (text : List Char) : List (List Char) :=
  splitEnded '\n' (dropReturns '\n' '\r' text)

def byteLines (bytes : List UInt8) : List (List UInt8) :=
  splitEnded 10 (dropReturns 10 13 bytes)

def joinWith (separator : List α) : List (List α) → List α
  | [] => []
  | [piece] => piece
  | piece :: next :: rest => piece ++ separator ++ joinWith separator (next :: rest)

def occursIn (needle : List α) : List α → Bool
  | [] => needle.isEmpty
  | c :: rest => needle.isPrefixOf (c :: rest) || occursIn needle rest

/-- Characters with every occurrence of some replaced by others, from the left; the first `skip` of
them belong to an occurrence that has been replaced already. -/
def replaceFrom (old new : List Char) (skip : Nat) : List Char → List Char
  | [] => []
  | c :: rest =>
      match skip with
      | skip + 1 => replaceFrom old new skip rest
      | 0 =>
          if old.isPrefixOf (c :: rest) then new ++ replaceFrom old new (old.length - 1) rest
          else c :: replaceFrom old new 0 rest

/-- A text with every occurrence of one text, which is not empty, replaced by another. -/
def replaceAll (old new text : String) : String :=
  String.ofList (replaceFrom old.toList new.toList 0 text.toList)

theorem replace_from_absent {old text : List Char} (new : List Char)
    (absent : occursIn old text = false) : replaceFrom old new 0 text = text := by
  induction text with
  | nil => rfl
  | cons c rest ih =>
      rw [occursIn, Bool.or_eq_false_iff] at absent
      simp only [replaceFrom, absent.1, ih absent.2]
      rfl

theorem replace_all_absent {old text : String} (new : String)
    (absent : occursIn old.toList text.toList = false) : replaceAll old new text = text := by
  rw [replaceAll, replace_from_absent _ absent, String.ofList_toList]

end CallMonitor.Text
