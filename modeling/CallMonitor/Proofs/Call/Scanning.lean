import CallMonitor.Proofs.Call.Payload

/-!
Reading the line that describes a call from its front. The thread label ends at the first semicolon,
and a quoted value at the first quote that no backslash stands directly before.

Such a reader looks no further than it has to, but where a value ends in a backslash it takes the
quote that closes the value for one inside it. So it recovers the calls in which no value does, and
only these.
-/

namespace CallMonitor.Call

open CallMonitor.Text

/-- The text up to the first quote that no backslash stands directly before, and what follows the
quote. `last` is the character before the text. -/
def untilQuote (last : Char) : List Char → Option (List Char × List Char)
  | [] => none
  | c :: rest =>
      if c = quoteMark ∧ last ≠ '\\' then some ([], rest)
      else (untilQuote c rest).map fun found => (c :: found.1, found.2)

/-- A quoted text with every escaped quote replaced by the quote. -/
def unescapeQuotes (text : List Char) : List Char := dropReturns quoteMark '\\' text

def readQuoted : List Char → Option (String × List Char)
  | [] => none
  | c :: rest =>
      if c = quoteMark then
        (untilQuote c rest).map fun found => (String.ofList (unescapeQuotes found.1), found.2)
      else none

def skipText (text : String) (line : List Char) : Option (List Char) :=
  if text.toList.isPrefixOf line then some (line.drop text.toList.length) else none

def readField (label : String) (line : List Char) : Option (String × List Char) :=
  (skipText label line).bind readQuoted

/-- Reads at least one and at most so many parameters, a space between neighbours. -/
def readParameters : Nat → List Char → Option (List Parameter × List Char)
  | 0, _ => none
  | count + 1, line => do
      let (typeName, line) ← readQuoted line
      let (value, line) ← readField " " line
      match skipText " " line with
      | none => some ([⟨typeName, value⟩], line)
      | some line =>
          (readParameters count line).map fun later => (⟨typeName, value⟩ :: later.1, later.2)

/-- Reads parameters up to the next label, if any. -/
def readParameterList (line : List Char) : Option (List Parameter × List Char) :=
  if line.head? = some ';' then some ([], line) else readParameters line.length line

/-- What a line says of a call before the stack trace. -/
structure Outline where
  thread : String
  className : String
  method : String
  returnClass : String
  parameters : List Parameter
  deriving DecidableEq, Repr

/-- Reads a line from its front up to the stack trace. -/
def scan (line : List Char) : Option Outline := do
  let line ← skipText "TId:" line
  let thread := line.takeWhile fun c => c != ';'
  let line := line.dropWhile fun c => c != ';'
  let (className, line) ← readField ";objCls:" line
  let (method, line) ← readField ";mthd:" line
  let (returnClass, line) ← readField ";retCls:" line
  let line ← skipText ";params:" line
  let (parameters, line) ← readParameterList line
  let _ ← skipText ";stacktrace:\x27" line
  some ⟨String.ofList thread, className, method, returnClass, parameters⟩

def Parameter.values (parameter : Parameter) : List String :=
  [parameter.typeName, parameter.value]

def Outline.values (outline : Outline) : List String :=
  [outline.className, outline.method, outline.returnClass] ++
    outline.parameters.flatMap Parameter.values

def Record.outline (record : Record) : Outline :=
  ⟨record.thread, record.className, record.method, record.returnClass, record.parameters⟩

/-- A value whose closing quote cannot be taken for one inside it. -/
def ClosesPlainly (value : String) : Prop := value.toList.getLast? ≠ some '\\'

instance : DecidablePred ClosesPlainly := fun _ => inferInstanceAs (Decidable (_ ≠ some '\\'))

section Writing

theorem until_quote_escape {last : Char} {value : List Char}
    (plain : (last :: value).getLast? ≠ some '\\') (rest : List Char) :
    untilQuote last (escapeQuotes value ++ quoteMark :: rest) =
      some (escapeQuotes value, rest) := by
  induction value generalizing last with
  | nil =>
      have other : last ≠ '\\' := by simpa using plain
      simp [escapeQuotes, untilQuote, other]
  | cons c value ih =>
      have inside : untilQuote c (escapeQuotes value ++ quoteMark :: rest) =
          some (escapeQuotes value, rest) := by
        apply ih
        rw [List.getLast?_cons_cons] at plain
        exact plain
      by_cases quote : c = quoteMark
      · subst quote
        have mark : ('\\' : Char) ≠ quoteMark := by decide
        simp [escapeQuotes, untilQuote, mark, inside]
      · simp [escapeQuotes, untilQuote, quote, inside]

theorem unescape_escape (value : List Char) : unescapeQuotes (escapeQuotes value) = value := by
  induction value with
  | nil => rfl
  | cons c value ih =>
      have mark : quoteMark ≠ '\\' := by decide
      -- A quote is escaped, so an escaped text never starts with one.
      have start : (escapeQuotes value).head? ≠ some quoteMark := by
        cases value with
        | nil => simp [escapeQuotes]
        | cons next value =>
            by_cases quote : next = quoteMark <;> simp [escapeQuotes, quote, mark.symm]
      rw [unescapeQuotes] at ih ⊢
      by_cases quote : c = quoteMark
      · subst quote
        simp [escapeQuotes, dropReturns, mark, ih]
      · simp [escapeQuotes, dropReturns, quote, start, ih]

theorem last_of_quoted {text : List Char} :
    (quoteMark :: text).getLast? ≠ some '\\' ↔ text.getLast? ≠ some '\\' := by
  cases text with
  | nil => decide
  | cons first others => rw [List.getLast?_cons_cons]

theorem read_quoted_enclose {value : String} (plain : ClosesPlainly value) (rest : List Char) :
    readQuoted (enclose value ++ rest) = some (value, rest) := by
  have closes := until_quote_escape (last_of_quoted.mpr plain) rest
  have line : enclose value ++ rest =
      quoteMark :: (escapeQuotes value.toList ++ quoteMark :: rest) := by
    simp [enclose]
  rw [line, readQuoted, if_pos rfl, closes, Option.map_some, unescape_escape, String.ofList_toList]

theorem skip_text_append (text : String) (rest : List Char) :
    skipText text (text.toList ++ rest) = some rest := by
  simp [skipText]

theorem read_field_enclose (label : String) {value : String} (plain : ClosesPlainly value)
    (rest : List Char) :
    readField label (label.toList ++ (enclose value ++ rest)) = some (value, rest) := by
  rw [readField, skip_text_append, Option.bind_some, read_quoted_enclose plain]

theorem describe_parameters_cons_cons (first next : Parameter) (later : List Parameter) :
    Record.describeParameters (first :: next :: later) =
      Record.describeParameter first ++
        (" ".toList ++ Record.describeParameters (next :: later)) := by
  have space : " ".toList = [' '] := rfl
  simp [Record.describeParameters, joinWith, space]

theorem length_le_described (parameters : List Parameter) :
    parameters.length ≤ (Record.describeParameters parameters).length := by
  induction parameters with
  | nil => exact Nat.le_refl _
  | cons first later ih =>
      have visible : 1 ≤ (Record.describeParameter first).length := by
        simp [Record.describeParameter, enclose]
      cases later with
      | nil => exact visible
      | cons next later =>
          rw [describe_parameters_cons_cons, List.length_append, List.length_append]
          simp only [List.length_cons] at ih ⊢
          omega

theorem read_parameters_step {parameter : Parameter}
    (plain : ∀ value ∈ parameter.values, ClosesPlainly value) (count : Nat) (rest : List Char) :
    readParameters (count + 1) (Record.describeParameter parameter ++ rest) =
      match skipText " " rest with
      | none => some ([parameter], rest)
      | some line =>
          (readParameters count line).map fun later => (parameter :: later.1, later.2) := by
  have typePlain := plain parameter.typeName (by simp [Parameter.values])
  have valuePlain := plain parameter.value (by simp [Parameter.values])
  have line : Record.describeParameter parameter ++ rest =
      enclose parameter.typeName ++ (" ".toList ++ (enclose parameter.value ++ rest)) := by
    have space : " ".toList = [' '] := rfl
    simp [Record.describeParameter, space]
  rw [line, readParameters]
  simp only [read_quoted_enclose typePlain, read_field_enclose " " valuePlain,
    Option.bind_eq_bind, Option.bind_some]

theorem read_parameters_described {parameters : List Parameter} (nonempty : parameters ≠ [])
    (plain : ∀ value ∈ parameters.flatMap Parameter.values, ClosesPlainly value)
    {rest : List Char} (ends : skipText " " rest = none) {count : Nat}
    (enough : parameters.length ≤ count) :
    readParameters count (Record.describeParameters parameters ++ rest) =
      some (parameters, rest) := by
  induction parameters generalizing count with
  | nil => exact absurd rfl nonempty
  | cons first later ih =>
      rw [List.flatMap_cons, List.forall_mem_append] at plain
      cases count with
      | zero => cases enough
      | succ count =>
          cases later with
          | nil =>
              have one : Record.describeParameters [first] = Record.describeParameter first := rfl
              rw [one, read_parameters_step plain.1, ends]
          | cons next later =>
              have read := ih (List.cons_ne_nil _ _) plain.2 (Nat.le_of_succ_le_succ enough)
              rw [describe_parameters_cons_cons, List.append_assoc, read_parameters_step plain.1,
                List.append_assoc, skip_text_append]
              simp only [read, Option.map_some]

section Labels

variable {mark : String} {tail : List Char}

theorem read_parameter_list {parameters : List Parameter}
    (plain : ∀ value ∈ parameters.flatMap Parameter.values, ClosesPlainly value)
    (starts : mark.toList = ';' :: tail) (rest : List Char) :
    readParameterList (Record.describeParameters parameters ++ (mark.toList ++ rest)) =
      some (parameters, mark.toList ++ rest) := by
  rw [readParameterList]
  cases parameters with
  | nil =>
      have empty : Record.describeParameters [] ++ (mark.toList ++ rest) = mark.toList ++ rest := rfl
      rw [empty, starts, List.cons_append, List.head?_cons, if_pos rfl]
  | cons first later =>
      have opens : (Record.describeParameters (first :: later) ++ (mark.toList ++ rest)).head? =
          some quoteMark := by
        cases later <;>
          simp [Record.describeParameters, Record.describeParameter, joinWith, enclose]
      have unspaced : skipText " " (mark.toList ++ rest) = none := by
        rw [starts]
        rfl
      have enough : (first :: later).length ≤
          (Record.describeParameters (first :: later) ++ (mark.toList ++ rest)).length := by
        rw [List.length_append]
        exact Nat.le_add_right_of_le (length_le_described _)
      rw [opens, if_neg (by decide)]
      exact read_parameters_described (List.cons_ne_nil _ _) plain unspaced enough

theorem split_at_mark {label : List Char} (absent : ';' ∉ label)
    (starts : mark.toList = ';' :: tail) (rest : List Char) :
    ((label ++ (mark.toList ++ rest)).takeWhile fun c => c != ';') = label ∧
      ((label ++ (mark.toList ++ rest)).dropWhile fun c => c != ';') = mark.toList ++ rest := by
  have visible : ∀ c ∈ label, (c != ';') = true := by
    intro c member
    rw [bne_iff_ne]
    rintro rfl
    exact absent member
  rw [List.takeWhile_append_of_pos visible, List.dropWhile_append_of_pos visible, starts]
  simp

end Labels

/-- A call whose label has no semicolon, and in which no value ends in a backslash, is recovered
from its line. -/
theorem scan_payload {record : Record} (label : ';' ∉ record.thread.toList)
    (plain : ∀ value ∈ record.outline.values, ClosesPlainly value) :
    scan record.payload.toList = some record.outline := by
  rw [Outline.values, List.forall_mem_append] at plain
  have classPlain := plain.1 record.className (by simp [Record.outline])
  have methodPlain := plain.1 record.method (by simp [Record.outline])
  have returnPlain := plain.1 record.returnClass (by simp [Record.outline])
  have parametersPlain : ∀ value ∈ record.parameters.flatMap Parameter.values,
      ClosesPlainly value := plain.2
  have trace : ∀ text : String, ";stacktrace:".toList ++ enclose text =
      ";stacktrace:\x27".toList ++ (escapeQuotes text.toList ++ [quoteMark]) := fun _ => rfl
  have classMark : ";objCls:".toList = ';' :: "objCls:".toList := rfl
  have traceMark : ";stacktrace:\x27".toList = ';' :: "stacktrace:\x27".toList := rfl
  rw [Record.payload_toList]
  simp only [List.append_assoc, trace]
  simp only [scan, skip_text_append, Option.bind_eq_bind, Option.bind_some,
    split_at_mark label classMark, read_field_enclose _ classPlain,
    read_field_enclose _ methodPlain, read_field_enclose _ returnPlain,
    read_parameter_list parametersPlain traceMark, String.ofList_toList]
  rfl

end Writing

section Reading

theorem until_quote_plain {last : Char} {line text rest : List Char}
    (found : untilQuote last line = some (text, rest)) : (last :: text).getLast? ≠ some '\\' := by
  induction line generalizing last text with
  | nil => cases found
  | cons c line ih =>
      rw [untilQuote] at found
      split at found
      · rename_i closes
        cases found
        simpa using closes.2
      · rw [Option.map_eq_some_iff] at found
        rcases found with ⟨⟨inner, after⟩, later, same⟩
        cases same
        rw [List.getLast?_cons_cons]
        exact ih later

/-- Only a backslash before a quote is dropped, so the last character stays. -/
theorem last_of_unescape (text : List Char) : (unescapeQuotes text).getLast? = text.getLast? := by
  induction text with
  | nil => rfl
  | cons c rest ih =>
      rw [unescapeQuotes] at ih ⊢
      rw [dropReturns]
      cases rest with
      | nil => simp [dropReturns]
      | cons next rest =>
          split
          · rw [ih, List.getLast?_cons_cons]
          · rw [List.getLast?_cons, ih, List.getLast?_cons_cons, List.getLast?_cons]
            rfl

theorem read_quoted_plain {line rest : List Char} {value : String}
    (read : readQuoted line = some (value, rest)) : ClosesPlainly value := by
  cases line with
  | nil => cases read
  | cons c line =>
      rw [readQuoted] at read
      split at read
      · rename_i opens
        rw [opens, Option.map_eq_some_iff] at read
        rcases read with ⟨⟨text, after⟩, found, same⟩
        cases same
        rw [ClosesPlainly, String.toList_ofList, last_of_unescape]
        exact last_of_quoted.mp (until_quote_plain found)
      · cases read

theorem read_field_plain {label : String} {line rest : List Char} {value : String}
    (read : readField label line = some (value, rest)) : ClosesPlainly value := by
  rw [readField, Option.bind_eq_some_iff] at read
  rcases read with ⟨after, -, found⟩
  exact read_quoted_plain found

theorem read_parameters_plain {count : Nat} {line rest : List Char} {parameters : List Parameter}
    (read : readParameters count line = some (parameters, rest)) :
    ∀ value ∈ parameters.flatMap Parameter.values, ClosesPlainly value := by
  induction count generalizing line parameters with
  | zero => cases read
  | succ count ih =>
      simp only [readParameters, Option.bind_eq_bind, Option.bind_eq_some_iff, Prod.exists] at read
      rcases read with ⟨typeName, afterType, typeRead, value, afterValue, valueRead, more⟩
      have first : ∀ text ∈ Parameter.values ⟨typeName, value⟩, ClosesPlainly text := by
        intro text member
        simp only [Parameter.values, List.mem_cons, List.not_mem_nil, or_false] at member
        rcases member with rfl | rfl
        · exact read_quoted_plain typeRead
        · exact read_field_plain valueRead
      split at more
      · cases more
        simpa using first
      · rw [Option.map_eq_some_iff] at more
        rcases more with ⟨⟨later, after⟩, laterRead, same⟩
        cases same
        rw [List.flatMap_cons, List.forall_mem_append]
        exact ⟨first, ih laterRead⟩

theorem read_parameter_list_plain {line rest : List Char} {parameters : List Parameter}
    (read : readParameterList line = some (parameters, rest)) :
    ∀ value ∈ parameters.flatMap Parameter.values, ClosesPlainly value := by
  rw [readParameterList] at read
  split at read
  · cases read
    exact List.forall_mem_nil _
  · exact read_parameters_plain read

/-- Whatever is recovered from a line has a label without a semicolon and no value that ends in a
backslash. -/
theorem scan_plain {line : List Char} {outline : Outline} (scanned : scan line = some outline) :
    ';' ∉ outline.thread.toList ∧ ∀ value ∈ outline.values, ClosesPlainly value := by
  simp only [scan, Option.bind_eq_bind, Option.bind_eq_some_iff, Prod.exists] at scanned
  rcases scanned with ⟨line, -, className, afterClass, classRead, method, afterMethod, methodRead,
    returnClass, afterReturn, returnRead, labelled, -, parameters, afterParameters, parametersRead,
    trace, -, same⟩
  cases same
  constructor
  · rw [String.toList_ofList]
    intro semicolon
    have other := List.all_eq_true.mp List.all_takeWhile ';' semicolon
    cases other
  · rw [Outline.values, List.forall_mem_append]
    constructor
    · intro value member
      simp only [List.mem_cons, List.not_mem_nil, or_false] at member
      rcases member with rfl | rfl | rfl
      · exact read_field_plain classRead
      · exact read_field_plain methodRead
      · exact read_field_plain returnRead
    · exact read_parameter_list_plain parametersRead

end Reading

/-- A reader that goes through the line once, from its front, recovers thread label, class, method,
return class and parameters exactly if the label has no semicolon and none of the values in quotes
ends in a backslash. -/
theorem scan_payload_iff (record : Record) :
    scan record.payload.toList = some record.outline ↔
      ';' ∉ record.thread.toList ∧ ∀ value ∈ record.outline.values, ClosesPlainly value := by
  constructor
  · exact scan_plain
  · rintro ⟨label, plain⟩
    exact scan_payload label plain

theorem directory_argument_unread :
    scan (Record.payload ⟨"main", "java.io.File", "list", "void",
      [⟨"java.lang.String", "C:\\"⟩], []⟩).toList = none := by
  decide

end CallMonitor.Call
