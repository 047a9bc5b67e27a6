import CallMonitor.Call.Record
import Mathlib.Data.List.Induction

/-!
The line that describes a call determines the call.

From its front the line is ambiguous: the thread label may hold anything, and a value that ends in
a backslash closes with what looks like a quote inside it. From its end it is not. The last
character closes the stack trace, and the quote that opens a value is the last one before the
closing quote that follows no backslash, since every quote inside a value follows one. What then
stands before the opening quote, a colon or a space, tells whether another value comes before it.
-/

namespace CallMonitor.Call

open CallMonitor.Text

theorem escape_quotes_append (first second : List Char) :
    escapeQuotes (first ++ second) = escapeQuotes first ++ escapeQuotes second := by
  induction first with
  | nil => rfl
  | cons c first ih =>
      by_cases quote : c = quoteMark
      · simp only [List.cons_append, escapeQuotes, if_pos quote, ih]
      · simp only [List.cons_append, escapeQuotes, if_neg quote, ih]

/-- Takes a value from the end of a line, whose characters are given the last one first, up to the
quote that opens it. -/
def readBack (value : List Char) : List Char → Option (List Char × List Char)
  | [] => none
  | c :: before =>
      if c = quoteMark then
        match before with
        | '\\' :: earlier => readBack (c :: value) earlier
        | _ => some (value, before)
      else readBack (c :: value) before

theorem read_back_opening {before : List Char} (opens : before.head? ≠ some '\\')
    (value : List Char) : readBack value (quoteMark :: before) = some (value, before) := by
  rw [readBack.eq_def]
  simp only [if_pos]
  split
  · exact absurd rfl opens
  · rfl

theorem read_back_escape_quotes (value done : List Char) {before : List Char}
    (opens : before.head? ≠ some '\\') :
    readBack done ((escapeQuotes value).reverse ++ quoteMark :: before) =
      some (value ++ done, before) := by
  -- The reader meets the last character first, so the induction takes characters off the end.
  induction value using List.reverseRecOn generalizing done with
  | nil => exact read_back_opening opens done
  | append_singleton value c ih =>
      rw [escape_quotes_append, List.reverse_append, List.append_assoc]
      by_cases quote : c = quoteMark
      · subst quote
        change readBack done (quoteMark :: '\\' :: ((escapeQuotes value).reverse ++ _)) = _
        rw [readBack, if_pos rfl]
        simp only [ih, List.append_assoc, List.singleton_append]
      · rw [escapeQuotes, escapeQuotes, if_neg quote, List.reverse_singleton,
          List.singleton_append, readBack.eq_def]
        simp only [if_neg quote, ih, List.append_assoc, List.singleton_append]

/-- The last value of a line and what stands before it are determined, unless a backslash stands
before the opening quote. -/
theorem enclose_cancel {before before' : List Char} {value value' : String}
    (opens : before.getLast? ≠ some '\\') (opens' : before'.getLast? ≠ some '\\')
    (same : before ++ enclose value = before' ++ enclose value') :
    before = before' ∧ value = value' := by
  have read : ∀ {before : List Char} (value : String), before.getLast? ≠ some '\\' →
      readBack [] (before ++ enclose value).reverse.tail =
        some (value.toList, before.reverse) := by
    intro before value opens
    rw [← List.head?_reverse] at opens
    have backward : (before ++ enclose value).reverse.tail =
        (escapeQuotes value.toList).reverse ++ quoteMark :: before.reverse := by
      simp [enclose]
    rw [backward, read_back_escape_quotes value.toList [] opens, List.append_nil]
  have found := read value opens
  rw [same, read value' opens', Option.some.injEq, Prod.mk.injEq] at found
  exact ⟨List.reverse_inj.mp found.2.symm, String.toList_inj.mp found.1.symm⟩

theorem field_cancel {before before' label : List Char} {value value' : String}
    (colon : label.getLast? = some ':')
    (same : before ++ label ++ enclose value = before' ++ label ++ enclose value') :
    before = before' ∧ value = value' := by
  have opens : ∀ text : List Char, (text ++ label).getLast? ≠ some '\\' := by
    intro text
    rw [List.getLast?_append, colon, Option.some_or]
    decide
  obtain ⟨labels, values⟩ := enclose_cancel (opens before) (opens before') same
  exact ⟨List.append_cancel_right labels, values⟩

namespace Record

theorem parameter_cancel {before before' : List Char} {parameter parameter' : Parameter}
    (opens : before.getLast? ≠ some '\\') (opens' : before'.getLast? ≠ some '\\')
    (same : before ++ describeParameter parameter = before' ++ describeParameter parameter') :
    before = before' ∧ parameter = parameter' := by
  have spaced : ∀ text : List Char, (text ++ [' ']).getLast? ≠ some '\\' := by
    intro text
    rw [List.getLast?_concat]
    decide
  simp only [describeParameter, ← List.append_assoc] at same
  obtain ⟨types, values⟩ := enclose_cancel (spaced _) (spaced _) same
  obtain ⟨leads, names⟩ := enclose_cancel opens opens' (List.append_cancel_right types)
  refine ⟨leads, ?_⟩
  cases parameter
  cases parameter'
  exact congrArg₂ Parameter.mk names values

theorem join_with_concat (separator : List Char) (pieces : List (List Char)) (last : List Char) :
    joinWith separator (pieces ++ [last]) =
      (if pieces = [] then [] else joinWith separator pieces ++ separator) ++ last := by
  induction pieces with
  | nil => rfl
  | cons piece pieces ih =>
      cases pieces with
      | nil => simp [joinWith]
      | cons next pieces =>
          simp only [List.cons_append, joinWith] at ih ⊢
          simp [ih]

/-- What stands before the parameter that follows some others. -/
def lead (head : List Char) (parameters : List Parameter) : List Char :=
  if parameters = [] then head else head ++ describeParameters parameters ++ [' ']

theorem describe_parameters_concat (head : List Char) (parameters : List Parameter)
    (last : Parameter) :
    head ++ describeParameters (parameters ++ [last]) =
      lead head parameters ++ describeParameter last := by
  rw [describeParameters, List.map_append, List.map_singleton, join_with_concat, lead]
  by_cases none : parameters = []
  · simp [none]
  · simp [none, describeParameters]

section Heads

variable {head head' : List Char}

theorem last_of_lead (colon : head.getLast? = some ':') (parameters : List Parameter) :
    (lead head parameters).getLast? = if parameters = [] then some ':' else some ' ' := by
  unfold lead
  split
  · exact colon
  · exact List.getLast?_concat

theorem lead_opens (colon : head.getLast? = some ':') (parameters : List Parameter) :
    (lead head parameters).getLast? ≠ some '\\' := by
  rw [last_of_lead colon]
  split <;> decide

/-- Behind a colon there are parameters if the last character is a quote, and none if it is the
colon. -/
theorem last_of_described (colon : head.getLast? = some ':') (parameters : List Parameter) :
    (head ++ describeParameters parameters).getLast? =
      if parameters = [] then some ':' else some quoteMark := by
  cases parameters using List.reverseRecOn with
  | nil =>
      rw [describeParameters, List.map_nil, joinWith, List.append_nil]
      exact colon
  | append_singleton parameters last =>
      rw [describe_parameters_concat, List.getLast?_append, describeParameter,
        List.getLast?_append, enclose, List.getLast?_append, if_neg (by simp)]
      rfl

theorem both_nil_of_marks {parameters parameters' : List Parameter} {mark : Char}
    (other : mark ≠ ':')
    (same : (if parameters = [] then some ':' else some mark) =
      if parameters' = [] then some ':' else some mark) :
    parameters = [] ↔ parameters' = [] := by
  by_cases none : parameters = [] <;> by_cases none' : parameters' = [] <;>
    simp_all [Ne.symm other]

theorem parameters_cancel (colon : head.getLast? = some ':') (colon' : head'.getLast? = some ':')
    {parameters parameters' : List Parameter}
    (same : head ++ describeParameters parameters = head' ++ describeParameters parameters') :
    head = head' ∧ parameters = parameters' := by
  -- The last parameter is read first, and what stands before it tells whether there are others.
  induction parameters using List.reverseRecOn generalizing parameters' with
  | nil =>
      have marks := last_of_described colon' parameters'
      rw [← same, last_of_described colon] at marks
      obtain rfl : parameters' = [] := (both_nil_of_marks (by decide) marks).mp rfl
      exact ⟨List.append_cancel_right same, rfl⟩
  | append_singleton parameters last ih =>
      have marks := last_of_described colon' parameters'
      rw [← same, last_of_described colon] at marks
      cases parameters' using List.reverseRecOn with
      | nil => simpa using (both_nil_of_marks (by decide) marks).mpr rfl
      | append_singleton parameters' last' =>
          rw [describe_parameters_concat, describe_parameters_concat] at same
          obtain ⟨leads, rfl⟩ := parameter_cancel (lead_opens colon _) (lead_opens colon' _) same
          have leadMarks := last_of_lead colon' parameters'
          rw [← leads, last_of_lead colon] at leadMarks
          have both := both_nil_of_marks (by decide) leadMarks
          by_cases none : parameters = []
          · obtain rfl := both.mp none
            subst none
            exact ⟨leads, rfl⟩
          · rw [lead, lead, if_neg none, if_neg (mt both.mpr none)] at leads
            obtain ⟨heads, rfl⟩ := ih (List.append_cancel_right leads)
            exact ⟨heads, rfl⟩

end Heads

/-- Frames are escaped one by one, which is the same as escaping their trace. -/
theorem describe_frames (frames : List String) :
    describeFrames frames = escapeQuotes ("->".intercalate frames).toList := by
  rw [String.toList_intercalate, describeFrames]
  induction frames with
  | nil => rfl
  | cons frame frames ih =>
      cases frames with
      | nil => simp [joinWith]
      | cons next frames =>
          simp only [List.map_cons, joinWith, List.intercalate_cons_cons] at ih ⊢
          rw [ih, escape_quotes_append, escape_quotes_append]
          rfl

theorem payload_toList (record : Record) :
    record.payload.toList =
      "TId:".toList ++ record.thread.toList ++
      ";objCls:".toList ++ enclose record.className ++
      ";mthd:".toList ++ enclose record.method ++
      ";retCls:".toList ++ enclose record.returnClass ++
      ";params:".toList ++ describeParameters record.parameters ++
      ";stacktrace:".toList ++ enclose ("->".intercalate record.frames) := by
  have trace : ∀ line : List Char,
      line ++ [quoteMark] ++ describeFrames record.frames ++ [quoteMark] =
        line ++ enclose ("->".intercalate record.frames) := by
    intro line
    rw [describe_frames, enclose, List.append_assoc, List.append_assoc, List.singleton_append,
      List.cons_append]
  unfold payload
  rw [String.toList_ofList]
  exact trace _

/-- Two calls are described by the same line exactly if they agree in everything but the division
of the stack trace into frames, and the traces are the same text. Nothing is assumed about the
texts: quotes, backslashes, separators and labels may stand in all of them, also in the thread
label, which is written as it is. -/
theorem payload_eq_iff (first second : Record) :
    first.payload = second.payload ↔
      first.thread = second.thread ∧ first.className = second.className ∧
        first.method = second.method ∧ first.returnClass = second.returnClass ∧
        first.parameters = second.parameters ∧
        "->".intercalate first.frames = "->".intercalate second.frames := by
  rw [← String.toList_inj, payload_toList, payload_toList]
  constructor
  · intro same
    have colon : ∀ text : List Char, (text ++ ";params:".toList).getLast? = some ':' := by
      intro text
      rw [List.getLast?_append]
      rfl
    obtain ⟨line, frames⟩ := field_cancel rfl same
    obtain ⟨line, parameters⟩ := parameters_cancel (colon _) (colon _) line
    obtain ⟨line, returnClass⟩ := field_cancel rfl (List.append_cancel_right line)
    obtain ⟨line, method⟩ := field_cancel rfl line
    obtain ⟨line, className⟩ := field_cancel rfl line
    have thread := String.toList_inj.mp (List.append_cancel_left line)
    exact ⟨thread, className, method, returnClass, parameters, frames⟩
  · rintro ⟨thread, className, method, returnClass, parameters, frames⟩
    rw [thread, className, method, returnClass, parameters, frames]

end Record

end CallMonitor.Call
