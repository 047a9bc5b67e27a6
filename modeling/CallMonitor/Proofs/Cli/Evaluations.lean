import CallMonitor.Cli.Commands
import CallMonitor.Cli.Enclosure
import CallMonitor.Proofs.Json.Spread
import CallMonitor.Proofs.Text.Fields
import CallMonitor.Text.Unstyled

/-!
What is shown of an evaluation says what the evaluation is. A reader finds the verdict in each of
the three formats, and in two of them the rule that decides, or that there is none: people at the
end of what is laid out for them, whatever the method and the resources before it look like, and
other programs in the members of an object.
-/

namespace CallMonitor.Cli

open CallMonitor.Json CallMonitor.Policy CallMonitor.Text

/-- What is found in a shown evaluation: the verdict, and the rule in one line, if one is given. -/
structure Finding where
  verdict : Verdict
  rule : Option String
  deriving DecidableEq, Repr

/-- A label as it stands in what is laid out. -/
def faintly (colours : Bool) (label : String) : String :=
  if colours then "\x1b[2m" ++ label ++ "\x1b[0m" else label

def afterLabel (colours : Bool) (label : String) (line : List Char) : Option String :=
  let start := ("  " ++ faintly colours label ++ " ").toList
  if start <+: line then some (String.ofList (line.drop start.length)) else none

/-- What the line on the rule says: a rule, or that there is none. -/
def readRuleLine (colours : Bool) (line : List Char) : Option (Option String) :=
  match afterLabel colours "Rule:" line with
  | some rule => some (some rule)
  | none => if line = ("  " ++ faintly colours "No matching rule").toList then some none else none

/-- Reads what is laid out from its end: a blank line, the line on the rule, and the line with the
verdict, in whatever style. -/
def readLayOut (colours : Bool) (text : String) : Option Finding :=
  match (splitOn '\n' text.toList).reverse with
  | [] :: [] :: ruleLine :: verdictLine :: _ =>
      match (afterLabel colours "Verdict:" verdictLine).bind fun word =>
          Verdict.ofWord? (unstyled word), readRuleLine colours ruleLine with
      | some verdict, some rule => some ⟨verdict, rule⟩
      | _, _ => none
  | _ => none

/-- The members of an evaluation, as far as they have been read. -/
structure Members where
  method : Option String
  resources : Option (List String)
  rule : Option (Option String)
  rulesLoaded : Option Nat
  verdict : Option Verdict
  deriving DecidableEq, Repr

namespace Members

def unread : Members := ⟨none, none, none, none, none⟩

def read (name : String) (members : Members) (bytes : Bytes) : Option (Members × Bytes) :=
  if name = "method" then
    (readString bytes).map fun read => ({ members with method := some read.1 }, read.2)
  else if name = "resources" then
    (readList readString bytes).map fun read =>
      ({ members with resources := some read.1 }, read.2)
  else if name = "rule" then
    (readNullable bytes).map fun read => ({ members with rule := some read.1 }, read.2)
  else if name = "rules_loaded" then
    (readCount bytes).map fun read => ({ members with rulesLoaded := some read.1 }, read.2)
  else if name = "verdict" then
    (readString bytes).bind fun read =>
      (Verdict.ofWord? read.1).map fun verdict =>
        ({ members with verdict := some verdict }, read.2)
  else none

end Members

def readMembers (text : String) : Option Members :=
  readWholeText (readObject Members.read .unread) (encodeUtf8 text)

/-- The verdict in brackets, with which the compact form starts. -/
def readBracketed (text : String) : Option Verdict :=
  match text.toList with
  | '[' :: rest => Verdict.ofWord? (String.ofList (rest.takeWhile fun c => c ≠ ']'))
  | _ => none

/-- What is found in an evaluation that is shown in a format. The compact one gives no rule. -/
def readShown (format : Format) (colours : Bool) (text : String) : Option Finding :=
  match format with
  | .pretty => readLayOut colours text
  | .json =>
      match readMembers text with
      | some ⟨some _, some _, some rule, some _, some verdict⟩ => some ⟨verdict, rule⟩
      | _ => none
  | .compact => (readBracketed text).map fun verdict => ⟨verdict, none⟩

theorem paint_plain (style : Style) {text : String}
    (plain : occursIn endOfStyle.toList text.toList = false) :
    paint true style text = escapeMark ++ style.codes ++ "m" ++ text ++ endOfStyle := by
  simp only [paint, if_true, replace_all_absent _ plain]

theorem paint_faint (colours : Bool) {label : String}
    (plain : occursIn endOfStyle.toList label.toList = false) :
    paint colours .faint label = faintly colours label := by
  cases colours with
  | false => rfl
  | true =>
      rw [paint_plain _ plain, faintly, if_pos rfl]
      rfl

section LayOut

variable {colours : Bool}

theorem after_label (label text : String) :
    afterLabel colours label ("  " ++ faintly colours label ++ " " ++ text).toList = some text := by
  have split : ("  " ++ faintly colours label ++ " " ++ text).toList =
      ("  " ++ faintly colours label ++ " ").toList ++ text.toList := String.toList_append
  rw [afterLabel, split, if_pos (List.prefix_append _ _), List.drop_left, String.ofList_toList]

theorem read_rule_line_none :
    readRuleLine colours ("  " ++ faintly colours "No matching rule").toList = some none := by
  cases colours <;> decide

theorem word_plain (verdict : Verdict) :
    occursIn endOfStyle.toList verdict.word.toList = false := by
  cases verdict <;> decide

/-- A verdict's word is found in its style or without, on one line. -/
theorem unstyled_verdict (colours : Bool) (verdict : Verdict) :
    unstyled (paint colours (Evaluation.verdictStyle verdict) verdict.word) = verdict.word ∧
      '\n' ∉ (paint colours (Evaluation.verdictStyle verdict) verdict.word).toList := by
  have inside : ∀ shown : String, Escape.outside.strip shown.toList = verdict.word.toList →
      unstyled shown = verdict.word := by
    intro shown stripped
    rw [unstyled, stripped, String.ofList_toList]
  cases colours with
  | false => exact ⟨inside _ (by cases verdict <;> decide), by cases verdict <;> decide⟩
  | true =>
      rw [paint_plain _ (word_plain verdict)]
      exact ⟨inside _ (by cases verdict <;> decide), by cases verdict <;> decide⟩

/-- The line on the rule, without its end. -/
def ruleLine (colours : Bool) (rule : Option Rule) : String :=
  match rule with
  | some rule => "  " ++ faintly colours "Rule:" ++ " " ++ rule.summary
  | none => "  " ++ faintly colours "No matching rule"

theorem read_rule_line (rule : Option Rule) :
    readRuleLine colours (ruleLine colours rule).toList = some (rule.map Rule.summary) := by
  cases rule with
  | none => exact read_rule_line_none
  | some rule =>
      rw [ruleLine, readRuleLine, after_label]
      rfl

theorem faintly_whole {label : String} (whole : '\n' ∉ label.toList) :
    '\n' ∉ (faintly colours label).toList := by
  cases colours with
  | false => exact whole
  | true => simp [faintly, whole]

theorem rule_line_whole {rule : Option Rule}
    (whole : ∀ other, rule = some other → '\n' ∉ other.summary.toList) :
    '\n' ∉ (ruleLine colours rule).toList := by
  cases rule with
  | none =>
      have label : '\n' ∉ (faintly colours "No matching rule").toList := faintly_whole (by decide)
      simp [ruleLine, label]
  | some rule =>
      have label : '\n' ∉ (faintly colours "Rule:").toList := faintly_whole (by decide)
      simp [ruleLine, label, whole rule rfl]

/-- The line on the verdict, without its end. -/
def verdictLine (colours : Bool) (verdict : Verdict) : String :=
  "  " ++ faintly colours "Verdict:" ++ " " ++
    paint colours (Evaluation.verdictStyle verdict) verdict.word

theorem read_verdict_line (verdict : Verdict) :
    ((afterLabel colours "Verdict:" (verdictLine colours verdict).toList).bind fun word =>
      Verdict.ofWord? (unstyled word)) = some verdict := by
  rw [verdictLine, after_label, Option.bind_some, (unstyled_verdict colours verdict).1,
    Verdict.of_word_word]

theorem verdict_line_whole (verdict : Verdict) :
    '\n' ∉ (verdictLine colours verdict).toList := by
  have label : '\n' ∉ (faintly colours "Verdict:").toList := faintly_whole (by decide)
  simp [verdictLine, label, (unstyled_verdict colours verdict).2]

theorem line_append (start text : String) : start ++ line text = line (start ++ text) := by
  rw [line, line, String.append_assoc]

theorem lay_out_rule (evaluation : Evaluation) :
    evaluation.layOut colours =
      line "" ++ labelled colours "Method:" evaluation.query.method ++
        (if evaluation.query.resources.isEmpty then ""
          else labelled colours "Resources:" (", ".intercalate evaluation.query.resources)) ++
        line (verdictLine colours evaluation.verdict) ++
        line (ruleLine colours evaluation.rule) ++ line "" := by
  have verdictLabel : paint colours .faint "Verdict:" = faintly colours "Verdict:" :=
    paint_faint colours (by decide)
  have ruleLabel : paint colours .faint "Rule:" = faintly colours "Rule:" :=
    paint_faint colours (by decide)
  have noRule : paint colours .faint "No matching rule" = faintly colours "No matching rule" :=
    paint_faint colours (by decide)
  rw [verdictLine, ← verdictLabel]
  obtain ⟨query, rule, verdict, loaded⟩ := evaluation
  cases rule with
  | none => simp only [Evaluation.layOut, ruleLine, ← noRule, labelled]
  | some rule => simp only [Evaluation.layOut, ruleLine, ← ruleLabel, labelled]

/-- What is laid out ends in the lines on the verdict and on the rule, and a blank one. -/
theorem exists_lay_out (colours : Bool) (evaluation : Evaluation) :
    ∃ start, evaluation.layOut colours =
      line start ++ line (verdictLine colours evaluation.verdict) ++
        line (ruleLine colours evaluation.rule) ++ line "" := by
  have ends : ∀ begun label text, ∃ start, begun ++ labelled colours label text = line start :=
    fun begun label text => ⟨_, line_append begun _⟩
  rw [lay_out_rule]
  cases evaluation.query.resources with
  | nil =>
      obtain ⟨start, begun⟩ := ends (line "") "Method:" evaluation.query.method
      rw [List.isEmpty_nil, if_pos rfl, String.append_empty, begun]
      exact ⟨start, rfl⟩
  | cons first others =>
      obtain ⟨start, begun⟩ := ends (line "" ++ labelled colours "Method:" evaluation.query.method)
        "Resources:" (", ".intercalate (first :: others))
      rw [List.isEmpty_cons, if_neg Bool.false_ne_true, begun]
      exact ⟨start, rfl⟩

theorem split_last_lines (start : String) {first second : String} (whole : '\n' ∉ first.toList)
    (whole' : '\n' ∉ second.toList) :
    (splitOn '\n' (line start ++ line first ++ line second ++ line "").toList).reverse =
      [] :: [] :: second.toList :: first.toList :: (splitOn '\n' start.toList).reverse := by
  have text : (line start ++ line first ++ line second ++ line "").toList =
      start.toList ++ '\n' :: (first.toList ++ '\n' :: (second.toList ++ '\n' :: ['\n'])) := by
    simp [line]
  rw [text, split_on_append, split_on_ended whole, split_on_ended whole']
  simp [splitOn]

theorem read_lay_out {evaluation : Evaluation}
    (whole : ∀ rule, evaluation.rule = some rule → '\n' ∉ rule.summary.toList) :
    readLayOut colours (evaluation.layOut colours) =
      some ⟨evaluation.verdict, evaluation.rule.map Rule.summary⟩ := by
  obtain ⟨start, laid⟩ := exists_lay_out colours evaluation
  rw [laid, readLayOut,
    split_last_lines start (verdict_line_whole evaluation.verdict) (rule_line_whole whole)]
  simp only [read_verdict_line, read_rule_line]

end LayOut

section Document

def Members.of (evaluation : Evaluation) : Members where
  method := some evaluation.query.method
  resources := some evaluation.query.resources
  rule := some (evaluation.rule.map Rule.summary)
  rulesLoaded := some evaluation.rulesLoaded
  verdict := some evaluation.verdict

def ruleDocument (rule : Option Rule) : Document :=
  match rule with
  | none => .null
  | some rule => .text rule.summary

theorem reads_rule (rule : Option Rule) (depth : Nat) :
    Reads readNullable ((ruleDocument rule).spread depth) (rule.map Rule.summary) := by
  cases rule with
  | none => exact reads_null depth
  | some rule => exact reads_nullable_text rule.summary depth

section Steps

variable (members : Members) (depth : Nat)

/-- What a spread member leaves of the members that have been read before. -/
def ReadsMember (name : String) (value : Document) (next : Members) : Prop :=
  ∀ rest, EndsMember rest →
    Members.read name members ((spreadMember depth (name, value)).2 ++ rest) = some (next, rest)

theorem reads_method (method : String) :
    ReadsMember members depth "method" (.text method) { members with method := some method } := by
  intro rest ends
  have reads := reads_text method depth rest ends
  simp only [Members.read, spreadMember, reads]
  rfl

theorem reads_resources (resources : List String) :
    ReadsMember members depth "resources" (.list (resources.map .text))
      { members with resources := some resources } := by
  intro rest ends
  have reads := reads_texts resources depth rest ends
  simp only [Members.read, spreadMember, reads]
  rfl

theorem reads_deciding_rule (rule : Option Rule) :
    ReadsMember members depth "rule" (ruleDocument rule)
      { members with rule := some (rule.map Rule.summary) } := by
  intro rest ends
  have reads := reads_rule rule depth rest ends
  simp only [Members.read, spreadMember, reads]
  rfl

theorem reads_rules_loaded (loaded : Nat) :
    ReadsMember members depth "rules_loaded" (.number loaded)
      { members with rulesLoaded := some loaded } := by
  intro rest ends
  have reads := reads_number loaded depth rest ends
  simp only [Members.read, spreadMember, reads]
  rfl

theorem reads_verdict (verdict : Verdict) :
    ReadsMember members depth "verdict" (.text verdict.word)
      { members with verdict := some verdict } := by
  intro rest ends
  have reads := reads_text verdict.word depth rest ends
  simp only [Members.read, spreadMember, reads, Option.bind_some, Verdict.of_word_word]
  rfl

end Steps

theorem members_fill (evaluation : Evaluation) :
    Fills Members.read .unread
      ([("method", Document.text evaluation.query.method),
        ("resources", .list (evaluation.query.resources.map .text)),
        ("rule", ruleDocument evaluation.rule),
        ("rules_loaded", .number evaluation.rulesLoaded),
        ("verdict", .text evaluation.verdict.word)].map (spreadMember 1))
      (.of evaluation) :=
  .more (reads_method _ 1 _) (.more (reads_resources _ 1 _) (.more (reads_deciding_rule _ 1 _)
    (.more (reads_rules_loaded _ 1 _) (.more (reads_verdict _ 1 _) .none))))

theorem read_document (evaluation : Evaluation) :
    readMembers (line (evaluation.document.spread 0)) = some (.of evaluation) := by
  have read := read_object_spread 0 (members_fill evaluation) (utf8 ['\n'])
  have same : evaluation.document = .object [("method", .text evaluation.query.method),
      ("resources", .list (evaluation.query.resources.map .text)),
      ("rule", ruleDocument evaluation.rule), ("rules_loaded", .number evaluation.rulesLoaded),
      ("verdict", .text evaluation.verdict.word)] := by
    obtain ⟨query, rule, verdict, loaded⟩ := evaluation
    cases rule <;> rfl
  have text : encodeUtf8 (line (evaluation.document.spread 0)) =
      utf8 (evaluation.document.spread 0).toList ++ utf8 ['\n'] := by
    rw [← utf8_append]
    exact congrArg utf8 String.toList_append
  rw [readMembers, text, same, readWholeText, read]
  rfl

end Document

theorem read_bracketed (verdict : Verdict) (rest : String) :
    readBracketed ("[" ++ verdict.word ++ "] " ++ rest) = some verdict := by
  have text : ("[" ++ verdict.word ++ "] " ++ rest).toList =
      '[' :: (verdict.word.toList ++ ']' :: ' ' :: rest.toList) := by simp
  have inside : verdict.word.toList.all (fun c => c ≠ ']') = true := by cases verdict <;> rfl
  have word : (verdict.word.toList ++ ']' :: ' ' :: rest.toList).takeWhile (fun c => c ≠ ']') =
      verdict.word.toList := by
    rw [List.takeWhile_append_of_pos (List.all_eq_true.mp inside),
      List.takeWhile_cons_of_neg (by decide), List.append_nil]
  rw [readBracketed, text]
  refine Eq.trans (congrArg (fun word => Verdict.ofWord? (String.ofList word)) word) ?_
  rw [String.ofList_toList, Verdict.of_word_word]

/-- Whatever the format, and with styles or without: what is shown of an evaluation says its
verdict, and its rule or that there is none, which only the compact form leaves out. -/
theorem read_shown (format : Format) (colours : Bool) {evaluation : Evaluation}
    (whole : ∀ rule, evaluation.rule = some rule → '\n' ∉ rule.summary.toList) :
    readShown format colours (evaluation.shown format colours) =
      some ⟨evaluation.verdict,
        if format = .compact then none else evaluation.rule.map Rule.summary⟩ := by
  cases format with
  | pretty => exact read_lay_out whole
  | json =>
      simp only [readShown, Evaluation.shown, read_document]
      rfl
  | compact =>
      have shown : evaluation.shown .compact colours =
          "[" ++ evaluation.verdict.word ++ "] " ++ line
            (evaluation.query.method ++ " " ++ " ".intercalate evaluation.query.resources) := by
        simp only [line_append, Evaluation.shown, String.append_assoc]
      rw [readShown, shown, read_bracketed]
      rfl

/-- In a closed world, the command that evaluates a call under a policy prints the evaluation by
what stands at the policy's path, and nothing else. Without an evaluation it fails and prints
nothing. -/
theorem evaluate_run (world : Enclosure) (session : Session) (format : Format) (query : Query)
    (path : String) :
    (evaluate Enclosure.surroundings session format query (some path)).run world =
      match Evaluation.ofState path (world.files.look path) query with
      | .error error =>
          (.error (.under ("Failed to load policy file " ++ path) error.message error.causes),
            world)
      | .ok evaluation =>
          (.ok (),
            { world with
              printed := world.printed ++ evaluation.shown format session.colours }) := by
  have ran : (evaluate Enclosure.surroundings session format query (some path)).run world =
      (match Evaluation.ofState path (world.files.look path) query with
        | .error error => (pure (.error (.under ("Failed to load policy file " ++ path)
            error.message error.causes)) : StateM Enclosure Result)
        | .ok evaluation => do
            Enclosure.surroundings.print (evaluation.shown format session.colours)
            pure (.ok ())).run world := rfl
  rw [ran]
  cases Evaluation.ofState path (world.files.look path) query <;> rfl

end CallMonitor.Cli
