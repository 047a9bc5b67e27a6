import CallMonitor.Proofs.Toml.Bounds
import CallMonitor.Settings.Document

/-!
Documents that say only some of the settings. Each setting stands alone: the document has a value
for it, or the default holds, whatever becomes of the others. One item that is no value for its
setting refuses the whole document, and items that are for no setting are not looked at.
-/

namespace CallMonitor.Settings

open CallMonitor.Toml

/-- The settings that a document can hold. -/
inductive Field
  | ports
  | address
  | readTimeout
  | frameLimit
  | policyFile
  | level
  deriving DecidableEq, Repr

namespace Field

/-- The section that a setting stands in. -/
def part : Field → String
  | ports | address | readTimeout | frameLimit => "server"
  | policyFile => "policy"
  | level => "logging"

def key : Field → String
  | ports => "ports"
  | address => "bind_address"
  | readTimeout => "read_timeout_ms"
  | frameLimit => "max_frame_bytes"
  | policyFile => "file"
  | level => "level"

abbrev Value : Field → Type
  | ports => List Nat
  | address => Net.Address
  | readTimeout => Option Nat
  | frameLimit => Nat
  | policyFile => Option String
  | level => String

/-- An item states a value for a setting. Ports are a list of whole numbers of sixteen bits, an
address is a text that spells one, times and lengths are whole numbers without a minus, and a path
and a level are texts. -/
def States : (field : Field) → Item → field.Value → Prop
  | ports, item, listed => item = .list (listed.map fun port : Nat => .integer port) ∧
      ∀ port ∈ listed, port ≤ 65535
  | address, item, bound => ∃ text, item = .text text ∧ Net.Address.parse text = some bound
  | readTimeout, item, timeout => ∃ ms : Nat, item = .integer ms ∧ timeout = some ms
  | frameLimit, item, limit => item = .integer limit
  | policyFile, item, file => ∃ path, item = .text path ∧ file = some path
  | level, item, shown => item = .text shown

theorem forall_iff {p : Field → Prop} :
    (∀ field, p field) ↔ p ports ∧ p address ∧ p readTimeout ∧ p frameLimit ∧ p policyFile ∧
      p level := by
  refine ⟨fun all => ⟨all _, all _, all _, all _, all _, all _⟩, ?_⟩
  rintro ⟨ports, address, readTimeout, frameLimit, policyFile, level⟩ field
  cases field <;> assumption

end Field

section Values

def value (settings : Settings) : (field : Field) → field.Value
  | .ports => settings.server.ports
  | .address => settings.server.address
  | .readTimeout => settings.server.readTimeout
  | .frameLimit => settings.server.frameLimit
  | .policyFile => settings.policyFile
  | .level => settings.level

/-- Settings from a value for each. -/
def assemble (values : (field : Field) → field.Value) : Settings :=
  ⟨⟨values .ports, values .address, values .readTimeout, values .frameLimit⟩,
    values .policyFile, values .level⟩

theorem value_assemble (values : (field : Field) → field.Value) (field : Field) :
    (assemble values).value field = values field := by
  cases field <;> rfl

end Values

/-- The table under a name in a document, without entries if there is none. -/
def tableAt (document : Entries) (name : String) : Entries :=
  match document.lookup name with
  | some (.table _ entries) => entries
  | _ => []

/-- The sections that settings stand in are tables, as far as they are there. -/
def HasTables (document : Entries) : Prop :=
  ∀ (field : Field) (item : Item), document.lookup field.part = some item →
    ∃ origin entries, item = .table origin entries

namespace Field

variable {document : Entries}

/-- What stands for a setting in a document. -/
def itemIn (field : Field) (document : Entries) : Option Item :=
  (tableAt document field.part).lookup field.key

/-- A document sets a setting to a value: it has an item that states the value, or it has none for
the setting and the value is the default. -/
def SetTo (field : Field) (document : Entries) (value : field.Value) : Prop :=
  match field.itemIn document with
  | none => value = usual.value field
  | some item => field.States item value

def read : (field : Field) → Item → Option field.Value
  | ports, item => readPorts item
  | address, item => readAddress item
  | readTimeout, item => (readNumber largestNumber item).map some
  | frameLimit, item => readNumber largestNumber item
  | policyFile, item => (readText item).map some
  | level, item => readText item

/-- A setting as a document is read. -/
def taken (field : Field) (document : Entries) : Option field.Value :=
  match field.itemIn document with
  | none => some (usual.value field)
  | some item => field.read item

end Field

section Reading

theorem read_text_eq_some_iff {item : Item} {text : String} :
    readText item = some text ↔ item = .text text := by
  cases item <;> simp [readText]

theorem read_number_eq_some_iff {most n : Nat} {item : Item} :
    readNumber most item = some n ↔ item = .integer n ∧ n ≤ most := by
  cases item with
  | integer m =>
      simp only [readNumber, Option.ite_none_right_eq_some, Option.some.injEq, Item.integer.injEq]
      omega
  | _ => simp [readNumber]

theorem map_read_number_eq_some_iff {most : Nat} {items : List Item} {numbers : List Nat} :
    items.mapM (readNumber most) = some numbers ↔
      items = numbers.map (fun n : Nat => Item.integer n) ∧ ∀ n ∈ numbers, n ≤ most := by
  induction items generalizing numbers with
  | nil =>
      cases numbers <;> simp
  | cons item items ih =>
      cases numbers with
      | nil => simp [List.mapM_cons, Option.bind_eq_some_iff]
      | cons n numbers =>
          simp [List.mapM_cons, Option.bind_eq_some_iff, read_number_eq_some_iff, ih]
          tauto

end Reading

namespace Field

theorem read_eq_some_iff {field : Field} {item : Item} (bounded : item.Bounded)
    {value : field.Value} : field.read item = some value ↔ field.States item value := by
  -- A number that a document can hold is below the reader's limit, so only its sign counts.
  have below {n : Nat} (small : (Item.integer n).Bounded) : n ≤ largestNumber :=
    Nat.le_trans small.le_largest (by decide)
  cases field with
  | ports =>
      rw [read, States]
      cases item with
      | list items => simp [readPorts, map_read_number_eq_some_iff, largestPort]
      | _ => simp [readPorts]
  | address =>
      rw [read, States, readAddress, Option.bind_eq_some_iff]
      simp only [read_text_eq_some_iff]
  | readTimeout =>
      rw [read, States, Option.map_eq_some_iff]
      simp only [read_number_eq_some_iff]
      constructor
      · rintro ⟨ms, ⟨rfl, -⟩, rfl⟩
        exact ⟨ms, rfl, rfl⟩
      · rintro ⟨ms, rfl, rfl⟩
        exact ⟨ms, ⟨rfl, below bounded⟩, rfl⟩
  | frameLimit =>
      rw [read, States, read_number_eq_some_iff]
      refine and_iff_left_of_imp ?_
      rintro rfl
      exact below bounded
  | policyFile =>
      rw [read, States, Option.map_eq_some_iff]
      simp only [read_text_eq_some_iff, @eq_comm _ value]
  | level =>
      rw [read, States, read_text_eq_some_iff]

variable {document : Entries} {field : Field}

theorem bounded_item_in (bounded : document.Bounded) {item : Item}
    (found : field.itemIn document = some item) : item.Bounded := by
  rw [itemIn, tableAt] at found
  split at found
  · rename_i table
    exact (bounded.lookup table).of_table.lookup found
  · cases found

theorem taken_eq_some_iff (bounded : document.Bounded) {value : field.Value} :
    field.taken document = some value ↔ field.SetTo document value := by
  rw [taken, SetTo]
  split
  · rw [Option.some.injEq, eq_comm]
  · rename_i item found
    exact read_eq_some_iff (bounded_item_in bounded found)

end Field

section Sections

variable {document : Entries}

theorem section_at_table (tables : HasTables document) (field : Field) :
    sectionAt document field.part = some (.named (tableAt document field.part)) := by
  cases found : document.lookup field.part with
  | none => simp [sectionAt, tableAt, found]
  | some item =>
      obtain ⟨origin, entries, rfl⟩ := tables field item found
      simp [sectionAt, tableAt, found, Section.ofItem]

/-- Reading goes through the settings one after the other, and each is taken by itself. -/
theorem of_entries_eq_some_iff (tables : HasTables document) {settings : Settings} :
    ofEntries document = some settings ↔
      ∀ field : Field, field.taken document = some (settings.value field) := by
  have server : sectionAt document "server" = _ := section_at_table tables .ports
  have policy : sectionAt document "policy" = _ := section_at_table tables .policyFile
  have logging : sectionAt document "logging" = _ := section_at_table tables .level
  have shape : ofEntries document =
      ((Field.ports.taken document).bind fun ports =>
        (Field.address.taken document).bind fun address =>
        (Field.readTimeout.taken document).bind fun timeout =>
        (Field.frameLimit.taken document).bind fun limit =>
          some ⟨ports, address, timeout, limit⟩).bind fun server =>
      (Field.policyFile.taken document).bind fun file =>
      (Field.level.taken document).bind fun level => some ⟨server, file, level⟩ := by
    rw [ofEntries, server, policy, logging]
    rfl
  obtain ⟨⟨ports, address, timeout, limit⟩, file, level⟩ := settings
  rw [shape, Field.forall_iff]
  simp [Option.bind_eq_some_iff, value, and_assoc]

/-- Of a document only the items for settings count. -/
theorem of_entries_congr {other : Entries} (tables : HasTables document)
    (also : HasTables other)
    (same : ∀ field : Field, field.itemIn other = field.itemIn document) :
    ofEntries other = ofEntries document := by
  refine Option.ext fun settings => ?_
  rw [of_entries_eq_some_iff also, of_entries_eq_some_iff tables]
  simp only [Field.taken, same]

end Sections

section Texts

variable {text : String} {document : Entries}

theorem of_text_eq_ok_iff (parsed : Toml.parse text = some document) {settings : Settings} :
    ofText text = .ok settings ↔ ofEntries document = some settings := by
  rw [ofText, parsed, Option.bind_some]
  cases ofEntries document <;> simp

theorem of_text_iff_set (parsed : Toml.parse text = some document) (tables : HasTables document)
    {settings : Settings} :
    ofText text = .ok settings ↔
      ∀ field : Field, field.SetTo document (settings.value field) := by
  rw [of_text_eq_ok_iff parsed, of_entries_eq_some_iff tables]
  exact forall_congr' fun field => Field.taken_eq_some_iff (parse_bounded parsed)

theorem exists_settings_iff {p : (field : Field) → field.Value → Prop} :
    (∃ settings : Settings, ∀ field, p field (settings.value field)) ↔
      ∀ field, ∃ value, p field value := by
  constructor
  · rintro ⟨settings, all⟩ field
    exact ⟨settings.value field, all field⟩
  · intro each
    choose values holds using each
    exact ⟨assemble values, fun field => by rw [value_assemble]; exact holds field⟩

theorem Field.exists_set_iff {field : Field} :
    (∃ value, field.SetTo document value) ↔
      ∀ item, field.itemIn document = some item → ∃ value, field.States item value := by
  cases found : field.itemIn document with
  | none => simp [SetTo, found]
  | some item => simp [SetTo, found]

end Texts

/-- A document whose sections are tables is read exactly if every item that it has for a setting
states a value. Each setting then is what its item states, or the default if there is no item for
it. Documents with the same items for the settings are read alike, whatever else they hold. -/
theorem settings_of_partial_document {text : String} {document : Entries}
    (parsed : Toml.parse text = some document) (tables : HasTables document) :
    ((∃ settings, ofText text = .ok settings) ↔
      ∀ (field : Field) (item : Item), field.itemIn document = some item →
        ∃ value, field.States item value) ∧
    (∀ settings, ofText text = .ok settings ↔
      ∀ field : Field, field.SetTo document (settings.value field)) ∧
    ∀ (other : String) (held : Entries), Toml.parse other = some held → HasTables held →
      (∀ field : Field, field.itemIn held = field.itemIn document) →
        ofText other = ofText text := by
  have decided (settings : Settings) := @of_text_iff_set text document parsed tables settings
  refine ⟨?_, decided, ?_⟩
  · simp only [decided, exists_settings_iff, Field.exists_set_iff]
  · intro other held also arranged same
    rw [ofText, ofText, parsed, also, Option.bind_some, Option.bind_some,
      of_entries_congr tables arranged same]

/-- A document with one setting of the server between braces, one of the notices under a header,
and things that are no settings. -/
def sparse : String :=
  "server = \x7bmax_frame_bytes = 4096, retries = \x22x\x22\x7d\n[logging]\nlevel = \x22debug\x22\n" ++
    "[metrics]\nports = true"

/-- The same settings in another order, without anything else. -/
def plain : String := "[logging]\nlevel = \x22debug\x22\n[server]\nmax_frame_bytes = 0x1000"

def sparseEntries : Entries :=
  [("server", .table .braces [("max_frame_bytes", .integer 4096), ("retries", .text "x")]),
    ("logging", .table .header [("level", .text "debug")]),
    ("metrics", .table .header [("ports", .boolean true)])]

def plainEntries : Entries :=
  [("logging", .table .header [("level", .text "debug")]),
    ("server", .table .header [("max_frame_bytes", .integer 4096)])]

theorem sparse_settings_read :
    Toml.parse sparse = some sparseEntries ∧ HasTables sparseEntries ∧
      ofText sparse = .ok { usual with
        server := { ServerSettings.usual with frameLimit := 4096 }, level := "debug" } ∧
      ofText plain = ofText sparse := by
  have parsed : Toml.parse sparse = some sparseEntries := by rfl
  have also : Toml.parse plain = some plainEntries := by rfl
  have tables : HasTables sparseEntries := by
    intro field item found
    cases field <;> cases found <;> exact ⟨_, _, rfl⟩
  have arranged : HasTables plainEntries := by
    intro field item found
    cases field <;> cases found <;> exact ⟨_, _, rfl⟩
  obtain ⟨-, decided, alike⟩ := settings_of_partial_document parsed tables
  refine ⟨parsed, tables, (decided _).mpr ?_, alike plain plainEntries also arranged ?_⟩
  · intro field
    cases field <;> exact rfl
  · intro field
    cases field <;> rfl

end CallMonitor.Settings
