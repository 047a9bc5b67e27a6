import CallMonitor.Proofs.Toml.Values
import CallMonitor.Toml.Document

/-!
Documents of sections. Every line that was written is read as what it says, and the lines of each
section are collected into a table under its name.
-/

namespace CallMonitor.Toml

open CallMonitor.Text

section Keys

def isBareKey (key : String) : Bool := !key.toList.isEmpty && key.toList.all isBare

theorem gap_not_bare {c : Char} (gap : isGap c = true) : isBare c = false := by
  simp only [isGap, Bool.or_eq_true, beq_iff_eq] at gap
  rcases gap with rfl | rfl <;> decide

theorem bare_solid {c : Char} (bare : isBare c = true) : isSolid c = true := by
  simp only [isSolid, decide_eq_true_eq, List.mem_cons, not_or]
  refine ⟨?_, ?_, ?_, ?_, ?_, List.not_mem_nil⟩ <;>
    (rintro rfl; exact absurd bare (by decide))

theorem bare_key_chars {key : String} (bare : isBareKey key = true) :
    ∃ c more, key.toList = c :: more ∧ ∀ d ∈ c :: more, isBare d = true := by
  rw [isBareKey, Bool.and_eq_true, List.all_eq_true] at bare
  cases shape : key.toList with
  | nil => simp [shape] at bare
  | cons c more => exact ⟨c, more, rfl, shape ▸ bare.2⟩

/-- A bare key is read up to the mark after it, with the white space in front of the mark. -/
theorem read_key_bare {key : String} (bare : isBareKey key = true) {gap : List Char}
    (gaps : ∀ d ∈ gap, isGap d = true) {mark : Char} (solid : isSolid mark = true)
    (ends : isBare mark = false) (point : mark ≠ '.') (more : List Char) :
    readKey (key.toList ++ (gap ++ mark :: more)) = some (([], key), mark :: more) := by
  obtain ⟨c, others, shape, all⟩ := bare_key_chars bare
  have stops : Stops isBare (gap ++ mark :: more) := by
    cases gap with
    | nil =>
        rintro d ⟨⟩
        exact ends
    | cons first gap =>
        rintro d ⟨⟩
        exact gap_not_bare (gaps _ List.mem_cons_self)
  have first : isBare c = true := all c List.mem_cons_self
  have unquoted : ¬(c = '\x22' ∨ c = '\x27') := by
    rintro (rfl | rfl) <;> exact absurd first (by decide)
  have part : readKeyPart (c :: (others ++ (gap ++ mark :: more))) =
      some (key, gap ++ mark :: more) := by
    have taken := take_while_run all stops
    rw [List.cons_append] at taken
    rw [readKeyPart, if_neg unquoted, taken]
    dsimp only
    rw [List.isEmpty_cons, if_neg (by decide), ← List.cons_append, List.drop_left, ← shape,
      String.ofList_toList]
  have skipped : skipGap (gap ++ mark :: more) = mark :: more := by
    rw [skipGap, List.dropWhile_append_of_pos gaps]
    exact skip_gap_solid solid more
  have parts : readKeyParts (c :: (others ++ (gap ++ mark :: more))).length
      (c :: (others ++ (gap ++ mark :: more))) = some ([key], mark :: more) := by
    rw [List.length_cons, readKeyParts, skip_gap_solid (bare_solid first), part]
    dsimp only
    rw [skipped]
    split
    · rename_i same
      cases same
      exact absurd rfl point
    · rfl
  rw [shape, List.cons_append, readKey, parts]
  rfl

end Keys

section Lines

/-- What a part of a document says. Each step of reading takes one line, so no part needs more
steps than it has characters. -/
def Says (part : List Char) (said : List Line) : Prop :=
  ∃ count ≤ part.length, ∀ fuel rest,
    readLines (fuel + count) (part ++ rest) = (readLines fuel rest).map (said ++ ·)

theorem says_nothing : Says [] [] := by
  refine ⟨0, Nat.le_refl _, ?_⟩
  intro fuel rest
  simp

theorem Says.append {part other : List Char} {said more : List Line} (first : Says part said)
    (second : Says other more) : Says (part ++ other) (said ++ more) := by
  obtain ⟨count, within, reads⟩ := first
  obtain ⟨others, below, readsOther⟩ := second
  refine ⟨others + count, by rw [List.length_append]; omega, ?_⟩
  intro fuel rest
  rw [← Nat.add_assoc, List.append_assoc, reads, readsOther, Option.map_map]
  congr 1
  funext lines
  exact (List.append_assoc said more lines).symm

theorem Says.read {part : List Char} {said : List Line} (whole : Says part said) :
    readLines (part.length + 1) part = some said := by
  obtain ⟨count, within, reads⟩ := whole
  have all := reads (part.length - count + 1) []
  rw [List.append_nil, Nat.add_right_comm, Nat.sub_add_cancel within] at all
  rw [all, readLines]
  simp [skipGap]

theorem says_blank : Says ['\n'] [] := by
  refine ⟨1, Nat.le_refl _, ?_⟩
  intro fuel rest
  have blank : readLines (fuel + 1) ('\n' :: rest) = readLines fuel rest := rfl
  rw [List.singleton_append, blank]
  simp

theorem says_line {c : Char} {more : List Char} {line : Line} (solid : isSolid c = true)
    (reads : ∀ rest, readLine (c :: (more ++ rest)) = some (line, rest)) :
    Says (c :: more) [line] := by
  refine ⟨1, by rw [List.length_cons]; omega, ?_⟩
  intro fuel rest
  rw [List.cons_append, readLines, skip_gap_solid solid]
  split
  · rename_i same
    cases same
  · rename_i same
    cases same
    exact absurd solid (by decide)
  · rename_i same
    cases same
    exact absurd solid (by decide)
  · rename_i same
    cases same
    exact absurd solid (by decide)
  · rw [reads]
    rfl

theorem says_header {name : String} (bare : isBareKey name = true) :
    Says ('[' :: (name.toList ++ [']', '\n'])) [.header [] name] := by
  apply says_line (by decide)
  intro rest
  obtain ⟨c, others, shape, all⟩ := bare_key_chars bare
  have key := @read_key_bare name bare [] (by simp) ']' (by decide) (by decide) (by decide)
    ('\n' :: rest)
  have laid : name.toList ++ [']', '\n'] ++ rest = name.toList ++ ([] ++ ']' :: '\n' :: rest) := by
    simp
  have header : readHeader (name.toList ++ ([] ++ ']' :: '\n' :: rest)) =
      some (.header [] name, '\n' :: rest) := by
    unfold readHeader
    split
    · rename_i same
      rw [shape] at same
      cases same
      exact absurd (all '[' List.mem_cons_self) (by decide)
    · rw [key]
      rfl
  rw [laid, readLine, header]
  rfl

structure IsValue (written : List Char) (item : Item) : Prop where
  starts : ∃ c more, written = c :: more ∧ isSolid c = true
  reads : ReadsBack (readValue (depthLimit - 1)) written item

theorem IsScalar.value {written : List Char} {item : Item} (scalar : IsScalar written item) :
    IsValue written item := by
  obtain ⟨c, more, shape, starts⟩ := scalar.starts
  exact ⟨⟨c, more, shape, (starts_scalar_iff.mp starts).1⟩, scalar.read_value _⟩

theorem write_list_starts (items : List String) :
    ∃ more, (writeList items).toList = '[' :: more := by
  match items with
  | [] => exact ⟨[']'], by simp [writeList]⟩
  | [item] => exact ⟨item.toList ++ [']'], by simp [writeList]⟩
  | first :: second :: others =>
      rw [writeList, String.toList_append, String.toList_append]
      · exact ⟨_, rfl⟩
      · rintro ⟨⟩
      · rintro item ⟨⟩

theorem value_list {α : Type} {write : α → String} {item : α → Item} {values : List α}
    (scalars : ∀ value ∈ values, IsScalar (write value).toList (item value)) :
    IsValue (writeList (values.map write)).toList (.list (values.map item)) := by
  obtain ⟨more, shape⟩ := write_list_starts (values.map write)
  exact ⟨⟨'[', more, shape, by decide⟩, read_value_list scalars⟩

theorem says_pair {key written : String} {item : Item} (bare : isBareKey key = true)
    (value : IsValue written.toList item) :
    Says (writePair key written).toList [.pair [] key item] := by
  obtain ⟨c, others, shape, all⟩ := bare_key_chars bare
  obtain ⟨first, more, start, solid⟩ := value.starts
  have laid : (writePair key written).toList =
      c :: (others ++ (' ' :: '=' :: ' ' :: (written.toList ++ ['\n']))) := by
    simp [writePair, shape]
  rw [laid]
  apply says_line (bare_solid (all c List.mem_cons_self))
  intro rest
  have name := @read_key_bare key bare [' '] (by simp [isGap]) '=' (by decide) (by decide)
    (by decide) (' ' :: (written.toList ++ '\n' :: rest))
  have text : c :: (others ++ (' ' :: '=' :: ' ' :: (written.toList ++ ['\n'])) ++ rest) =
      key.toList ++ ([' '] ++ '=' :: ' ' :: (written.toList ++ '\n' :: rest)) := by
    simp [shape]
  have skipped : skipGap (' ' :: (written.toList ++ '\n' :: rest)) =
      written.toList ++ '\n' :: rest := by
    rw [start, List.cons_append]
    exact skip_gap_solid solid _
  have pair : readPair (readValue (depthLimit - 1))
      (key.toList ++ ([' '] ++ '=' :: ' ' :: (written.toList ++ '\n' :: rest))) =
        some (([], key, item), '\n' :: rest) := by
    have reads := value.reads ('\n' :: rest) ⟨_, _, rfl, .inl rfl⟩
    rw [readPair, name]
    simp only [skipped, reads, Option.map_some]
    rfl
  rw [text, readLine, pair]
  · rfl
  · intro more same
    rw [shape] at same
    cases same
    exact absurd (all '[' List.mem_cons_self) (by decide)

end Lines

section Sections

/-- A setting of a section: its key, and its value as it is written and as it is read. -/
structure Setting where
  key : String
  written : String
  item : Item

structure Setting.IsSound (setting : Setting) : Prop where
  bare : isBareKey setting.key = true
  value : IsValue setting.written.toList setting.item

structure Group where
  name : String
  settings : List Setting

def Group.entries (group : Group) : Entries :=
  group.settings.map fun setting => (setting.key, setting.item)

def Group.table (group : Group) : String × Item := (group.name, .table .header group.entries)

def Group.write (group : Group) : String :=
  writeSection group.name (group.settings.map fun setting => writePair setting.key setting.written)

def Group.lines (group : Group) : List Line :=
  .header [] group.name :: group.settings.map fun setting => .pair [] setting.key setting.item

structure Group.IsSound (group : Group) : Prop where
  bare : isBareKey group.name = true
  sound : ∀ setting ∈ group.settings, setting.IsSound
  apart : (group.settings.map Setting.key).Nodup

theorem says_settings {settings : List Setting} (sound : ∀ setting ∈ settings, setting.IsSound) :
    Says (settings.flatMap fun setting => (writePair setting.key setting.written).toList)
      (settings.map fun setting => .pair [] setting.key setting.item) := by
  induction settings with
  | nil => exact says_nothing
  | cons setting settings ih =>
      obtain ⟨first, others⟩ := List.forall_mem_cons.mp sound
      rw [List.flatMap_cons, List.map_cons]
      exact (says_pair first.bare first.value).append (ih others)

theorem says_group {group : Group} (sound : group.IsSound) :
    Says group.write.toList group.lines := by
  have laid : group.write.toList = '[' :: (group.name.toList ++ [']', '\n']) ++
      group.settings.flatMap fun setting => (writePair setting.key setting.written).toList := by
    simp [Group.write, writeSection, String.toList_join, List.flatMap_map]
  rw [laid]
  exact (says_header sound.bare).append (says_settings sound.sound)

def writeGroups (groups : List Group) : String := "\n".intercalate (groups.map Group.write)

theorem says_groups {groups : List Group} (sound : ∀ group ∈ groups, group.IsSound) :
    Says (writeGroups groups).toList (groups.flatMap Group.lines) := by
  induction groups with
  | nil => exact says_nothing
  | cons group groups ih =>
      obtain ⟨first, others⟩ := List.forall_mem_cons.mp sound
      have alone := says_group first
      cases groups with
      | nil => simpa [writeGroups] using alone
      | cons next rest =>
          have laid : (writeGroups (group :: next :: rest)).toList =
              group.write.toList ++ (['\n'] ++ (writeGroups (next :: rest)).toList) := by
            simp [writeGroups, String.intercalate_cons_cons]
          rw [laid, List.flatMap_cons]
          exact alone.append (says_blank.append (ih others))

theorem write_groups_starts (groups : List Group) :
    (writeGroups groups).toList = [] ∨ ∃ more, (writeGroups groups).toList = '[' :: more := by
  match groups with
  | [] => exact .inl rfl
  | [group] => exact .inr ⟨_, by simp [writeGroups, Group.write, writeSection]; rfl⟩
  | group :: next :: rest =>
      exact .inr ⟨_, by simp [writeGroups, Group.write, writeSection]; rfl⟩

end Sections

section Collected

theorem lookup_fresh {β : Type} {entries : List (String × β)} {key : String}
    (fresh : key ∉ entries.map Prod.fst) : entries.lookup key = none := by
  rw [List.lookup_eq_none_iff]
  intro entry member
  rw [bne_iff_ne]
  rintro rfl
  exact fresh (List.mem_map_of_mem member)

theorem lookup_last {entries : Entries} {key : String} {item : Item}
    (fresh : key ∉ entries.map Prod.fst) :
    List.lookup key (entries ++ [(key, item)]) = some item := by
  rw [List.lookup_append, lookup_fresh fresh, Option.none_or, List.lookup_cons_self]

theorem put_last {entries : Entries} {key : String} {old item : Item}
    (fresh : key ∉ entries.map Prod.fst) :
    Entries.put (entries ++ [(key, old)]) key item = entries ++ [(key, item)] := by
  induction entries with
  | nil => simp [Entries.put]
  | cons entry entries ih =>
      rw [List.map_cons, List.mem_cons, not_or] at fresh
      rw [List.cons_append, Entries.put, if_neg (Ne.symm fresh.1), ih fresh.2]
      rfl

theorem collect_pair {entries inner : Entries} {name key : String} {item : Item}
    (fresh : name ∉ entries.map Prod.fst) (apart : key ∉ inner.map Prod.fst) (rest : List Line) :
    collect (entries ++ [(name, .table .header inner)]) (.table [] name)
        (.pair [] key item :: rest) =
      collect (entries ++ [(name, .table .header (inner ++ [(key, item)]))]) (.table [] name)
        rest := by
  have added : Entries.addDotted inner [] key item = some (inner ++ [(key, item)]) := by
    rw [Entries.addDotted, lookup_fresh apart]
    rfl
  rw [collect, addAt, Entries.changeUnder, lookup_last fresh]
  dsimp only
  rw [added, Option.map_some, Option.bind_some, put_last fresh]

theorem collect_settings {entries : Entries} {name : String} (fresh : name ∉ entries.map Prod.fst)
    (settings : List Setting) {inner : Entries}
    (apart : (inner.map Prod.fst ++ settings.map Setting.key).Nodup) (rest : List Line) :
    collect (entries ++ [(name, .table .header inner)]) (.table [] name)
        (settings.map (fun setting => .pair [] setting.key setting.item) ++ rest) =
      collect (entries ++ [(name, .table .header
          (inner ++ settings.map fun setting => (setting.key, setting.item)))])
        (.table [] name) rest := by
  induction settings generalizing inner with
  | nil => simp
  | cons setting settings ih =>
      have alone : setting.key ∉ inner.map Prod.fst := by
        intro member
        rw [List.nodup_append] at apart
        exact apart.2.2 _ member _ List.mem_cons_self rfl
      have others : ((inner ++ [(setting.key, setting.item)]).map Prod.fst ++
          settings.map Setting.key).Nodup := by
        simpa using apart
      rw [List.map_cons, List.cons_append, collect_pair fresh alone, ih others]
      simp

theorem collect_group {entries : Entries} {group : Group} (sound : group.IsSound)
    (fresh : group.name ∉ entries.map Prod.fst) (place : Place) (rest : List Line) :
    collect entries place (group.lines ++ rest) =
      collect (entries ++ [group.table]) (.table [] group.name) rest := by
  have opened : openTable entries group.name =
      some (entries ++ [(group.name, .table .header [])]) := by
    rw [openTable, lookup_fresh fresh]
  rw [Group.lines, List.cons_append, collect, Entries.changeUnder, opened, Option.bind_some]
  exact collect_settings fresh group.settings (by simpa using sound.apart) rest

theorem collect_groups {groups : List Group} (sound : ∀ group ∈ groups, group.IsSound)
    {entries : Entries} (apart : (entries.map Prod.fst ++ groups.map Group.name).Nodup)
    (place : Place) :
    collect entries place (groups.flatMap Group.lines) =
      some (entries ++ groups.map Group.table) := by
  induction groups generalizing entries place with
  | nil => simp [collect]
  | cons group groups ih =>
      obtain ⟨first, others⟩ := List.forall_mem_cons.mp sound
      have fresh : group.name ∉ entries.map Prod.fst := by
        intro member
        rw [List.nodup_append] at apart
        exact apart.2.2 _ member _ List.mem_cons_self rfl
      have rest : ((entries ++ [group.table]).map Prod.fst ++ groups.map Group.name).Nodup := by
        simpa [Group.table] using apart
      rw [List.flatMap_cons, collect_group first fresh, ih others rest]
      simp

end Collected

/-- A document of sections is read back, with a table for each section. -/
theorem parse_groups {groups : List Group} (sound : ∀ group ∈ groups, group.IsSound)
    (apart : (groups.map Group.name).Nodup) :
    parse (writeGroups groups) = some (groups.map Group.table) := by
  have unmarked : skipMark (writeGroups groups).toList = (writeGroups groups).toList := by
    rcases write_groups_starts groups with empty | ⟨more, shape⟩
    · rw [empty, skipMark]
    · rw [shape, skipMark, if_neg (by decide)]
  rw [parse, unmarked, (says_groups sound).read, Option.bind_some]
  exact collect_groups sound (by simpa using apart) .root

end CallMonitor.Toml
