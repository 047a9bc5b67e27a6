import CallMonitor.Toml.Document
import Mathlib.Data.List.Basic

/-!
The whole numbers of a document have 64 bits. No number that is larger is ever read, and what is
read is only put into tables and lists, so a document holds none either.
-/

namespace CallMonitor.Toml

/-- Every whole number in an item has a place among signed ones of 64 bits. -/
inductive Item.Bounded : Item → Prop
  | text (text : String) : Bounded (.text text)
  | integer {n : Int} (least : -(largest : Int) - 1 ≤ n) (most : n ≤ largest) :
      Bounded (.integer n)
  | float (written : String) : Bounded (.float written)
  | boolean (b : Bool) : Bounded (.boolean b)
  | moment (written : String) : Bounded (.moment written)
  | list {items : List Item} (inner : ∀ item ∈ items, Bounded item) : Bounded (.list items)
  | table {origin : Origin} {entries : Entries} (inner : ∀ entry ∈ entries, Bounded entry.2) :
      Bounded (.table origin entries)
  | tables {tables : List Entries} (inner : ∀ entries ∈ tables, ∀ entry ∈ entries,
      Bounded entry.2) : Bounded (.tables tables)

def Entries.Bounded (entries : Entries) : Prop := ∀ entry ∈ entries, entry.2.Bounded

theorem Item.Bounded.le_largest {n : Nat} (bounded : (Item.integer n).Bounded) : n ≤ largest := by
  cases bounded with
  | integer least most => exact Int.ofNat_le.mp most

theorem Item.Bounded.of_table {origin : Origin} {entries : Entries}
    (bounded : (Item.table origin entries).Bounded) : entries.Bounded := by
  cases bounded with
  | table inner => exact inner

theorem Item.Bounded.of_tables {tables : List Entries} (bounded : (Item.tables tables).Bounded) :
    ∀ entries ∈ tables, entries.Bounded := by
  cases bounded with
  | tables inner => exact inner

/-- Whatever a reader gets from a text has a property. -/
def Gives {α : Type} (read : Reader α) (property : α → Prop) : Prop :=
  ∀ text value rest, read text = some (value, rest) → property value

section Values

theorem in_range_bounded {negative : Bool} {size : Nat} {n : Int}
    (fits : inRange negative size = some n) : (Item.integer n).Bounded := by
  rw [inRange] at fits
  split at fits
  · split at fits
    · cases fits
      exact .integer (by omega) (by omega)
    · cases fits
  · split at fits
    · cases fits
      exact .integer (by omega) (by omega)
    · cases fits

theorem read_based_bounded (base : Nat) :
    Gives (readBased base) fun n => (Item.integer n).Bounded := by
  intro text n rest read
  rw [readBased] at read
  split at read
  · cases read
  · obtain ⟨m, fits, same⟩ := Option.map_eq_some_iff.mp read
    cases same
    exact in_range_bounded fits

theorem read_integer_bounded : Gives readInteger fun n => (Item.integer n).Bounded := by
  intro text n rest read
  unfold readInteger at read
  split at read
  · exact read_based_bounded _ _ _ _ read
  · exact read_based_bounded _ _ _ _ read
  · exact read_based_bounded _ _ _ _ read
  · dsimp only at read
    split at read
    · cases read
    · obtain ⟨m, fits, same⟩ := Option.map_eq_some_iff.mp read
      cases same
      exact in_range_bounded fits

theorem read_scalar_bounded : Gives readScalar Item.Bounded := by
  intro text item rest read
  unfold readScalar at read
  split at read
  · cases read
  · split_ifs at read
    · obtain ⟨_, _, same⟩ := Option.map_eq_some_iff.mp read
      cases same
      exact .text _
    · obtain ⟨_, _, same⟩ := Option.map_eq_some_iff.mp read
      cases same
      exact .boolean _
    · obtain ⟨_, _, same⟩ := Option.map_eq_some_iff.mp read
      cases same
      exact .boolean _
    · split at read
      · cases read
      · cases read
        exact .moment _
      · split at read
        · cases read
          exact .float _
        · obtain ⟨n, number, same⟩ := Option.map_eq_some_iff.mp read
          cases same
          exact read_integer_bounded _ _ _ number

variable {value : Reader Item}

theorem read_list_from_bounded (bounded : Gives value Item.Bounded) (fuel : Nat) :
    Gives (readListFrom value fuel) fun items => ∀ item ∈ items, item.Bounded := by
  induction fuel with
  | zero => intro text items rest read; cases read
  | succ fuel ih =>
      intro text items rest read
      rw [readListFrom] at read
      split at read
      · cases read
      · cases read
        rintro item ⟨⟩
      · split at read
        · cases read
        · rename_i first _ firstRead
          have small := bounded _ _ _ firstRead
          split at read
          · cases read
            exact List.forall_mem_singleton.mpr small
          · obtain ⟨others, later, same⟩ := Option.map_eq_some_iff.mp read
            cases same
            exact List.forall_mem_cons.mpr ⟨small, ih _ _ _ later⟩
          · cases read

theorem read_pair_bounded (bounded : Gives value Item.Bounded) :
    Gives (readPair value) fun pair => pair.2.2.Bounded := by
  intro text pair rest read
  rw [readPair] at read
  split at read
  · obtain ⟨⟨item, left⟩, stated, same⟩ := Option.map_eq_some_iff.mp read
    cases same
    exact bounded _ _ _ stated
  · cases read

end Values

namespace Entries

variable {entries later : Entries} {key : String} {item : Item}

theorem Bounded.lookup (bounded : entries.Bounded) (found : entries.lookup key = some item) :
    item.Bounded := by
  obtain ⟨before, after, rfl, -⟩ := List.lookup_eq_some_iff.mp found
  exact bounded (key, item) (List.mem_append_right _ List.mem_cons_self)

theorem Bounded.nil : Entries.Bounded [] := List.forall_mem_nil _

theorem Bounded.concat (bounded : entries.Bounded) (small : item.Bounded) :
    Entries.Bounded (entries ++ [(key, item)]) :=
  List.forall_mem_append.mpr ⟨bounded, List.forall_mem_singleton.mpr small⟩

theorem Bounded.put (bounded : entries.Bounded) (small : item.Bounded) :
    (entries.put key item).Bounded := by
  induction entries with
  | nil => exact List.forall_mem_singleton.mpr small
  | cons entry entries ih =>
      obtain ⟨first, others⟩ := List.forall_mem_cons.mp bounded
      rw [Entries.put]
      split
      · exact List.forall_mem_cons.mpr ⟨small, others⟩
      · exact List.forall_mem_cons.mpr ⟨first, ih others⟩

/-- One of several tables under a key is changed: the last one. -/
theorem Bounded.put_last {tables : List Entries} {inner : Entries}
    (bounded : entries.Bounded) (found : entries.lookup key = some (.tables tables))
    (small : inner.Bounded) :
    (entries.put key (.tables (tables.dropLast ++ [inner]))).Bounded := by
  refine bounded.put (.tables ?_)
  refine List.forall_mem_append.mpr ⟨?_, List.forall_mem_singleton.mpr small⟩
  intro table member
  exact (bounded.lookup found).of_tables table (List.dropLast_subset _ member)

theorem Bounded.last {tables : List Entries} {last : Entries}
    (bounded : entries.Bounded) (found : entries.lookup key = some (.tables tables))
    (ends : tables.getLast? = some last) : last.Bounded :=
  (bounded.lookup found).of_tables last (List.mem_of_getLast? ends)

theorem Bounded.add_dotted {path : List String} (bounded : entries.Bounded) (small : item.Bounded)
    (added : entries.addDotted path key item = some later) : later.Bounded := by
  induction path generalizing entries later with
  | nil =>
      rw [Entries.addDotted] at added
      split at added
      · cases added
      · cases added
        exact bounded.concat small
  | cons step path ih =>
      -- What stands under the first key decides where the rest of the path goes on: a new table, a
      -- table that may be added to, or the last of several tables.
      rw [Entries.addDotted] at added
      split at added
      · obtain ⟨inner, inside, rfl⟩ := Option.map_eq_some_iff.mp added
        exact bounded.concat (.table (ih .nil inside))
      · rename_i found
        obtain ⟨inner, inside, rfl⟩ := Option.map_eq_some_iff.mp added
        exact bounded.put (.table (ih (bounded.lookup found).of_table inside))
      · rename_i found
        split at added
        · cases added
        · obtain ⟨inner, inside, rfl⟩ := Option.map_eq_some_iff.mp added
          exact bounded.put (.table (ih (bounded.lookup found).of_table inside))
      · rename_i found
        split at added
        · rename_i ends
          obtain ⟨inner, inside, rfl⟩ := Option.map_eq_some_iff.mp added
          exact bounded.put_last found (ih (bounded.last found ends) inside)
        · cases added
      · cases added

/-- A change that keeps the bound keeps it at the end of any header's path. -/
theorem Bounded.change_under {change : Entries → Option Entries} {path : List String}
    (keeps : ∀ {inner later : Entries}, inner.Bounded → change inner = some later → later.Bounded)
    (bounded : entries.Bounded) (changed : entries.changeUnder change path = some later) :
    later.Bounded := by
  induction path generalizing entries later with
  | nil => exact keeps bounded changed
  | cons step path ih =>
      rw [Entries.changeUnder] at changed
      split at changed
      · obtain ⟨inner, inside, rfl⟩ := Option.map_eq_some_iff.mp changed
        exact bounded.concat (.table (ih .nil inside))
      · cases changed
      · rename_i found
        obtain ⟨inner, inside, rfl⟩ := Option.map_eq_some_iff.mp changed
        exact bounded.put (.table (ih (bounded.lookup found).of_table inside))
      · rename_i found
        split at changed
        · cases changed
        · rename_i ends
          obtain ⟨inner, inside, rfl⟩ := Option.map_eq_some_iff.mp changed
          exact bounded.put_last found (ih (bounded.last found ends) inside)
      · cases changed

theorem Bounded.open_table (bounded : entries.Bounded)
    (opened : openTable entries key = some later) : later.Bounded := by
  rw [openTable] at opened
  split at opened
  · cases opened
    exact bounded.concat (.table Bounded.nil)
  · rename_i found
    cases opened
    exact bounded.put (.table (bounded.lookup found).of_table)
  · cases opened

theorem Bounded.add_table (bounded : entries.Bounded)
    (added : addTable entries key = some later) : later.Bounded := by
  rw [addTable] at added
  split at added
  · cases added
    exact bounded.concat (.tables (List.forall_mem_singleton.mpr Bounded.nil))
  · rename_i found
    cases added
    refine bounded.put (.tables (List.forall_mem_append.mpr ⟨?_, ?_⟩))
    · exact (bounded.lookup found).of_tables
    · exact List.forall_mem_singleton.mpr Bounded.nil
  · cases added

theorem Bounded.add_at {place : Place} {path : List String} (bounded : entries.Bounded)
    (small : item.Bounded) (added : addAt entries place path key item = some later) :
    later.Bounded := by
  cases place with
  | root => exact bounded.add_dotted small added
  | table under name =>
      refine bounded.change_under ?_ added
      intro parent changed kept change
      split at change
      · rename_i found
        obtain ⟨inner, inside, rfl⟩ := Option.map_eq_some_iff.mp change
        exact kept.put (.table ((kept.lookup found).of_table.add_dotted small inside))
      · cases change
  | lastTable under name =>
      refine bounded.change_under ?_ added
      intro parent changed kept change
      split at change
      · rename_i found
        split at change
        · cases change
        · rename_i ends
          obtain ⟨inner, inside, rfl⟩ := Option.map_eq_some_iff.mp change
          exact kept.put_last found ((kept.last found ends).add_dotted small inside)
      · cases change

end Entries

section Documents

variable {value : Reader Item}

theorem read_braces_bounded (bounded : Gives value Item.Bounded) (fuel : Nat) {entries : Entries}
    (kept : entries.Bounded) : Gives (readBraces value fuel entries) Entries.Bounded := by
  induction fuel generalizing entries with
  | zero => intro text later rest read; cases read
  | succ fuel ih =>
      intro text later rest read
      rw [readBraces] at read
      split at read
      · cases read
      · rename_i pair
        have small := read_pair_bounded bounded _ _ _ pair
        split at read
        · cases read
        · rename_i added
          have grown := kept.add_dotted small added
          split at read
          · cases read
            exact grown
          · exact ih grown _ _ _ read
          · cases read

theorem read_value_bounded (depth : Nat) : Gives (readValue depth) Item.Bounded := by
  induction depth with
  | zero => exact read_scalar_bounded
  | succ depth ih =>
      intro text item rest read
      unfold readValue at read
      split at read
      · obtain ⟨⟨items, left⟩, inside, same⟩ := Option.map_eq_some_iff.mp read
        cases same
        exact .list (read_list_from_bounded ih _ _ _ _ inside)
      · split at read
        · cases read
          exact .table Entries.Bounded.nil
        · obtain ⟨⟨entries, left⟩, inside, same⟩ := Option.map_eq_some_iff.mp read
          cases same
          exact .table (read_braces_bounded ih _ .nil _ _ _ inside)
      · exact read_scalar_bounded _ _ _ read

/-- What a line adds to a document is bounded. -/
def Line.Bounded : Line → Prop
  | .pair _ _ item => item.Bounded
  | .header _ _ | .listHeader _ _ => True

theorem read_header_bounded : Gives readHeader Line.Bounded := by
  intro text line rest read
  unfold readHeader at read
  split at read <;> split at read <;> cases read <;> trivial

theorem read_line_bounded : Gives readLine Line.Bounded := by
  intro text line rest read
  unfold readLine at read
  obtain ⟨⟨said, left⟩, start, ends⟩ := Option.bind_eq_some_iff.mp read
  obtain ⟨_, _, same⟩ := Option.map_eq_some_iff.mp ends
  cases same
  split at start
  · exact read_header_bounded _ _ _ start
  · obtain ⟨⟨pair, after⟩, stated, same⟩ := Option.map_eq_some_iff.mp start
    cases same
    exact read_pair_bounded (read_value_bounded _) _ _ _ stated

theorem read_lines_bounded {fuel : Nat} {text : List Char} {lines : List Line}
    (read : readLines fuel text = some lines) : ∀ line ∈ lines, line.Bounded := by
  induction fuel generalizing text lines with
  | zero => cases read
  | succ fuel ih =>
      rw [readLines] at read
      split at read
      · cases read
        rintro line ⟨⟩
      · obtain ⟨_, _, later⟩ := Option.bind_eq_some_iff.mp read
        exact ih later
      · exact ih read
      · obtain ⟨_, _, later⟩ := Option.bind_eq_some_iff.mp read
        exact ih later
      · split at read
        · cases read
        · rename_i first
          obtain ⟨others, later, rfl⟩ := Option.map_eq_some_iff.mp read
          exact List.forall_mem_cons.mpr ⟨read_line_bounded _ _ _ first, ih later⟩

theorem collect_bounded {lines : List Line} {entries later : Entries} {place : Place}
    (small : ∀ line ∈ lines, line.Bounded) (bounded : entries.Bounded)
    (collected : collect entries place lines = some later) : later.Bounded := by
  induction lines generalizing entries place with
  | nil =>
      cases collected
      exact bounded
  | cons line lines ih =>
      obtain ⟨first, others⟩ := List.forall_mem_cons.mp small
      cases line with
      | pair path key item =>
          obtain ⟨grown, added, rest⟩ := Option.bind_eq_some_iff.mp collected
          exact ih others (bounded.add_at first added) rest
      | header path key =>
          obtain ⟨grown, opened, rest⟩ := Option.bind_eq_some_iff.mp collected
          exact ih others (bounded.change_under Entries.Bounded.open_table opened) rest
      | listHeader path key =>
          obtain ⟨grown, added, rest⟩ := Option.bind_eq_some_iff.mp collected
          exact ih others (bounded.change_under Entries.Bounded.add_table added) rest

/-- Every whole number of a document has 64 bits, wherever it stands. -/
theorem parse_bounded {text : String} {document : Entries}
    (parsed : parse text = some document) : document.Bounded := by
  obtain ⟨lines, read, collected⟩ := Option.bind_eq_some_iff.mp parsed
  exact collect_bounded (read_lines_bounded read) .nil collected

end Documents

end CallMonitor.Toml
