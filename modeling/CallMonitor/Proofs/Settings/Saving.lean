import CallMonitor.Cli.Surroundings
import CallMonitor.Proofs.Files
import CallMonitor.Proofs.Net.Addresses
import CallMonitor.Proofs.Settings.Fields
import CallMonitor.Proofs.Text.Utf8
import CallMonitor.Proofs.Toml.Documents
import CallMonitor.Settings.Place

/-!
Settings that are saved and loaded again. The document that settings are written as says the same
settings, unless one of their numbers is too large for any document.
-/

namespace CallMonitor.Settings

open CallMonitor.Text

/-- What the types of a program's settings promise: ports have sixteen bits, and an address is one
of its version. -/
structure IsValid (settings : Settings) : Prop where
  ports : ∀ port ∈ settings.server.ports, port < 65536
  address : settings.server.address.IsValid

/-- Every number of the settings has a place among signed ones of 64 bits. -/
structure Fits (settings : Settings) : Prop where
  timeout : ∀ ms, settings.server.readTimeout = some ms → ms ≤ Nat.pow 2 63 - 1
  frame : settings.server.frameLimit ≤ Nat.pow 2 63 - 1

section Written

/-- The setting of the time that a request may take. -/
def timeoutSetting (ms : Nat) : Toml.Setting := ⟨"read_timeout_ms", toString ms, .integer ms⟩

def fileSetting (path : String) : Toml.Setting := ⟨"file", Toml.writeText path, .text path⟩

def serverGroup (server : ServerSettings) : Toml.Group where
  name := "server"
  settings :=
    [⟨"ports", Toml.writeList (server.ports.map toString),
        .list (server.ports.map fun port : Nat => .integer port)⟩,
      ⟨"bind_address", Toml.writeText server.address.toText, .text server.address.toText⟩] ++
    server.readTimeout.toList.map timeoutSetting ++
    [⟨"max_frame_bytes", toString server.frameLimit, .integer server.frameLimit⟩]

def groups (settings : Settings) : List Toml.Group :=
  [serverGroup settings.server,
    ⟨"policy", settings.policyFile.toList.map fileSetting⟩,
    ⟨"logging", [⟨"level", Toml.writeText settings.level, .text settings.level⟩]⟩]

theorem to_text_fitting {settings : Settings} (fits : settings.Fits) :
    settings.toText = .ok (Toml.writeGroups settings.groups) := by
  have timeout : optionalLine "read_timeout_ms" Toml.writeNumber settings.server.readTimeout =
      some ((settings.server.readTimeout.toList.map timeoutSetting).map fun setting =>
        Toml.writePair setting.key setting.written) := by
    cases set : settings.server.readTimeout with
    | none => rfl
    | some ms =>
        have small : ms ≤ Toml.largest := fits.timeout ms set
        simp [optionalLine, Toml.writeNumber, small, timeoutSetting]
  have frame : Toml.writeNumber settings.server.frameLimit =
      some (toString settings.server.frameLimit) := if_pos fits.frame
  have file : optionalLine "file" (fun path => some (Toml.writeText path)) settings.policyFile =
      some ((settings.policyFile.toList.map fileSetting).map fun setting =>
        Toml.writePair setting.key setting.written) := by
    cases settings.policyFile <;> rfl
  unfold toText
  dsimp only
  rw [timeout, frame, file]
  simp [Toml.writeGroups, groups, serverGroup, Toml.Group.write]

theorem to_text_unfitting {settings : Settings} (large : ¬settings.Fits) :
    settings.toText = .error .unwritable := by
  have unwritten {n : Nat} (big : ¬n ≤ Nat.pow 2 63 - 1) : Toml.writeNumber n = none := by
    rw [Toml.writeNumber]
    exact if_neg big
  by_cases frame : settings.server.frameLimit ≤ Nat.pow 2 63 - 1
  · cases set : settings.server.readTimeout with
    | none => exact absurd ⟨by simp [set], frame⟩ large
    | some ms =>
        have big : ¬ms ≤ Nat.pow 2 63 - 1 := by
          intro small
          refine large ⟨?_, frame⟩
          intro other same
          rw [set, Option.some.injEq] at same
          exact same ▸ small
        unfold toText
        dsimp only
        rw [set, optionalLine, unwritten big]
        rfl
  · unfold toText
    dsimp only
    rw [unwritten frame]
    cases optionalLine "read_timeout_ms" Toml.writeNumber settings.server.readTimeout <;> rfl

end Written

section Read

variable {settings : Settings}

theorem server_group_sound (valid : settings.IsValid) (fits : settings.Fits) :
    (serverGroup settings.server).IsSound := by
  have ports : ∀ port ∈ settings.server.ports,
      Toml.IsScalar (toString port).toList (.integer port) := by
    intro port member
    have small := valid.ports port member
    exact Toml.scalar_number (le_trans (Nat.le_of_lt small) (by decide))
  refine ⟨show Toml.isBareKey "server" = true by decide, ?_, ?_⟩
  · intro setting member
    simp only [serverGroup, List.cons_append, List.nil_append, List.mem_cons,
      List.mem_append, List.mem_map, Option.mem_toList, List.not_mem_nil, or_false] at member
    rcases member with rfl | rfl | ⟨ms, set, rfl⟩ | rfl
    · exact ⟨show Toml.isBareKey "ports" = true by decide, Toml.value_list ports⟩
    · exact ⟨show Toml.isBareKey "bind_address" = true by decide, (Toml.scalar_text _).value⟩
    · exact ⟨show Toml.isBareKey "read_timeout_ms" = true by decide,
        (Toml.scalar_number (fits.timeout ms set)).value⟩
    · exact ⟨show Toml.isBareKey "max_frame_bytes" = true by decide,
        (Toml.scalar_number fits.frame).value⟩
  · unfold serverGroup
    cases settings.server.readTimeout <;> simp [timeoutSetting]

theorem groups_sound (valid : settings.IsValid) (fits : settings.Fits) :
    ∀ group ∈ settings.groups, group.IsSound := by
  intro group member
  simp only [groups, List.mem_cons, List.not_mem_nil, or_false] at member
  rcases member with rfl | rfl | rfl
  · exact server_group_sound valid fits
  · refine ⟨show Toml.isBareKey "policy" = true by decide, ?_, ?_⟩
    · intro setting member
      obtain ⟨path, set, rfl⟩ := List.mem_map.mp member
      exact ⟨show Toml.isBareKey "file" = true by decide, (Toml.scalar_text path).value⟩
    · cases settings.policyFile <;> simp
  · refine ⟨show Toml.isBareKey "logging" = true by decide, ?_, by simp⟩
    intro setting member
    obtain rfl := List.mem_singleton.mp member
    exact ⟨show Toml.isBareKey "level" = true by decide, (Toml.scalar_text settings.level).value⟩

theorem read_number_integer {n most : Nat} (small : n ≤ most) :
    readNumber most (.integer n) = some n :=
  read_number_eq_some_iff.mpr ⟨rfl, small⟩

theorem read_ports_integers {ports : List Nat} (small : ∀ port ∈ ports, port < 65536) :
    readPorts (.list (ports.map fun port : Nat => .integer port)) = some ports := by
  have below : ∀ port ∈ ports, port ≤ largestPort :=
    fun port member => Nat.le_of_lt_succ (small port member)
  exact map_read_number_eq_some_iff.mpr ⟨rfl, below⟩

theorem read_address_text {address : Net.Address} (valid : address.IsValid) :
    readAddress (.text address.toText) = some address :=
  Net.Address.parse_to_text valid

/-- Every setting is read from the section that it was written in. -/
theorem taken_groups (valid : settings.IsValid) (fits : settings.Fits) (field : Field) :
    field.taken (settings.groups.map Toml.Group.table) = some (settings.value field) := by
  have below {n : Nat} (small : n ≤ Nat.pow 2 63 - 1) : n ≤ largestNumber :=
    le_trans small (by decide)
  have frame := read_number_integer (below fits.frame)
  unfold groups serverGroup
  cases field with
  | ports => exact read_ports_integers valid.ports
  | address => exact read_address_text valid.address
  | readTimeout =>
      cases set : settings.server.readTimeout with
      | none => exact congrArg some set.symm
      | some ms =>
          have read := read_number_integer (below (fits.timeout ms set))
          exact (congrArg (Option.map some) read).trans (congrArg some set.symm)
  | frameLimit =>
      cases set : settings.server.readTimeout with
      | none => exact frame
      | some ms => exact frame
  | policyFile =>
      cases set : settings.policyFile with
      | none => exact congrArg some set.symm
      | some path => exact congrArg some set.symm
  | level => rfl

theorem of_entries_groups (valid : settings.IsValid) (fits : settings.Fits) :
    ofEntries (settings.groups.map Toml.Group.table) = some settings := by
  have tables : HasTables (settings.groups.map Toml.Group.table) := by
    intro field item found
    cases field <;> cases found <;> exact ⟨_, _, rfl⟩
  exact (of_entries_eq_some_iff tables).mpr (taken_groups valid fits)

theorem of_text_saved (valid : settings.IsValid) (fits : settings.Fits) :
    ofText (Toml.writeGroups settings.groups) = .ok settings := by
  have apart : (settings.groups.map Toml.Group.name).Nodup := by
    simp [groups, serverGroup]
  rw [ofText, Toml.parse_groups (groups_sound valid fits) apart, Option.bind_some,
    of_entries_groups valid fits]

end Read

theorem save_fitting {settings : Settings} (fits : settings.Fits) (tree : FileTree)
    (path : String) :
    settings.save tree path =
      (tree.write path (encodeUtf8 (Toml.writeGroups settings.groups))).mapError
        (.notWritten path) := by
  rw [save, to_text_fitting fits]
  dsimp only
  cases tree.write path (encodeUtf8 (Toml.writeGroups settings.groups)) <;> rfl

theorem load_written {settings : Settings} (valid : settings.IsValid) (fits : settings.Fits)
    {tree later : FileTree} {path : String}
    (written : tree.write path (encodeUtf8 (Toml.writeGroups settings.groups)) = .ok later) :
    loadFrom later path = .ok settings := by
  have text : (PathState.file (encodeUtf8 (Toml.writeGroups settings.groups))).readText =
      .ok (Toml.writeGroups settings.groups) := by
    simp [PathState.readText, PathState.read, decode_utf8_eq_some_iff.mpr rfl]
  rw [loadFrom, FileTree.look_write written, ofState, text]
  exact of_text_saved valid fits

/-- Settings that are saved where a file can be written come back from there as they were, whatever
texts they hold and whichever of them are not set. They are saved unless the time for a request or
the limit on its length is too large for a document; then the program does nothing at all, and what
stands at the path stays. -/
theorem saved_settings_load_back {settings : Settings} (valid : settings.IsValid) :
    (∀ (tree : FileTree) (path : String),
      (tree.IsWritable path →
        ((∃ later, settings.save tree path = .ok later) ↔ settings.Fits)) ∧
      ∀ later, settings.save tree path = .ok later → loadFrom later path = .ok settings) ∧
    (¬settings.Fits →
      (∀ (tree : FileTree) (path : String), settings.save tree path = .error .unwritable) ∧
      ∀ (m : Type → Type) [Monad m] (world : Cli.Surroundings m) (path : String),
        world.saveSettings settings path = pure (.error .unwritable)) := by
  by_cases fits : settings.Fits
  · refine ⟨?_, fun large => absurd fits large⟩
    intro tree path
    rw [save_fitting fits]
    constructor
    · intro writable
      obtain ⟨later, written⟩ := writable (encodeUtf8 (Toml.writeGroups settings.groups))
      refine iff_of_true ⟨later, ?_⟩ fits
      rw [written]
      rfl
    · intro later saved
      cases written : tree.write path (encodeUtf8 (Toml.writeGroups settings.groups)) with
      | error reason =>
          rw [written] at saved
          cases saved
      | ok tree =>
          rw [written] at saved
          cases saved
          exact load_written valid fits written
  · have unsaved (tree : FileTree) (path : String) :
        settings.save tree path = .error .unwritable := by
      rw [save, to_text_unfitting fits]
    refine ⟨?_, ?_⟩
    · intro tree path
      rw [unsaved]
      refine ⟨fun _ => iff_of_false ?_ fits, ?_⟩
      · rintro ⟨later, ⟨⟩⟩
      · rintro later ⟨⟩
    · intro _
      refine ⟨unsaved, ?_⟩
      intro m _ world path
      rw [Cli.Surroundings.saveSettings, to_text_unfitting fits]

/-- Settings whose texts need different kinds of strings, with a number that just fits. -/
def awkward : Settings :=
  ⟨⟨[0, 65535, 0], .six [0, 0, 1, 0, 0, 0, 65535, 10], some (Nat.pow 2 63 - 1), 0⟩,
    some "C:\\\x27new\x27\n\x22it\x22", "\r\x01\x27\x27\x27\\"⟩

/-- The same with a number that does not fit. -/
def oversized : Settings :=
  { awkward with server := { awkward.server with frameLimit := Nat.pow 2 63 } }

theorem awkward_settings_load_back :
    (∃ later, awkward.save .empty "c.toml" = .ok later ∧
      loadFrom later "c.toml" = .ok awkward) ∧
      oversized.save .empty "c.toml" = .error .unwritable := by
  have writable : FileTree.empty.IsWritable "c.toml" :=
    @FileTree.is_writable_of_write FileTree.empty "c.toml" [] _ rfl
  have valid : awkward.IsValid := ⟨by decide, by decide, by decide⟩
  have fits : awkward.Fits := ⟨by rintro ms ⟨⟩; decide, by decide⟩
  have large : ¬oversized.Fits := fun fits => absurd fits.frame (by decide)
  obtain ⟨saves, -⟩ := saved_settings_load_back valid
  obtain ⟨-, refused⟩ := @saved_settings_load_back oversized ⟨valid.ports, valid.address⟩
  obtain ⟨later, saved⟩ := ((saves .empty "c.toml").1 writable).mpr fits
  exact ⟨⟨later, saved, (saves .empty "c.toml").2 later saved⟩, (refused large).1 _ _⟩

end CallMonitor.Settings
