import CallMonitor.Proofs.Json.Grammar
import CallMonitor.Proofs.Json.RoundTrip

/-!
Objects are read back: a reader of members that takes every member as it was written takes the
whole object, and leaves alone what follows it. Members may have white space between them.
-/

namespace CallMonitor.Json

open CallMonitor.Text

theorem expect_mark {mark : UInt8} (visible : isSpace mark = false) (rest : Bytes) :
    expect mark (mark :: rest) = some rest :=
  expect_iff_skip_space.mpr (skip_space_visible visible rest)

theorem read_string_spaced {space : List Char} (spaces : Spaces space) (bytes : Bytes) :
    readString (utf8 space ++ bytes) = readString bytes := by
  rw [readString, readString, expect, expect, skip_spaces spaces]

variable {σ : Type} {member : String → σ → Reader σ}

/-- What may follow a member: white space, a comma, or the end of the object. -/
def EndsMember (rest : Bytes) : Prop :=
  ∃ mark more, rest = mark :: more ∧ (isSpace mark = true ∨ mark = 0x2C ∨ mark = 0x7D)

/-- White space before something else that may follow a member may follow it, too. -/
theorem EndsMember.after_spaces {space : List Char} (spaces : Spaces space) {rest : Bytes}
    (ends : EndsMember rest) : EndsMember (utf8 space ++ rest) := by
  cases space with
  | nil => exact ends
  | cons c space =>
      have blank : ∃ byte, String.utf8EncodeChar c = [byte] ∧ isSpace byte = true := by
        have listed := spaces c List.mem_cons_self
        simp only [List.mem_cons, List.not_mem_nil, or_false] at listed
        rcases listed with rfl | rfl | rfl | rfl <;> exact ⟨_, rfl, by decide⟩
      obtain ⟨byte, encoded, blank⟩ := blank
      refine ⟨byte, utf8 space ++ rest, ?_, .inl blank⟩
      rw [utf8_cons, encoded]
      rfl

/-- A reader of members gets from one state to another by reading some members in their order. -/
inductive Fills (member : String → σ → Reader σ) : σ → List (String × Bytes) → σ → Prop
  | none {state : σ} : Fills member state [] state
  | more {state next last : σ} {name : String} {value : Bytes} {members : List (String × Bytes)}
      (reads : ∀ rest, EndsMember rest → member name state (value ++ rest) = some (next, rest))
      (later : Fills member next members last) :
      Fills member state ((name, value) :: members) last

def writtenMember (item : String × Bytes) : Bytes := encodeString item.1 ++ [0x3A] ++ item.2

/-- Items with commas between them, and white space after each comma. -/
def spacedItems (space : List Char) : List Bytes → Bytes
  | [] => []
  | [item] => item
  | item :: next :: rest => item ++ 0x2C :: (utf8 space ++ spacedItems space (next :: rest))

theorem spaced_items_nil (items : List Bytes) : spacedItems [] items = encodeItems items := by
  fun_induction encodeItems items with
  | case1 => rfl
  | case2 item => rfl
  | case3 item next rest ih => simp [spacedItems, ih]

section Members

variable {state next last : σ} {name : String} {value rest after : Bytes}

theorem read_member
    (reads : ∀ rest, EndsMember rest → member name state (value ++ rest) = some (next, rest))
    (ends : EndsMember rest) :
    ∃ start, readString (writtenMember (name, value) ++ rest) = some (name, start) ∧
      (expect 0x3A start).bind (member name state) = some (next, rest) := by
  refine ⟨0x3A :: (value ++ rest), ?_, ?_⟩
  · rw [writtenMember, List.append_assoc, List.append_assoc, read_string_encode]
    rfl
  · rw [expect_mark rfl, Option.bind_some, reads rest ends]

theorem fold_members_more
    (reads : ∀ rest, EndsMember rest → member name state (value ++ rest) = some (next, rest))
    (ends : EndsMember rest) (comma : skipSpace rest = 0x2C :: after) (fuel : Nat) :
    foldMembers member (fuel + 1) state (writtenMember (name, value) ++ rest) =
      foldMembers member fuel next after := by
  obtain ⟨start, named, read⟩ := read_member reads ends
  simp only [foldMembers, named, read, comma]

theorem fold_members_last
    (reads : ∀ rest, EndsMember rest → member name state (value ++ rest) = some (next, rest))
    (ends : EndsMember rest) (closed : skipSpace rest = 0x7D :: after) (fuel : Nat) :
    foldMembers member (fuel + 1) state (writtenMember (name, value) ++ rest) =
      some (next, after) := by
  obtain ⟨start, named, read⟩ := read_member reads ends
  simp only [foldMembers, named, read, closed]

theorem fold_members_spaced {space : List Char} (spaces : Spaces space) (fuel : Nat) (state : σ)
    (bytes : Bytes) :
    foldMembers member fuel state (utf8 space ++ bytes) = foldMembers member fuel state bytes := by
  cases fuel with
  | zero => rfl
  | succ fuel => rw [foldMembers, foldMembers, read_string_spaced spaces]

end Members

section Objects

variable {state last : σ} {first : String × Bytes} {members : List (String × Bytes)}
  {space closing : List Char}

/-- The members of an object are read back, given a round for each. -/
theorem fold_spaced_items (spaces : Spaces space) (spaces' : Spaces closing)
    (fills : Fills member state (first :: members) last) (rest : Bytes) (fuel : Nat)
    (enough : members.length < fuel) :
    foldMembers member fuel state
        (spacedItems space ((first :: members).map writtenMember) ++
          (utf8 closing ++ 0x7D :: rest)) =
      some (last, rest) := by
  induction members generalizing state first fuel with
  | nil =>
      obtain ⟨fuel, rfl⟩ := Nat.exists_eq_succ_of_ne_zero (Nat.ne_of_gt enough)
      cases fills with
      | more reads later =>
          cases later
          have ends : EndsMember (utf8 closing ++ 0x7D :: rest) :=
            .after_spaces spaces' ⟨_, _, rfl, .inr (.inr rfl)⟩
          apply fold_members_last reads ends
          rw [skip_spaces spaces', skip_space_visible rfl]
  | cons second members ih =>
      obtain ⟨fuel, rfl⟩ := Nat.exists_eq_succ_of_ne_zero (Nat.ne_of_gt (Nat.zero_lt_of_lt enough))
      cases fills with
      | more reads later =>
          have remaining := ih later fuel (Nat.lt_of_succ_lt_succ enough)
          rw [List.map_cons] at remaining
          rw [List.map_cons, List.map_cons, spacedItems, List.append_assoc, List.cons_append,
            fold_members_more reads ⟨_, _, rfl, .inr (.inl rfl)⟩ (skip_space_visible rfl _),
            List.append_assoc, fold_members_spaced spaces]
          exact remaining

theorem length_le_spaced_items (space : List Char) (members : List (String × Bytes)) :
    members.length ≤ (spacedItems space (members.map writtenMember)).length := by
  induction members with
  | nil => exact Nat.le_refl _
  | cons item members ih =>
      cases members with
      | nil => simp [spacedItems, writtenMember, encodeString]
      | cons next members =>
          simp only [List.map_cons, spacedItems, List.length_append, List.length_cons] at ih ⊢
          omega

/-- An object with members is read back if its members are, with white space before each member and
before its end. -/
theorem read_object_spaced (spaces : Spaces space) (spaces' : Spaces closing)
    (fills : Fills member state (first :: members) last) (rest : Bytes) :
    readObject member state
        (0x7B :: (utf8 space ++ (spacedItems space ((first :: members).map writtenMember) ++
          (utf8 closing ++ 0x7D :: rest)))) =
      some (last, rest) := by
  have quoted : ∃ more, spacedItems space ((first :: members).map writtenMember) ++
      (utf8 closing ++ 0x7D :: rest) = 0x22 :: more := by
    cases members <;> simp [spacedItems, writtenMember, encodeString]
  have long := length_le_spaced_items space (first :: members)
  have read := fold_spaced_items spaces spaces' fills rest
    (spacedItems space ((first :: members).map writtenMember) ++
      (utf8 closing ++ 0x7D :: rest)).length (by
      simp only [List.length_append, List.length_cons] at long ⊢
      omega)
  obtain ⟨more, begun⟩ := quoted
  rw [begun] at read ⊢
  rw [readObject, expect_mark rfl]
  simp only [skip_spaces spaces, skip_space_visible (show isSpace 0x22 = false from rfl)]
  exact read

theorem read_object_encode (fills : Fills member state (first :: members) last) (rest : Bytes) :
    readObject member state (encodeObject (first :: members) ++ rest) = some (last, rest) := by
  have read := read_object_spaced .nil .nil fills rest
  rw [spaced_items_nil] at read
  rw [encodeObject, List.append_assoc, List.append_assoc]
  exact read

end Objects

end CallMonitor.Json
