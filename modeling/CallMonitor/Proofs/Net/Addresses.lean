import CallMonitor.Proofs.Text.Digits

/-!
Written addresses. Every address is read back from its written form, whichever run of zero groups
that form leaves out, because the run that was chosen holds zeros only and is at least two groups
long.
-/

namespace CallMonitor.Net

open CallMonitor.Text

/-- The numbers of an address are those that its version has. -/
def Address.IsValid : Address → Prop
  | .four a b c d => a < 256 ∧ b < 256 ∧ c < 256 ∧ d < 256
  | .six groups => groups.length = 8 ∧ ∀ group ∈ groups, group < 65536

section Numbers

theorem digits_known {base : Nat} (two : 1 < base) (below : base ≤ 16) (n : Nat) :
    ∀ c ∈ Nat.toDigits base n, isDigitIn base c = true := by
  intro c member
  obtain ⟨digit, small, rfl⟩ := digit_of_mem two member
  simp [isDigitIn, known_address_digit digit (by omega), small]

theorem number_of_to_digits {base : Nat} (two : 1 < base) (below : base ≤ 16) (n : Nat) :
    numberOf base (Nat.toDigits base n) = n :=
  fold_to_digits two (fun digit small => known_address_digit digit (by omega)) n

theorem read_octet_written {n : Nat} (small : n < 256) {rest : List Char}
    (stops : Stops (isDigitIn 10) rest) :
    readOctet (Nat.toDigits 10 n ++ rest) = some (n, rest) := by
  have known : ∀ c ∈ Nat.toDigits 10 n, isDigitIn 10 c = true :=
    digits_known (by decide) (by decide) n
  have short : (Nat.toDigits 10 n).length ≤ 3 :=
    (Nat.length_toDigits_le_iff (by decide) (by decide)).mpr (by omega)
  have leading : ¬((Nat.toDigits 10 n).head? = some '0' ∧ 1 < (Nat.toDigits 10 n).length) := by
    rintro ⟨zero, long⟩
    by_cases none : n = 0
    · subst none
      exact absurd long (by decide)
    · exact head_ne_zero (by decide) (by decide) (Nat.pos_of_ne_zero none) zero
  unfold readOctet
  rw [take_while_run known stops, drop_while_run known stops]
  dsimp only
  rw [number_of_to_digits (by decide) (by decide), if_neg, if_neg leading]
  rintro (nothing | long | large)
  · exact Nat.toDigits_ne_nil nothing
  · omega
  · omega

theorem read_group_written {n : Nat} (small : n < 65536) {rest : List Char}
    (stops : Stops (isDigitIn 16) rest) :
    readGroup (Nat.toDigits 16 n ++ rest) = some (n, rest) := by
  have known : ∀ c ∈ Nat.toDigits 16 n, isDigitIn 16 c = true :=
    digits_known (by decide) (by decide) n
  have short : (Nat.toDigits 16 n).length ≤ 4 :=
    (Nat.length_toDigits_le_iff (by decide) (by decide)).mpr (by omega)
  unfold readGroup
  rw [take_while_run known stops, drop_while_run known stops]
  dsimp only
  rw [number_of_to_digits (by decide) (by decide), if_neg]
  rintro (nothing | long)
  · exact Nat.toDigits_ne_nil nothing
  · omega

end Numbers

section Four

def fourChars (a b c d : Nat) : List Char :=
  Nat.toDigits 10 a ++ '.' :: (Nat.toDigits 10 b ++ '.' ::
    (Nat.toDigits 10 c ++ '.' :: Nat.toDigits 10 d))

theorem write_four_chars (a b c d : Nat) :
    (Address.writeFour a b c d).toList = fourChars a b c d := by
  simp [Address.writeFour, fourChars, String.intercalate_cons_cons]

theorem stops_at_dot (rest : List Char) : Stops (isDigitIn 10) ('.' :: rest) := by
  rintro c ⟨⟩
  decide

theorem read_four_written {a b c d : Nat} (valid : (Address.four a b c d).IsValid) :
    readFour (fourChars a b c d) = some ((a, b, c, d), []) := by
  obtain ⟨first, second, third, fourth⟩ := valid
  have last : readOctet (Nat.toDigits 10 d) = some (d, []) := by
    have reads := @read_octet_written d fourth [] (by rintro c ⟨⟩)
    rwa [List.append_nil] at reads
  simp [readFour, fourChars, takeMark, read_octet_written first (stops_at_dot _),
    read_octet_written second (stops_at_dot _), read_octet_written third (stops_at_dot _), last]

end Four

section Six

/-- What follows a group: a colon, or nothing. -/
def EndsGroup (rest : List Char) : Prop := ∀ c, rest.head? = some c → c = ':'

theorem EndsGroup.stops {base : Nat} {rest : List Char} (ends : EndsGroup rest) :
    Stops (isDigitIn base) rest := by
  intro c head
  cases ends c head
  rfl

theorem ends_group_nil : EndsGroup [] := by rintro c ⟨⟩

theorem ends_group_colon (rest : List Char) : EndsGroup (':' :: rest) := by
  rintro c ⟨⟩
  rfl

/-- No dot follows the decimal digits at the start of a group. -/
theorem no_dot_after_group {run rest : List Char} (known : ∀ c ∈ run, isDigitIn 16 c = true)
    (ends : EndsGroup rest) :
    takeMark '.' ((run ++ rest).dropWhile (isDigitIn 10)) = none := by
  induction run with
  | nil =>
      cases rest with
      | nil => rfl
      | cons c rest =>
          cases ends c rfl
          rfl
  | cons c run ih =>
      obtain ⟨digit, others⟩ := List.forall_mem_cons.mp known
      rw [List.cons_append, List.dropWhile_cons]
      split
      · exact ih others
      · have other : c ≠ '.' := by
          rintro rfl
          exact absurd digit (by decide)
        rw [takeMark, if_neg other]

theorem rest_of_octet {text rest : List Char} {n : Nat} (read : readOctet text = some (n, rest)) :
    rest = text.dropWhile (isDigitIn 10) := by
  unfold readOctet at read
  dsimp only at read
  split at read
  · cases read
  · split at read <;> cases read
    rfl

/-- A group is not taken for the first of four decimal numbers. -/
theorem read_four_group {run rest : List Char} (known : ∀ c ∈ run, isDigitIn 16 c = true)
    (ends : EndsGroup rest) : readFour (run ++ rest) = none := by
  have undotted := no_dot_after_group known ends
  unfold readFour
  cases read : readOctet (run ++ rest) with
  | none => rfl
  | some octet =>
      obtain ⟨n, left⟩ := octet
      rw [← rest_of_octet read] at undotted
      simp [undotted]

/-- Nothing that could be read as a group stands here, before the group at an index. -/
def NoGroup (index : Nat) (rest : List Char) : Prop :=
  (afterColon index rest).bind readFour = none ∧ (afterColon index rest).bind readGroup = none

theorem no_group_at_end (index : Nat) : NoGroup index [] := by
  unfold NoGroup afterColon
  split <;> exact ⟨rfl, rfl⟩

theorem no_group_colons (index : Nat) (rest : List Char) : NoGroup index (':' :: ':' :: rest) := by
  have colon (more : List Char) : readFour (':' :: more) = none ∧ readGroup (':' :: more) = none :=
    ⟨@read_four_group [] (':' :: more) (by simp) (ends_group_colon more), rfl⟩
  unfold NoGroup afterColon
  split
  · exact colon _
  · exact colon _

/-- Groups as they are written from an index on. -/
def groupChars (index : Nat) : List Nat → List Char
  | [] => []
  | group :: rest =>
      (if index = 0 then [] else [':']) ++ Nat.toDigits 16 group ++ groupChars (index + 1) rest

theorem group_chars_later (index : Nat) (groups : List Nat) :
    groupChars (index + 1) groups = groupChars 1 groups := by
  induction groups generalizing index with
  | nil => rfl
  | cons group groups ih =>
      rw [groupChars, groupChars, ih (index + 1), ih 1]
      rfl

theorem write_groups_chars (groups : List Nat) :
    (Address.writeGroups groups).toList = groupChars 0 groups := by
  unfold Address.writeGroups
  induction groups with
  | nil => rfl
  | cons group groups ih =>
      cases groups with
      | nil => simp [groupChars]
      | cons next groups =>
          rw [List.map_cons] at ih
          rw [List.map_cons, List.map_cons, String.intercalate_cons_cons, String.toList_append,
            String.toList_append, ih]
          simp [groupChars, group_chars_later 1]

theorem after_colon_group (index : Nat) (text : List Char) :
    afterColon index ((if index = 0 then [] else [':']) ++ text) = some text := by
  unfold afterColon
  split <;> rfl

theorem ends_group_chars (index : Nat) (groups : List Nat) {rest : List Char}
    (ends : EndsGroup rest) : EndsGroup (groupChars (index + 1) groups ++ rest) := by
  cases groups with
  | nil => exact ends
  | cons group groups =>
      rintro c ⟨⟩
      rfl

/-- Groups are read up to the last one: there the room is used up, or no group follows. -/
theorem read_groups_written {groups : List Nat} (small : ∀ group ∈ groups, group < 65536)
    {room index : Nat} (fits : groups.length ≤ room) {rest : List Char} (ends : EndsGroup rest)
    (stops : groups.length = room ∨ NoGroup (index + groups.length) rest) :
    readGroups room index (groupChars index groups ++ rest) = (groups, false, rest) := by
  induction groups generalizing room index with
  | nil =>
      cases room with
      | zero => rfl
      | succ room =>
          obtain ⟨four, group⟩ := stops.resolve_left (Nat.succ_ne_zero room).symm
          rw [List.length_nil, Nat.add_zero] at four group
          rw [groupChars, List.nil_append, readGroups, four, group, ite_self]
  | cons group groups ih =>
      obtain ⟨room, rfl⟩ := Nat.exists_eq_add_one_of_ne_zero (Nat.ne_zero_of_lt fits)
      obtain ⟨first, others⟩ := List.forall_mem_cons.mp small
      have later : groupChars index (group :: groups) ++ rest =
          (if index = 0 then [] else [':']) ++
            (Nat.toDigits 16 group ++ (groupChars (index + 1) groups ++ rest)) := by
        simp [groupChars]
      have boundary := ends_group_chars index groups ends
      have four : readFour (Nat.toDigits 16 group ++ (groupChars (index + 1) groups ++ rest)) =
          none :=
        read_four_group (digits_known (by decide) (by decide) group) boundary
      have read := read_group_written first boundary.stops
      have reads := @ih others room (index + 1) (Nat.le_of_succ_le_succ fits) (by
        rw [List.length_cons] at stops
        rw [Nat.add_right_comm, Nat.add_assoc]
        exact stops.imp Nat.succ.inj id)
      rw [later, readGroups, after_colon_group, Option.bind_some, four, ite_self, Option.bind_some,
        read]
      dsimp only
      rw [reads]

theorem read_six_whole {groups : List Nat} (small : ∀ group ∈ groups, group < 65536)
    (eight : groups.length = 8) : readSix (groupChars 0 groups) = some (groups, []) := by
  have reads := @read_groups_written groups small 8 0 (Nat.le_of_eq eight) [] ends_group_nil
    (.inl eight)
  rw [List.append_nil] at reads
  rw [readSix, reads]
  dsimp only
  rw [if_pos eight]

/-- Groups on both sides of a double colon are read, and zeros in its place. -/
theorem read_six_parted {head tail : List Nat} (headSmall : ∀ group ∈ head, group < 65536)
    (tailSmall : ∀ group ∈ tail, group < 65536) (room : head.length + tail.length < 8) :
    readSix (groupChars 0 head ++ ':' :: ':' :: groupChars 0 tail) =
      some (head ++ List.replicate (8 - head.length - tail.length) 0 ++ tail, []) := by
  have before := @read_groups_written head headSmall 8 0 (by omega)
    (':' :: ':' :: groupChars 0 tail) (ends_group_colon _) (.inr (no_group_colons _ _))
  have after := @read_groups_written tail tailSmall (7 - head.length) 0 (by omega) []
    ends_group_nil (.inr (no_group_at_end _))
  rw [List.append_nil] at after
  have short : head.length ≠ 8 := by omega
  rw [readSix, before]
  simp [short, takeMark, after]

end Six

section Runs

open Address

def IsRun (groups : List Nat) (run : Run) : Prop :=
  ∀ i < run.length, groups[run.start + i]? = some 0

theorem is_run_next {groups : List Nat} {index : Nat} (here : groups[index]? = some 0)
    {current : Run} (opened : IsRun groups current)
    (reaches : current.length = 0 ∨ current.start + current.length = index) :
    let next : Run :=
      if current.length = 0 then ⟨index, 1⟩ else ⟨current.start, current.length + 1⟩
    IsRun groups next ∧ next.start + next.length = index + 1 := by
  dsimp only
  split
  · refine ⟨?_, rfl⟩
    intro i below
    obtain rfl := Nat.lt_one_iff.mp below
    exact here
  · rename_i nonempty
    have meets := reaches.resolve_left nonempty
    refine ⟨?_, by dsimp only; omega⟩
    intro i below
    dsimp only at below ⊢
    rcases Nat.lt_succ_iff_lt_or_eq.mp below with inside | rfl
    · exact opened i inside
    · rw [meets, here]

theorem is_run_longest {groups before rest : List Nat} (split : groups = before ++ rest)
    {current longest : Run} (opened : IsRun groups current)
    (reaches : current.length = 0 ∨ current.start + current.length = before.length)
    (found : IsRun groups longest) :
    IsRun groups (longestRun before.length current longest rest) := by
  -- Both runs hold zeros only, and the open one reaches up to the group that comes next.
  induction rest generalizing before current longest with
  | nil => exact found
  | cons group rest ih =>
      have next : groups = (before ++ [group]) ++ rest := by simp [split]
      have counted : before.length + 1 = (before ++ [group]).length := by simp
      rw [longestRun, counted]
      split
      · rename_i zero
        have here : groups[before.length]? = some 0 := by simp [split, zero]
        obtain ⟨extended, meets⟩ := is_run_next here opened reaches
        rw [counted] at meets
        dsimp only
        generalize (if current.length = 0 then (⟨before.length, 1⟩ : Run)
          else ⟨current.start, current.length + 1⟩) = later at extended meets ⊢
        apply ih next extended (.inr meets)
        split
        · exact extended
        · exact found
      · exact ih next (by rintro i ⟨⟩) (.inl rfl) found

/-- Groups without a run of zeros, and that run put back. -/
theorem parts_of_run {groups : List Nat} {run : Run} (zeros : IsRun groups run)
    (long : 0 < run.length) :
    groups.take run.start ++ List.replicate run.length 0 ++
        groups.drop (run.start + run.length) = groups := by
  have within : run.start + run.length ≤ groups.length := by
    have last := zeros (run.length - 1) (by omega)
    obtain ⟨inside, -⟩ := List.getElem?_eq_some_iff.mp last
    omega
  have middle : (groups.drop run.start).take run.length = List.replicate run.length 0 := by
    apply List.ext_getElem?
    intro i
    by_cases inside : i < run.length
    · rw [List.getElem?_take_of_lt inside, List.getElem?_drop, zeros i inside,
        List.getElem?_replicate, if_pos inside]
    · rw [List.getElem?_eq_none (by simp; omega), List.getElem?_eq_none (by simp; omega)]
  rw [← middle, List.append_assoc, ← List.drop_drop, List.take_append_drop,
    List.take_append_drop]

end Runs

section Written

open Address

/-- How groups are written: all of them, or a double colon in the place of two or more zeros. -/
inductive Shown (groups : List Nat) : List Char → Prop
  | whole : Shown groups (groupChars 0 groups)
  | parted {head tail : List Nat} {zeros : Nat}
      (joined : head ++ List.replicate zeros 0 ++ tail = groups) (two : 2 ≤ zeros) :
      Shown groups (groupChars 0 head ++ ':' :: ':' :: groupChars 0 tail)

theorem shown_write_six (groups : List Nat) : Shown groups (writeSix groups).toList := by
  have zeros : IsRun groups (longestRun 0 ⟨0, 0⟩ ⟨0, 0⟩ groups) :=
    @is_run_longest groups [] groups rfl _ _ (by rintro i ⟨⟩) (.inl rfl) (by rintro i ⟨⟩)
  unfold writeSix
  dsimp only
  generalize longestRun 0 ⟨0, 0⟩ ⟨0, 0⟩ groups = run at zeros
  split
  · rw [write_groups_chars]
    exact .whole
  · rename_i long
    have laid : (writeGroups (groups.take run.start) ++ "::" ++
        writeGroups (groups.drop (run.start + run.length))).toList =
          groupChars 0 (groups.take run.start) ++ ':' :: ':' ::
            groupChars 0 (groups.drop (run.start + run.length)) := by
      simp [write_groups_chars]
    rw [laid]
    exact .parted (parts_of_run zeros (by omega)) (by omega)

variable {groups : List Nat} {text : List Char}

theorem Shown.read_six (shown : Shown groups text) (valid : (Address.six groups).IsValid) :
    readSix text = some (groups, []) := by
  obtain ⟨eight, small⟩ := valid
  cases shown with
  | whole => exact read_six_whole small eight
  | @parted head tail zeros joined two =>
      have counted : head.length + zeros + tail.length = 8 := by
        rw [← eight, ← joined, List.length_append, List.length_append, List.length_replicate]
      have missing : 8 - head.length - tail.length = zeros := by omega
      have inside (group : Nat) (member : group ∈ head ∨ group ∈ tail) : group < 65536 := by
        apply small
        rw [← joined, List.append_assoc, List.mem_append, List.mem_append]
        exact member.imp_right .inr
      rw [read_six_parted (fun group member => inside group (.inl member))
        (fun group member => inside group (.inr member)) (by omega), missing, joined]

theorem read_four_groups (groups : List Nat) {rest : List Char} (ends : EndsGroup rest) :
    readFour (groupChars 0 groups ++ rest) = none := by
  cases groups with
  | nil => exact @read_four_group [] rest (by simp) ends
  | cons group groups =>
      have known : ∀ c ∈ Nat.toDigits 16 group, isDigitIn 16 c = true :=
        digits_known (by decide) (by decide) group
      have unread := read_four_group known (ends_group_chars 0 groups ends)
      simpa [groupChars] using unread

theorem Shown.read_four (shown : Shown groups text) : readFour text = none := by
  cases shown with
  | whole =>
      rw [← List.append_nil (groupChars 0 groups)]
      exact read_four_groups groups ends_group_nil
  | parted => exact read_four_groups _ (ends_group_colon _)

/-- An address of version 4 inside version 6 is read as its last two groups. -/
theorem read_six_mapped {high low : Nat} (highSmall : high < 65536) (lowSmall : low < 65536) :
    readSix (':' :: ':' :: (Nat.toDigits 16 65535 ++ ':' ::
        fourChars (high / 256) (high % 256) (low / 256) (low % 256))) =
      some ([0, 0, 0, 0, 0, 65535, high, low], []) := by
  have valid : (Address.four (high / 256) (high % 256) (low / 256) (low % 256)).IsValid := by
    refine ⟨?_, ?_, ?_, ?_⟩ <;> omega
  generalize inner : fourChars (high / 256) (high % 256) (low / 256) (low % 256) = text
  have reads := read_four_written valid
  rw [inner] at reads
  have opening := @read_groups_written [] (by simp) 8 0 (by decide)
    (':' :: ':' :: (Nat.toDigits 16 65535 ++ ':' :: text)) (ends_group_colon _)
    (.inr (no_group_colons _ _))
  have known : ∀ c ∈ Nat.toDigits 16 65535, isDigitIn 16 c = true :=
    digits_known (by decide) (by decide) 65535
  have first : readGroup (Nat.toDigits 16 65535 ++ ':' :: text) = some (65535, ':' :: text) :=
    read_group_written (by decide) (ends_group_colon text).stops
  have undotted := read_four_group known (ends_group_colon text)
  have last : readGroups 7 0 (Nat.toDigits 16 65535 ++ ':' :: text) =
      ([65535, high, low], true, []) := by
    have highWhole : high / 256 * 256 + high % 256 = high := Nat.div_add_mod' high 256
    have lowWhole : low / 256 * 256 + low % 256 = low := Nat.div_add_mod' low 256
    simp [readGroups, afterColon, undotted, first, takeMark, reads, highWhole, lowWhole]
  rw [groupChars, List.nil_append] at opening
  rw [readSix, opening]
  simp [takeMark, last]

theorem read_six_text {groups : List Nat} (valid : (Address.six groups).IsValid) :
    readFour (Address.six groups).toText.toList = none ∧
      readSix (Address.six groups).toText.toList = some (groups, []) := by
  unfold toText
  split
  · rename_i same
    cases same
  · rename_i high low same
    cases same
    obtain ⟨-, small⟩ := valid
    have laid : ("::ffff:" ++ writeFour (high / 256) (high % 256) (low / 256) (low % 256)).toList =
        ':' :: ':' :: (Nat.toDigits 16 65535 ++ ':' ::
          fourChars (high / 256) (high % 256) (low / 256) (low % 256)) := by
      rw [String.toList_append, write_four_chars]
      rfl
    rw [laid]
    exact ⟨@read_four_group [] _ (by simp) (ends_group_colon _),
      read_six_mapped (small high (by simp)) (small low (by simp))⟩
  · rename_i same
    cases same
    have shown := shown_write_six groups
    exact ⟨shown.read_four, shown.read_six valid⟩

end Written

theorem Address.parse_to_text {address : Address} (valid : address.IsValid) :
    parse address.toText = some address := by
  cases address with
  | four a b c d =>
      rw [parse, toText, write_four_chars, read_four_written valid]
  | six groups =>
      obtain ⟨four, six⟩ := read_six_text valid
      rw [parse, four, six]

end CallMonitor.Net
