import CallMonitor.Wire.Frame

/-!
Frames as a grammar beside their reader. Every stream starts in one of four ways: it is too short
for a length, its length is over the limit, its body is cut short, or it holds a whole body. The
reader tells these apart, and once it has told, bytes that arrive later change nothing.
-/

namespace CallMonitor.Wire

open CallMonitor.Text

theorem decode_length_encode {n : Nat} (small : n ≤ bodyLimit) :
    decodeLength (UInt8.ofNat (n / 16777216)) (UInt8.ofNat (n / 65536)) (UInt8.ofNat (n / 256))
      (UInt8.ofNat n) = n := by
  simp only [bodyLimit] at small
  simp only [decodeLength, UInt8.toNat_ofNat']
  omega

theorem decode_length_le (a b c d : UInt8) : decodeLength a b c d ≤ bodyLimit := by
  have highest := a.toNat_lt
  have higher := b.toNat_lt
  have lower := c.toNat_lt
  have lowest := d.toNat_lt
  simp only [decodeLength, bodyLimit]
  omega

theorem encode_length_decode (a b c d : UInt8) :
    encodeLength (decodeLength a b c d) = [a, b, c, d] := by
  have highest := a.toNat_lt
  have higher := b.toNat_lt
  have lower := c.toNat_lt
  have lowest := d.toNat_lt
  simp only [encodeLength, List.cons.injEq, and_true, ← UInt8.toNat_inj, UInt8.toNat_ofNat',
    decodeLength]
  omega

theorem take_exactly_append (body rest : Bytes) :
    takeExactly body.length (body ++ rest) = some (body, rest) := by
  simp [takeExactly]

/-- The ways in which a stream can start, to a reader of one frame. -/
inductive FrameStart (limit : Nat) : Bytes → Prop
  /-- There are not even four bytes of a length. -/
  | short {stream : Bytes} (few : stream.length < 4) : FrameStart limit stream
  | tooLarge {length : Nat} (rest : Bytes) (stated : length ≤ bodyLimit)
      (exceeds : limit < length) : FrameStart limit (encodeLength length ++ rest)
  | cutShort {length : Nat} {rest : Bytes} (stated : length ≤ bodyLimit) (within : length ≤ limit)
      (few : rest.length < length) : FrameStart limit (encodeLength length ++ rest)
  | whole (body rest : Bytes) (stated : body.length ≤ bodyLimit) (within : body.length ≤ limit) :
      FrameStart limit (encodeLength body.length ++ (body ++ rest))

theorem frame_start (limit : Nat) (stream : Bytes) : FrameStart limit stream := by
  rcases stream with _ | ⟨a, _ | ⟨b, _ | ⟨c, _ | ⟨d, rest⟩⟩⟩⟩
  case cons.cons.cons.cons =>
    have stated := decode_length_le a b c d
    have written : a :: b :: c :: d :: rest = encodeLength (decodeLength a b c d) ++ rest := by
      rw [encode_length_decode]
      rfl
    rw [written]
    by_cases exceeds : limit < decodeLength a b c d
    · exact .tooLarge rest stated exceeds
    have within : decodeLength a b c d ≤ limit := Nat.le_of_not_lt exceeds
    by_cases few : rest.length < decodeLength a b c d
    · exact .cutShort stated within few
    have enough : (rest.take (decodeLength a b c d)).length = decodeLength a b c d := by
      rw [List.length_take]
      omega
    rw [← List.take_append_drop (decodeLength a b c d) rest]
    have start : FrameStart limit (encodeLength (rest.take (decodeLength a b c d)).length ++
        (rest.take (decodeLength a b c d) ++ rest.drop (decodeLength a b c d))) :=
      .whole _ _ (by rwa [enough]) (by rwa [enough])
    rwa [enough] at start
  all_goals exact .short (by simp)

section Reading

variable {α : Type} (decode : Bytes → Option α) (limit : Nat)

theorem read_frame_short {stream : Bytes} (few : stream.length < 4) :
    readFrame decode limit stream = (.error .cut, []) := by
  rcases stream with _ | ⟨a, _ | ⟨b, _ | ⟨c, _ | ⟨d, rest⟩⟩⟩⟩
  case cons.cons.cons.cons =>
    simp only [List.length_cons] at few
    omega
  all_goals rfl

/-- A reader sees the length that was written, and the bytes after it. -/
theorem read_frame_encode {length : Nat} (stated : length ≤ bodyLimit) (rest : Bytes) :
    readFrame decode limit (encodeLength length ++ rest) =
      if limit < length then (.error (.frameTooLarge length limit), rest)
      else
        match takeExactly length rest with
        | none => (.error .cut, [])
        | some (body, after) =>
            match decode body with
            | none => (.error .undecodable, after)
            | some value => (.ok value, after) := by
  have same := decode_length_encode stated
  unfold encodeLength
  generalize UInt8.ofNat (length / 16777216) = a at same ⊢
  generalize UInt8.ofNat (length / 65536) = b at same ⊢
  generalize UInt8.ofNat (length / 256) = c at same ⊢
  generalize UInt8.ofNat length = d at same ⊢
  subst same
  rfl

theorem read_frame_too_large {length : Nat} (rest : Bytes) (stated : length ≤ bodyLimit)
    (exceeds : limit < length) :
    readFrame decode limit (encodeLength length ++ rest) =
      (.error (.frameTooLarge length limit), rest) := by
  rw [read_frame_encode decode limit stated, if_pos exceeds]

theorem read_frame_cut_short {length : Nat} {rest : Bytes} (stated : length ≤ bodyLimit)
    (within : length ≤ limit) (few : rest.length < length) :
    readFrame decode limit (encodeLength length ++ rest) = (.error .cut, []) := by
  rw [read_frame_encode decode limit stated, if_neg (Nat.not_lt.mpr within), takeExactly,
    if_pos few]

theorem read_frame_whole (body rest : Bytes) (stated : body.length ≤ bodyLimit)
    (within : body.length ≤ limit) :
    readFrame decode limit (encodeLength body.length ++ (body ++ rest)) =
      match decode body with
      | none => (.error .undecodable, rest)
      | some value => (.ok value, rest) := by
  rw [read_frame_encode decode limit stated, if_neg (Nat.not_lt.mpr within), take_exactly_append]

/-- A stream starts with a whole frame within the limit, and its body decodes to a value. What
follows the frame does not matter. -/
def Carries (stream : Bytes) (value : α) : Prop :=
  ∃ body rest, stream = encodeLength body.length ++ (body ++ rest) ∧
    body.length ≤ bodyLimit ∧ body.length ≤ limit ∧ decode body = some value

theorem carries_of_read_frame {stream : Bytes} {value : α}
    (read : (readFrame decode limit stream).1 = .ok value) :
    Carries decode limit stream value := by
  cases frame_start limit stream with
  | short few =>
      rw [read_frame_short decode limit few] at read
      cases read
  | tooLarge rest stated exceeds =>
      rw [read_frame_too_large decode limit rest stated exceeds] at read
      cases read
  | cutShort stated within few =>
      rw [read_frame_cut_short decode limit stated within few] at read
      cases read
  | whole body rest stated within =>
      rw [read_frame_whole decode limit body rest stated within] at read
      cases decoded : decode body with
      | none => simp [decoded] at read
      | some found =>
          simp only [decoded, Except.ok.injEq] at read
          exact ⟨body, rest, rfl, stated, within, by rw [decoded, read]⟩

theorem read_frame_of_carries {stream : Bytes} {value : α}
    (carried : Carries decode limit stream value) :
    (readFrame decode limit stream).1 = .ok value := by
  obtain ⟨body, rest, rfl, stated, within, decoded⟩ := carried
  rw [read_frame_whole decode limit body rest stated within, decoded]

/-- A stream of one frame carries what its body decodes to, if the body is within the limit. -/
theorem carries_frame_iff {body : Bytes} {value : α} (stated : body.length ≤ bodyLimit) :
    Carries decode limit (encodeLength body.length ++ body) value ↔
      body.length ≤ limit ∧ decode body = some value := by
  constructor
  · intro carried
    have read := read_frame_of_carries decode limit carried
    by_cases exceeds : limit < body.length
    · rw [read_frame_too_large decode limit body stated exceeds] at read
      cases read
    have within := Nat.le_of_not_lt exceeds
    have whole := read_frame_whole decode limit body [] stated within
    rw [List.append_nil] at whole
    rw [whole] at read
    cases decoded : decode body with
    | none => simp [decoded] at read
    | some found =>
        simp only [decoded, Except.ok.injEq] at read
        exact ⟨within, congrArg some read⟩
  · rintro ⟨within, decoded⟩
    exact ⟨body, [], by rw [List.append_nil], stated, within, decoded⟩

/-- What a reader has made of a stream stays, whatever arrives after it; unless the stream was too
short to make anything of it. -/
theorem read_frame_append (stream more : Bytes)
    (settled : ∀ reason, (readFrame decode limit stream).1 ≠ .error (.io reason)) :
    (readFrame decode limit (stream ++ more)).1 = (readFrame decode limit stream).1 := by
  cases frame_start limit stream with
  | short few => exact absurd (by rw [read_frame_short decode limit few]; rfl) (settled _)
  | tooLarge rest stated exceeds =>
      rw [List.append_assoc, read_frame_too_large decode limit _ stated exceeds,
        read_frame_too_large decode limit _ stated exceeds]
  | cutShort stated within few =>
      exact absurd (by rw [read_frame_cut_short decode limit stated within few]; rfl) (settled _)
  | whole body rest stated within =>
      rw [List.append_assoc, List.append_assoc, read_frame_whole decode limit _ _ stated within,
        read_frame_whole decode limit _ _ stated within]
      cases decode body <;> rfl

end Reading

theorem frame_of_short {body : Bytes} (short : body.length ≤ bodyLimit) :
    frame body = .ok (encodeLength body.length ++ body) := if_pos short

theorem frame_of_long {body : Bytes} (long : bodyLimit < body.length) :
    frame body = .error (.frameTooLarge body.length bodyLimit) :=
  if_neg (Nat.not_le.mpr long)

theorem read_header_append (rest : Bytes) : readHeader (header ++ rest) = (.ok (), rest) := by
  have start : takeExactly 4 (header ++ rest) = some (magic, 0 :: 1 :: rest) := by
    rw [header_bytes]
    exact take_exactly_append magic (0 :: 1 :: rest)
  simp [readHeader, start, version]

end CallMonitor.Wire
