import CallMonitor.Proofs.Wire.Framing
import CallMonitor.Proofs.Wire.Messages
import Mathlib.Data.List.Infix

/-!
Whole streams. A reader that knows which kinds of messages come in which order takes back what was
written, byte for byte, and leaves what follows. If the stream is cut anywhere, the reader gets the
messages whose frames are whole and then finds the end of the stream; it never gets anything else.
-/

namespace CallMonitor.Wire

open CallMonitor.Text

def writeFrames : List Message → Except WireError Bytes
  | [] => .ok []
  | message :: messages => do
      let frame ← message.write
      let frames ← writeFrames messages
      return frame ++ frames

def writeStream (messages : List Message) : Except WireError Bytes := do
  let frames ← writeFrames messages
  return header ++ frames

/-- What reading one thing after the other has come to: the messages up to the first failure, the
failure if there was one, and the bytes left. -/
structure Reads where
  messages : List Message
  failure : Option WireError
  left : Bytes
  deriving DecidableEq

def readFrames (limit : Nat) : List Message.Kind → Bytes → Reads
  | [], stream => ⟨[], none, stream⟩
  | kind :: kinds, stream =>
      match Message.read kind limit stream with
      | (.error error, left) => ⟨[], some error, left⟩
      | (.ok message, rest) =>
          let later := readFrames limit kinds rest
          ⟨message :: later.messages, later.failure, later.left⟩

def readStream (limit : Nat) (kinds : List Message.Kind) (stream : Bytes) : Reads :=
  match readHeader stream with
  | (.error error, left) => ⟨[], some error, left⟩
  | (.ok (), rest) => readFrames limit kinds rest

/-- The frame of a message whose length can be stated. -/
def framed (message : Message) : Bytes := encodeLength message.encode.length ++ message.encode

/-- Messages that can be written, and that a reader with some limit takes. -/
def Fits (limit : Nat) (messages : List Message) : Prop :=
  ∀ message ∈ messages, message.encode.length ≤ bodyLimit ∧ message.encode.length ≤ limit

variable {limit : Nat} {message : Message} {messages : List Message}

theorem Fits.tail (fits : Fits limit (message :: messages)) : Fits limit messages := by
  intro other member
  apply fits
  exact List.mem_cons_of_mem _ member

theorem write_frames_eq (fits : Fits limit messages) :
    writeFrames messages = .ok (messages.flatMap framed) := by
  induction messages with
  | nil => rfl
  | cons message messages ih =>
      have own := (fits message List.mem_cons_self).1
      rw [writeFrames, Message.write, frame_of_short own, ih fits.tail]
      rfl

theorem write_stream_eq (fits : Fits limit messages) :
    writeStream messages = .ok (header ++ messages.flatMap framed) := by
  rw [writeStream, write_frames_eq fits]
  rfl

theorem read_framed (fits : Fits limit (message :: messages)) (rest : Bytes) :
    Message.read message.kind limit (framed message ++ rest) = (.ok message, rest) := by
  obtain ⟨stated, within⟩ := fits message List.mem_cons_self
  rw [Message.read, framed, List.append_assoc, read_frame_whole _ _ _ _ stated within,
    message.decode_encode]

theorem read_frames_append (fits : Fits limit messages) (tail : Bytes) :
    readFrames limit (messages.map Message.kind) (messages.flatMap framed ++ tail) =
      ⟨messages, none, tail⟩ := by
  induction messages with
  | nil => rfl
  | cons message messages ih =>
      rw [List.map_cons, readFrames, List.flatMap_cons, List.append_assoc, read_framed fits]
      simp only [ih fits.tail]

/-- A part of a frame is no frame, wherever it is cut. -/
theorem read_part_of_frame (fits : Fits limit (message :: messages)) {part : Bytes}
    (begins : part <+: framed message) (less : part.length < (framed message).length) :
    Message.read message.kind limit part = (.error .cut, []) := by
  obtain ⟨stated, within⟩ := fits message List.mem_cons_self
  by_cases few : part.length < 4
  · exact read_frame_short _ _ few
  -- The length is whole, so the cut is in the body.
  have four : (encodeLength message.encode.length).length = 4 := rfl
  have measured : encodeLength message.encode.length <+: part := by
    apply List.prefix_of_prefix_length_le (List.prefix_append _ _) begins
    omega
  obtain ⟨body, rfl⟩ := measured
  apply read_frame_cut_short _ _ stated within
  rw [framed, List.length_append, List.length_append] at less
  omega

/-- From the frames of some messages, cut somewhere, those messages are read whose frames are
whole, and then the end is found. -/
theorem read_frames_of_part (fits : Fits limit messages) {part : Bytes}
    (begins : part <+: messages.flatMap framed)
    (less : part.length < (messages.flatMap framed).length) :
    ∃ got, got <+: messages ∧
      readFrames limit (messages.map Message.kind) part = ⟨got, some .cut, []⟩ ∧
      ∀ whole, whole <+: messages → whole.flatMap framed <+: part → whole <+: got := by
  induction messages generalizing part with
  | nil => cases less
  | cons message messages ih =>
      rw [List.flatMap_cons] at begins less
      rw [List.map_cons, readFrames]
      by_cases inside : part.length < (framed message).length
      · have first : part <+: framed message :=
          List.prefix_of_prefix_length_le begins (List.prefix_append _ _) (Nat.le_of_lt inside)
        refine ⟨[], List.nil_prefix, ?_, ?_⟩
        · rw [read_part_of_frame fits first inside]
        · intro whole among held
          cases whole with
          | nil => exact List.nil_prefix
          | cons other whole =>
              obtain ⟨rfl, _⟩ := List.cons_prefix_cons.mp among
              have long := held.length_le
              rw [List.flatMap_cons, List.length_append] at long
              omega
      · have first : framed message <+: part :=
          List.prefix_of_prefix_length_le (List.prefix_append _ _) begins (Nat.le_of_not_lt inside)
        obtain ⟨rest, rfl⟩ := first
        rw [List.prefix_append_right_inj] at begins
        rw [List.length_append, List.length_append] at less
        obtain ⟨got, among, read, all⟩ := ih fits.tail begins (by omega)
        refine ⟨message :: got, List.cons_prefix_cons.mpr ⟨rfl, among⟩, ?_, ?_⟩
        · rw [read_framed fits]
          simp only [read]
        · intro whole among held
          cases whole with
          | nil => exact List.nil_prefix
          | cons other whole =>
              obtain ⟨rfl, later⟩ := List.cons_prefix_cons.mp among
              rw [List.flatMap_cons, List.prefix_append_right_inj] at held
              exact List.cons_prefix_cons.mpr ⟨rfl, all whole later held⟩

theorem read_part_of_header {part : Bytes} (begins : part <+: header)
    (less : part.length < header.length) : readHeader part = (.error .cut, []) := by
  have parts : ∀ count < header.length, readHeader (header.take count) = (.error .cut, []) := by
    decide
  rw [List.prefix_iff_eq_take] at begins
  rw [begins]
  exact parts part.length less

/-- Messages of any kinds and contents, none too long for its frame or over the reader's limit, can
be written. Whatever follows the stream, a reader of their kinds takes back the same messages and
leaves what follows. From the stream cut anywhere, also in the header or between two frames, it
takes back the first messages, all whose frames are whole among them, and then fails because the
stream has ended. -/
theorem read_stream_write (limit : Nat) (messages : List Message)
    (stated : ∀ message ∈ messages, message.encode.length ≤ bodyLimit)
    (within : ∀ message ∈ messages, message.encode.length ≤ limit) :
    ∃ written, writeStream messages = .ok written ∧
      (∀ tail, readStream limit (messages.map Message.kind) (written ++ tail) =
        ⟨messages, none, tail⟩) ∧
      ∀ part, part <+: written → part ≠ written →
        ∃ got, got <+: messages ∧
          readStream limit (messages.map Message.kind) part = ⟨got, some (.io .streamEnded), []⟩ ∧
          ∀ whole bytes, whole <+: messages → writeStream whole = .ok bytes →
            bytes <+: part → whole <+: got := by
  have fits : Fits limit messages := fun message member =>
    ⟨stated message member, within message member⟩
  have written : ∀ whole bytes, whole <+: messages → writeStream whole = .ok bytes →
      bytes = header ++ whole.flatMap framed := by
    intro whole bytes among wrote
    have wholeFits : Fits limit whole := fun message member => fits message (among.subset member)
    rw [write_stream_eq wholeFits, Except.ok.injEq] at wrote
    exact wrote.symm
  refine ⟨_, write_stream_eq fits, ?_, ?_⟩
  · intro tail
    rw [readStream, List.append_assoc, read_header_append]
    exact read_frames_append fits tail
  · intro part begins other
    have less : part.length < (header ++ messages.flatMap framed).length := by
      apply Nat.lt_of_le_of_ne begins.length_le
      intro same
      exact other (begins.eq_of_length same)
    by_cases inside : part.length < header.length
    · have first : part <+: header :=
        List.prefix_of_prefix_length_le begins (List.prefix_append _ _) (Nat.le_of_lt inside)
      refine ⟨[], List.nil_prefix, ?_, ?_⟩
      · rw [readStream, read_part_of_header first inside]
        rfl
      · intro whole bytes among wrote held
        have long := held.length_le
        rw [written whole bytes among wrote, List.length_append] at long
        omega
    · have first : header <+: part :=
        List.prefix_of_prefix_length_le (List.prefix_append _ _) begins (Nat.le_of_not_lt inside)
      obtain ⟨rest, rfl⟩ := first
      rw [List.prefix_append_right_inj] at begins
      rw [List.length_append, List.length_append] at less
      obtain ⟨got, among, read, all⟩ := read_frames_of_part fits begins (by omega)
      refine ⟨got, among, ?_, ?_⟩
      · rw [readStream, read_header_append]
        exact read
      · intro whole bytes among wrote held
        rw [written whole bytes among wrote, List.prefix_append_right_inj] at held
        exact all whole among held

/-- One message of every kind, with quotes, controls and characters of several bytes. -/
def everyKind : List Message :=
  [.text "say \x22hi\x22\n", .row ⟨some "\x00", none, some "é"⟩,
    .rows [⟨none, none, none⟩, Row.single "😀"], .entry ⟨"7", "later", "back\\slash"⟩,
    .verdict .mock]

theorem every_kind_read :
    (∀ message ∈ everyKind, message.encode.length ≤ bodyLimit) ∧
      (∀ message ∈ everyKind, message.encode.length ≤ 64) ∧
      ∃ written, writeStream everyKind = .ok written ∧
        readStream 64 (everyKind.map Message.kind) (written ++ [1, 2, 3]) =
          ⟨everyKind, none, [1, 2, 3]⟩ := by
  have within : ∀ message ∈ everyKind, message.encode.length ≤ 64 := by decide
  have stated : ∀ message ∈ everyKind, message.encode.length ≤ bodyLimit := by
    intro message member
    exact Nat.le_trans (within message member) (by decide)
  obtain ⟨written, wrote, read, -⟩ := read_stream_write 64 everyKind stated within
  exact ⟨stated, within, written, wrote, read [1, 2, 3]⟩

end CallMonitor.Wire
