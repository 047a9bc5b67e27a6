import CallMonitor.Client
import CallMonitor.Proofs.Json.Lists
import CallMonitor.Proofs.Wire.Framing

/-!
What a client makes of the bytes that a server sends. Every byte string is a response of exactly
one outcome: it is cut at some place, it is refused for its header or its length, or its body is a
JSON text of rows, or is not. The client finds this outcome and takes no byte after it.
-/

namespace CallMonitor.Wire

open CallMonitor.Json CallMonitor.Text

/-- The text of a row: a list of exactly three columns, each a string or absent. -/
def RowText (text : List Char) (row : Row) : Prop := ListText NullableText text row.columns

/-- A body that holds rows: the UTF-8 form of a list of rows, white space around it allowed. -/
def HoldsRows (body : Bytes) (rows : List Row) : Prop :=
  ∃ text : String, body = encodeUtf8 text ∧ Spaced (ListText RowText) text.toList rows

/-- What comes of the bytes that a server sends, for a client with a limit, and the bytes that are
left over. -/
inductive Response (limit : Nat) : Bytes → Except WireError (List Row) → Bytes → Prop
  | cutMagic {stream : Bytes} (few : stream.length < 4) : Response limit stream (.error .cut) []
  | badHeader {start rest : Bytes} (four : start.length = 4) (other : start ≠ magic) :
      Response limit (start ++ rest) (.error (.badHeader start)) rest
  | cutVersion {part : Bytes} (few : part.length < 2) :
      Response limit (magic ++ part) (.error .cut) []
  | unsupportedVersion {high low : UInt8} {rest : Bytes}
      (other : high.toNat * 256 + low.toNat ≠ version) :
      Response limit (magic ++ high :: low :: rest)
        (.error (.unsupportedVersion (high.toNat * 256 + low.toNat))) rest
  | cutLength {part : Bytes} (few : part.length < 4) :
      Response limit (header ++ part) (.error .cut) []
  | tooLarge {length : Nat} {rest : Bytes} (stated : length ≤ bodyLimit)
      (exceeds : limit < length) :
      Response limit (header ++ (encodeLength length ++ rest))
        (.error (.frameTooLarge length limit)) rest
  | cutBody {length : Nat} {part : Bytes} (stated : length ≤ bodyLimit) (within : length ≤ limit)
      (few : part.length < length) :
      Response limit (header ++ (encodeLength length ++ part)) (.error .cut) []
  | rows {body rest : Bytes} {rows : List Row} (stated : body.length ≤ bodyLimit)
      (within : body.length ≤ limit) (holds : HoldsRows body rows) :
      Response limit (header ++ (encodeLength body.length ++ (body ++ rest))) (.ok rows) rest
  | undecodable {body rest : Bytes} (stated : body.length ≤ bodyLimit)
      (within : body.length ≤ limit) (other : ∀ rows, ¬HoldsRows body rows) :
      Response limit (header ++ (encodeLength body.length ++ (body ++ rest)))
        (.error .undecodable) rest

def readResponse (limit : Nat) (stream : Bytes) : Except WireError (List Row) × Bytes :=
  match readHeader stream with
  | (.error error, left) => (.error error, left)
  | (.ok (), rest) => readFrame Row.decodeAll limit rest

section Rows

theorem starts_row (text : List Char) (row : Row) (denotes : RowText text row) :
    StartsItem (utf8 text) := by
  cases denotes with
  | filled items => exact ⟨0x5B, _, rfl, rfl, by decide⟩

theorem split_three {α : Type} {item : List Char → α → Prop} {inner : List Char}
    {first second third : α} (items : Items item inner [first, second, third]) :
    ∃ text₁ text₂ text₃, Spaced item text₁ first ∧ Spaced item text₂ second ∧
      Spaced item text₃ third ∧ inner = text₁ ++ ',' :: (text₂ ++ ',' :: text₃) := by
  cases items with
  | more spaced₁ items =>
      cases items with
      | more spaced₂ items =>
          cases items with
          | last spaced₃ => exact ⟨_, _, _, spaced₁, spaced₂, spaced₃, rfl⟩
          | more _ none => cases none

theorem accepts_row : Accepts Row.read RowText := by
  intro bytes row rest
  constructor
  · intro taken
    simp only [Row.read, Option.bind_eq_bind, Option.bind_eq_some_iff, Prod.exists,
      Option.some.injEq, Prod.mk.injEq] at taken
    obtain ⟨inside, opened, first, _, taken₁, _, next₁, second, _, taken₂, _, next₂, third, _,
      taken₃, _, next₃, rfl, rfl⟩ := taken
    rw [expect_iff_skip_space] at next₁ next₂ next₃
    obtain ⟨space, spaces, rfl⟩ := (expect_eq_some_iff rfl).mp opened
    obtain ⟨text₁, spaced₁, rfl⟩ := exists_spaced accepts_nullable taken₁ next₁
    obtain ⟨text₂, spaced₂, rfl⟩ := exists_spaced accepts_nullable taken₂ next₂
    obtain ⟨text₃, spaced₃, rfl⟩ := exists_spaced accepts_nullable taken₃ next₃
    refine ⟨space, _, spaces, .filled (.more spaced₁ (.more spaced₂ (.last spaced₃))), ?_⟩
    simp
  · rintro ⟨space, text, spaces, denotes, rfl⟩
    obtain ⟨first, second, third⟩ := row
    obtain ⟨items⟩ | ⟨items⟩ := denotes
    obtain ⟨text₁, text₂, text₃, spaced₁, spaced₂, spaced₃, rfl⟩ := split_three items
    obtain ⟨_, taken₁, next₁⟩ := spaced₁.taken accepts_nullable 0x2C rfl
      (utf8 text₂ ++ 0x2C :: (utf8 text₃ ++ 0x5D :: rest))
    obtain ⟨_, taken₂, next₂⟩ := spaced₂.taken accepts_nullable 0x2C rfl
      (utf8 text₃ ++ 0x5D :: rest)
    obtain ⟨_, taken₃, next₃⟩ := spaced₃.taken accepts_nullable 0x5D rfl rest
    rw [← expect_iff_skip_space] at next₁ next₂ next₃
    rw [Row.read, expect_opening spaces]
    simp only [utf8_append, utf8_cons, encode_comma, List.append_assoc, List.cons_append,
      List.nil_append, Option.bind_eq_bind, Option.bind_some, taken₁, next₁, taken₂, next₂,
      taken₃, next₃]

theorem decode_all_eq_some_iff {body : Bytes} {rows : List Row} :
    Row.decodeAll body = some rows ↔ HoldsRows body rows := by
  rw [Row.decodeAll, accepts_whole_text (accepts_list accepts_row starts_row)]
  constructor
  · rintro ⟨text, spaced, rfl⟩
    refine ⟨String.ofList text, ?_, ?_⟩
    · rw [encodeUtf8, String.toList_ofList]
      rfl
    · rwa [String.toList_ofList]
  · rintro ⟨text, rfl, spaced⟩
    exact ⟨text.toList, spaced, rfl⟩

theorem decode_all_eq_none_iff {body : Bytes} :
    Row.decodeAll body = none ↔ ∀ rows, ¬HoldsRows body rows := by
  simp only [Option.eq_none_iff_forall_ne_some, ne_eq, decode_all_eq_some_iff]

end Rows

section Headers

/-- The ways in which a stream can start, to a reader of a header. -/
inductive HeaderStart : Bytes → Prop
  | short {stream : Bytes} (few : stream.length < 4) : HeaderStart stream
  | other {start rest : Bytes} (four : start.length = 4) (other : start ≠ magic) :
      HeaderStart (start ++ rest)
  | cutShort {part : Bytes} (few : part.length < 2) : HeaderStart (magic ++ part)
  | versioned {high low : UInt8} {rest : Bytes}
      (other : high.toNat * 256 + low.toNat ≠ version) : HeaderStart (magic ++ high :: low :: rest)
  | whole (rest : Bytes) : HeaderStart (header ++ rest)

theorem header_of_version {high low : UInt8} (same : high.toNat * 256 + low.toNat = version)
    (rest : Bytes) : magic ++ high :: low :: rest = header ++ rest := by
  have bound := low.toNat_lt
  simp only [version] at same
  have zero : high = 0 := by
    rw [← UInt8.toNat_inj]
    simp
    omega
  have one : low = 1 := by
    rw [← UInt8.toNat_inj]
    simp
    omega
  rw [zero, one]
  rfl

theorem header_start (stream : Bytes) : HeaderStart stream := by
  by_cases few : stream.length < 4
  · exact .short few
  have four : (stream.take 4).length = 4 := by
    rw [List.length_take]
    omega
  rw [← List.take_append_drop 4 stream]
  by_cases worded : stream.take 4 = magic
  · rw [worded]
    rcases stream.drop 4 with _ | ⟨high, _ | ⟨low, rest⟩⟩
    · exact .cutShort (by simp)
    · exact .cutShort (by simp)
    · by_cases same : high.toNat * 256 + low.toNat = version
      · rw [header_of_version same]
        exact .whole rest
      · exact .versioned same
  · exact .other four worded

theorem read_header_short {stream : Bytes} (few : stream.length < 4) :
    readHeader stream = (.error .cut, []) := by
  rw [readHeader, takeExactly, if_pos few]

theorem take_four {start rest : Bytes} (four : start.length = 4) :
    takeExactly 4 (start ++ rest) = some (start, rest) := by
  rw [← four]
  exact take_exactly_append start rest

theorem read_header_other {start rest : Bytes} (four : start.length = 4) (other : start ≠ magic) :
    readHeader (start ++ rest) = (.error (.badHeader start), rest) := by
  rw [readHeader, take_four four]
  exact if_pos other

theorem read_header_cut_short {part : Bytes} (few : part.length < 2) :
    readHeader (magic ++ part) = (.error .cut, []) := by
  rw [readHeader, take_four rfl]
  rcases part with _ | ⟨high, _ | ⟨low, rest⟩⟩
  · rfl
  · rfl
  · simp only [List.length_cons] at few
    omega

theorem read_header_versioned {high low : UInt8} {rest : Bytes}
    (other : high.toNat * 256 + low.toNat ≠ version) :
    readHeader (magic ++ high :: low :: rest) =
      (.error (.unsupportedVersion (high.toNat * 256 + low.toNat)), rest) := by
  rw [readHeader, take_four rfl]
  exact if_pos other

end Headers

section Responses

variable {limit : Nat} {stream left : Bytes} {result : Except WireError (List Row)}

theorem read_response_of_header (rest : Bytes) :
    readResponse limit (header ++ rest) = readFrame Row.decodeAll limit rest := by
  rw [readResponse, read_header_append]

theorem response_of_read :
    Response limit stream (readResponse limit stream).1 (readResponse limit stream).2 := by
  cases header_start stream with
  | short few =>
      rw [readResponse, read_header_short few]
      exact .cutMagic few
  | other four other =>
      rw [readResponse, read_header_other four other]
      exact .badHeader four other
  | cutShort few =>
      rw [readResponse, read_header_cut_short few]
      exact .cutVersion few
  | versioned other =>
      rw [readResponse, read_header_versioned other]
      exact .unsupportedVersion other
  | whole rest =>
      rw [read_response_of_header]
      cases frame_start limit rest with
      | short few =>
          rw [read_frame_short _ _ few]
          exact .cutLength few
      | tooLarge rest stated exceeds =>
          rw [read_frame_too_large _ _ rest stated exceeds]
          exact .tooLarge stated exceeds
      | cutShort stated within few =>
          rw [read_frame_cut_short _ _ stated within few]
          exact .cutBody stated within few
      | whole body rest stated within =>
          rw [read_frame_whole _ _ body rest stated within]
          cases decoded : Row.decodeAll body with
          | none => exact .undecodable stated within (decode_all_eq_none_iff.mp decoded)
          | some rows => exact .rows stated within (decode_all_eq_some_iff.mp decoded)

theorem read_of_response (response : Response limit stream result left) :
    readResponse limit stream = (result, left) := by
  cases response with
  | cutMagic few => rw [readResponse, read_header_short few]
  | badHeader four other => rw [readResponse, read_header_other four other]
  | cutVersion few => rw [readResponse, read_header_cut_short few]
  | unsupportedVersion other => rw [readResponse, read_header_versioned other]
  | cutLength few => rw [read_response_of_header, read_frame_short _ _ few]
  | tooLarge stated exceeds =>
      rw [read_response_of_header, read_frame_too_large _ _ _ stated exceeds]
  | cutBody stated within few =>
      rw [read_response_of_header, read_frame_cut_short _ _ stated within few]
  | rows stated within holds =>
      rw [read_response_of_header, read_frame_whole _ _ _ _ stated within,
        decode_all_eq_some_iff.mpr holds]
  | undecodable stated within other =>
      rw [read_response_of_header, read_frame_whole _ _ _ _ stated within,
        decode_all_eq_none_iff.mpr other]

end Responses

/-- A client that may connect and whose request fits a frame gets what the reader finds in all that
its peer sends. -/
theorem talk_rows {client : Client} {text : String} (timely : client.timeout ≠ 0)
    (short : (encodeString text).length ≤ bodyLimit) (peer : Client.Peer) :
    (client.talk text (some peer)).rows =
      (readResponse client.responseLimit (peer.greeting ++ peer.afterRequest)).1 := by
  obtain ⟨greeting, reply⟩ := peer
  have asks : client.refusesToConnect = none := if_neg timely
  have request := frame_of_short short
  -- A peer that sends no whole header sends nothing more.
  have silent : greeting.length < 6 → greeting ++ (Client.Peer.mk greeting reply).afterRequest =
      greeting := by
    intro few
    have nothing : (Client.Peer.mk greeting reply).afterRequest = [] := if_pos few
    rw [nothing, List.append_nil]
  generalize after : (Client.Peer.mk greeting reply).afterRequest = more at silent ⊢
  simp only [Client.talk, asks, Client.greet, after]
  cases header_start greeting with
  | short few =>
      rw [silent (by omega), readResponse, read_header_short few]
      rfl
  | other four other =>
      rw [List.append_assoc, readResponse, read_header_other four other,
        read_header_other four other]
  | @cutShort part few =>
      have four : magic.length = 4 := rfl
      rw [silent (by rw [List.length_append]; omega), readResponse, read_header_cut_short few]
      rfl
  | @versioned high low rest other =>
      have joined : magic ++ high :: low :: rest ++ more = magic ++ high :: low :: (rest ++ more) :=
        rfl
      rw [joined, readResponse, read_header_versioned other, read_header_versioned other]
  | whole rest =>
      rw [List.append_assoc, read_response_of_header, read_header_append, Client.requestFrame,
        request]
      rfl

/-- Whatever a server sends, reading a header and then a response comes to the one outcome that
these bytes have, and leaves the bytes that this outcome leaves. A client that waits at all, and
asks for something that a frame can carry, gets this outcome of the bytes that its peer sends before
it closes. -/
theorem responses_decided :
    (∀ (limit : Nat) (stream : Bytes) (result : Except WireError (List Row)) (left : Bytes),
      readResponse limit stream = (result, left) ↔ Response limit stream result left) ∧
    ∀ (client : Client) (text : String) (peer : Client.Peer), client.timeout ≠ 0 →
      (encodeString text).length ≤ bodyLimit →
      ∃ left, Response client.responseLimit (peer.greeting ++ peer.afterRequest)
        (client.talk text (some peer)).rows left := by
  constructor
  · intro limit stream result left
    constructor
    · intro read
      have response := @response_of_read limit stream
      rwa [read] at response
    · exact read_of_response
  · intro client text peer timely short
    rw [talk_rows timely short]
    exact ⟨_, response_of_read⟩

/-- A server that announces more than its client takes. -/
def announcer : Client.Peer := ⟨header, encodeLength 5 ++ [0x5B, 0x5D]⟩

theorem announcement_refused :
    readResponse 4 (header ++ (encodeLength 5 ++ [0x5B, 0x5D])) =
        (.error (.frameTooLarge 5 4), [0x5B, 0x5D]) ∧
      (10 : Nat) ≠ 0 ∧ (encodeString "getLogs").length ≤ bodyLimit ∧
      ∃ left, Response 4 (announcer.greeting ++ announcer.afterRequest)
        (Client.talk ⟨⟨.four 127 0 0 1, 5000⟩, 10, 4⟩ "getLogs" (some announcer)).rows left := by
  obtain ⟨decided, talks⟩ := responses_decided
  have short : (encodeString "getLogs").length ≤ bodyLimit := by decide
  refine ⟨(decided _ _ _ _).mpr (.tooLarge (by decide) (by decide)), by decide, short, ?_⟩
  exact talks ⟨⟨.four 127 0 0 1, 5000⟩, 10, 4⟩ "getLogs" announcer (by decide) short

end CallMonitor.Wire
