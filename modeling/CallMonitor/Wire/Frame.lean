import CallMonitor.Files
import CallMonitor.Text.Quoted

/-!
The stream between server and controller: a header of a magic word and a version, then frames. A
frame is a length in four bytes, most significant first, and a body of that many bytes.

Readers return the outcome and the bytes they left. A stream that ends early is read to its end.
-/

namespace CallMonitor.Wire

open CallMonitor.Text

inductive WireError
  | io (reason : SystemError)
  | undecodable
  /-- The stream starts with these four bytes and not with the magic word. -/
  | badHeader (start : Bytes)
  | unsupportedVersion (version : Nat)
  | frameTooLarge (length limit : Nat)
  deriving DecidableEq, Repr

namespace WireError

def message : WireError → String
  | io reason => "Socket I/O failed: " ++ reason.message
  | undecodable => "Failed to decode frame: unexpected body"
  | badHeader start =>
      "Bad stream header: " ++ bracketed (start.map fun byte => toString byte.toNat)
  | unsupportedVersion version => "Unsupported protocol version " ++ toString version
  | frameTooLarge length limit =>
      "Frame of " ++ toString length ++ " bytes exceeds limit of " ++ toString limit ++ " bytes"

def causes : WireError → List String
  | io reason => [reason.message]
  | undecodable => ["unexpected body"]
  | badHeader _ | unsupportedVersion _ | frameTooLarge _ _ => []

def cut : WireError := .io .streamEnded

end WireError

def encodeLength (n : Nat) : Bytes :=
  [UInt8.ofNat (n / 16777216), UInt8.ofNat (n / 65536), UInt8.ofNat (n / 256), UInt8.ofNat n]

def decodeLength (a b c d : UInt8) : Nat :=
  ((a.toNat * 256 + b.toNat) * 256 + c.toNat) * 256 + d.toNat

/-- The longest body that a frame's length can state. -/
def bodyLimit : Nat := 4294967295

def frame (body : Bytes) : Except WireError Bytes :=
  if body.length ≤ bodyLimit then .ok (encodeLength body.length ++ body)
  else .error (.frameTooLarge body.length bodyLimit)

/-- The first `count` bytes and the rest, if there are so many. -/
def takeExactly (count : Nat) (bytes : Bytes) : Option (Bytes × Bytes) :=
  if bytes.length < count then none else some (bytes.splitAt count)

/-- Reads one frame and decodes its body. A frame over the limit loses its length only; a body
that does not decode is read all the same. -/
def readFrame {α : Type} (decode : Bytes → Option α) (limit : Nat) (stream : Bytes) :
    Except WireError α × Bytes :=
  match stream with
  | a :: b :: c :: d :: rest =>
      let length := decodeLength a b c d
      if limit < length then (.error (.frameTooLarge length limit), rest)
      else
        match takeExactly length rest with
        | none => (.error .cut, [])
        | some (body, after) =>
            match decode body with
            | none => (.error .undecodable, after)
            | some value => (.ok value, after)
  | _ => (.error .cut, [])

def magic : Bytes := [0x43, 0x57, 0x4D, 0x4E]

def version : Nat := 1

def header : Bytes := magic ++ [UInt8.ofNat (version / 256), UInt8.ofNat version]

theorem header_bytes : header = [0x43, 0x57, 0x4D, 0x4E, 0, 1] := rfl

/-- Reads and checks a stream's header. A version is only read after the magic word. -/
def readHeader (stream : Bytes) : Except WireError Unit × Bytes :=
  match takeExactly 4 stream with
  | none => (.error .cut, [])
  | some (start, rest) =>
      if start ≠ magic then (.error (.badHeader start), rest)
      else
        match rest with
        | high :: low :: rest =>
            let found := high.toNat * 256 + low.toNat
            if found ≠ version then (.error (.unsupportedVersion found), rest) else (.ok (), rest)
        | _ => (.error .cut, [])

end CallMonitor.Wire
