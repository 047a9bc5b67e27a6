import CallMonitor.Wire.Body
import CallMonitor.Wire.Frame

/-!
Messages: everything that a frame can carry, as one type. A reader has to know beforehand which
kind of message comes next; the bytes do not say.
-/

namespace CallMonitor.Wire

open CallMonitor.Json CallMonitor.Text

inductive Message
  | text (text : String)
  | row (row : Row)
  | rows (rows : List Row)
  | entry (entry : Log.Entry)
  | verdict (verdict : Policy.Verdict)
  deriving DecidableEq, Repr

inductive Message.Kind
  | text
  | row
  | rows
  | entry
  | verdict
  deriving DecidableEq, Repr

namespace Message

def kind : Message → Kind
  | text _ => .text
  | row _ => .row
  | rows _ => .rows
  | entry _ => .entry
  | verdict _ => .verdict

def encode : Message → Bytes
  | text given => encodeString given
  | row given => given.encode
  | rows given => Row.encodeAll given
  | entry given => encodeEntry given
  | verdict given => encodeVerdict given

def decode (kind : Kind) (body : Bytes) : Option Message :=
  match kind with
  | .text => (decodeText body).map text
  | .row => (Row.decode body).map row
  | .rows => (Row.decodeAll body).map rows
  | .entry => (decodeEntry body).map entry
  | .verdict => (decodeVerdict body).map verdict

def write (message : Message) : Except WireError Bytes := frame message.encode

def read (kind : Kind) (limit : Nat) (stream : Bytes) : Except WireError Message × Bytes :=
  readFrame (decode kind) limit stream

end Message

end CallMonitor.Wire
