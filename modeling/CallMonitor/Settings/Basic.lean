import CallMonitor.Server.Handler

/-!
The settings of a monitor: where and how its server listens, which policy it follows, and how
much it tells about itself. Every setting has a default.
-/

namespace CallMonitor

structure ServerSettings where
  ports : List Nat
  address : Net.Address
  /-- How long a request may take to arrive, in milliseconds; for ever if not set. -/
  readTimeout : Option Nat
  frameLimit : Nat
  deriving DecidableEq, Repr

namespace ServerSettings

def usualPorts : List Nat := [59701, 59702, 59703]

def usual : ServerSettings :=
  ⟨usualPorts, Net.Address.loopback, none, Server.Options.usualFrameLimit⟩

def options (settings : ServerSettings) : Server.Options :=
  ⟨settings.address, settings.readTimeout, settings.frameLimit⟩

end ServerSettings

structure Settings where
  server : ServerSettings
  /-- The policy file, if it is not the usual one. -/
  policyFile : Option String
  level : String
  deriving DecidableEq, Repr

namespace Settings

def usualLevel : String := "info"

def usual : Settings := ⟨ServerSettings.usual, none, usualLevel⟩

inductive Problem
  | unreadable (path : String) (reason : SystemError)
  /-- The text is no document, or a setting in it is of the wrong kind. -/
  | malformed
  /-- A setting is too large for a document. -/
  | unwritable
  | notWritten (path : String) (reason : SystemError)
  | noHome
  | noDirectory (path : String) (reason : SystemError)
  deriving DecidableEq, Repr

namespace Problem

def message : Problem → String
  | unreadable path reason =>
      "Failed to read config file " ++ path ++ ": " ++ reason.message
  | malformed => "Failed to parse TOML config: malformed document"
  | unwritable => "Failed to serialize config: number out of range"
  | notWritten path reason =>
      "Failed to write config file " ++ path ++ ": " ++ reason.message
  | noHome => "Could not determine home directory"
  | noDirectory path reason =>
      "Failed to create directory " ++ path ++ ": " ++ reason.message

def causes : Problem → List String
  | unreadable _ reason | notWritten _ reason | noDirectory _ reason => [reason.message]
  | malformed => ["malformed document"]
  | unwritable => ["number out of range"]
  | noHome => []

end Problem

end Settings

end CallMonitor
