import FormLetter.Recipient.Build

/-!
# Settings

What can be configured: where the service listens, how much it takes and makes, and how it logs.
-/

namespace FormLetter

/-- The form of the log. -/
inductive LogFormat
  | text
  | json
  deriving DecidableEq, Repr

/-- The settings of the server: `ServerConfig`. -/
structure ServerSettings where
  host : Text := "0.0.0.0".toList
  port : Nat := 8081
  /-- The greatest number of bytes of a request's body. -/
  maxBodyBytes : Nat := 10 * 1024 * 1024
  deriving DecidableEq, Repr

/-- The settings of merging: `MergeConfig`. -/
structure MergeSettings where
  unsubscribeBase : Text := Context.defaultUnsubscribeBase
  /-- The greatest number of recipients of a batch. -/
  maxBatchSize : Nat := 10000
  /-- The greatest number of bytes of the subjects and bodies of a batch. -/
  maxOutputBytes : Nat := 64 * 1024 * 1024
  deriving DecidableEq, Repr

/-- The settings of the log: `LogConfig`. -/
structure LogSettings where
  format : LogFormat := .text
  deriving DecidableEq, Repr

/-- All settings. -/
structure Settings where
  server : ServerSettings := {}
  merge : MergeSettings := {}
  log : LogSettings := {}
  deriving DecidableEq, Repr

/-- The address on which the server listens: `server_addr`. -/
def Settings.serverAddress (s : Settings) : Text :=
  s.server.host ++ ':' :: Text.ofNat s.server.port

end FormLetter
