import FormLetter.Text.Basic

/-!
# Failures

What can go wrong in the service, and what a client is told about it. In production mode a client
learns nothing about faults of the configuration or of the service itself.
-/

namespace FormLetter

/-- A fault, with what is known about it: an `AppError`. -/
inductive Failure
  /-- The configuration cannot be used. -/
  | configuration (message : Text)
  /-- A request cannot be served as it is. -/
  | validation (message : Text)
  /-- The service itself has failed. -/
  | internal (message : Text)
  deriving DecidableEq, Repr

namespace Failure

/-- The code by which clients tell faults apart. -/
def code : Failure → Text
  | configuration _ => "CONFIG_ERROR".toList
  | validation _ => "VALIDATION_ERROR".toList
  | internal _ => "INTERNAL_ERROR".toList

/-- The HTTP status of an answer that reports the fault. -/
def status : Failure → Nat
  | validation _ => 400
  | configuration _ => 500
  | internal _ => 500

/-- The fault in words. -/
def message : Failure → Text
  | configuration m => "Configuration error: ".toList ++ m
  | validation m => "Validation error: ".toList ++ m
  | internal m => "Internal error: ".toList ++ m

/-- Whether a run mode is that of production: `is_production`. -/
def isProduction (runMode : Option Text) : Bool :=
  runMode = some "production".toList || runMode = some "prod".toList

/-- What a client is told about the fault. -/
def clientMessage (production : Bool) : Failure → Text
  | validation m => m
  | configuration m =>
    if production then "Configuration error".toList else (configuration m).message
  | internal m => if production then "Internal server error".toList else (internal m).message

end Failure

end FormLetter
