import Stencil.Invalid

/-!
# Reasons why settings cannot be stored or loaded

Causes as the store finds them, and as it reports them to those who only know
that settings are stored somewhere.
-/

namespace Stencil

/-- Why settings could not be loaded or saved. -/
inductive StoreError
  /-- The file could not be read or written. -/
  | inaccessible
  /-- The file does not hold settings in JSON. -/
  | malformed
  /-- The settings are inconsistent. -/
  | invalid (cause : Invalid)
  /-- There is no place to store settings at. -/
  | noPlace
  deriving DecidableEq, Repr

/-- What those who use the store are told. -/
inductive ReportedError
  | domain (cause : Invalid)
  | storage (detail : Text)
  deriving DecidableEq, Repr

/-- The wording of a cause. -/
def StoreError.message : StoreError → Text
  | .inaccessible => "IO error".toList
  | .malformed => "Serialization error: JSON deserialization failed".toList
  | .invalid cause => "Invalid settings: ".toList ++ cause.message
  | .noPlace => "Could not determine config directory".toList

/-- Inconsistent settings are reported as such, all else by its wording. -/
def StoreError.report : StoreError → ReportedError
  | .invalid cause => .domain cause
  | cause => .storage cause.message

/-- The wording of what they are told. -/
def ReportedError.message : ReportedError → Text
  | .domain cause => "domain error: ".toList ++ cause.message
  | .storage detail => "storage error: ".toList ++ detail

end Stencil
