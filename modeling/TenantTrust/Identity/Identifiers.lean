import Mathlib.Order.Basic
import Mathlib.Order.Lattice
import Mathlib.Data.Nat.Basic
import Mathlib.Data.Int.Order.Basic

/-! Identifiers, times and text patterns shared by the database schemas. -/

namespace TenantTrust.Identity

inductive Domain where
  | tenant | subject | issuer | certificate | serialNumber | digest
  | event | correlation | request
  | action | decision | claimToken | recoveryAuthorization | transition | invalidationToken
  | evidence | evidenceEvent | evidenceSource | evidenceSourceKey
  | stepUpFactor | stepUpChallenge
  deriving DecidableEq, Repr

/-- A value of a text domain with a fixed layout of lower-case hexadecimal digits.
The number stands for those digits, so equality and text order are those of the number. -/
structure Identifier (domain : Domain) where
  value : Nat
  deriving DecidableEq, Repr

instance (domain : Domain) : LinearOrder (Identifier domain) :=
  LinearOrder.lift' Identifier.value (by
    rintro ⟨left⟩ ⟨right⟩ same
    exact congrArg Identifier.mk same)

instance {left right : Domain} : LawfulBEq (Identifier left × Identifier right) := inferInstance

abbrev TenantId := Identifier .tenant
abbrev SubjectId := Identifier .subject
abbrev IssuerId := Identifier .issuer
abbrev CertificateId := Identifier .certificate
abbrev SerialNumber := Identifier .serialNumber
abbrev Sha256Digest := Identifier .digest
abbrev EventId := Identifier .event
abbrev CorrelationId := Identifier .correlation
abbrev RequestId := Identifier .request

inductive IdempotencyKey where
  | requested (value : Nat)
  | certificateExpiry (certificateId : CertificateId)
  deriving DecidableEq, Repr

/-- Milliseconds since the epoch, as a `Date` holds them. A column that is only compared with
other columns is modelled in this unit too. -/
abbrev Timestamp := Int

def seconds (n : Int) : Int := n * 1000

def minutes (n : Int) : Int := seconds (60 * n)

/-- Microseconds since the epoch, as a `timestamptz` holds them. -/
abbrev Instant := Int

/-- `interval 'n seconds'` -/
def interval (n : Int) : Int := n * 1000000

/-- What a `Date` keeps of a `timestamptz`, or of a text that states one. -/
def milliseconds (instant : Instant) : Timestamp := instant / 1000

/-- The `timestamptz` of a `Date`. -/
def instantOf (time : Timestamp) : Instant := time * 1000

/-- The pattern `^[first][rest]{least,most}$`. -/
def matchesPattern (first rest : Char → Bool) (least most : Nat) (text : String) : Bool :=
  match text.toList with
  | [] => false
  | head :: tail => first head && tail.all rest && least ≤ tail.length && tail.length ≤ most

/-- `^[A-Z][A-Z0-9_]{2,63}$` -/
def isReasonCode : String → Bool :=
  matchesPattern Char.isUpper (fun c => c.isUpper || c.isDigit || c = '_') 2 63

/-- `^[a-z0-9][a-z0-9._:-]{2,127}$` -/
def isWorkerId : String → Bool :=
  matchesPattern (fun c => c.isLower || c.isDigit)
    (fun c => c.isLower || c.isDigit || c ∈ ['.', '_', ':', '-']) 2 127

/-- An alphanumeric followed by 2 to 255 alphanumerics or one of `.`, `_`, `:`, `/`, `-`. -/
def isExternalReference : String → Bool :=
  matchesPattern Char.isAlphanum (fun c => c.isAlphanum || c ∈ ['.', '_', ':', '/', '-']) 2 255

end TenantTrust.Identity
