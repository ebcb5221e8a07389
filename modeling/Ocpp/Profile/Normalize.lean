import Ocpp.Json.Reader
import Ocpp.Number.Decimal
import Ocpp.Profile.Basic
import Ocpp.Profile.Fault

/-!
# Normalizing charging profiles

A charging profile is read from a JSON value field by field, and the first field
that does not fit decides the answer.  Whole numbers may be written as numbers or as
texts, rates as decimals of any spelling, and the schedules as one object or as a
list.

## Main definitions

* `ProfileField.required`, `ProfileField.optional` — how a field is read.
* `wholeNumber?`, `rate?`, `timestamp?`, `choice?`, `label?` — how a value is read.
* `ChargingProfile.ofJson` — the profile of a value.
* `normalize` — the profile and its summary.
-/

namespace Ocpp

/-! ### Values -/

/-- The 64-bit integer that a value denotes: as a whole number, as a binary64 number
without fraction, or as a text of digits. -/
def wholeNumber? : Json → Option Int64
  | .number (.integer n _) => Text.int64OfInt? n
  | .number (.float x) => x.toInt?.bind Text.int64OfInt?
  | .string s => Text.int64? s
  | _ => none

/-- The integer that a value denotes, if it is not below a bound. -/
def wholeNumberFrom? (least : Int64) (v : Json) : Option Int64 :=
  (wholeNumber? v).filter fun n => decide (least ≤ n)

/-- The decimal that a value denotes: a number is taken by its text. -/
def decimal? : Json → Option Decimal
  | .number n => Decimal.read? n.chars
  | .string s => Decimal.read? (Text.trimChars s.toList)
  | _ => none

/-- The charging rate that a value denotes: a decimal that is not below zero, as a
binary64 number. -/
def rate? (v : Json) : Option Binary64 :=
  ((decimal? v).filter fun d => !d.isBelowZero).bind Decimal.toBinary64?

/-- The instant that a value denotes. -/
def timestamp? : Json → Option Timestamp
  | .string s => Timestamp.read? s
  | _ => none

/-- The value of a word type whose word a text is, blanks around it aside. -/
def choice? (α : Type) [WordType α] : Json → Option α
  | .string s => WordType.ofWord? α (Text.trim s)
  | _ => none

/-- The text that a value is used as a label by: a string without the blanks around
it, or a number's text. -/
def label? : Json → Option String
  | .string s => some (Text.trim s)
  | .number n => some n.text
  | _ => none

/-! ### Fields -/

/-- Whether a value is a string without anything but blanks. -/
def isVacant : Json → Bool
  | .string s => (Text.trimChars s.toList).isEmpty
  | _ => false

/-- The value of a key, unless it is absent or null. -/
def present? (members : Members) (key : String) : Option Json :=
  (Keyed.find? members key).filter fun v => !v.isNull

/-- The value of a key, unless it is absent, null or a vacant string. -/
def entered? (members : Members) (key : String) : Option Json :=
  (present? members key).filter fun v => !isVacant v

namespace ProfileField

variable {α : Type}

/-- Reads the value of a field, if there is one. -/
def optional (f : ProfileField) (value : Option Json) (read : Json → Option α) :
    Except ProfileFault (Option α) :=
  match value with
  | none => .ok none
  | some v =>
    match read v with
    | some a => .ok (some a)
    | none => .error (.unfit f)

/-- Reads the value of a field that must have one. -/
def required (f : ProfileField) (members : Members) (read : Json → Option α) :
    Except ProfileFault α :=
  match present? members f.key with
  | none => .error (.required f)
  | some v =>
    match read v with
    | some a => .ok a
    | none => .error (.unfit f)

end ProfileField

/-- The members of a value, or the fault of its not being an object. -/
def membersOr (fault : ProfileFault) : Json → Except ProfileFault Members
  | .object members => .ok members
  | _ => .error fault

/-- The values of a list, or a single value by itself. -/
def oneOrMany : Option Json → List Json
  | none => []
  | some (.array items) => items
  | some v => [v]

/-- A list that must not be empty. -/
def nonempty {α : Type} (fault : ProfileFault) : List α → Except ProfileFault (List α)
  | [] => .error fault
  | xs => .ok xs

/-! ### The three levels -/

/-- The period that a value denotes. -/
def ChargingPeriod.ofJson (v : Json) : Except ProfileFault ChargingPeriod := do
  let m ← membersOr .periodNotObject v
  let start ← ProfileField.startPeriod.required m (wholeNumberFrom? 0)
  let limit ← ProfileField.limit.required m rate?
  let numberPhases ← ProfileField.numberPhases.optional (present? m "numberPhases")
    (wholeNumberFrom? 1)
  return ⟨start, limit, numberPhases⟩

/-- The schedule that a value denotes.  Its own fields are read before its periods. -/
def ChargingSchedule.ofJson (v : Json) : Except ProfileFault ChargingSchedule := do
  let m ← membersOr .scheduleNotObject v
  let rateUnit ← ProfileField.chargingRateUnit.required m (choice? RateUnit)
  let values ← nonempty .noPeriod (oneOrMany (present? m "chargingSchedulePeriod"))
  let id ← ProfileField.scheduleId.optional (present? m "id") (wholeNumberFrom? 0)
  let duration ← ProfileField.duration.optional (present? m "duration") (wholeNumberFrom? 0)
  let start ← ProfileField.startSchedule.optional (entered? m "startSchedule") timestamp?
  let minRate ← ProfileField.minChargingRate.optional (present? m "minChargingRate") rate?
  let periods ← values.mapM ChargingPeriod.ofJson
  return ⟨id, rateUnit, periods, duration, start, minRate⟩

/-- The profile that a value denotes.  Its own fields are read before its schedules,
which stand under one of two keys. -/
def ChargingProfile.ofJson (v : Json) : Except ProfileFault ChargingProfile := do
  let m ← membersOr .notObject v
  let id ← ProfileField.chargingProfileId.required m (wholeNumberFrom? 0)
  let stackLevel ← ProfileField.stackLevel.required m (wholeNumberFrom? 0)
  let purpose ← ProfileField.chargingProfilePurpose.required m (choice? ProfilePurpose)
  let kind ← ProfileField.chargingProfileKind.required m (choice? ProfileKind)
  let recurrency ← ProfileField.recurrencyKind.optional (entered? m "recurrencyKind")
    (choice? Recurrency)
  let validFrom ← ProfileField.validFrom.optional (entered? m "validFrom") timestamp?
  let validTo ← ProfileField.validTo.optional (entered? m "validTo") timestamp?
  let transactionId ← ProfileField.transactionId.optional (entered? m "transactionId") label?
  let values ← nonempty .noSchedule
    (oneOrMany ((present? m "chargingSchedules").or (present? m "chargingSchedule")))
  let schedules ← values.mapM ChargingSchedule.ofJson
  return ⟨id, stackLevel, purpose, kind, recurrency, validFrom, validTo, transactionId, schedules⟩

/-- The value to read a profile from: a string holds it as text. -/
def profileValue : Json → Except ProfileFault Json
  | .string text =>
    match Json.read? text with
    | some v => .ok v
    | none => .error .notJson
  | v => .ok v

/-- The profile that a value denotes, as text or as it is, and its summary. -/
def normalize (raw : Json) : Except ProfileFault (ChargingProfile × ProfileSummary) := do
  let v ← profileValue raw
  let profile ← ChargingProfile.ofJson v
  return (profile, profile.summary)

end Ocpp
