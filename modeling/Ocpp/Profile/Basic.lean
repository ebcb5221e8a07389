import Ocpp.Calendar.Timestamp
import Ocpp.Json.Basic
import Ocpp.Vocabulary

/-!
# Charging profiles

A charging profile whose every field has been checked, its schedules and their
periods, and the JSON they are written as.

## Main definitions

* `ChargingProfile`, `ChargingSchedule`, `ChargingPeriod` — the three levels.
* `ProfileSummary` — the facts about a profile that go into an audit log.
* `ChargingProfile.document` — the profile as JSON, members in the order of fields.
* `ChargingProfile.toJson` — the same with members in key order.
-/

namespace Ocpp

/-- What a charging profile is for. -/
inductive ProfilePurpose where
  | chargePointMaxProfile
  | txDefaultProfile
  | txProfile
deriving DecidableEq

instance : WordType ProfilePurpose where
  values := [.chargePointMaxProfile, .txDefaultProfile, .txProfile]
  word
    | .chargePointMaxProfile => "ChargePointMaxProfile"
    | .txDefaultProfile => "TxDefaultProfile"
    | .txProfile => "TxProfile"

/-- How the times of a charging profile are meant. -/
inductive ProfileKind where
  | absolute
  | recurring
  | relative
deriving DecidableEq

instance : WordType ProfileKind where
  values := [.absolute, .recurring, .relative]
  word
    | .absolute => "Absolute"
    | .recurring => "Recurring"
    | .relative => "Relative"

/-- How often a recurring profile starts again. -/
inductive Recurrency where
  | daily
  | weekly
deriving DecidableEq

instance : WordType Recurrency where
  values := [.daily, .weekly]
  word
    | .daily => "Daily"
    | .weekly => "Weekly"

/-- The unit of charging rates. -/
inductive RateUnit where
  | amperes
  | watts
deriving DecidableEq

instance : WordType RateUnit where
  values := [.amperes, .watts]
  word
    | .amperes => "A"
    | .watts => "W"

/-- A stretch of time with one charging limit. -/
structure ChargingPeriod where
  /-- The start, in seconds from the start of the schedule. -/
  start : Int64
  limit : Binary64
  numberPhases : Option Int64
deriving DecidableEq

/-- A row of periods. -/
structure ChargingSchedule where
  id : Option Int64
  rateUnit : RateUnit
  periods : List ChargingPeriod
  duration : Option Int64
  start : Option Timestamp
  minRate : Option Binary64
deriving DecidableEq

/-- A charging profile. -/
structure ChargingProfile where
  id : Int64
  stackLevel : Int64
  purpose : ProfilePurpose
  kind : ProfileKind
  recurrency : Option Recurrency
  validFrom : Option Timestamp
  validTo : Option Timestamp
  transactionId : Option String
  schedules : List ChargingSchedule
deriving DecidableEq

/-- The facts about a profile that go into an audit log. -/
structure ProfileSummary where
  id : Int64
  stackLevel : Int64
  purpose : ProfilePurpose
  kind : ProfileKind
  recurrency : Option Recurrency
  validFrom : Option Timestamp
  validTo : Option Timestamp
  transactionId : Option String
deriving DecidableEq

/-- The word of a value as JSON. -/
def wordJson {α : Type} [WordType α] (a : α) : Json := .string (WordType.word a)

/-- An instant as JSON. -/
def Timestamp.toJson (t : Timestamp) : Json := .string t.text

/-- A charging rate as JSON. -/
def rateJson (x : Binary64) : Json := .number (.float x)

/-- The period as JSON. -/
def ChargingPeriod.document (p : ChargingPeriod) : Json :=
  .object ([("startPeriod", .ofInt64 p.start), ("limit", rateJson p.limit)] ++
    Json.member? "numberPhases" (p.numberPhases.map .ofInt64))

/-- The schedule as JSON. -/
def ChargingSchedule.document (s : ChargingSchedule) : Json :=
  .object (Json.member? "id" (s.id.map .ofInt64) ++
    [("chargingRateUnit", wordJson s.rateUnit),
      ("chargingSchedulePeriod", .array (s.periods.map ChargingPeriod.document))] ++
    Json.member? "duration" (s.duration.map .ofInt64) ++
    Json.member? "startSchedule" (s.start.map Timestamp.toJson) ++
    Json.member? "minChargingRate" (s.minRate.map rateJson))

namespace ChargingProfile

/-- The schedules as JSON: a single one as it is, several as a list. -/
def schedulesDocument : List ChargingSchedule → Json
  | [s] => s.document
  | many => .array (many.map ChargingSchedule.document)

/-- The profile as JSON, with the members in the order of the fields.  Options that
are not set are left out. -/
def document (p : ChargingProfile) : Json :=
  .object ([("chargingProfileId", .ofInt64 p.id), ("stackLevel", .ofInt64 p.stackLevel),
      ("chargingProfilePurpose", wordJson p.purpose), ("chargingProfileKind", wordJson p.kind)] ++
    Json.member? "recurrencyKind" (p.recurrency.map wordJson) ++
    Json.member? "validFrom" (p.validFrom.map Timestamp.toJson) ++
    Json.member? "validTo" (p.validTo.map Timestamp.toJson) ++
    Json.member? "transactionId" (p.transactionId.map .string) ++
    [("chargingSchedule", schedulesDocument p.schedules)])

/-- The profile as JSON, ready to be sent. -/
def toJson (p : ChargingProfile) : Json := p.document.sorted

/-- The facts about the profile that go into an audit log. -/
def summary (p : ChargingProfile) : ProfileSummary where
  id := p.id
  stackLevel := p.stackLevel
  purpose := p.purpose
  kind := p.kind
  recurrency := p.recurrency
  validFrom := p.validFrom
  validTo := p.validTo
  transactionId := p.transactionId

end ChargingProfile

/-- The summary as JSON, with the members in the order of the fields.  Options that
are not set are null. -/
def ProfileSummary.document (s : ProfileSummary) : Json :=
  .object [("profileId", .ofInt64 s.id), ("stackLevel", .ofInt64 s.stackLevel),
    ("purpose", wordJson s.purpose), ("kind", wordJson s.kind),
    ("recurrency", Json.orNull (s.recurrency.map wordJson)),
    ("validFrom", Json.orNull (s.validFrom.map Timestamp.toJson)),
    ("validTo", Json.orNull (s.validTo.map Timestamp.toJson)),
    ("transactionId", Json.orNull (s.transactionId.map .string))]

end Ocpp
