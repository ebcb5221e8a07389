/-!
# Faults of charging profiles

Why a charging profile is turned down.  Every fault belongs to one field and has
one sentence of feedback.

## Main definitions

* `ProfileField` — the fields a profile is read from.
* `ProfileFault` — the causes; `ProfileFault.field` and `ProfileFault.message` give
  the field and the sentence.
-/

namespace Ocpp

/-- The scalar fields of a charging profile, its schedules and its periods. -/
inductive ProfileField where
  | chargingProfileId
  | stackLevel
  | chargingProfilePurpose
  | chargingProfileKind
  | recurrencyKind
  | validFrom
  | validTo
  | transactionId
  | chargingRateUnit
  | scheduleId
  | duration
  | startSchedule
  | minChargingRate
  | startPeriod
  | limit
  | numberPhases
deriving DecidableEq

namespace ProfileField

/-- The key of the field. -/
def key : ProfileField → String
  | .chargingProfileId => "chargingProfileId"
  | .stackLevel => "stackLevel"
  | .chargingProfilePurpose => "chargingProfilePurpose"
  | .chargingProfileKind => "chargingProfileKind"
  | .recurrencyKind => "recurrencyKind"
  | .validFrom => "validFrom"
  | .validTo => "validTo"
  | .transactionId => "transactionId"
  | .chargingRateUnit => "chargingRateUnit"
  | .scheduleId => "id"
  | .duration => "duration"
  | .startSchedule => "startSchedule"
  | .minChargingRate => "minChargingRate"
  | .startPeriod => "startPeriod"
  | .limit => "limit"
  | .numberPhases => "numberPhases"

/-- What is said of a value that the field cannot take. -/
def complaint : ProfileField → String
  | .chargingProfileId => "Charging profile id must be a non-negative integer."
  | .stackLevel => "Stack level must be a non-negative integer."
  | .chargingProfilePurpose =>
    "Charging profile purpose must be one of ChargePointMaxProfile, TxDefaultProfile, TxProfile."
  | .chargingProfileKind =>
    "Charging profile kind must be one of Absolute, Recurring, Relative."
  | .recurrencyKind => "Recurrency kind must be 'Daily' or 'Weekly'."
  | .validFrom | .validTo | .startSchedule => "Enter a valid ISO 8601 datetime."
  | .transactionId => "Transaction id must be a string or a number."
  | .chargingRateUnit => "Charging rate unit must be 'A' or 'W'."
  | .scheduleId => "Schedule id must be a non-negative integer."
  | .duration => "Duration must be a non-negative integer."
  | .minChargingRate => "Minimum charging rate must be a non-negative decimal."
  | .startPeriod => "Start period must be a non-negative integer."
  | .limit => "Limit must be a non-negative decimal."
  | .numberPhases => "Number of phases must be an integer of at least 1."

end ProfileField

/-- Why a charging profile is turned down. -/
inductive ProfileFault where
  /-- The text is not JSON. -/
  | notJson
  /-- The profile is not an object. -/
  | notObject
  /-- A required field is absent or null. -/
  | required (field : ProfileField)
  /-- The value of a field is none that the field can take. -/
  | unfit (field : ProfileField)
  /-- There is no schedule. -/
  | noSchedule
  /-- A schedule is not an object. -/
  | scheduleNotObject
  /-- A schedule has no period. -/
  | noPeriod
  /-- A period is not an object. -/
  | periodNotObject
deriving DecidableEq

namespace ProfileFault

/-- The name of the field a fault belongs to. -/
def field : ProfileFault → String
  | .notJson | .notObject => "csChargingProfiles"
  | .required f | .unfit f => f.key
  | .noSchedule | .scheduleNotObject => "chargingSchedule"
  | .noPeriod | .periodNotObject => "chargingSchedulePeriod"

/-- The sentence of feedback for a fault. -/
def message : ProfileFault → String
  | .notJson => "Charging profile must be valid JSON."
  | .notObject => "Charging profile must be a JSON object."
  | .required _ => "This field is required."
  | .unfit f => f.complaint
  | .noSchedule => "Provide at least one charging schedule."
  | .scheduleNotObject => "Each charging schedule must be an object."
  | .noPeriod => "Provide at least one charging schedule period."
  | .periodNotObject => "Each charging schedule period must be an object."

end ProfileFault

end Ocpp
