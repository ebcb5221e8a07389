/-!
# Vocabularies

The closed lists of words that the protocol gives a name to.  A word is written
exactly as listed, upper and lower case told apart.

## Main definitions

* `Vocabulary` — a named list of words.
* `Vocabulary.all` — the vocabularies of the protocol.
* `WordType` — types whose values are the words of a vocabulary.
-/

namespace Ocpp

/-- A named list of words. -/
structure Vocabulary where
  /-- What the list is called. -/
  name : String
  /-- Its words, in the order of the protocol's text. -/
  words : List String
deriving DecidableEq

namespace Vocabulary

/-- Whether a text is a word of the vocabulary. -/
def accepts (v : Vocabulary) (word : String) : Bool := v.words.contains word

/-- A text that is no word of a vocabulary. -/
structure Stranger where
  /-- The vocabulary's name. -/
  vocabulary : String
  /-- The text. -/
  word : String
deriving DecidableEq

/-- What is said of a stranger. -/
def Stranger.message (s : Stranger) : String := s!"'{s.word}' is not a valid {s.vocabulary}"

/-- The word that a text is, or the reason it is none. -/
def read (v : Vocabulary) (word : String) : Except Stranger String :=
  if v.accepts word then .ok word else .error ⟨v.name, word⟩

/-! ### Words of all generations -/

/-- The answer to a boot notification. -/
def registrationStatus : Vocabulary := ⟨"RegistrationStatus", ["Accepted", "Pending", "Rejected"]⟩

/-- The answer to a data transfer. -/
def dataTransferStatus : Vocabulary :=
  ⟨"DataTransferStatus", ["Accepted", "Rejected", "UnknownMessageId", "UnknownVendorId"]⟩

/-- The plain answer of most commands of the second generation. -/
def genericStatus : Vocabulary := ⟨"GenericStatus", ["Accepted", "Rejected"]⟩

/-! ### Words of the first generation -/

/-- How far an upload of diagnostics has come. -/
def diagnosticsStatus : Vocabulary :=
  ⟨"DiagnosticsStatus", ["Idle", "Uploaded", "UploadFailed", "Uploading"]⟩

/-- How far an update of the firmware has come. -/
def firmwareStatus : Vocabulary :=
  ⟨"FirmwareStatus", ["Downloaded", "DownloadFailed", "Downloading", "Idle",
    "InstallationFailed", "Installing", "Installed"]⟩

/-- The faults a charge point reports. -/
def chargePointErrorCode : Vocabulary :=
  ⟨"ChargePointErrorCode", ["ConnectorLockFailure", "EVCommunicationError", "GroundFailure",
    "HighTemperature", "InternalError", "LocalListConflict", "NoError", "OtherError",
    "OverCurrentFailure", "PowerMeterFailure", "PowerSwitchFailure", "ReaderFailure",
    "ResetFailure", "UnderVoltage", "OverVoltage", "WeakSignal"]⟩

/-- The states of a charge point. -/
def chargePointStatus : Vocabulary :=
  ⟨"ChargePointStatus", ["Available", "Preparing", "Charging", "SuspendedEVSE", "SuspendedEV",
    "Finishing", "Reserved", "Unavailable", "Faulted"]⟩

/-- What availability is asked for. -/
def availabilityType : Vocabulary := ⟨"AvailabilityType", ["Inoperative", "Operative"]⟩

/-- The answer to a change of availability. -/
def availabilityStatus : Vocabulary :=
  ⟨"AvailabilityStatus", ["Accepted", "Rejected", "Scheduled"]⟩

/-- How thorough a reset is. -/
def resetType : Vocabulary := ⟨"ResetType", ["Hard", "Soft"]⟩

/-- How much of a local list is sent. -/
def updateType : Vocabulary := ⟨"UpdateType", ["Differential", "Full"]⟩

/-- The messages that can be asked for. -/
def messageTrigger : Vocabulary :=
  ⟨"MessageTrigger", ["BootNotification", "DiagnosticsStatusNotification",
    "FirmwareStatusNotification", "Heartbeat", "MeterValues", "StatusNotification"]⟩

/-- The answer to a new charging profile. -/
def chargingProfileStatus : Vocabulary :=
  ⟨"ChargingProfileStatus", ["Accepted", "Rejected", "NotSupported"]⟩

/-! ### Words of the second generation -/

/-- Why a charging station has booted. -/
def bootReason : Vocabulary :=
  ⟨"BootReason", ["ApplicationReset", "FirmwareUpdate", "LocalReset", "PowerUp", "RemoteReset",
    "ScheduledReset", "Triggered", "Unknown", "Watchdog"]⟩

/-- Whether a station is in operation. -/
def operationalStatus : Vocabulary := ⟨"OperationalStatus", ["Inoperative", "Operative"]⟩

/-- The states of a connector. -/
def connectorStatus : Vocabulary :=
  ⟨"ConnectorStatus", ["Available", "Occupied", "Reserved", "Unavailable", "Faulted"]⟩

/-- The stages of a transaction. -/
def transactionEventType : Vocabulary := ⟨"TransactionEventType", ["Ended", "Started", "Updated"]⟩

/-- When a reset takes place.  The last word is known from 2.1 on. -/
def resetTypeV2 : Vocabulary :=
  ⟨"ResetTypeV2", ["Immediate", "OnIdle", "ImmediateAndResume"]⟩

/-! ### Words of charging profiles -/

/-- What a charging profile is for. -/
def chargingProfilePurpose : Vocabulary :=
  ⟨"ChargingProfilePurpose", ["ChargePointMaxProfile", "TxDefaultProfile", "TxProfile"]⟩

/-- How the times of a charging profile are meant. -/
def chargingProfileKind : Vocabulary :=
  ⟨"ChargingProfileKind", ["Absolute", "Recurring", "Relative"]⟩

/-- How often a recurring profile starts again. -/
def recurrencyKind : Vocabulary := ⟨"RecurrencyKind", ["Daily", "Weekly"]⟩

/-- The unit of charging rates. -/
def chargingRateUnit : Vocabulary := ⟨"ChargingRateUnit", ["A", "W"]⟩

/-- The vocabularies of the protocol. -/
def all : List Vocabulary :=
  [registrationStatus, dataTransferStatus, genericStatus, diagnosticsStatus, firmwareStatus,
    chargePointErrorCode, chargePointStatus, availabilityType, availabilityStatus, resetType,
    updateType, messageTrigger, chargingProfileStatus, bootReason, operationalStatus,
    connectorStatus, transactionEventType, resetTypeV2, chargingProfilePurpose,
    chargingProfileKind, recurrencyKind, chargingRateUnit]

/-- The vocabulary of a given name. -/
def named? (name : String) : Option Vocabulary := all.find? fun v => v.name == name

end Vocabulary

/-- A type whose values are the words of a vocabulary. -/
class WordType (α : Type) where
  /-- The values, in the order of the vocabulary. -/
  values : List α
  /-- The word of a value. -/
  word : α → String

/-- The value of a word. -/
def WordType.ofWord? (α : Type) [WordType α] (word : String) : Option α :=
  (WordType.values : List α).find? fun v => WordType.word v == word

end Ocpp
