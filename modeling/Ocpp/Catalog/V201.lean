import Ocpp.Catalog.Basic

/-!
# The actions of OCPP 2.0.1

The table of the actions of generation 2.0.1: for each, the required fields of its
request and of its response.

## Main definitions

* `Catalog.V201.rows` — the table.
-/

namespace Ocpp

namespace Catalog

namespace V201

open Accepted

/-- The actions whose requests the charging station sends. -/
def fromStation : List ActionRow := [
  ⟨"Authorize", [("idToken", object)], [("idTokenInfo", object)]⟩,
  ⟨"BootNotification",
    [("chargingStation", object), ("reason", stringOr .bootReason)],
    [("currentTime", string), ("interval", integer), ("status", stringOr .registrationStatus)]⟩,
  ⟨"ClearedChargingLimit", [("chargingLimitSource", string)], []⟩,
  ⟨"DataTransfer", [("vendorId", string)], [("status", stringOr .dataTransferStatus)]⟩,
  ⟨"FirmwareStatusNotification", [("status", string)], []⟩,
  ⟨"Get15118EVCertificate",
    [("iso15118SchemaVersion", string), ("action", string), ("exiRequest", string)],
    [("status", stringOr .genericStatus), ("exiResponse", string)]⟩,
  ⟨"Heartbeat", [], [("currentTime", string)]⟩,
  ⟨"LogStatusNotification", [("status", string)], []⟩,
  ⟨"MeterValues", [("evseId", integer), ("meterValue", array)], []⟩,
  ⟨"NotifyChargingLimit", [("chargingLimit", object)], []⟩,
  ⟨"NotifyEvent", [("generatedAt", string), ("seqNo", integer), ("eventData", array)], []⟩,
  ⟨"NotifyMonitoringReport",
    [("requestId", integer), ("seqNo", integer), ("generatedAt", string)],
    []⟩,
  ⟨"NotifyReport", [("requestId", integer), ("generatedAt", string), ("seqNo", integer)], []⟩,
  ⟨"ReportChargingProfiles",
    [("requestId", integer), ("chargingLimitSource", string), ("chargingProfile", array),
      ("evseId", integer)],
    []⟩,
  ⟨"SecurityEventNotification", [("type", string), ("timestamp", string)], []⟩,
  ⟨"SignCertificate", [("csr", string)], [("status", stringOr .genericStatus)]⟩,
  ⟨"StatusNotification",
    [("timestamp", string), ("connectorStatus", stringOr .connectorStatus),
      ("evseId", integer), ("connectorId", integer)],
    []⟩,
  ⟨"TransactionEvent",
    [("eventType", stringOr .transactionEventType), ("timestamp", string),
      ("triggerReason", string), ("seqNo", integer), ("transactionInfo", object)],
    []⟩]

/-- The actions whose requests the management system sends. -/
def toStation : List ActionRow := [
  ⟨"CancelReservation", [("reservationId", integer)], [("status", stringOr .genericStatus)]⟩,
  ⟨"ChangeAvailability",
    [("operationalStatus", stringOr .operationalStatus)],
    [("status", string)]⟩,
  ⟨"ClearCache", [], [("status", stringOr .genericStatus)]⟩,
  ⟨"ClearChargingProfile", [], [("status", string)]⟩,
  ⟨"ClearDisplayMessage", [("id", integer)], [("status", string)]⟩,
  ⟨"ClearVariableMonitoring", [("id", array)], [("clearMonitoringResult", array)]⟩,
  ⟨"CostUpdated", [("totalCost", number), ("transactionId", string)], []⟩,
  ⟨"GetBaseReport", [("requestId", integer), ("reportBase", string)], [("status", string)]⟩,
  ⟨"GetChargingProfiles",
    [("requestId", integer), ("chargingProfile", object)],
    [("status", string)]⟩,
  ⟨"GetCompositeSchedule",
    [("duration", integer), ("evseId", integer)],
    [("status", stringOr .genericStatus)]⟩,
  ⟨"GetLocalListVersion", [], [("versionNumber", integer)]⟩,
  ⟨"GetLog", [("log", object), ("logType", string), ("requestId", integer)], [("status", string)]⟩,
  ⟨"GetTransactionStatus", [], [("messagesInQueue", boolean)]⟩,
  ⟨"GetVariables", [("getVariableData", array)], [("getVariableResult", array)]⟩,
  ⟨"RequestStartTransaction",
    [("idToken", object), ("remoteStartId", integer)],
    [("status", stringOr .genericStatus)]⟩,
  ⟨"RequestStopTransaction", [("transactionId", string)], [("status", stringOr .genericStatus)]⟩,
  ⟨"ReserveNow",
    [("id", integer), ("expiryDateTime", string), ("idToken", object)],
    [("status", string)]⟩,
  ⟨"Reset", [("type", stringOr .resetTypeV2)], [("status", string)]⟩,
  ⟨"SendLocalList", [("versionNumber", integer), ("updateType", string)], [("status", string)]⟩,
  ⟨"SetChargingProfile",
    [("evseId", integer), ("chargingProfile", object)],
    [("status", stringOr .genericStatus)]⟩,
  ⟨"SetVariableMonitoring", [("setMonitoringData", array)], [("setMonitoringResult", array)]⟩,
  ⟨"SetVariables", [("setVariableData", array)], [("setVariableResult", array)]⟩,
  ⟨"TriggerMessage", [("requestedMessage", string)], [("status", string)]⟩,
  ⟨"UnlockConnector", [("evseId", integer), ("connectorId", integer)], [("status", string)]⟩,
  ⟨"UpdateFirmware", [("requestId", integer), ("firmware", object)], [("status", string)]⟩]

/-- The table of generation 2.0.1. -/
def rows : List ActionRow := fromStation ++ toStation

end V201

end Catalog

end Ocpp
