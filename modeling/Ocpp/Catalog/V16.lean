import Ocpp.Catalog.Basic

/-!
# The actions of OCPP 1.6

The table of the actions of generation 1.6: for each, the required fields of its
request and of its response.

## Main definitions

* `Catalog.V16.rows` — the table.
-/

namespace Ocpp

namespace Catalog

namespace V16

open Accepted

/-- The actions whose requests the charge point sends. -/
def fromStation : List ActionRow := [
  ⟨"Authorize", [("idTag", string)], [("idTagInfo", object)]⟩,
  ⟨"BootNotification",
    [("chargePointVendor", string), ("chargePointModel", string)],
    [("status", stringOr .registrationStatus), ("currentTime", string), ("interval", integer)]⟩,
  ⟨"DataTransfer", [("vendorId", string)], [("status", stringOr .dataTransferStatus)]⟩,
  ⟨"DiagnosticsStatusNotification", [("status", stringOr .diagnosticsStatus)], []⟩,
  ⟨"FirmwareStatusNotification", [("status", stringOr .firmwareStatus)], []⟩,
  ⟨"Heartbeat", [], [("currentTime", string)]⟩,
  ⟨"MeterValues", [("connectorId", integer), ("meterValue", array)], []⟩,
  ⟨"StartTransaction",
    [("connectorId", integer), ("idTag", string), ("meterStart", integer), ("timestamp", string)],
    [("idTagInfo", object), ("transactionId", integer)]⟩,
  ⟨"StatusNotification",
    [("connectorId", integer), ("errorCode", stringOr .chargePointErrorCode),
      ("status", stringOr .chargePointStatus)],
    []⟩,
  ⟨"StopTransaction",
    [("meterStop", integer), ("timestamp", string), ("transactionId", integer)],
    []⟩]

/-- The actions whose requests the central system sends. -/
def toStation : List ActionRow := [
  ⟨"CancelReservation", [("reservationId", integer)], [("status", string)]⟩,
  ⟨"ChangeAvailability",
    [("connectorId", integer), ("type", stringOr .availabilityType)],
    [("status", stringOr .availabilityStatus)]⟩,
  ⟨"ChangeConfiguration", [("key", string), ("value", string)], [("status", string)]⟩,
  ⟨"ClearCache", [], [("status", string)]⟩,
  ⟨"ClearChargingProfile", [], [("status", string)]⟩,
  ⟨"GetCompositeSchedule",
    [("connectorId", integer), ("duration", integer)],
    [("status", string)]⟩,
  ⟨"GetConfiguration", [], []⟩,
  ⟨"GetDiagnostics", [("location", string)], []⟩,
  ⟨"GetLocalListVersion", [], [("listVersion", integer)]⟩,
  ⟨"RemoteStartTransaction", [("idTag", string)], [("status", string)]⟩,
  ⟨"RemoteStopTransaction", [("transactionId", integer)], [("status", string)]⟩,
  ⟨"ReserveNow",
    [("connectorId", integer), ("expiryDate", string), ("idTag", string),
      ("reservationId", integer)],
    [("status", string)]⟩,
  ⟨"Reset", [("type", stringOr .resetType)], [("status", string)]⟩,
  ⟨"SendLocalList",
    [("listVersion", integer), ("updateType", stringOr .updateType)],
    [("status", string)]⟩,
  ⟨"SetChargingProfile",
    [("connectorId", integer), ("csChargingProfiles", object)],
    [("status", stringOr .chargingProfileStatus)]⟩,
  ⟨"TriggerMessage", [("requestedMessage", stringOr .messageTrigger)], [("status", string)]⟩,
  ⟨"UnlockConnector", [("connectorId", integer)], [("status", string)]⟩,
  ⟨"UpdateFirmware", [("location", string), ("retrieveDate", string)], []⟩]

/-- The table of generation 1.6. -/
def rows : List ActionRow := fromStation ++ toStation

end V16

end Catalog

end Ocpp
