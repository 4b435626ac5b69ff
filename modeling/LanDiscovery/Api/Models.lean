import LanDiscovery.Api.PyText

/-!
# The request model and the identifiers

`models.py` as far as the ingest path reads it, the device status, and the
identifiers that `uuid4` makes.
-/

namespace LanDiscovery
namespace Api

/-- `DiscoveryRecordIn`. -/
structure DiscoveryRecordIn where
  ownerName : Str
  type : Int
  typeName : Option Str := none
  rdataText : Str
  ttl : Int := 0
  lastSeenMs : Int := 0
  service : Option Str := none
  host : Option Str := none
  deriving DecidableEq

/-- `DiscoveryEventIn`. -/
structure DiscoveryEventIn where
  timestampMs : Int
  srcIp : Str
  records : List DiscoveryRecordIn := []
  mac : Option Str := none
  deriving DecidableEq

/-- A text as long as `str(uuid.uuid4())`. -/
structure Uuid where
  text : Str
  length_eq : text.length = 36
  deriving DecidableEq

/-- The identifier with the given text, if it has the length of one. -/
def Uuid.ofText? (text : Str) : Option Uuid :=
  if h : text.length = 36 then some ⟨text, h⟩ else none

theorem Uuid.ext_text {a b : Uuid} (h : a.text = b.text) : a = b := by
  cases a
  cases b
  simpa using h

/-- The values of the column `status` (`'UNKNOWN'`, `'APPROVED'`). -/
inductive DeviceStatus where
  | unknown
  | approved
  deriving DecidableEq, Repr

end Api
end LanDiscovery
