import Oid4vc.Base.Json

/-!
Credential status types: what a status list is for, and the values of its entries.
-/

namespace Oid4vc.StatusTypes

open Oid4vc.JsonValue

inductive StatusPurpose
  | revocation
  | suspension
  deriving DecidableEq

def StatusPurpose.toString : StatusPurpose → String
  | .revocation => "revocation"
  | .suspension => "suspension"

inductive TokenStatus
  | valid
  | invalid
  | suspended
  deriving DecidableEq

def TokenStatus.toByte : TokenStatus → Byte
  | .valid => 0
  | .invalid => 1
  | .suspended => 2

def TokenStatus.fromByte (value : Byte) : Option TokenStatus :=
  if value = 0 then some .valid
  else if value = 1 then some .invalid
  else if value = 2 then some .suspended
  else none

/-- The status entry of a new credential. -/
structure StatusList2021Entry where
  id : String
  entryType : String
  statusPurpose : StatusPurpose
  statusListCredential : String
  statusListIndex : String

/-- The subject of a status list credential. -/
structure StatusList2021Subject where
  id : String
  subjectType : String
  statusPurpose : StatusPurpose
  encodedList : String

structure StatusList2021Credential where
  id : String
  credentialType : List String
  issuer : String
  validFrom : String
  credentialSubject : StatusList2021Subject

/-- A Token Status List as it is published. -/
structure TokenStatusList where
  bits : ℕ
  lst : String

@[simp] lemma fromByte_toByte (t : TokenStatus) : TokenStatus.fromByte t.toByte = some t := by
  cases t <;> decide

end Oid4vc.StatusTypes
