import Oid4vc.Base.PartialMap
import Oid4vc.Crypto.Cose
import Oid4vc.Crypto.X509

/-!
ISO/IEC 18013-5 mdoc: issuance, presentation over OpenID4VP, and verification.
-/

namespace Oid4vc.Mdoc

open Oid4vc.JsonValue Oid4vc.Text Oid4vc.Instant Oid4vc.Fallible Oid4vc.PartialMap
open Oid4vc.CborValue Oid4vc.Jwks Oid4vc.External Oid4vc.Keys Oid4vc.Cose Oid4vc.X509

/-- Document type of an ISO/IEC 18013-5 mobile driving licence. -/
def mdlDoctype : String := "org.iso.18013.5.1.mDL"

def mdlNamespace : String := "org.iso.18013.5.1"

/-- CBOR tag for an encoded CBOR data item. -/
def tagEncodedCbor : BitVec 64 := 24

/-- CBOR tag for a date/time string. -/
def tagTdate : BitVec 64 := 0

/-- CBOR tag for a full-date string. -/
def tagFullDate : BitVec 64 := 1004

inductive MdocError
  | cbor (msg : String)
  | malformed (msg : String)
  | untrusted (msg : String)
  | issuerSignature (msg : String)
  | digestMismatch (msg : String)
  | validity (msg : String)
  | deviceAuthentication (msg : String)
  | unsupported (msg : String)
  | cose (e : CoseError)
  deriving DecidableEq

def MdocError.toString : MdocError → String
  | .cbor msg => "CBOR error: " ++ msg
  | .malformed msg => "malformed mdoc: " ++ msg
  | .untrusted msg => "issuer is not trusted: " ++ msg
  | .issuerSignature msg => "issuer signature is invalid: " ++ msg
  | .digestMismatch msg => "data element does not match the MSO: " ++ msg
  | .validity msg => "mdoc is not valid now: " ++ msg
  | .deviceAuthentication msg => "device authentication failed: " ++ msg
  | .unsupported msg => "unsupported: " ++ msg
  | .cose e => e.toString

variable (X : Crates)

/-! ### CBOR helpers -/

def encode (value : Cbor) : Except MdocError Bytes := (X.cborEncode value).mapError .cbor

def decode (bytes : Bytes) : Except MdocError Cbor := (X.cborDecode bytes).mapError .cbor

/-- A data item carried as its own encoding. -/
def embed (value : Cbor) : Except MdocError Cbor := do
  let bytes ← encode X value
  pure (.tag tagEncodedCbor (.bytes bytes))

/-- Unwrap a data item carried as its own encoding. -/
def unembed : Cbor → Except MdocError Cbor
  | .tag t inner =>
    if t = tagEncodedCbor then
      match inner with
      | .bytes bytes => decode X bytes
      | _ => .error (.malformed "tag 24 must wrap a byte string")
    else .error (.malformed "expected an embedded CBOR item (tag 24)")
  | _ => .error (.malformed "expected an embedded CBOR item (tag 24)")

def get (map : Cbor) (key : String) : Option Cbor :=
  map.asMap.bind fun entries => (entries.find? fun e => e.1.asText == some key).map Prod.snd

def require (map : Cbor) (key context : String) : Except MdocError Cbor :=
  okOr (.malformed (context ++ " is missing '" ++ key ++ "'")) (get map key)

def requireText (map : Cbor) (key context : String) : Except MdocError String := do
  let value ← require map key context
  okOr (.malformed (context ++ " '" ++ key ++ "' is not text")) value.asText

/-- A date and time of whole seconds. -/
def tdate (instant : ℤ) : Cbor := .tag tagTdate (.text (X.rfc3339Seconds instant))

/-- A date without a time. -/
def fullDate (date : ℤ) : Cbor := .tag tagFullDate (.text (X.formatDate date))

def parseTdate (value : Cbor) (field : String) : Except MdocError ℤ :=
  match value with
  | .tag t inner =>
    if t = tagTdate then
      okOr (.malformed (field ++ " is not an RFC 3339 date-time"))
        (inner.asText.bind X.parseRfc3339)
    else .error (.malformed (field ++ " is not a tdate"))
  | _ => .error (.malformed (field ++ " is not a tdate"))

/-- An integer as JSON has it: a number of 64 bits, or its digits. -/
def integerToJson (i : CborInt) : Json :=
  if 0 ≤ i.val then .num (.posInt (BitVec.ofInt 64 i.val))
  else if -2 ^ 63 ≤ i.val then .num (.negInt (BitVec.ofInt 64 i.val))
  else .str (toString i.val)

/-- A finite number, or nothing. -/
def floatToJson (f : F64) : Json :=
  if f.bits.extractLsb' 52 11 = 0x7FF then .null else .num (.float f)

/-- Put a member in its place among sorted ones, over one of the same name. -/
def insertMember (members : List (String × Json)) (m : String × Json) : List (String × Json) :=
  members.filter (·.1 < m.1) ++ [m] ++ members.filter (m.1 < ·.1)

/-- A value as it is printed. -/
def jsonText (v : Json) : String := (decodeUtf8 (X.jsonToVec v)).getD ""

mutual

/-- Render a CBOR data element as JSON, for a relying party's application. -/
def cborToJson : Cbor → Json
  | .text s => .str s
  | .bool b => .bool b
  | .null => .null
  | .integer i => integerToJson i
  | .float f => floatToJson f
  | .bytes b => .str (X.base64UrlEncode b)
  | .array items => .arr (itemsToJson items)
  | .map entries => .obj (entriesToJson [] entries)
  | .tag _ inner => cborToJson inner

def itemsToJson : List Cbor → List Json
  | [] => []
  | v :: vs => cborToJson v :: itemsToJson vs

/-- The members that entries add to these. -/
def entriesToJson (members : List (String × Json)) : List (Cbor × Cbor) → List (String × Json)
  | [] => members
  | (k, v) :: es =>
    let key := match k with
      | .text s => s
      | other => jsonText X (cborToJson other)
    entriesToJson (insertMember members (key, cborToJson v)) es

end

/-! ### Issuance -/

/-- A credential's entry in an MSO revocation list. -/
structure StatusListRef where
  idx : BitVec 64
  uri : String
  deriving DecidableEq

/-- What to put in an mdoc. -/
structure IssueRequest where
  docType : String
  /-- Data elements by namespace. -/
  namespaces : List (String × List (String × Cbor))
  deviceKey : Jwk
  signed : ℤ
  validFrom : ℤ
  validUntil : ℤ
  status : Option StatusListRef
  /-- The document signer's certificate chain, leaf first. -/
  x5chain : List Bytes
  sorted : (namespaces.map Prod.fst).Pairwise (· < ·)

/-- The random numbers to come: the digest ids, and the salts of the items. -/
structure Draws where
  ids : List (BitVec 32)
  salts : ℕ → Bytes

/-- Why there is no mdoc: an error, or a digest id that is still being drawn. -/
inductive Stop
  | err (e : MdocError)
  | drawing
  deriving DecidableEq

def drawDigestId (used : List (BitVec 32)) :
    List (BitVec 32) → Except Stop (BitVec 32 × List (BitVec 32))
  | [] => .error .drawing
  | id :: ids => if id ∈ used then drawDigestId used ids else .ok (id, ids)

def digestIdValue (id : BitVec 32) : Cbor := .integer (ofU64 (id.setWidth 64))

/-- An `IssuerSignedItem`. -/
def itemValue (id : BitVec 32) (random : Bytes) (identifier : String) (value : Cbor) : Cbor :=
  .map [(.text "digestID", digestIdValue id), (.text "random", .bytes random),
    (.text "elementIdentifier", .text identifier), (.text "elementValue", value)]

/-- An element as it is issued, and its digest over the tag and all. -/
def issueItem (id : BitVec 32) (random : Bytes) (identifier : String) (value : Cbor) :
    Except MdocError (Cbor × Cbor × Cbor) := do
  let item ← embed X (itemValue id random identifier value)
  let bytes ← encode X item
  pure (item, digestIdValue id, .bytes (X.sha256 bytes))

/-- The items and the digests of a namespace. -/
def issueItems (used : List (BitVec 32)) :
    List (String × Cbor) → Draws → Except Stop (List Cbor × List (Cbor × Cbor) × Draws)
  | [], draws => .ok ([], [], draws)
  | (identifier, value) :: elements, draws => do
    let (id, ids) ← drawDigestId used draws.ids
    let (item, digest) ← (issueItem X id (draws.salts 0) identifier value).mapError .err
    let (items, digests, draws) ← issueItems (id :: used) elements ⟨ids, fun i => draws.salts (i + 1)⟩
    pure (item :: items, digest :: digests, draws)

/-- The entries of `nameSpaces` and of `valueDigests`. -/
def issueNamespaces : List (String × List (String × Cbor)) → Draws →
    Except Stop (List (Cbor × Cbor) × List (Cbor × Cbor))
  | [], _ => .ok ([], [])
  | (ns, elements) :: namespaces, draws => do
    let (items, digests, draws) ← issueItems X [] elements draws
    let (nameSpaces, valueDigests) ← issueNamespaces namespaces draws
    pure ((.text ns, .array items) :: nameSpaces, (.text ns, .map digests) :: valueDigests)

/-- An instant cut to whole seconds. -/
def wholeSeconds (instant : ℤ) : ℤ := seconds (timestamp instant)

/-- The status reference of an MSO. -/
def statusValue (status : StatusListRef) : Cbor :=
  .map [(.text "status_list",
    .map [(.text "idx", .integer (ofU64 status.idx)), (.text "uri", .text status.uri)])]

/-- The Mobile Security Object. -/
def buildMso (docType : String) (valueDigests : List (Cbor × Cbor)) (deviceKey : Cbor)
    (signed validFrom validUntil : ℤ) (status : Option StatusListRef) : Cbor :=
  .map ([(.text "version", .text "1.0"), (.text "digestAlgorithm", .text "SHA-256"),
    (.text "valueDigests", .map valueDigests),
    (.text "deviceKeyInfo", .map [(.text "deviceKey", deviceKey)]),
    (.text "docType", .text docType),
    (.text "validityInfo", .map [(.text "signed", tdate X signed),
      (.text "validFrom", tdate X validFrom), (.text "validUntil", tdate X validUntil)])] ++
    (status.map fun s => (Cbor.text "status", statusValue s)).toList)

/-- Sign an MSO, and put it together with the elements. -/
def sealMdoc (signer : KeyPair) (mso : Cbor) (nameSpaces : List (Cbor × Cbor))
    (x5chain : List Bytes) : Except MdocError Bytes := do
  let payload ← encode X (← embed X mso)
  let issuerAuth ← (sign X signer payload [] [(headerX5chain, x5chainValue x5chain)]).mapError .cose
  let issuerAuth ← (toValue X issuerAuth).mapError .cose
  encode X (.map [(.text "nameSpaces", .map nameSpaces), (.text "issuerAuth", issuerAuth)])

/-- Issue an mdoc: the encoded `IssuerSigned` structure. -/
def issue (request : IssueRequest) (signer : KeyPair) (draws : Draws) : Except Stop Bytes := do
  let signed := wholeSeconds request.signed
  let validFrom := max (wholeSeconds request.validFrom) signed
  let validUntil := wholeSeconds request.validUntil
  ensure (validFrom < validUntil) (.err (.validity "validUntil must be after validFrom"))
  let (nameSpaces, valueDigests) ← issueNamespaces X request.namespaces draws
  let deviceKey ← (coseKey X request.deviceKey).mapError fun e => .err (.cose e)
  let mso := buildMso X request.docType valueDigests deviceKey signed validFrom validUntil
    request.status
  (sealMdoc X signer mso nameSpaces request.x5chain).mapError .err

/-! ### Verification of `IssuerSigned` -/

/-- An mdoc whose issuer signature, certificate chain, digests and validity have all been
checked. -/
structure VerifiedMdoc where
  docType : String
  /-- The revealed data elements: namespace, element, value. -/
  claims : PMap String (PMap String Json)
  deviceKey : Jwk
  signed : ℤ
  validFrom : ℤ
  validUntil : ℤ
  status : Option StatusListRef
  /-- The document signer certificate. -/
  signerCertificate : Bytes

/-- A revealed element's value. -/
def VerifiedMdoc.claim (v : VerifiedMdoc) (ns element : String) : Option Json :=
  (v.claims.get ns).bind fun elements => elements.get element

/-- The document signer's certificate chain, from the unprotected header or the protected one. -/
def issuerX5chain (issuerAuth : CoseSign1) : Except MdocError (List Bytes) := do
  let chain ← (x5chain issuerAuth.unprotectedHeader).mapError .cose
  let chain ← if chain = [] then (x5chain issuerAuth.protectedHeader.header).mapError .cose
    else pure chain
  ensure (chain ≠ []) (.untrusted "issuerAuth has no x5chain")
  pure chain

/-- The digest that the issuer signed under an id. -/
def signedDigest (digests : Cbor) (digestId : CborInt) : Option Bytes :=
  digests.asMap.bind fun entries =>
    ((entries.find? fun e => e.1.asInteger == some digestId).map Prod.snd).bind Cbor.asBytes

/-- Check the items of a namespace against its digests, and add them to its elements. -/
def verifyItems (ns : String) (digests : Cbor) :
    List Cbor → PMap String Json → Except MdocError (PMap String Json)
  | [], elements => .ok elements
  | itemBytes :: items, elements => do
    let item ← unembed X itemBytes
    let identifier ← requireText item "elementIdentifier" "IssuerSignedItem"
    let digestId ← okOr (.malformed "digestID is not an integer")
      (← require item "digestID" "IssuerSignedItem").asInteger
    let bytes ← encode X itemBytes
    ensure (signedDigest digests digestId = some (X.sha256 bytes))
      (.digestMismatch (ns ++ "/" ++ identifier))
    let value ← require item "elementValue" "IssuerSignedItem"
    ensure (elements.get identifier).isNone
      (.malformed (ns ++ "/" ++ identifier ++ " appears twice"))
    verifyItems ns digests items (elements.insert identifier (cborToJson X value))

/-- Check the entries of `nameSpaces`, and add their elements to the claims. -/
def verifyNameSpaces (valueDigests : Cbor) :
    List (Cbor × Cbor) → PMap String (PMap String Json) →
      Except MdocError (PMap String (PMap String Json))
  | [], claims => .ok claims
  | (ns, items) :: nameSpaces, claims => do
    let ns ← okOr (.malformed "namespace is not text") ns.asText
    let digests ← okOr (.digestMismatch ("the MSO has no digests for " ++ ns))
      (get valueDigests ns)
    let items ← okOr (.malformed (ns ++ " is not an array")) items.asArray
    let elements ← verifyItems X ns digests items ((claims.get ns).getD empty)
    verifyNameSpaces valueDigests nameSpaces (claims.insert ns elements)

/-- The claims that the elements of an `IssuerSigned` make up, all checked against the MSO. -/
def verifyElements (issuerSigned valueDigests : Cbor) :
    Except MdocError (PMap String (PMap String Json)) :=
  match get issuerSigned "nameSpaces" with
  | none => .ok empty
  | some nameSpaces => do
    let nameSpaces ← okOr (.malformed "nameSpaces is not a map") nameSpaces.asMap
    verifyNameSpaces X valueDigests nameSpaces empty

/-- The status reference of an MSO. -/
def parseStatus (mso : Cbor) : Except MdocError (Option StatusListRef) :=
  match (get mso "status").bind fun s => get s "status_list" with
  | none => .ok none
  | some statusList => do
    let idx ← okOr (.malformed "status_list idx is not an index")
      ((← require statusList "idx" "status_list").asInteger.bind fun i =>
        if 0 ≤ i.val then some (BitVec.ofInt 64 i.val) else none)
    let uri ← requireText statusList "uri" "status_list"
    pure (some ⟨idx, uri⟩)

/-- The MSO that a signed `issuerAuth` carries, of a version and a digest algorithm that are
supported. -/
def readMso (issuerAuth : CoseSign1) : Except MdocError Cbor := do
  let payload ← okOr (.malformed "issuerAuth has no payload") issuerAuth.payload
  let mso ← unembed X (← decode X payload)
  ensure ((← requireText mso "version" "MSO") = "1.0") (.unsupported "MSO version other than 1.0")
  ensure ((← requireText mso "digestAlgorithm" "MSO") = "SHA-256")
    (.unsupported "digest algorithm other than SHA-256")
  pure mso

/-- The document type of an MSO, which must be the expected one if there is one. -/
def readDocType (mso : Cbor) (expectedDocType : Option String) : Except MdocError String := do
  let docType ← requireText mso "docType" "MSO"
  match expectedDocType with
  | some expected =>
    ensure (docType = expected) (.malformed ("document claims docType '" ++ expected ++
      "' but the MSO says '" ++ docType ++ "'"))
  | none => pure ()
  pure docType

/-- The dates of an MSO: when it was signed, and when it is valid, which must be now. -/
def readValidity (mso : Cbor) (now : ℤ) : Except MdocError (ℤ × ℤ × ℤ) := do
  let validity ← require mso "validityInfo" "MSO"
  let signed ← parseTdate X (← require validity "signed" "validityInfo") "signed"
  let validFrom ← parseTdate X (← require validity "validFrom" "validityInfo") "validFrom"
  let validUntil ← parseTdate X (← require validity "validUntil" "validityInfo") "validUntil"
  ensure (validFrom ≤ now ∧ now ≤ validUntil) (.validity ("valid from " ++
    X.displayInstant validFrom ++ " until " ++ X.displayInstant validUntil))
  pure (signed, validFrom, validUntil)

def verifyIssuerSignedValue (issuerSigned : Cbor) (expectedDocType : Option String)
    (trustAnchors : List Bytes) (now : ℤ) : Except MdocError VerifiedMdoc := do
  -- the MSO signature, under a certificate chaining to a trust anchor
  let issuerAuth ← (fromValue X (← require issuerSigned "issuerAuth" "IssuerSigned")).mapError .cose
  let chain ← issuerX5chain issuerAuth
  let signerKey ← (validateChain X chain trustAnchors now).mapError fun e => .untrusted e.toString
  (verify X issuerAuth signerKey).mapError fun e => .issuerSignature e.toString
  let mso ← readMso X issuerAuth
  let docType ← readDocType mso expectedDocType
  -- valid now, and signed while the document signer certificate was valid
  let (signed, validFrom, validUntil) ← readValidity X mso now
  let _ ← (validateChain X chain trustAnchors signed).mapError
    fun _ => .validity "MSO was signed outside its certificate's validity"
  let valueDigests ← require mso "valueDigests" "MSO"
  let claims ← verifyElements X issuerSigned valueDigests
  let deviceKey ← (jwkFromCoseKey X (← require (← require mso "deviceKeyInfo" "MSO") "deviceKey"
    "deviceKeyInfo")).mapError .cose
  let status ← parseStatus mso
  pure ⟨docType, claims, deviceKey, signed, validFrom, validUntil, status, chain.headD []⟩

/-- Verify an `IssuerSigned` structure as a wallet receives it from an issuer. -/
def verifyIssuerSigned (issuerSigned : Bytes) (trustAnchors : List Bytes) (now : ℤ) :
    Except MdocError VerifiedMdoc := do
  verifyIssuerSignedValue X (← decode X issuerSigned) none trustAnchors now

/-! ### Presentation -/

/-- The session transcript for an mdoc presented over OpenID4VP with a redirect. -/
def oid4vpSessionTranscript (clientId nonce : String) (jwkThumbprint : Option Bytes)
    (responseUri : String) : Except MdocError Cbor := do
  let handoverInfo ← encode X (.array [.text clientId, .text nonce,
    match jwkThumbprint with
    | none => .null
    | some t => .bytes t,
    .text responseUri])
  pure (.array [.null, .null,
    .array [.text "OpenID4VPHandover", .bytes (X.sha256 handoverInfo)]])

/-- What the device key signs. -/
def deviceAuthenticationBytes (sessionTranscript : Cbor) (docType : String)
    (deviceNameSpaces : Cbor) : Except MdocError Bytes := do
  encode X (← embed X (.array [.text "DeviceAuthentication", sessionTranscript, .text docType,
    deviceNameSpaces]))

/-- An item is one of the elements to disclose of the namespace. -/
def isDisclosed (disclose : List (String × String)) (ns : String) (item : Cbor) : Bool :=
  match unembed X item with
  | .ok item =>
    match (get item "elementIdentifier").bind Cbor.asText with
    | some identifier => disclose.contains (ns, identifier)
    | none => false
  | .error _ => false

/-- The namespaces with the items to disclose, without those that have none. -/
def reveal (disclose : List (String × String)) :
    List (Cbor × Cbor) → List (Cbor × Cbor)
  | [] => []
  | (ns, items) :: nameSpaces =>
    let kept := (items.asArray.getD []).filter (isDisclosed X disclose (ns.asText.getD ""))
    if kept.isEmpty then reveal disclose nameSpaces
    else (ns, .array kept) :: reveal disclose nameSpaces

def deviceResponse (docType : String) (revealed : List (Cbor × Cbor))
    (issuerAuth deviceNameSpaces deviceSignature : Cbor) : Cbor :=
  .map [(.text "version", .text "1.0"),
    (.text "documents", .array [.map [(.text "docType", .text docType),
      (.text "issuerSigned", .map [(.text "nameSpaces", .map revealed),
        (.text "issuerAuth", issuerAuth)]),
      (.text "deviceSigned", .map [(.text "nameSpaces", deviceNameSpaces),
        (.text "deviceAuth", .map [(.text "deviceSignature", deviceSignature)])])]]),
    (.text "status", .integer (int 0))]

/-- Present an issued mdoc: the encoded `DeviceResponse`, which reveals the elements to disclose
only and is signed by the device key for this session. -/
def present (issuerSigned : Bytes) (disclose : List (String × String)) (sessionTranscript : Cbor)
    (deviceKey : KeyPair) : Except MdocError Bytes := do
  let issuerSigned ← decode X issuerSigned
  let issuerAuth ← require issuerSigned "issuerAuth" "IssuerSigned"
  let sign1 ← (fromValue X issuerAuth).mapError .cose
  let msoPayload ← okOr (.malformed "issuerAuth has no payload") sign1.payload
  let docType ← requireText (← unembed X (← decode X msoPayload)) "docType" "MSO"
  let revealed := match get issuerSigned "nameSpaces" with
    | some (.map nameSpaces) => reveal X disclose nameSpaces
    | _ => []
  let deviceNameSpaces ← embed X (.map [])
  let bytes ← deviceAuthenticationBytes X sessionTranscript docType deviceNameSpaces
  let deviceSignature ← (signDetached X deviceKey bytes).mapError .cose
  let deviceSignature ← (toValue X deviceSignature).mapError .cose
  encode X (deviceResponse docType revealed issuerAuth deviceNameSpaces deviceSignature)

/-- How Rust shows an optional integer of CBOR. -/
def debugStatus : Option CborInt → String
  | none => "None"
  | some i => "Some(Integer(" ++ toString i.val ++ "))"

def readDeviceSignature (deviceAuth : Cbor) : Except MdocError CoseSign1 :=
  match get deviceAuth "deviceSignature" with
  | some signature => (fromValue X signature).mapError .cose
  | none =>
    if (get deviceAuth "deviceMac").isSome then
      .error (.unsupported "deviceMac needs a reader key, which OpenID4VP does not use")
    else .error (.malformed "deviceAuth has no deviceSignature")

/-- Verify a document: what the issuer signed, then the device signature over the session. -/
def verifyDocument (sessionTranscript : Cbor) (trustAnchors : List Bytes) (now : ℤ)
    (document : Cbor) : Except MdocError VerifiedMdoc := do
  let docType ← requireText document "docType" "Document"
  let verified ← verifyIssuerSignedValue X (← require document "issuerSigned" "Document")
    (some docType) trustAnchors now
  let deviceSigned ← require document "deviceSigned" "Document"
  let deviceNameSpaces ← require deviceSigned "nameSpaces" "DeviceSigned"
  let deviceAuth ← require deviceSigned "deviceAuth" "DeviceSigned"
  let signature ← readDeviceSignature X deviceAuth
  let signedBytes ← deviceAuthenticationBytes X sessionTranscript docType deviceNameSpaces
  (verifyDetached X signature signedBytes verified.deviceKey).mapError
    fun e => .deviceAuthentication e.toString
  pure verified

/-- The documents of a device response, of which there must be some. -/
def readDocuments (deviceResponse : Bytes) : Except MdocError (List Cbor) := do
  let response ← decode X deviceResponse
  ensure ((← requireText response "version" "DeviceResponse") = "1.0")
    (.unsupported "DeviceResponse version other than 1.0")
  let status := (← require response "status" "DeviceResponse").asInteger
  ensure (status = some (int 0)) (.malformed ("DeviceResponse status is " ++ debugStatus status ++
    ", not OK (0)"))
  let documents := ((get response "documents").bind Cbor.asArray).getD []
  ensure (documents.isEmpty = false) (.malformed "DeviceResponse has no documents")
  pure documents

/-- Verify a `DeviceResponse` presented to this verifier, for the session transcript of its own
request. -/
def verifyDeviceResponse (deviceResponse : Bytes) (sessionTranscript : Cbor)
    (trustAnchors : List Bytes) (now : ℤ) : Except MdocError (List VerifiedMdoc) := do
  let documents ← readDocuments X deviceResponse
  documents.mapM (verifyDocument X sessionTranscript trustAnchors now)

end Oid4vc.Mdoc
