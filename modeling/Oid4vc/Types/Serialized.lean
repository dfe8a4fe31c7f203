import Oid4vc.Base.Records
import Oid4vc.Codecs
import Oid4vc.Types.Oid4vci
import Oid4vc.Types.Oid4vp

/-!
Credential offers and authorization requests as they are serialized, and how they are read: by the
names of their members, of which some may be missing.
-/

namespace Oid4vc.Serialized

open Oid4vc.JsonValue Oid4vc.Records Oid4vc.External Oid4vc.Codecs Oid4vc.Oid4vci Oid4vc.Oid4vp

/-- serde_json on any value that it can write without loss: it is read back, with the members of its
objects in an order of their own. -/
structure SerdeOrder (X : Crates) : Prop where
  readBack : ∀ v, Readable v → ∃ v', X.jsonFromSlice (X.jsonToVec v) = .ok v' ∧ Alike v v'

/-! ### Numbers -/

def u32Json (n : ℕ) : Json := .num (.posInt (BitVec.ofNat 64 n))

/-- A number of 32 bits. -/
def u32 : Reader ℕ
  | .num (.posInt n) => if n.toNat < 2 ^ 32 then some n.toNat else none
  | _ => none

lemma readsBack_u32 {n : ℕ} (h : n < 2 ^ 32) : ReadsBack u32 (u32Json n) n := by
  have hread : u32 (u32Json n) = some n := by
    have hsame : (BitVec.ofNat 64 n).toNat = n := by
      rw [BitVec.toNat_ofNat]
      omega
    rw [u32Json, u32, hsame, if_pos h]
  intro w hw
  cases hw
  exact hread

lemma readable_u32 (n : ℕ) : Readable (u32Json n) :=
  .plain trivial (fun _ h => by cases h) fun _ h => by cases h

/-! ### Credential offers -/

def txCodeToValue (c : TxCode) : Json :=
  .obj (optMember "input_mode" .str c.inputMode ++ optMember "length" u32Json c.length ++
    optMember "description" .str c.description)

def readTxCode : Reader TxCode := fun j => do
  let inputMode ← optional "input_mode" Json.asStr j
  let length ← optional "length" u32 j
  let description ← optional "description" Json.asStr j
  some ⟨inputMode, length, description⟩

def authorizationCodeGrantToValue (g : AuthorizationCodeGrant) : Json :=
  .obj (optMember "issuer_state" .str g.issuerState ++
    optMember "authorization_server" .str g.authorizationServer)

def readAuthorizationCodeGrant : Reader AuthorizationCodeGrant := fun j => do
  let issuerState ← optional "issuer_state" Json.asStr j
  let authorizationServer ← optional "authorization_server" Json.asStr j
  some ⟨issuerState, authorizationServer⟩

def preAuthorizedCodeGrantToValue (g : PreAuthorizedCodeGrant) : Json :=
  .obj ([("pre-authorized_code", .str g.preAuthorizedCode)] ++
    optMember "tx_code" txCodeToValue g.txCode)

def readPreAuthorizedCodeGrant : Reader PreAuthorizedCodeGrant := fun j => do
  let preAuthorizedCode ← required "pre-authorized_code" Json.asStr j
  let txCode ← optional "tx_code" readTxCode j
  some ⟨preAuthorizedCode, txCode⟩

def preAuthorizedCodeName : String := "urn:ietf:params:oauth:grant-type:pre-authorized_code"

def grantsToValue (g : Grants) : Json :=
  .obj (optMember "authorization_code" authorizationCodeGrantToValue g.authorizationCode ++
    optMember preAuthorizedCodeName preAuthorizedCodeGrantToValue g.preAuthorizedCode)

def readGrants : Reader Grants := fun j => do
  let authorizationCode ← optional "authorization_code" readAuthorizationCodeGrant j
  let preAuthorizedCode ← optional preAuthorizedCodeName readPreAuthorizedCodeGrant j
  some ⟨authorizationCode, preAuthorizedCode⟩

def offerToValue (o : CredentialOffer) : Json :=
  .obj ([("credential_issuer", .str o.credentialIssuer),
      ("credential_configuration_ids", .arr (o.credentialConfigurationIds.map .str))] ++
    optMember "grants" grantsToValue o.grants)

def readOffer : Reader CredentialOffer := fun j => do
  let credentialIssuer ← required "credential_issuer" Json.asStr j
  let credentialConfigurationIds ← required "credential_configuration_ids" (items Json.asStr) j
  let grants ← optional "grants" readGrants j
  some ⟨credentialIssuer, credentialConfigurationIds, grants⟩

/-- The length of a transaction code fits its type. -/
def TxCodeFits (c : TxCode) : Prop := ∀ n ∈ c.length, n < 2 ^ 32

def OfferFits (o : CredentialOffer) : Prop :=
  ∀ grants ∈ o.grants, ∀ grant ∈ grants.preAuthorizedCode, ∀ c ∈ grant.txCode, TxCodeFits c

lemma readsBack_txCode {c : TxCode} (h : TxCodeFits c) : ReadsBack readTxCode (txCodeToValue c) c := by
  refine readsBack_bind (readsBack_optString c.inputMode ?_) ?_
  · simp [txCodeToValue, get_append, get_optMember]
  refine readsBack_bind (readsBack_optional u32Json c.length ?_
    (by simp [u32Json]) fun n hn => readsBack_u32 (h n hn)) ?_
  · simp [txCodeToValue, get_append, get_optMember]
  refine readsBack_bind (readsBack_optString c.description ?_) ?_
  · simp [txCodeToValue, get_append, get_optMember]
  exact readsBack_pure _ c

lemma readsBack_authorizationCodeGrant (g : AuthorizationCodeGrant) :
    ReadsBack readAuthorizationCodeGrant (authorizationCodeGrantToValue g) g := by
  refine readsBack_bind (readsBack_optString g.issuerState ?_) ?_
  · simp [authorizationCodeGrantToValue, get_append, get_optMember]
  refine readsBack_bind (readsBack_optString g.authorizationServer ?_) ?_
  · simp [authorizationCodeGrantToValue, get_append, get_optMember]
  exact readsBack_pure _ g

lemma readsBack_preAuthorizedCodeGrant {g : PreAuthorizedCodeGrant}
    (h : ∀ c ∈ g.txCode, TxCodeFits c) :
    ReadsBack readPreAuthorizedCodeGrant (preAuthorizedCodeGrantToValue g) g := by
  refine readsBack_bind (readsBack_required ?_ (readsBack_str g.preAuthorizedCode)) ?_
  · simp [preAuthorizedCodeGrantToValue, get_cons]
  refine readsBack_bind (readsBack_optional txCodeToValue g.txCode ?_
    (by simp [txCodeToValue]) fun c hc => readsBack_txCode (h c hc)) ?_
  · simp [preAuthorizedCodeGrantToValue, get_cons, get_optMember]
  exact readsBack_pure _ g

lemma readsBack_grants {g : Grants}
    (h : ∀ grant ∈ g.preAuthorizedCode, ∀ c ∈ grant.txCode, TxCodeFits c) :
    ReadsBack readGrants (grantsToValue g) g := by
  refine readsBack_bind (readsBack_optional authorizationCodeGrantToValue
    g.authorizationCode ?_ (by simp [authorizationCodeGrantToValue])
    fun grant _ => readsBack_authorizationCodeGrant grant) ?_
  · simp [grantsToValue, get_append, get_optMember, preAuthorizedCodeName]
  refine readsBack_bind (readsBack_optional preAuthorizedCodeGrantToValue
    g.preAuthorizedCode ?_ (by simp [preAuthorizedCodeGrantToValue])
    fun grant hgrant => readsBack_preAuthorizedCodeGrant (h grant hgrant)) ?_
  · simp [grantsToValue, get_append, get_optMember, preAuthorizedCodeName]
  exact readsBack_pure _ g

/-- **An offer is read as it was written.** -/
theorem readsBack_offer {o : CredentialOffer} (h : OfferFits o) :
    ReadsBack readOffer (offerToValue o) o := by
  refine readsBack_bind (readsBack_required ?_ (readsBack_str o.credentialIssuer)) ?_
  · simp [offerToValue, get_cons]
  refine readsBack_bind (readsBack_required ?_ (readsBack_strings o.credentialConfigurationIds)) ?_
  · simp [offerToValue, get_cons]
  refine readsBack_bind (readsBack_optional grantsToValue o.grants ?_
    (by simp [grantsToValue]) fun grants hgrants => readsBack_grants (h grants hgrants)) ?_
  · simp [offerToValue, get_cons, get_optMember]
  exact readsBack_pure _ o

lemma readable_txCode (c : TxCode) : Readable (txCodeToValue c) := by
  refine readable_obj ?_ (names_append (names_append (names_optMember "input_mode" _ _)
    (names_optMember "length" _ _)) (names_optMember "description" _ _)) (by decide)
  exact ((readableMembers_optMember fun v _ => readable_str v).append
    (readableMembers_optMember fun n _ => readable_u32 n)).append
    (readableMembers_optMember fun v _ => readable_str v)

lemma readable_authorizationCodeGrant (g : AuthorizationCodeGrant) :
    Readable (authorizationCodeGrantToValue g) := by
  refine readable_obj ?_ (names_append (names_optMember "issuer_state" _ _)
    (names_optMember "authorization_server" _ _)) (by decide)
  exact (readableMembers_optMember fun v _ => readable_str v).append
    (readableMembers_optMember fun v _ => readable_str v)

lemma readable_preAuthorizedCodeGrant (g : PreAuthorizedCodeGrant) :
    Readable (preAuthorizedCodeGrantToValue g) := by
  refine readable_obj ?_ (names_append (List.Sublist.refl ["pre-authorized_code"])
    (names_optMember "tx_code" _ _)) (by decide)
  exact (readableMembers_one (readable_str _)).append
    (readableMembers_optMember fun c _ => readable_txCode c)

lemma readable_grants (g : Grants) : Readable (grantsToValue g) := by
  refine readable_obj ?_ (names_append (names_optMember "authorization_code" _ _)
    (names_optMember preAuthorizedCodeName _ _)) (by decide)
  exact (readableMembers_optMember fun grant _ => readable_authorizationCodeGrant grant).append
    (readableMembers_optMember fun grant _ => readable_preAuthorizedCodeGrant grant)

lemma readable_offer (o : CredentialOffer) : Readable (offerToValue o) := by
  refine readable_obj ?_ (names_append
    (List.Sublist.refl ["credential_issuer", "credential_configuration_ids"])
    (names_optMember "grants" _ _)) (by decide)
  exact (ReadableMembers.cons _ (readable_str _)
    (readableMembers_one (readable_strings _))).append
    (readableMembers_optMember fun grants _ => readable_grants grants)

/-! ### Authorization requests -/

def claimQueryToValue (q : ClaimQuery) : Json :=
  .obj ([("path", .arr (q.path.map .str))] ++ optMember "namespace" .str q.nmspace ++
    optMember "id" .str q.id ++ optMember "values" .arr q.values)

def readClaimQuery : Reader ClaimQuery := fun j => do
  let path ← required "path" (items Json.asStr) j
  let nmspace ← optional "namespace" Json.asStr j
  let id ← optional "id" Json.asStr j
  let values ← optional "values" (items some) j
  some ⟨path, nmspace, id, values⟩

def credentialQueryToValue (q : CredentialQuery) : Json :=
  .obj ([("id", .str q.id), ("format", .str q.format)] ++ optMember "vct" .str q.vct ++
    optMember "doctype" .str q.doctype ++
    optMember "claims" (fun claims => .arr (claims.map claimQueryToValue)) q.claims)

def readCredentialQuery : Reader CredentialQuery := fun j => do
  let id ← required "id" Json.asStr j
  let format ← required "format" Json.asStr j
  let vct ← optional "vct" Json.asStr j
  let doctype ← optional "doctype" Json.asStr j
  let claims ← optional "claims" (items readClaimQuery) j
  some ⟨id, format, vct, doctype, claims⟩

def dcqlQueryToValue (q : DcqlQuery) : Json :=
  .obj [("credentials", .arr (q.credentials.map credentialQueryToValue))]

def readDcqlQuery : Reader DcqlQuery := fun j => do
  let credentials ← required "credentials" (items readCredentialQuery) j
  some ⟨credentials⟩

def formatAlgorithmsToValue (a : FormatAlgorithms) : Json :=
  .obj (optMember "alg" (fun algs => .arr (algs.map .str)) a.alg)

def readFormatAlgorithms : Reader FormatAlgorithms := fun j => do
  let alg ← optional "alg" (items Json.asStr) j
  some ⟨alg⟩

def vpFormatsToValue (f : VpFormatsSupported) : Json :=
  .obj (optMember "dc+sd-jwt" formatAlgorithmsToValue f.sdJwtVc ++
    optMember "mso_mdoc" formatAlgorithmsToValue f.msoMdoc)

def readVpFormats : Reader VpFormatsSupported := fun j => do
  let sdJwtVc ← optional "dc+sd-jwt" readFormatAlgorithms j
  let msoMdoc ← optional "mso_mdoc" readFormatAlgorithms j
  some ⟨sdJwtVc, msoMdoc⟩

def clientMetadataToValue (m : ClientMetadata) : Json :=
  .obj (optMember "vp_formats" vpFormatsToValue m.vpFormats ++
    optMember "client_name" .str m.clientName ++ optMember "logo_uri" .str m.logoUri)

def readClientMetadata : Reader ClientMetadata := fun j => do
  let vpFormats ← optional "vp_formats" readVpFormats j
  let clientName ← optional "client_name" Json.asStr j
  let logoUri ← optional "logo_uri" Json.asStr j
  some ⟨vpFormats, clientName, logoUri⟩

def requestToValue (r : SentRequest) : Json :=
  .obj ([("response_type", .str r.request.responseType), ("client_id", .str r.request.clientId)] ++
    optMember "client_id_scheme" .str r.request.clientIdScheme ++
    [("response_uri", .str r.request.responseUri)] ++
    optMember "response_mode" .str r.request.responseMode ++ [("nonce", .str r.request.nonce)] ++
    optMember "state" .str r.request.state ++
    optMember "dcql_query" dcqlQueryToValue r.request.dcqlQuery ++
    optMember "presentation_definition" id r.presentationDefinition ++
    optMember "client_metadata" clientMetadataToValue r.clientMetadata)

def readRequest : Reader SentRequest := fun j => do
  let responseType ← required "response_type" Json.asStr j
  let clientId ← required "client_id" Json.asStr j
  let clientIdScheme ← optional "client_id_scheme" Json.asStr j
  let responseUri ← required "response_uri" Json.asStr j
  let responseMode ← optional "response_mode" Json.asStr j
  let nonce ← required "nonce" Json.asStr j
  let state ← optional "state" Json.asStr j
  let dcqlQuery ← optional "dcql_query" readDcqlQuery j
  let presentationDefinition ← optional "presentation_definition" some j
  let clientMetadata ← optional "client_metadata" readClientMetadata j
  some ⟨⟨responseType, clientId, clientIdScheme, responseUri, responseMode, nonce, state, dcqlQuery⟩,
    presentationDefinition, clientMetadata⟩

/-- A value of which no array and no object is a part, as claims are compared with. -/
def Scalar (v : Json) : Prop := v.Proper ∧ (∀ vs, v ≠ .arr vs) ∧ ∀ ms, v ≠ .obj ms

def ClaimQueryFits (q : ClaimQuery) : Prop := ∀ values ∈ q.values, ∀ v ∈ values, Scalar v

def CredentialQueryFits (q : CredentialQuery) : Prop :=
  ∀ claims ∈ q.claims, ∀ claim ∈ claims, ClaimQueryFits claim

/-- The request asks for claims with scalar values, and for nothing else in a definition of its
own. -/
structure RequestFits (r : SentRequest) : Prop where
  query : ∀ query ∈ r.request.dcqlQuery, ∀ credential ∈ query.credentials,
    CredentialQueryFits credential
  definition : r.presentationDefinition = none

lemma readsBack_claimQuery {q : ClaimQuery} (h : ClaimQueryFits q) :
    ReadsBack readClaimQuery (claimQueryToValue q) q := by
  have hitems : ∀ values ∈ q.values, ReadsBack (items some) (.arr values) values := by
    intro values hvalues
    have := readsBack_items (r := some) id values fun v hv =>
      readsBack_scalar (h values hvalues v hv).2.1 (h values hvalues v hv).2.2
    rwa [List.map_id] at this
  refine readsBack_bind (readsBack_required ?_ (readsBack_strings q.path)) ?_
  · simp [claimQueryToValue, get_cons]
  refine readsBack_bind (readsBack_optString q.nmspace ?_) ?_
  · simp [claimQueryToValue, get_append, get_cons, get_optMember]
  refine readsBack_bind (readsBack_optString q.id ?_) ?_
  · simp [claimQueryToValue, get_append, get_cons, get_optMember]
  refine readsBack_bind (readsBack_optional .arr q.values ?_ (by simp) hitems) ?_
  · simp [claimQueryToValue, get_append, get_cons, get_optMember]
  exact readsBack_pure _ q

lemma readsBack_credentialQuery {q : CredentialQuery} (h : CredentialQueryFits q) :
    ReadsBack readCredentialQuery (credentialQueryToValue q) q := by
  refine readsBack_bind (readsBack_required ?_ (readsBack_str q.id)) ?_
  · simp [credentialQueryToValue, get_cons]
  refine readsBack_bind (readsBack_required ?_ (readsBack_str q.format)) ?_
  · simp [credentialQueryToValue, get_cons]
  refine readsBack_bind (readsBack_optString q.vct ?_) ?_
  · simp [credentialQueryToValue, get_append, get_cons, get_optMember]
  refine readsBack_bind (readsBack_optString q.doctype ?_) ?_
  · simp [credentialQueryToValue, get_append, get_cons, get_optMember]
  refine readsBack_bind (readsBack_optional
    (fun claims => .arr (claims.map claimQueryToValue)) q.claims ?_ (by simp)
    fun claims hclaims => readsBack_items _ claims fun claim hclaim =>
      readsBack_claimQuery (h claims hclaims claim hclaim)) ?_
  · simp [credentialQueryToValue, get_append, get_cons, get_optMember]
  exact readsBack_pure _ q

lemma readsBack_dcqlQuery {q : DcqlQuery} (h : ∀ c ∈ q.credentials, CredentialQueryFits c) :
    ReadsBack readDcqlQuery (dcqlQueryToValue q) q := by
  refine readsBack_bind (readsBack_required ?_
    (readsBack_items _ q.credentials fun c hc => readsBack_credentialQuery (h c hc))) ?_
  · simp [dcqlQueryToValue, get_cons]
  exact readsBack_pure _ q

lemma readsBack_formatAlgorithms (a : FormatAlgorithms) :
    ReadsBack readFormatAlgorithms (formatAlgorithmsToValue a) a := by
  refine readsBack_bind (readsBack_optional (fun algs => .arr (algs.map .str))
    a.alg ?_ (by simp) fun algs _ => readsBack_strings algs) ?_
  · simp [formatAlgorithmsToValue, get_optMember]
  exact readsBack_pure _ a

lemma readsBack_vpFormats (f : VpFormatsSupported) : ReadsBack readVpFormats (vpFormatsToValue f) f := by
  refine readsBack_bind (readsBack_optional formatAlgorithmsToValue f.sdJwtVc ?_
    (by simp [formatAlgorithmsToValue]) fun a _ => readsBack_formatAlgorithms a) ?_
  · simp [vpFormatsToValue, get_append, get_optMember]
  refine readsBack_bind (readsBack_optional formatAlgorithmsToValue f.msoMdoc ?_
    (by simp [formatAlgorithmsToValue]) fun a _ => readsBack_formatAlgorithms a) ?_
  · simp [vpFormatsToValue, get_append, get_optMember]
  exact readsBack_pure _ f

lemma readsBack_clientMetadata (m : ClientMetadata) :
    ReadsBack readClientMetadata (clientMetadataToValue m) m := by
  refine readsBack_bind (readsBack_optional vpFormatsToValue m.vpFormats ?_
    (by simp [vpFormatsToValue]) fun f _ => readsBack_vpFormats f) ?_
  · simp [clientMetadataToValue, get_append, get_optMember]
  refine readsBack_bind (readsBack_optString m.clientName ?_) ?_
  · simp [clientMetadataToValue, get_append, get_optMember]
  refine readsBack_bind (readsBack_optString m.logoUri ?_) ?_
  · simp [clientMetadataToValue, get_append, get_optMember]
  exact readsBack_pure _ m

/-- **A request is read as it was written.** -/
theorem readsBack_request {r : SentRequest} (h : RequestFits r) :
    ReadsBack readRequest (requestToValue r) r := by
  refine readsBack_bind (readsBack_required ?_ (readsBack_str r.request.responseType)) ?_
  · simp [requestToValue, get_cons]
  refine readsBack_bind (readsBack_required ?_ (readsBack_str r.request.clientId)) ?_
  · simp [requestToValue, get_cons]
  refine readsBack_bind (readsBack_optString r.request.clientIdScheme ?_) ?_
  · simp [requestToValue, get_append, get_cons, get_optMember]
  refine readsBack_bind (readsBack_required ?_ (readsBack_str r.request.responseUri)) ?_
  · simp [requestToValue, get_append, get_cons, get_optMember]
  refine readsBack_bind (readsBack_optString r.request.responseMode ?_) ?_
  · simp [requestToValue, get_append, get_cons, get_optMember]
  refine readsBack_bind (readsBack_required ?_ (readsBack_str r.request.nonce)) ?_
  · simp [requestToValue, get_append, get_cons, get_optMember]
  refine readsBack_bind (readsBack_optString r.request.state ?_) ?_
  · simp [requestToValue, get_append, get_cons, get_optMember]
  refine readsBack_bind (readsBack_optional dcqlQueryToValue r.request.dcqlQuery ?_
    (by simp [dcqlQueryToValue]) fun query hquery => readsBack_dcqlQuery (h.query query hquery)) ?_
  · simp [requestToValue, get_append, get_cons, get_optMember]
  refine readsBack_bind (readsBack_optional id r.presentationDefinition ?_
    (by simp [h.definition]) (by simp [h.definition])) ?_
  · simp [requestToValue, get_append, get_cons, get_optMember]
  refine readsBack_bind (readsBack_optional clientMetadataToValue r.clientMetadata
    ?_ (by simp [clientMetadataToValue]) fun m _ => readsBack_clientMetadata m) ?_
  · simp [requestToValue, get_append, get_cons, get_optMember]
  exact readsBack_pure _ r

lemma readable_claimQuery {q : ClaimQuery} (h : ClaimQueryFits q) :
    Readable (claimQueryToValue q) := by
  have hvalues : ∀ values ∈ q.values, Readable (.arr values) := by
    intro values hvalues
    have := readableItems_map id values fun v hv =>
      .plain (h values hvalues v hv).1 (h values hvalues v hv).2.1 (h values hvalues v hv).2.2
    rw [List.map_id] at this
    exact .arr this
  refine readable_obj ?_ (names_append (names_append (names_append (List.Sublist.refl ["path"])
    (names_optMember "namespace" _ _)) (names_optMember "id" _ _)) (names_optMember "values" _ _))
    (by decide)
  exact (((readableMembers_one (readable_strings _)).append
    (readableMembers_optMember fun v _ => readable_str v)).append
    (readableMembers_optMember fun v _ => readable_str v)).append
    (readableMembers_optMember hvalues)

lemma readable_credentialQuery {q : CredentialQuery} (h : CredentialQueryFits q) :
    Readable (credentialQueryToValue q) := by
  have hclaims : ∀ claims ∈ q.claims, Readable (.arr (claims.map claimQueryToValue)) :=
    fun claims hclaims => .arr (readableItems_map _ claims fun claim hclaim =>
      readable_claimQuery (h claims hclaims claim hclaim))
  refine readable_obj ?_ (names_append (names_append (names_append
    (List.Sublist.refl ["id", "format"]) (names_optMember "vct" _ _))
    (names_optMember "doctype" _ _)) (names_optMember "claims" _ _)) (by decide)
  exact (((ReadableMembers.cons _ (readable_str _) (readableMembers_one (readable_str _))).append
    (readableMembers_optMember fun v _ => readable_str v)).append
    (readableMembers_optMember fun v _ => readable_str v)).append
    (readableMembers_optMember hclaims)

lemma readable_dcqlQuery {q : DcqlQuery} (h : ∀ c ∈ q.credentials, CredentialQueryFits c) :
    Readable (dcqlQueryToValue q) := by
  refine readable_obj ?_ (List.Sublist.refl ["credentials"]) (by decide)
  exact readableMembers_one (.arr (readableItems_map _ q.credentials fun c hc => readable_credentialQuery (h c hc)))

lemma readable_formatAlgorithms (a : FormatAlgorithms) : Readable (formatAlgorithmsToValue a) :=
  readable_obj (readableMembers_optMember fun algs _ => readable_strings algs)
    (names_optMember "alg" _ _) (by decide)

lemma readable_vpFormats (f : VpFormatsSupported) : Readable (vpFormatsToValue f) := by
  refine readable_obj ?_ (names_append (names_optMember "dc+sd-jwt" _ _)
    (names_optMember "mso_mdoc" _ _)) (by decide)
  exact (readableMembers_optMember fun a _ => readable_formatAlgorithms a).append
    (readableMembers_optMember fun a _ => readable_formatAlgorithms a)

lemma readable_clientMetadata (m : ClientMetadata) : Readable (clientMetadataToValue m) := by
  refine readable_obj ?_ (names_append (names_append (names_optMember "vp_formats" _ _)
    (names_optMember "client_name" _ _)) (names_optMember "logo_uri" _ _)) (by decide)
  exact ((readableMembers_optMember fun f _ => readable_vpFormats f).append
    (readableMembers_optMember fun v _ => readable_str v)).append
    (readableMembers_optMember fun v _ => readable_str v)

lemma readable_request {r : SentRequest} (h : RequestFits r) : Readable (requestToValue r) := by
  have hdefinition : ∀ v ∈ r.presentationDefinition, Readable (id v) := by
    rw [h.definition]
    simp
  refine readable_obj ?_ (names_append (names_append (names_append (names_append (names_append
    (names_append (names_append (names_append
      (List.Sublist.refl ["response_type", "client_id"]) (names_optMember "client_id_scheme" _ _))
      (List.Sublist.refl ["response_uri"])) (names_optMember "response_mode" _ _))
      (List.Sublist.refl ["nonce"])) (names_optMember "state" _ _))
      (names_optMember "dcql_query" _ _)) (names_optMember "presentation_definition" _ _))
      (names_optMember "client_metadata" _ _)) (by decide)
  have hstrings := fun (name : String) (value : Option String) =>
    @readableMembers_optMember _ name Json.str value fun v _ => readable_str v
  have hone := fun (name s : String) => @readableMembers_one name _ (readable_str s)
  exact ((((((((ReadableMembers.cons _ (readable_str _) (hone _ _)).append (hstrings _ _)).append
    (hone _ _)).append (hstrings _ _)).append (hone _ _)).append (hstrings _ _)).append
    (readableMembers_optMember fun query hquery => readable_dcqlQuery (h.query query hquery))).append
    (readableMembers_optMember hdefinition)).append
    (readableMembers_optMember fun m _ => readable_clientMetadata m)

/-! ### A serializer -/

/-- What is written is read back by a parser that keeps the members of the outermost object in
order. -/
theorem serdeOrder_codecs : SerdeOrder codecs where
  readBack v h := by
    have hread : codecs.jsonFromSlice (codecs.jsonToVec v) = .ok (sortMembers v) := by
      simp [codecs, readJson_jsonBytes, Except.map]
    refine ⟨sortMembers v, hread, ?_⟩
    cases h with
    | plain h hitems hmembers =>
      cases v with
      | obj ms => exact absurd rfl (hmembers ms)
      | null | bool | num | str | arr => exact .refl _
    | arr h => exact .refl _
    | obj hnodup h => exact .obj hnodup (AlikeMembers.refl _) (List.mergeSort_perm _ _).symm

end Oid4vc.Serialized
