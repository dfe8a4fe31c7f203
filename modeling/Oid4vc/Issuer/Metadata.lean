import Oid4vc.Issuer.Batch
import Oid4vc.Issuer.ClientAttestation
import Oid4vc.Issuer.Dates

/-!
The metadata that the issuer publishes, and the credentials that it issues under it.

A credential has the type, the algorithm and the claims that its configuration advertises, no claim
more and none less; and an SD-JWT VC has them all hidden, as its type metadata says.
-/

namespace Oid4vc.Metadata

open Oid4vc.JsonValue Oid4vc.CborBytes Oid4vc.CborValue Oid4vc.PartialMap Oid4vc.Text
open Oid4vc.Fallible Oid4vc.Instant Oid4vc.Atomic Oid4vc.Jwks Oid4vc.External Oid4vc.Codecs
open Oid4vc.Keys Oid4vc.Jws Oid4vc.Cose Oid4vc.Credentials Oid4vc.SdJwt Oid4vc.Disclosures
open Oid4vc.Selective Oid4vc.Mdoc Oid4vc.Acceptance Oid4vc.Tables Oid4vc.Oid4vci Oid4vc.IssuerStore
open Oid4vc.Credential Oid4vc.HolderKey Oid4vc.Processing Oid4vc.Wallet Oid4vc.Batch Oid4vc.Dates

/-! ### The documents -/

/-- Most credentials issued for one Credential Request. -/
def batchSize : ℕ := 10

/-- COSE algorithm identifier for ES256. -/
def coseEs256 : ℤ := -7

/-- The mDL data elements every issued mDL carries. -/
def mdlElementNames : List String :=
  ["family_name", "given_name", "birth_date", "issue_date", "expiry_date", "issuing_country",
    "issuing_authority", "document_number", "portrait", "driving_privileges", "un_distinguishing_sign",
    "age_over_18", "age_over_21"]

/-- Path of the identity credential's `vct`, relative to the issuer. -/
def identityVctPath : String := "/credentials/identity"

/-- One claim the credential carries, addressed by a claims path pointer. -/
structure ClaimDescription where
  path : List Json
  mandatory : Option Bool

structure Logo where
  uri : String
  altText : Option String

/-- Display information for a credential type. -/
structure CredentialDisplay where
  name : String
  locale : Option String
  logo : Option Logo
  description : Option String
  backgroundColor : Option String
  textColor : Option String

/-- Display information for the issuer. -/
structure IssuerDisplay where
  name : String
  locale : Option String
  logo : Option Logo

/-- Wallet-facing description of a credential configuration. -/
structure CredentialMetadata where
  display : Option (List CredentialDisplay)
  claims : Option (List ClaimDescription)

/-- A credential configuration, with what is only published. -/
structure PublishedConfiguration extends CredentialConfiguration where
  cryptographicBindingMethodsSupported : Option (List String)
  /-- JOSE names for `dc+sd-jwt`, COSE identifiers for `mso_mdoc`. -/
  credentialSigningAlgValuesSupported : Option (List Json)
  credentialMetadata : Option CredentialMetadata

/-- Metadata published at `/.well-known/openid-credential-issuer`. -/
structure PublishedMetadata where
  credentialIssuer : String
  authorizationServers : Option (List String)
  credentialEndpoint : String
  deferredCredentialEndpoint : Option String
  nonceEndpoint : Option String
  batchCredentialIssuance : Option BatchCredentialIssuance
  credentialConfigurationsSupported : List (String × PublishedConfiguration)
  display : Option (List IssuerDisplay)

def PublishedMetadata.read (m : PublishedMetadata) : CredentialIssuerMetadata where
  credentialIssuer := m.credentialIssuer
  batchCredentialIssuance := m.batchCredentialIssuance
  credentialConfigurationsSupported := m.credentialConfigurationsSupported.map fun entry =>
    (entry.1, entry.2.toCredentialConfiguration)

/-- Configuration for building issuer metadata. -/
structure MetadataConfig where
  issuerUrl : String
  issuerName : String

/-- The issuer identifier without a trailing slash. -/
def MetadataConfig.issuerId (config : MetadataConfig) : String := trimEndMatches '/' config.issuerUrl

def claim (path : List String) (mandatory : Bool) : ClaimDescription where
  path := path.map .str
  mandatory := some mandatory

def display (name description backgroundColor : String) : CredentialDisplay where
  name := name
  locale := some "en"
  logo := none
  description := some description
  backgroundColor := some backgroundColor
  textColor := some "#ffffff"

/-- The identity credential, as an SD-JWT VC. -/
def identityConfiguration (config : MetadataConfig) : PublishedConfiguration where
  format := "dc+sd-jwt"
  scope := some "identity_credential"
  cryptographicBindingMethodsSupported := some ["jwk"]
  credentialSigningAlgValuesSupported := some [.str "ES256"]
  proofTypesSupported := some [("jwt", ⟨["ES256", "EdDSA"]⟩)]
  credentialMetadata := some
    ⟨some [display "Identity Credential" "A verifiable identity credential" "#1a1a2e"],
      some [claim ["given_name"] true, claim ["family_name"] true, claim ["birth_date"] true]⟩
  vct := some (config.issuerId ++ identityVctPath)
  doctype := none

/-- The mobile driver's license, as an mdoc. -/
def mdlConfiguration : PublishedConfiguration where
  format := "mso_mdoc"
  scope := some "org.iso.18013.5.1.mDL"
  cryptographicBindingMethodsSupported := some ["cose_key"]
  credentialSigningAlgValuesSupported := some [i64Json coseEs256]
  proofTypesSupported := some [("jwt", ⟨["ES256"]⟩)]
  credentialMetadata := some
    ⟨some [display "Mobile Driver's License" "ISO/IEC 18013-5 compliant mobile driving license" "#0e4d92"],
      some (mdlElementNames.map fun name => claim ["org.iso.18013.5.1", name] true)⟩
  vct := none
  doctype := some "org.iso.18013.5.1.mDL"

/-- The configurations, in the order their map yields them. -/
def configurations (config : MetadataConfig) (mdlFirst : Bool) : List (String × PublishedConfiguration) :=
  let identity := ("IdentityCredential_SD_JWT_VC", identityConfiguration config)
  let mdl := ("mDL_mso_mdoc", mdlConfiguration)
  if mdlFirst then [mdl, identity] else [identity, mdl]

/-- Build the credential issuer metadata from configuration. -/
def buildMetadata (X : Crates) (config : MetadataConfig) (mdlFirst : Bool) : PublishedMetadata where
  credentialIssuer := config.issuerId
  authorizationServers := none
  credentialEndpoint := X.urlJoin config.issuerUrl "/credential"
  deferredCredentialEndpoint := none
  nonceEndpoint := some (X.urlJoin config.issuerUrl "/nonce")
  batchCredentialIssuance := some ⟨batchSize⟩
  credentialConfigurationsSupported := configurations config mdlFirst
  display := some [⟨config.issuerName, some "en", none⟩]

def typeClaim (name label : String) : Json :=
  .obj [("display", .arr [.obj [("label", .str label), ("locale", .str "en")]]),
    ("mandatory", .bool true), ("path", .arr [.str name]), ("sd", .str "always")]

/-- Build the SD-JWT VC Type Metadata served at the identity credential's `vct`. -/
def buildIdentityTypeMetadata (config : MetadataConfig) : Json :=
  .obj [("claims", .arr [typeClaim "given_name" "Given name", typeClaim "family_name" "Family name",
      typeClaim "birth_date" "Date of birth"]),
    ("description", .str "A verifiable identity credential"),
    ("display", .arr [.obj [("description", .str "A verifiable identity credential"),
      ("locale", .str "en"), ("name", .str "Identity Credential")]]),
    ("name", .str "Identity Credential"),
    ("vct", .str (config.issuerId ++ identityVctPath))]

/-! ### What a credential is, and what it was to be -/

/-- What can be read in a credential. -/
structure Contents where
  /-- Its `vct`, or its `docType`. -/
  type : String
  /-- The algorithm it is signed with, as its format has it. -/
  alg : Json
  /-- The paths of the claims that can be held back. -/
  claims : List (List Json)
  /-- The paths of those that cannot. -/
  visible : List (List Json)

variable (X : Crates)

def sdJwtContents (credential : Json) : Option Contents := do
  let text ← credential.asStr
  let parsed ← (SdJwtVc.parse text).toOption
  let decoded ← (decodeCompact X parsed.issuerJwt).toOption
  let payload ← (X.jsonFromSlice decoded.payload).toOption
  let vct ← stringMember payload "vct"
  let disclosures ← (parsed.disclosures.mapM (Disclosure.fromEncoded X)).toOption
  some {
    type := vct
    alg := .str decoded.header.alg
    claims := disclosures.map fun d => [.str d.claimName]
    visible := (plainMembers payload).map fun m => [.str m.1] }

def mdocContents (credential : Json) : Option Contents := do
  let issuerSigned ← issuerSignedOf X credential
  let issuerAuth ← get issuerSigned "issuerAuth"
  let sign1 ← (fromValue X issuerAuth).toOption
  let mso ← (readMso X sign1).toOption
  let docType ← (get mso "docType").bind Cbor.asText
  let alg ← sign1.protectedHeader.header.alg
  some {
    type := docType
    alg := i64Json alg.val
    claims := (elementsIn X issuerSigned).flatMap fun entry =>
      entry.2.map fun element => [.str (entry.1.getD ""), .str element.1]
    visible := [] }

def contents (format : String) (credential : Json) : Option Contents :=
  if format = "dc+sd-jwt" then sdJwtContents X credential else mdocContents X credential

def PublishedConfiguration.type (c : PublishedConfiguration) : Option String :=
  if c.format = "dc+sd-jwt" then c.vct else c.doctype

def PublishedConfiguration.claims (c : PublishedConfiguration) : List ClaimDescription :=
  (c.credentialMetadata.bind CredentialMetadata.claims).getD []

variable {X}

/-- A credential is what its configuration advertises. -/
structure AsAdvertised (published : PublishedConfiguration) (c : Contents) : Prop where
  type : published.type = some c.type
  alg : ∃ algs, published.credentialSigningAlgValuesSupported = some algs ∧ c.alg ∈ algs
  claims : c.claims.Perm (published.claims.map ClaimDescription.path)
  hidden : c.visible = []
  mandatory : ∀ description ∈ published.claims, description.mandatory = some true

/-! ### SD-JWT VCs -/

section SdJwt

variable {σ : Type} {ctx : IssuanceContext X σ} {vct : String} {holderJwk : Jwk} {status : Option Json}
  {draws : CredentialDraws} {now : ℤ} {credential : Json}

lemma proper_walked (draws : CredentialDraws) : Json.ProperMembers draws.claims := by
  rw [Json.properMembers_iff]
  intro c hc
  have hdemo := draws.walks.mem_iff.mp hc
  simp only [demoClaims, List.mem_cons, List.not_mem_nil, or_false] at hdemo
  rcases hdemo with rfl | rfl | rfl <;> trivial

/-- What is signed for an SD-JWT VC, and how it is put together with the disclosures. -/
lemma signSdJwtCredential_ok {text : String}
    (h : signSdJwtCredential X ctx vct holderJwk status draws now = .ok (.str text)) :
    ∃ issuerJwt header, header.alg = ctx.issuerKey.algorithm.asStr ∧
      signCompact X ctx.issuerKey header (claimsFor ctx.issuerUrl vct []
        (disclosuresFor X draws.claims draws.salts) (some (.obj [("jwk", holderJwk.toValue)])) status
        now).toJson = .ok issuerJwt ∧
      text = SdJwtVc.toCompact
        ⟨issuerJwt, (disclosuresFor X draws.claims draws.salts).map Disclosure.encoded, none⟩ := by
  simp only [signSdJwtCredential, issueSdJwtVcWithX5c, bind_eq_ok, mapError_eq_ok, pure_eq_ok] at h
  obtain ⟨_, ⟨issuerJwt, hsign, rfl⟩, htext⟩ := h
  exact ⟨issuerJwt, _, rfl, hsign, (Json.str.inj htext).symm⟩

/-- **What an SD-JWT VC was signed from** is read in it. -/
lemma sdJwtContents_of_signed (hb64 : Base64Url X) (hserde : SerdeJson X)
    (h : signSdJwtCredential X ctx vct holderJwk status draws now = .ok credential)
    (hstatus : ∀ v ∈ status, v.Proper) (hnow : Representable now) :
    sdJwtContents X credential = some {
      type := vct
      alg := .str ctx.issuerKey.algorithm.asStr
      claims := draws.claims.map fun c => [.str c.1]
      visible := [] } := by
  obtain ⟨text, parsed, payload, rfl, hparsed, hclaims, hpayload⟩ :=
    payload_of_signed hb64 hserde h hstatus hnow
  obtain ⟨issuerJwt, header, halg, hsign, htext⟩ := signSdJwtCredential_ok h
  obtain ⟨signature, signingInput, hdecoded, -, htilde, hne⟩ :=
    decodeCompact_signCompact hb64 hserde hsign
  have hissued := List.Subset.refl (disclosuresFor X draws.claims draws.salts)
  have hread := parse_of_wellFormed (wellFormed_presentation hb64 hserde htilde hne hissued)
  rw [← htext] at hread
  obtain rfl := Except.ok.inj (hparsed.symm.trans hread)
  rw [jwtClaims, hdecoded] at hclaims
  have hjson := toOption_eq_some.mp hclaims
  have hvct : stringMember payload "vct" = some vct := by
    rw [stringMember, hpayload.get (show ("vct", Json.str vct) ∈ _ by simp [registered, claimsFor])]
    rfl
  -- the issuer writes no claim that is visible to all
  have hplain : plainMembers payload = [] :=
    (hpayload.plainMembers (by simp)).eq_nil
  have hdisclosures : ((disclosuresFor X draws.claims draws.salts).map Disclosure.encoded).mapM
      (Disclosure.fromEncoded X) = .ok (disclosuresFor X draws.claims draws.salts) := by
    rw [mapM_eq_ok, List.forall₂_map_left_iff, List.forall₂_same]
    exact fun d hd => fromEncoded_of_mem hb64 hserde (proper_walked draws) hd
  have hpaths : (disclosuresFor X draws.claims draws.salts).map (fun d => [Json.str d.claimName]) =
      draws.claims.map fun c => [.str c.1] := by
    have hentries := congrArg (List.map fun c : String × Json => [Json.str c.1])
      (entryOf_disclosuresFor (X := X) draws.claims draws.salts)
    rwa [List.map_map] at hentries
  simp only [sdJwtContents, Json.asStr, Option.bind_eq_bind, Option.bind_some, hparsed, hdecoded, hjson,
    Except.toOption, hvct, hdisclosures, hplain, halg, List.map_nil, hpaths]

end SdJwt

/-! ### mdocs -/

section Mdoc

variable {σ : Type} {ctx : IssuanceContext X σ} {draws : CredentialDraws} {credential : Json}

/-- **What an mdoc was signed from** is read in it. -/
lemma mdocContents_of_signed (hb64 : Base64Url X) (hcbor : CborCodec X) (hcose : CoseCodec X)
    {request : IssueRequest} {status : Option StatusListRef}
    (h : signMdocCredential X ctx request status draws = .ok credential) :
    mdocContents X credential = some {
      type := request.docType
      alg := i64Json (coseAlgorithm ctx.issuerKey.algorithm).val
      claims := request.namespaces.flatMap fun n => n.2.map fun e => [.str n.1, .str e.1]
      visible := [] } := by
  obtain ⟨text, bytes, sign1, i, rfl, htext, hbytes, hfrom, hmso⟩ :=
    issued_of_signed hb64 hcbor hcose h
  obtain ⟨sign1', hfrom', hsame⟩ := fromValue_issuerAuth hcose i
  obtain rfl := Except.ok.inj (hfrom.symm.trans hfrom')
  obtain ⟨signature, -, hsign1⟩ := sign_eq_ok.mp i.sign_eq
  have halg : sign1.protectedHeader.header.alg = some (coseAlgorithm ctx.issuerKey.algorithm) := by
    rw [hsame.header, hsign1]
    rfl
  have helements := elementsIn_issued hcbor i i.issuerAuth
  simp [mdocContents, issuerSignedOf, Json.asStr, htext, hbytes, hfrom, hmso, Except.toOption, halg,
    helements, List.flatMap_map]

lemma mdlElements_names {country : String} {today : ℤ} {elements : List (String × Cbor)}
    (h : mdlElements X country today = .ok elements) : elements.map Prod.fst = mdlElementNames := by
  simp only [mdlElements, bind_eq_ok, pure_eq_ok] at h
  obtain ⟨expiryDate, -, rfl⟩ := h
  rfl

end Mdoc

/-! ### Issuance -/

section Issue

variable {σ : Type} {ctx : IssuanceContext X σ} {key : EcdsaP256KeyPair} {metadata : MetadataConfig}
  {holderJwk : Jwk} {draws : CredentialDraws} {b : Backend σ} {credential : Json}

/-- **An identity credential** is as its configuration has it. -/
lemma identity_asAdvertised (hb64 : Base64Url X) (hserde : SerdeJson X) (hvalues : AllocatesValues ctx)
    (hkey : ctx.issuerKey = key.toKeyPair X) (hclock : Representable b.issuer.clock)
    (h : ((issueSdJwtCredential X (identityConfiguration metadata).toCredentialConfiguration ctx holderJwk
      draws).exec b).1 = .ok credential) :
    ∃ c, sdJwtContents X credential = some c ∧ AsAdvertised (identityConfiguration metadata) c := by
  obtain ⟨vct, status, hvct, hstatus, hsigned⟩ := issueSdJwtCredential_ok hvalues h
  have halg : ctx.issuerKey.algorithm.asStr = "ES256" := by
    rw [hkey]
    rfl
  refine ⟨_, sdJwtContents_of_signed hb64 hserde hsigned hstatus hclock, hvct, ⟨_, rfl, ?_⟩, ?_, rfl, ?_⟩
  · rw [halg]
    exact List.mem_singleton_self _
  · exact draws.walks.map fun c => [Json.str c.1]
  · intro description hdescription
    simp only [PublishedConfiguration.claims, identityConfiguration, Option.bind_some, Option.getD_some,
      List.mem_cons, List.not_mem_nil, or_false] at hdescription
    rcases hdescription with rfl | rfl | rfl <;> rfl

/-- **An mDL** is as its configuration has it. -/
lemma mdl_asAdvertised (hb64 : Base64Url X) (hcbor : CborCodec X) (hcose : CoseCodec X)
    (hkey : ctx.issuerKey = key.toKeyPair X)
    (h : ((issueMdocCredential X mdlConfiguration.toCredentialConfiguration ctx holderJwk draws).exec b).1 =
      .ok credential) :
    ∃ c, mdocContents X credential = some c ∧ AsAdvertised mdlConfiguration c := by
  obtain ⟨signer, docType, country, request, status, hsigner, hrequest, hsigned⟩ :=
    issueMdocCredential_ok h
  have hdocType : docType = mdlDoctype := by
    simp only [mdlSigner, bind_eq_ok, ensure_eq_ok, exists_unit, pure_eq_ok, Prod.mk.injEq] at hsigner
    obtain ⟨_, -, hsame, _, -, -, rfl, -⟩ := hsigner
    exact hsame
  simp only [mdlRequest, bind_eq_ok, ensure_eq_ok, exists_unit, pure_eq_ok] at hrequest
  obtain ⟨elements, helements, -, rfl⟩ := hrequest
  have hnames := mdlElements_names helements
  -- ES256, under its COSE number
  have halg : (coseAlgorithm ctx.issuerKey.algorithm).val = coseEs256 := by
    rw [hkey]
    rfl
  refine ⟨_, mdocContents_of_signed hb64 hcbor hcose hsigned, ?_, ⟨_, rfl, ?_⟩, ?_, rfl, ?_⟩
  · rw [hdocType]
    rfl
  · rw [halg]
    exact List.mem_singleton_self _
  · have hpaths : (elements.map fun e => [Json.str mdlNamespace, Json.str e.1]) =
        mdlElementNames.map fun name => [Json.str mdlNamespace, Json.str name] := by
      rw [← hnames, List.map_map]
      rfl
    simp only [List.flatMap_cons, List.flatMap_nil, List.append_nil, hpaths, PublishedConfiguration.claims,
      mdlConfiguration, Option.bind_some, Option.getD_some, List.map_map]
    exact List.Perm.refl _
  · intro description hdescription
    simp only [PublishedConfiguration.claims, mdlConfiguration, Option.bind_some, Option.getD_some,
      List.mem_map] at hdescription
    obtain ⟨name, -, rfl⟩ := hdescription
    rfl

lemma configurations_cases {mdlFirst : Bool} {configId : String} {published : PublishedConfiguration}
    (h : (configId, published) ∈ configurations metadata mdlFirst) :
    published = identityConfiguration metadata ∨ published = mdlConfiguration := by
  unfold configurations at h
  split_ifs at h
  all_goals
    simp only [List.mem_cons, Prod.mk.injEq, List.not_mem_nil, or_false] at h
    rcases h with ⟨-, rfl⟩ | ⟨-, rfl⟩ <;> simp

/-- **What is issued under a configuration** is as the configuration has it. -/
theorem issueCredential_asAdvertised (hb64 : Base64Url X) (hserde : SerdeJson X) (hcbor : CborCodec X)
    (hcose : CoseCodec X) (hvalues : AllocatesValues ctx) (hkey : ctx.issuerKey = key.toKeyPair X)
    (hclock : Representable b.issuer.clock) {mdlFirst : Bool} {configId : String}
    {published : PublishedConfiguration} (hpublished : (configId, published) ∈ configurations metadata mdlFirst)
    (h : ((issueCredential X configId published.toCredentialConfiguration ctx holderJwk draws).exec b).1 =
      .ok credential) :
    ∃ c, contents X published.format credential = some c ∧ AsAdvertised published c := by
  rcases configurations_cases hpublished with rfl | rfl
  · exact identity_asAdvertised hb64 hserde hvalues hkey hclock h
  · exact mdl_asAdvertised hb64 hcbor hcose hkey h

/-- **One credential a holder key**, each as it is issued. -/
lemma issueCredentials_each {configId : String} {config : CredentialConfiguration} {draws : RequestDraws}
    {P : Json → Prop} {issuer : IssuerWorld}
    (hissue : ∀ (holderJwk : Jwk) (draws : CredentialDraws) (b : Backend σ) (credential : Json),
      b.issuer = issuer →
      ((issueCredential X configId config ctx holderJwk draws).exec b).1 = .ok credential → P credential)
    {holderKeys : List Jwk} :
    ∀ {issued : List Json} {b b' : Backend σ} {response : CredentialResponse}, b.issuer = issuer →
      (∀ credential ∈ issued, P credential) →
      (issueCredentials X configId config ctx draws holderKeys issued).exec b = (.ok response, b') →
      ∃ credentials, response = credentialResponse credentials ∧
        credentials.length = issued.length + holderKeys.length ∧ ∀ credential ∈ credentials, P credential := by
  induction holderKeys with
  | nil =>
    intro issued b b' response _ hissued h
    simp only [issueCredentials, Prog.exec_ret, Prod.mk.injEq, Except.ok.injEq] at h
    obtain ⟨rfl, -⟩ := h
    exact ⟨issued, rfl, rfl, hissued⟩
  | cons holderJwk holderKeys ih =>
    intro issued b b' response hb hissued h
    rw [issueCredentials, Prog.exec_bind] at h
    -- one credential leaves the issuer as it was, so the next is issued at the same time
    have hissuer : ((issueCredential X configId config ctx holderJwk
        (draws.credential issued.length)).exec b).2.issuer = b.issuer := issueCredential_issuer
    have hone := hissue holderJwk (draws.credential issued.length) b
    generalize (issueCredential X configId config ctx holderJwk (draws.credential issued.length)).exec b
      = r at h hissuer hone
    obtain ⟨answer, b₁⟩ := r
    cases answer with
    | error e => simp at h
    | ok credential =>
      have hall : ∀ c ∈ issued ++ [credential], P c := by
        intro c hc
        rcases List.mem_append.mp hc with hc | hc
        · exact hissued c hc
        · rw [List.mem_singleton.mp hc]
          exact hone credential hb rfl
      obtain ⟨credentials, rfl, hlength, hP⟩ := ih (hissuer.trans hb) hall h
      refine ⟨credentials, rfl, ?_, hP⟩
      rw [hlength, List.length_append, List.length_cons, List.length_nil, List.length_cons]
      omega

end Issue

/-! ### The request -/

/-- The type metadata of a credential lists its claims: each of them hidden, and there. -/
structure Describes (document : Json) (c : Contents) : Prop where
  vct : stringMember document "vct" = some c.type
  claims : ∃ entries, document.get "claims" = some (.arr entries) ∧
    (entries.map fun entry => entry.get "path").Perm (c.claims.map fun path => some (.arr path)) ∧
    ∀ entry ∈ entries, entry.get "sd" = some (.str "always") ∧ entry.get "mandatory" = some (.bool true)

/-- The type metadata describes what the identity configuration advertises. -/
lemma describes_of_asAdvertised {config : MetadataConfig} {c : Contents}
    (h : AsAdvertised (identityConfiguration config) c) (issuerName : String) :
    Describes (buildIdentityTypeMetadata ⟨config.issuerUrl, issuerName⟩) c := by
  have htype : config.issuerId ++ identityVctPath = c.type := Option.some.inj h.type
  refine ⟨?_, _, rfl, (h.claims.map fun path => some (Json.arr path)).symm, ?_⟩
  · rw [← htype]
    rfl
  · intro entry hentry
    simp only [List.mem_cons, List.not_mem_nil, or_false] at hentry
    rcases hentry with rfl | rfl | rfl <;> exact ⟨rfl, rfl⟩

/-- **What is advertised is what is issued.** An issuer with the published metadata and a P-256 key
answers a credential request with a credential for each proof, at most ten, all of them of the type,
under the algorithm and with just the claims of the configuration that was asked for; and those of
the identity credential are as the metadata of its type says, each of their claims hidden. -/
theorem issued_asAdvertised (hb64 : Base64Url X) (hserde : SerdeJson X) (hcbor : CborCodec X)
    (hcose : CoseCodec X) {σ : Type} {ctx : IssuanceContext X σ} (hvalues : AllocatesValues ctx)
    {key : EcdsaP256KeyPair} (hkey : ctx.issuerKey = key.toKeyPair X) {config : MetadataConfig}
    {mdlFirst : Bool} (hmetadata : ctx.metadata = (buildMetadata X config mdlFirst).read)
    {request : CredentialRequest} {token : String} {draws : RequestDraws} {b b' : Backend σ}
    {response : CredentialResponse} (hclock : Representable b.issuer.clock)
    (h : (processCredentialRequest X request token ctx draws).exec b = (.ok response, b')) :
    ∃ (grant : AccessGrant) (configId : String) (published : PublishedConfiguration)
      (credentials : List Json),
      (b.issuer.store.getAccessGrant b.issuer.clock token).1 = some grant ∧
      Resolved request grant ctx.metadata configId published.toCredentialConfiguration ∧
      (configId, published) ∈ (buildMetadata X config mdlFirst).credentialConfigurationsSupported ∧
      response.credentials = some (credentials.map IssuedCredential.mk) ∧
      credentials.length = (proofsOf request).length ∧ credentials.length ≤ batchSize ∧
      ∀ credential ∈ credentials, ∃ c, contents X published.format credential = some c ∧
        AsAdvertised published c ∧
        (published.format = "dc+sd-jwt" → ∀ issuerName,
          Describes (buildIdentityTypeMetadata ⟨config.issuerUrl, issuerName⟩) c) := by
  rw [processCredentialRequest_exec] at h
  split at h
  · simp at h
  · next grant hgrant =>
    split at h
    · simp at h
    · next configId supported jwts hcheck =>
      split at h
      · simp at h
      · next proofs hproofs =>
        obtain ⟨hresolved, rfl, -, hlimit⟩ := checkRequest_ok hcheck
        obtain ⟨-, hissued⟩ := consumeNonces_ok h
        have hsupported := resolveConfiguration_ok hresolved
        have hlookup := hsupported.supported
        rw [hmetadata] at hlookup hlimit
        -- the configuration that the issuer read is one of those that it publishes
        obtain ⟨published, hpublished, rfl⟩ :
            ∃ published, (configId, published) ∈ configurations config mdlFirst ∧
              published.toCredentialConfiguration = supported := by
          have hmem : (configId, supported) ∈ (configurations config mdlFirst).map fun entry =>
              (entry.1, entry.2.toCredentialConfiguration) := by
            obtain ⟨before, after, hsplit, -⟩ := List.lookup_eq_some_iff.mp hlookup
            have heq : (configurations config mdlFirst).map (fun entry =>
              (entry.1, entry.2.toCredentialConfiguration)) = _ := hsplit
            rw [heq]
            exact List.mem_append_right _ List.mem_cons_self
          obtain ⟨⟨id, published⟩, hpublished, hsame⟩ := List.mem_map.mp hmem
          obtain ⟨rfl, rfl⟩ := Prod.mk.inj hsame
          exact ⟨published, hpublished, rfl⟩
        -- spending the nonces leaves the clock, so every credential is dated alike
        have hstart : (spendAll (Calls.getAccessGrant token b).2
            (draws.nonces (proofs.map Prod.snd))).issuer.clock = b.issuer.clock := by
          rw [spendAll_clock, (getAccessGrant_frame token b).1]
        have hissue : ∀ (holderJwk : Jwk) (draws' : CredentialDraws) (b₁ : Backend σ) (credential : Json),
            b₁.issuer = (spendAll (Calls.getAccessGrant token b).2
              (draws.nonces (proofs.map Prod.snd))).issuer →
            ((issueCredential X configId published.toCredentialConfiguration ctx holderJwk draws').exec
              b₁).1 = .ok credential →
            ∃ c, contents X published.format credential = some c ∧ AsAdvertised published c := by
          intro holderJwk draws' b₁ credential hb₁ hone
          have hclock' : Representable b₁.issuer.clock := by
            rw [hb₁, hstart]
            exact hclock
          exact issueCredential_asAdvertised hb64 hserde hcbor hcose hvalues hkey hclock' hpublished hone
        obtain ⟨credentials, rfl, hlength, hall⟩ :=
          issueCredentials_each hissue rfl (by simp) hissued
        have hproofsLength := (mapM_eq_ok.mp hproofs).length_eq
        rw [List.length_map, List.length_nil] at hlength
        refine ⟨grant, configId, published, credentials, hgrant, hsupported, hpublished, rfl, by omega,
          ?_, ?_⟩
        · have hbatch : batchLimit (buildMetadata X config mdlFirst).read = batchSize := rfl
          omega
        · intro credential hcredential
          obtain ⟨c, hc, hadvertised⟩ := hall credential hcredential
          refine ⟨c, hc, hadvertised, fun hformat => ?_⟩
          -- only the identity credential has type metadata
          rcases configurations_cases hpublished with rfl | rfl
          · exact describes_of_asAdvertised hadvertised
          · exact absurd hformat (by decide)

/-! ### An identity credential -/

section Sample

def publishedConfig : MetadataConfig := ⟨"https://issuer.example.com/", "Sample Issuer"⟩

def identityVct : String := "https://issuer.example.com/credentials/identity"

/-- What the issuer signs for the first wallet. -/
def identityInput : Bytes :=
  walletInput
    (buildHeader ((possessions.key issuerX issuerY).toKeyPair possessions.crates) (some "dc+sd-jwt"))
    (claimsFor sampleUrl identityVct [] (disclosuresFor possessions.crates demoClaims credentialSalts)
      (some (.obj [("jwk", (holderJwk holderX holderY none).toValue)])) none (seconds 1767225600)).toJson

def identityIssuance : Table :=
  { possessions with
    signatures := ((bigEndian 32 issuerX, bigEndian 32 issuerY), [(identityInput,
        bigEndian 32 0x1427b26c2bfa2cb3e37f36b0ca5c42f1e5a0242cddf7af9f2f9387a9e601c388 ++
          bigEndian 32 0x798d55b7b326a0d02816450eb83a4c7f94c6930ab3adf58dfd0b2cd78f620ed0)]) ::
      possessions.signatures }

/-- An issuer without status lists, and with the metadata that is published. -/
def publishedContext : IssuanceContext identityIssuance.crates Unit where
  issuerKey := (identityIssuance.key issuerX issuerY).toKeyPair identityIssuance.crates
  issuerUrl := sampleUrl
  metadata := (buildMetadata identityIssuance.crates publishedConfig true).read
  allocateStatus := fun _ status => some (.ok none, status)
  x5c := none
  mdoc := none

def identityProof : String :=
  possessionProof identityIssuance holderX holderY none sampleUrl "n-1" 1767225600

def identityRequest (proof : String) : CredentialRequest where
  credentialIdentifier := none
  credentialConfigurationId := some "IdentityCredential_SD_JWT_VC"
  proofs := some ⟨some [proof], []⟩
  proof := none

def identityGrant : AccessGrant := ⟨["IdentityCredential_SD_JWT_VC"], [], none⟩

def identityStore : InMemoryIssuerState :=
  { InMemoryIssuerState.new with
    accessTokens := empty.insert "token" ⟨identityGrant, seconds 1767229200⟩
    cNonces := empty.insert "n-1" ⟨seconds 1767225600, 300⟩ }

def identityBackend : Backend Unit := ⟨⟨seconds 1767225610, 0, identityStore⟩, ()⟩

lemma identity_granted :
    (identityStore.getAccessGrant (seconds 1767225610) "token").1 = some identityGrant := by
  have htoken : identityStore.accessTokens.get "token" = some ⟨identityGrant, seconds 1767229200⟩ :=
    get_insert_self _ _ _
  have hlive : seconds 1767225610 < seconds 1767229200 := by decide
  simp only [InMemoryIssuerState.getAccessGrant, htoken, if_pos hlive]

lemma identity_checked (proof : String) :
    checkRequest (identityRequest proof) publishedContext.metadata identityGrant =
      .ok ("IdentityCredential_SD_JWT_VC",
        (identityConfiguration publishedConfig).toCredentialConfiguration, [proof]) := by
  have hnamed : namedConfiguration (identityRequest proof) identityGrant publishedContext.metadata =
      .ok "IdentityCredential_SD_JWT_VC" := by
    simp [namedConfiguration, identityRequest, identityGrant]
  have hresolved : resolveConfiguration (identityRequest proof) identityGrant publishedContext.metadata =
      .ok ("IdentityCredential_SD_JWT_VC",
        (identityConfiguration publishedConfig).toCredentialConfiguration) := by
    simp only [resolveConfiguration, hnamed, bind_eq_ok, okOr_eq_ok, ensure_eq_ok, exists_unit, pure_eq_ok]
    exact ⟨_, rfl, _, rfl, List.mem_cons_self, rfl⟩
  have hrequested : requestedProofs (identityRequest proof) publishedContext.metadata = .ok [proof] := by
    simp [requestedProofs, identityRequest, publishedContext, buildMetadata, PublishedMetadata.read,
      batchSize, Option.filter_some]
  simp only [checkRequest, hresolved, hrequested, bind_eq_ok, pure_eq_ok]
  exact ⟨_, rfl, _, rfl, rfl⟩

lemma identity_succeeds {proof : String} {holderJwk : Jwk}
    (hproof : verifyProofJwt identityIssuance.crates proof sampleUrl
      (identityConfiguration publishedConfig).toCredentialConfiguration (seconds 1767225610) =
        .ok (holderJwk, "n-1")) :
    ∃ response b', (processCredentialRequest identityIssuance.crates (identityRequest proof) "token"
      publishedContext sampleDraws).exec identityBackend = (.ok response, b') := by
  have hvalid : Valid identityStore (seconds 1767225610) "n-1" :=
    ⟨⟨seconds 1767225600, 300⟩, get_insert_self _ _ _, by decide⟩
  have hsign : ∀ m, ∃ s, publishedContext.issuerKey.sign m = .ok s := fun m => ⟨_, rfl⟩
  refine processed_of_valid identity_granted (identity_checked proof) (.cons hproof .nil)
    (fun verified hverified => ?_) rfl rfl (fun _ _ => rfl) hsign
  rw [List.mem_singleton.mp hverified]
  exact hvalid

/-- The first wallet is issued an identity credential of its three claims. -/
theorem identity_issued : ∃ response b', ∃ credential c,
    (processCredentialRequest identityIssuance.crates (identityRequest identityProof) "token"
      publishedContext sampleDraws).exec identityBackend = (.ok response, b') ∧
    response.credentials = some [⟨credential⟩] ∧
    sdJwtContents identityIssuance.crates credential = some c ∧ c.type = identityVct ∧
    c.claims.Perm [[.str "given_name"], [.str "family_name"], [.str "birth_date"]] := by
  have hproof : verifyProofJwt identityIssuance.crates identityProof sampleUrl
      (identityConfiguration publishedConfig).toCredentialConfiguration (seconds 1767225610) =
        .ok (holderJwk holderX holderY none, "n-1") :=
    possessionProof_verifies holderX holderY none "n-1" (by decide) (by decide) (by decide) (by decide)
  generalize identityProof = proof at hproof ⊢
  obtain ⟨response, b', h⟩ := identity_succeeds hproof
  have hclock : Representable identityBackend.issuer.clock := ⟨by decide, by decide⟩
  have hvalues : AllocatesValues publishedContext := by
    intro draws status v status' h
    simp [publishedContext] at h
  obtain ⟨grant, configId, published, credentials, -, hresolved, hpublished, hcredentials, hlength, -,
    hall⟩ := issued_asAdvertised Table.base64Url Table.serdeJson Table.cborCodec Table.coseCodec hvalues
      rfl rfl hclock h
  obtain ⟨credential, rfl⟩ : ∃ credential, credentials = [credential] :=
    List.length_eq_one_iff.mp hlength
  have hid : configId = "IdentityCredential_SD_JWT_VC" := by
    rcases hresolved.asked with hasked | ⟨identifier, hasked, -⟩
    · exact (Option.some.inj hasked).symm
    · cases hasked
  obtain rfl : published = identityConfiguration publishedConfig := by
    rw [hid] at hpublished
    simpa [buildMetadata, configurations] using hpublished
  obtain ⟨c, hc, hadvertised, -⟩ := hall credential List.mem_cons_self
  exact ⟨response, b', credential, c, h, hcredentials, hc, (Option.some.inj hadvertised.type).symm,
    hadvertised.claims⟩

end Sample

end Oid4vc.Metadata
