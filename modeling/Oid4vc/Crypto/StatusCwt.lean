import Oid4vc.Crypto.Mdoc
import Oid4vc.Crypto.Tables

/-!
Status List Tokens in CWT format, the MSO revocation lists of ISO/IEC 18013-5: a tagged
COSE_Sign1 over the claims, with its type and the certificate chain in the protected header.
-/

namespace Oid4vc.StatusCwt

open Oid4vc.JsonValue Oid4vc.Text Oid4vc.Instant Oid4vc.Fallible Oid4vc.CborValue Oid4vc.Jwks
open Oid4vc.External Oid4vc.Codecs Oid4vc.Keys Oid4vc.Cose Oid4vc.X509 Oid4vc.Mdoc Oid4vc.Tables
open Oid4vc.CborBytes (bigEndian)

def statusListCwtType : String := "application/statuslist+cwt"

/-! CWT claim keys -/

def cwtSub : ℤ := 2
def cwtExp : ℤ := 4
def cwtIat : ℤ := 6
def cwtTtl : ℤ := 65534
def cwtStatusList : ℤ := 65533

/-- A Status List Token in CWT format. -/
structure StatusListCwt where
  /-- The URI the list is published at; also its `sub`. -/
  uri : String
  /-- Bits per status. -/
  bits : BitVec 8
  /-- The ZLIB-compressed status array. -/
  lst : Bytes
  iat : ℤ
  exp : ℤ
  /-- How long a relying party may cache it, in seconds. -/
  ttl : Option (BitVec 64)
  /-- The list signer's certificate chain, leaf first. -/
  x5chain : List Bytes
  iat_representable : Representable iat
  exp_representable : Representable exp

variable (X : Crates)

/-- Encode a COSE_Sign1 tagged with the COSE_Sign1 tag. -/
def toTaggedVec (sign1 : CoseSign1) : Except CoseError Bytes := do
  let value ← (X.coseToValue sign1).mapError .cbor
  (X.cborEncode (.tag 18 value)).mapError .cbor

/-- Decode a COSE_Sign1, tagged or not. -/
def fromSlice (bytes : Bytes) : Except CoseError CoseSign1 := do
  let value ← (X.cborDecode bytes).mapError .cbor
  fromValue X value

/-- What a list says of its array. -/
def statusListOf (list : StatusListCwt) : Cbor :=
  .map [(.text "bits", .integer (ofU64 (list.bits.setWidth 64))), (.text "lst", .bytes list.lst)]

def cwtClaims (list : StatusListCwt) : List (Cbor × Cbor) :=
  [(.integer (int cwtSub), .text list.uri),
    (.integer (int cwtIat), .integer (int (timestamp list.iat))),
    (.integer (int cwtExp), .integer (int (timestamp list.exp)))] ++
  (list.ttl.map fun ttl => (Cbor.integer (int cwtTtl), Cbor.integer (ofU64 ttl))).toList ++
  [(.integer (int cwtStatusList), statusListOf list)]

/-- The parameters of the protected header. -/
def parameters (list : StatusListCwt) : List (CborInt × Cbor) :=
  [(headerTyp, .text statusListCwtType), (headerX5chain, x5chainValue list.x5chain)]

/-- Sign a Status List Token as a tagged COSE_Sign1 with its type and certificate chain in the
protected header. -/
def signStatusListCwt (list : StatusListCwt) (signer : KeyPair) : Except MdocError Bytes := do
  let payload ← encode X (.map (cwtClaims list))
  let token ← (sign X signer payload (parameters list) []).mapError .cose
  (toTaggedVec X token).mapError .cose

/-- A Status List Token whose signature and chain have been checked. -/
structure VerifiedStatusList where
  uri : String
  bits : BitVec 8
  lst : Bytes
  exp : ℤ

/-- An optional text as Rust shows it for debugging. -/
def debugText : Option String → String
  | none => "None"
  | some s => "Some(" ++ X.debugStr s ++ ")"

def claim (claims : Cbor) (key : ℤ) : Except MdocError Cbor :=
  okOr (.malformed ("CWT claim " ++ toString key ++ " is missing"))
    (claims.asMap.bind fun entries => labelled entries key)

/-- An instant of the calendar, from its seconds. -/
def fromTimestamp (secs : ℤ) : Option ℤ :=
  if Representable (seconds secs) then some (seconds secs) else none

/-- A number of seconds, as an instant. -/
def numericDate (v : Cbor) : Option ℤ :=
  v.asInteger.bind fun i =>
    if -2 ^ 63 ≤ i.val ∧ i.val < 2 ^ 63 then fromTimestamp i.val else none

/-- A number of eight bits. -/
def smallInteger (v : Cbor) : Option (BitVec 8) :=
  v.asInteger.bind fun i => if 0 ≤ i.val ∧ i.val < 2 ^ 8 then some (BitVec.ofInt 8 i.val) else none

def readClaims (claims : Cbor) (now : ℤ) : Except MdocError VerifiedStatusList := do
  let exp ← okOr (.malformed "exp is not a NumericDate") (numericDate (← claim claims cwtExp))
  ensure (¬ exp < now) (.validity "the status list has expired")
  let statusList ← claim claims cwtStatusList
  let uri ← okOr (.malformed "sub is not text") (← claim claims cwtSub).asText
  let bits ← okOr (.malformed "bits is not a small integer")
    (smallInteger (← require statusList "bits" "status_list"))
  let lst ← okOr (.malformed "lst is not a byte string")
    (← require statusList "lst" "status_list").asBytes
  pure ⟨uri, bits, lst, exp⟩

/-- Verify a Status List Token in CWT format against trust anchors. -/
def verifyStatusListCwt (token : Bytes) (trustAnchors : List Bytes) (now : ℤ) :
    Except MdocError VerifiedStatusList := do
  let token ← (fromSlice X token).mapError .cose
  let typ := (token.protectedHeader.header.rest.lookup headerTyp).bind Cbor.asText
  ensure (typ = some statusListCwtType)
    (.malformed ("typ is " ++ debugText X typ ++ ", not " ++ statusListCwtType))
  let chain ← (Cose.x5chain token.protectedHeader.header).mapError .cose
  let key ← (validateChain X chain trustAnchors now).mapError fun e => .untrusted e.toString
  (verify X token key).mapError fun e => .issuerSignature e.toString
  let claims ← decode X (token.payload.getD [])
  readClaims claims now

variable {X}

/-! ### Claims -/

lemma claim_eq {claims : List (Cbor × Cbor)} {key : ℤ} {v : Cbor}
    (h : labelled claims key = some v) : claim (.map claims) key = .ok v := by
  rw [claim, Cbor.asMap_map, Option.bind_some, h]
  rfl

lemma labelled_self (key : ℤ) (v : Cbor) (es : List (Cbor × Cbor)) :
    labelled ((.integer (int key), v) :: es) key = some v := by
  rw [labelled_cons, if_pos rfl]

lemma labelled_of_ne {a b : ℤ} (h : int a ≠ int b) (v : Cbor) (es : List (Cbor × Cbor)) :
    labelled ((.integer (int a), v) :: es) b = labelled es b := by
  rw [labelled_cons, if_neg h]

lemma claim_sub (list : StatusListCwt) :
    claim (.map (cwtClaims list)) cwtSub = .ok (.text list.uri) := claim_eq (labelled_self _ _ _)

lemma claim_exp (list : StatusListCwt) :
    claim (.map (cwtClaims list)) cwtExp = .ok (.integer (int (timestamp list.exp))) := by
  apply claim_eq
  rw [cwtClaims, List.append_assoc, List.cons_append, labelled_of_ne (by decide),
    List.cons_append, labelled_of_ne (by decide), List.cons_append, labelled_self]

/-- The status list comes last, after a claim that is there or not. -/
lemma claim_statusList (list : StatusListCwt) :
    claim (.map (cwtClaims list)) cwtStatusList = .ok (statusListOf list) := by
  apply claim_eq
  have hself : labelled [(.integer (int cwtStatusList), statusListOf list)] cwtStatusList =
      some (statusListOf list) := labelled_self _ _ _
  have hfirst : ∀ es, labelled ([(.integer (int cwtSub), .text list.uri),
      (.integer (int cwtIat), .integer (int (timestamp list.iat))),
      (.integer (int cwtExp), .integer (int (timestamp list.exp)))] ++ es) cwtStatusList =
      labelled es cwtStatusList := by
    intro es
    rw [List.cons_append, labelled_of_ne (by decide), List.cons_append,
      labelled_of_ne (by decide), List.cons_append, labelled_of_ne (by decide), List.nil_append]
  rw [cwtClaims, List.append_assoc, hfirst]
  cases list.ttl with
  | none => exact hself
  | some ttl =>
    have hne : int cwtTtl ≠ int cwtStatusList := by decide
    rw [Option.map_some, Option.toList_some, List.singleton_append, labelled_of_ne hne]
    exact hself

/-! ### Values -/

/-- An instant of the calendar has seconds of 64 bits. -/
lemma numericDate_timestamp {t : ℤ} (h : Representable t) :
    numericDate (.integer (int (timestamp t))) = some (wholeSeconds t) := by
  obtain ⟨hlow, hhigh⟩ := h
  have hval : (int (timestamp t)).val = timestamp t := int_val ⟨by omega, by omega⟩
  have hwhole : timestamp (seconds (timestamp t)) = timestamp t := by
    unfold timestamp seconds
    omega
  have hrepresentable : Representable (seconds (timestamp t)) := by
    unfold Representable
    rw [hwhole]
    exact ⟨hlow, hhigh⟩
  rw [numericDate, Cbor.asInteger_integer, Option.bind_some, hval, if_pos ⟨by omega, by omega⟩,
    fromTimestamp, if_pos hrepresentable, wholeSeconds]

lemma smallInteger_setWidth (b : BitVec 8) :
    smallInteger (.integer (ofU64 (b.setWidth 64))) = some b := by
  have hlt := b.isLt
  have hval : (ofU64 (b.setWidth 64)).val = b.toNat := by
    simp only [ofU64, BitVec.toNat_setWidth]
    omega
  have hback : BitVec.ofInt 8 (b.toNat : ℤ) = b := by
    rw [BitVec.ofInt_natCast, BitVec.ofNat_toNat, BitVec.setWidth_eq]
  rw [smallInteger, Cbor.asInteger_integer, Option.bind_some, hval, if_pos ⟨by omega, by omega⟩, hback]

lemma require_bits (list : StatusListCwt) : require (statusListOf list) "bits" "status_list" =
    .ok (.integer (ofU64 (list.bits.setWidth 64))) := rfl

lemma require_lst (list : StatusListCwt) : require (statusListOf list) "lst" "status_list" =
    .ok (.bytes list.lst) := by
  simp [require, Mdoc.get, statusListOf, okOr_some]

/-- **The claims of a list are read back** until it expires. -/
lemma readClaims_cwtClaims (list : StatusListCwt) {now : ℤ} (h : now ≤ wholeSeconds list.exp) :
    readClaims (.map (cwtClaims list)) now =
      .ok ⟨list.uri, list.bits, list.lst, wholeSeconds list.exp⟩ := by
  have hexp := numericDate_timestamp list.exp_representable
  simp only [readClaims, claim_exp, claim_statusList, claim_sub, bind_eq_ok, okOr_eq_ok,
    ensure_eq_ok, exists_unit, pure_eq_ok, Except.ok.injEq, exists_eq_left', require_bits,
    require_lst]
  refine ⟨_, hexp, by omega, list.uri, rfl, list.bits, smallInteger_setWidth _, list.lst, rfl, rfl⟩

lemma readClaims_expired (list : StatusListCwt) {now : ℤ} (h : wholeSeconds list.exp < now)
    (v : VerifiedStatusList) : readClaims (.map (cwtClaims list)) now ≠ .ok v := by
  intro hread
  have hexp := numericDate_timestamp list.exp_representable
  simp only [readClaims, claim_exp, bind_eq_ok, okOr_eq_ok, ensure_eq_ok, exists_unit,
    Except.ok.injEq, exists_eq_left'] at hread
  obtain ⟨exp, hdate, hvalid, -⟩ := hread
  rw [hexp, Option.some.injEq] at hdate
  exact hvalid (hdate ▸ h)

/-! ### Tokens -/

lemma plain_parameters (list : StatusListCwt) (key : KeyPair) :
    (protectedHeader key (parameters list)).header.Plain := by
  have hne : headerTyp ≠ headerX5chain := by decide
  refine ⟨?_, ?_⟩
  · simp [protectedHeader, parameters, hne]
  · intro p hp
    rcases List.mem_cons.mp hp with rfl | hp
    · decide
    · rw [List.mem_singleton.mp hp]
      change 9 < headerX5chain.val
      decide

/-- **A COSE_Sign1 is read back**, tagged as it was written. -/
lemma fromSlice_toTaggedVec (hcbor : CborCodec X) (hcose : CoseParameters X) {s : CoseSign1}
    (horiginal : s.protectedHeader.originalData = none) (hheader : s.protectedHeader.header.Plain)
    (hplain : s.unprotectedHeader.Plain) (halg : s.unprotectedHeader.alg = none) :
    ∃ bytes s', toTaggedVec X s = .ok bytes ∧ fromSlice X bytes = .ok s' ∧ CoseSame X s s' := by
  obtain ⟨items, s', hto, hfrom, hsame⟩ := hcose.roundTrip s horiginal hheader hplain halg
  obtain ⟨bytes, hbytes⟩ := hcbor.total (.tag 18 (.array items))
  refine ⟨bytes, s', ?_, ?_, hsame⟩
  · simp only [toTaggedVec, bind_eq_ok, mapError_eq_ok]
    exact ⟨_, hto, hbytes⟩
  · have hvalue : fromValue X (.tag 18 (.array items)) = .ok s' := by
      rw [fromValue]
      simp only [if_true, mapError_eq_ok, hfrom]
    simp only [fromSlice, bind_eq_ok, mapError_eq_ok]
    exact ⟨_, hcbor.decode_encode _ _ hbytes, hvalue⟩

/-- What signing a list makes: a token that is read back as the signature over its claims. -/
lemma signStatusListCwt_spec (hcbor : CborCodec X) (hcose : CoseParameters X) {k : SigningKey}
    (hsigns : k.Signs) (list : StatusListCwt) :
    ∃ token payload s s', signStatusListCwt X list (k.toKeyPair X) = .ok token ∧
      X.cborDecode payload = .ok (.map (cwtClaims list)) ∧
      sign X (k.toKeyPair X) payload (parameters list) [] = .ok s ∧
      fromSlice X token = .ok s' ∧ CoseSame X s s' := by
  obtain ⟨payload, hpayload⟩ := hcbor.total (.map (cwtClaims list))
  obtain ⟨signature, hsignature⟩ := @SigningKey.sign_total X k hsigns
    (X.coseSigStructure (protectedHeader (k.toKeyPair X) (parameters list)) payload)
  have hsign : sign X (k.toKeyPair X) payload (parameters list) [] =
      .ok ⟨protectedHeader (k.toKeyPair X) (parameters list), unprotectedHeader [], some payload,
        signature⟩ := sign_eq_ok.mpr ⟨signature, hsignature, rfl⟩
  obtain ⟨token, s', htagged, hslice, hsame⟩ := fromSlice_toTaggedVec hcbor hcose
    (s := ⟨protectedHeader (k.toKeyPair X) (parameters list), unprotectedHeader [], some payload,
      signature⟩) rfl (plain_parameters list _)
    ⟨List.nodup_nil, fun p hp => absurd hp List.not_mem_nil⟩ rfl
  refine ⟨token, payload, _, s', ?_, hcbor.decode_encode _ _ hpayload, hsign, hslice, hsame⟩
  simp only [signStatusListCwt, bind_eq_ok, mapError_eq_ok, encode]
  exact ⟨payload, hpayload, _, hsign, htagged⟩

/-- **Status List Tokens in CWT format round trip.** Every list is signed, and its token verifies
until the list expires, at a whole second, under trust anchors that certify the signer's key; after
that it is rejected. -/
theorem verify_signStatusListCwt
    (hb64 : ∀ bytes, X.base64UrlDecode (X.base64UrlEncode bytes) = .ok bytes)
    (hcbor : CborCodec X) (hcose : CoseParameters X) {k : SigningKey} (hk : k.Correct X)
    (hsigns : k.Signs) (list : StatusListCwt) :
    ∃ token, signStatusListCwt X list (k.toKeyPair X) = .ok token ∧
      ∀ trustAnchors now,
        ((∃ leaf, validateChain X list.x5chain trustAnchors now = .ok leaf ∧
            leaf.publicMembers = (k.toKeyPair X).publicJwk.publicMembers) →
          now ≤ wholeSeconds list.exp →
          verifyStatusListCwt X token trustAnchors now =
            .ok ⟨list.uri, list.bits, list.lst, wholeSeconds list.exp⟩) ∧
        (wholeSeconds list.exp < now →
          ∀ v, verifyStatusListCwt X token trustAnchors now ≠ .ok v) := by
  obtain ⟨token, payload, s, s', htoken, hclaims, hsign, hslice, hsame⟩ :=
    signStatusListCwt_spec hcbor hcose hsigns list
  obtain ⟨signature, -, hs⟩ := sign_eq_ok.mp hsign
  have hpayload : s'.payload.getD [] = payload := by
    rw [hsame.payload, hs]
    rfl
  refine ⟨token, htoken, fun trustAnchors now => ⟨?_, ?_⟩⟩
  · rintro ⟨leaf, hchain, hleaf⟩ hnow
    have hne : list.x5chain ≠ [] := by
      obtain ⟨der, rest, _, hcons, -⟩ := validateChain_leaf hchain
      simp [hcons]
    have hrest : s'.protectedHeader.header.rest = parameters list := by
      rw [hsame.header, hs]
      rfl
    have htyp : (s'.protectedHeader.header.rest.lookup headerTyp).bind Cbor.asText =
        some statusListCwtType := by
      rw [hrest, parameters, List.lookup_cons_self]
      rfl
    have hx5chain : Cose.x5chain s'.protectedHeader.header = .ok list.x5chain := by
      apply x5chain_of_lookup hne
      have htypNe : (headerX5chain == headerTyp) = false := by decide
      rw [hrest, parameters, List.lookup_cons, htypNe, List.lookup_cons_self]
    have hverified := verify_of_sign hb64 hk hsign hsame hleaf
    simp only [verifyStatusListCwt, bind_eq_ok, mapError_eq_ok, ensure_eq_ok, exists_unit, decode]
    refine ⟨s', hslice, htyp, list.x5chain, hx5chain, leaf, hchain, hverified,
      .map (cwtClaims list), ?_, ?_⟩
    · rw [hpayload]
      exact hclaims
    · exact readClaims_cwtClaims list hnow
  · intro hnow v hv
    simp only [verifyStatusListCwt, bind_eq_ok, mapError_eq_ok, ensure_eq_ok, exists_unit,
      decode] at hv
    obtain ⟨t, ht, -, -, -, -, -, -, claims, hdecoded, hread⟩ := hv
    -- the token holds the claims of the list, whichever chain comes with it
    have hsame' : t = s' := Except.ok.inj (ht.symm.trans hslice)
    rw [hsame', hpayload, hclaims, Except.ok.injEq] at hdecoded
    exact readClaims_expired list hnow v (hdecoded ▸ hread)

/-! ### A list of the document signer -/

section Sample

/-- A list that expires an hour and a fraction of a second after it was issued. -/
def sampleList : StatusListCwt where
  uri := "https://issuer.example.com/status/mdoc"
  bits := 1
  lst := bigEndian 3 0x789c01
  iat := seconds 1767225600 + 123456789
  exp := seconds 1767229200 + 123456789
  ttl := some 300
  x5chain := [signerDer]
  iat_representable := by decide
  exp_representable := by decide

def sampleListInput : Bytes :=
  sigStructure ⟨none, ⟨some (coseAlgorithm .es256), parameters sampleList⟩⟩
    (CborBytes.encode (.map (cwtClaims sampleList)))

def listTable : Table :=
  pki []
    [(sampleListInput,
      bigEndian 32 0x2762020dade1896e6d54efc2df93556896fc5ce48ec52f949674fa059a0e8514 ++
        bigEndian 32 0xef29cef4b98ed9a4b73552645edbb850899d54c4a07611ee019490f0c4c7fbd1)] [] []

/-- The list of the document signer is verified until the second in which it expires. -/
theorem sampleList_verifies :
    ∃ token, signStatusListCwt listTable.crates sampleList
        ((listTable.key signerX signerY).toKeyPair listTable.crates) = .ok token ∧
      verifyStatusListCwt listTable.crates token [rootDer] (seconds 1767229200) =
        .ok ⟨"https://issuer.example.com/status/mdoc", 1, bigEndian 3 0x789c01, seconds 1767229200⟩ ∧
      ∀ v, verifyStatusListCwt listTable.crates token [rootDer] (seconds 1767229200 + 1) ≠ .ok v := by
  have hexp : wholeSeconds sampleList.exp = seconds 1767229200 := by decide
  obtain ⟨token, htoken, hverifies⟩ := verify_signStatusListCwt (X := listTable.crates)
    Table.base64Url.decode_encode Table.cborCodec Table.coseParameters
    (Table.key_correct signerX signerY) (Table.key_signs signerX signerY) sampleList
  refine ⟨token, htoken, ?_, ?_⟩
  · have hchain := @validateChain_pki _ _ _ _ listTable rfl (seconds 1767229200) (by decide) (by decide)
    have h := (hverifies [rootDer] (seconds 1767229200)).1 hchain hexp.ge
    rw [hexp] at h
    exact h
  · exact (hverifies [rootDer] (seconds 1767229200 + 1)).2 (by decide)

end Sample

end Oid4vc.StatusCwt
