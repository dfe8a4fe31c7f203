import Oid4vc.Base.CborBytes
import Oid4vc.Base.JsonText
import Oid4vc.Base.Percent
import Oid4vc.Crates
import Mathlib.Data.List.Sort

/-!
What the codecs document: base64url, JSON, CBOR and COSE read back what they write. Real
codecs that do so, for JSON without white space and without numbers in scientific notation.
-/

namespace Oid4vc.Codecs

open Oid4vc.JsonValue Oid4vc.Text Oid4vc.Fallible Oid4vc.CborValue Oid4vc.Jwks Oid4vc.External
open Oid4vc.JsonText Oid4vc.CborBytes

/-- base64ct with padding, in the standard alphabet. -/
structure Base64Padded (X : Crates) : Prop where
  decode_encode : ∀ bytes, X.base64Decode (X.base64Encode bytes) = .ok bytes
  alphabet : ∀ bytes, ∀ c ∈ (X.base64Encode bytes).toList,
    c.isAlphanum = true ∨ c = '+' ∨ c = '/' ∨ c = '='

/-- base64ct without padding, in the URL-safe alphabet. -/
structure Base64Url (X : Crates) : Prop where
  decode_encode : ∀ bytes, X.base64UrlDecode (X.base64UrlEncode bytes) = .ok bytes
  alphabet : ∀ bytes, '.' ∉ (X.base64UrlEncode bytes).toList ∧ '~' ∉ (X.base64UrlEncode bytes).toList
  nonempty : ∀ bytes, bytes ≠ [] → X.base64UrlEncode bytes ≠ ""

/-- serde_json on values, on structures that are written member by member, and on headers. -/
structure SerdeJson (X : Crates) : Prop where
  object : ∀ members : List (String × Json), (members.map Prod.fst).Nodup →
    Json.ProperMembers members → ∃ sorted : List (String × Json), sorted.Perm members ∧
      X.jsonFromSlice (X.jsonToVec (.obj members)) = .ok (.obj sorted)
  array : ∀ items : List Json, Json.ProperItems items →
    X.jsonArrayFromSlice (X.jsonToVec (.arr items)) = .ok items
  nonempty : ∀ v : Json, X.jsonToVec v ≠ []
  header : ∀ header : JwsHeader, X.headerFromSlice (X.jsonToVec header.toJson) = .ok header

/-- ciborium, writing to memory. -/
structure CborCodec (X : Crates) : Prop where
  total : ∀ v, ∃ bytes, X.cborEncode v = .ok bytes
  decode_encode : ∀ v bytes, X.cborEncode v = .ok bytes → X.cborDecode bytes = .ok v

/-- What is kept of a `COSE_Sign1` that is written and read again. -/
structure CoseSame (X : Crates) (s s' : CoseSign1) : Prop where
  header : s'.protectedHeader.header = s.protectedHeader.header
  unprotectedHeader : s'.unprotectedHeader = s.unprotectedHeader
  payload : s'.payload = s.payload
  signature : s'.signature = s.signature
  sigStructure : ∀ payload, X.coseSigStructure s'.protectedHeader payload =
    X.coseSigStructure s.protectedHeader payload

/-- coset: a `COSE_Sign1` with the algorithm as its only protected parameter is an array, and
is read back; and what is signed determines the payload. -/
structure CoseCodec (X : Crates) : Prop where
  roundTrip : ∀ s : CoseSign1, s.protectedHeader.originalData = none →
    s.protectedHeader.header.rest = [] → s.unprotectedHeader.Plain →
    s.unprotectedHeader.alg = none →
    ∃ items s', X.coseToValue s = .ok (.array items) ∧ X.coseFromValue (.array items) = .ok s' ∧
      CoseSame X s s'
  sigStructure_inj : ∀ h h' payload payload',
    X.coseSigStructure h payload = X.coseSigStructure h' payload' → payload = payload'

/-- coset: a `COSE_Sign1` with parameters that have no field of their own, protected or not, is an
array, and is read back. -/
structure CoseParameters (X : Crates) : Prop where
  roundTrip : ∀ s : CoseSign1, s.protectedHeader.originalData = none →
    s.protectedHeader.header.Plain → s.unprotectedHeader.Plain → s.unprotectedHeader.alg = none →
    ∃ items s', X.coseToValue s = .ok (.array items) ∧ X.coseFromValue (.array items) = .ok s' ∧
      CoseSame X s s'

/-- urlencoding: a letter, a digit, `-`, `.`, `_` and `~` stand for themselves, and any other byte is
written as two digits after a percent sign. -/
structure UrlEncoding (X : Crates) : Prop where
  encode : ∀ bytes, X.urlencode bytes = Percent.encode bytes

/-- A character that is visible in ASCII, or a blank. -/
def Visible (c : Char) : Prop := 32 ≤ c.toNat ∧ c.toNat < 127

instance (c : Char) : Decidable (Visible c) := inferInstanceAs (Decidable (_ ∧ _))

/-- http: a header value of visible ASCII characters is read as its text. -/
structure HeaderValues (X : Crates) : Prop where
  toStr : ∀ s : String, (∀ c ∈ s.toList, Visible c) → X.headerToStr (utf8 s) = .ok s

/-- chrono: a whole second of a year of four digits is read back as it is written. -/
structure Rfc3339 (X : Crates) : Prop where
  parse_seconds : ∀ n : ℤ, -62167219200 ≤ n → n < 253402300800 →
    X.parseRfc3339 (X.rfc3339Seconds (n * 1000000000)) = some (n * 1000000000)

variable {X : Crates}

lemma CborCodec.inj (h : CborCodec X) {v w : Cbor} {bytes : Bytes}
    (hv : X.cborEncode v = .ok bytes) (hw : X.cborEncode w = .ok bytes) : v = w := by
  have := h.decode_encode w bytes hw
  rw [h.decode_encode v bytes hv, Except.ok.injEq] at this
  exact this

lemma Base64Url.inj (h : Base64Url X) {a b : Bytes}
    (hab : X.base64UrlEncode a = X.base64UrlEncode b) : a = b := by
  have := h.decode_encode a
  rw [hab, h.decode_encode b, Except.ok.injEq] at this
  exact this.symm

lemma SerdeJson.congr {Y : Crates} (h : SerdeJson X) (hvec : Y.jsonToVec = X.jsonToVec)
    (hslice : Y.jsonFromSlice = X.jsonFromSlice)
    (harray : Y.jsonArrayFromSlice = X.jsonArrayFromSlice)
    (hheader : Y.headerFromSlice = X.headerFromSlice) : SerdeJson Y := by
  constructor
  · rw [hvec, hslice]
    exact h.object
  · rw [hvec, harray]
    exact h.array
  · rw [hvec]
    exact h.nonempty
  · rw [hvec, hheader]
    exact h.header

/-! ### Codecs -/

def jsonBytes (v : Json) : Bytes := utf8 (String.ofList (print v))

def readJson (bytes : Bytes) : Except String Json :=
  okOr "expected value" ((decodeUtf8 bytes).bind fun s => parse s.toList)

/-- The members of an object in the order they are kept. -/
def sortMembers : Json → Json
  | .obj members => .obj (members.mergeSort fun a b => decide (a.1 ≤ b.1))
  | v => v

/-- An array of strings, or nothing. -/
def optStrings (j : Json) (name : String) : Option (Option (List String)) :=
  match j.get name with
  | none => some none
  | some .null => some none
  | some v => v.asStrings.map some

/-- A key in a header, or nothing. -/
def optJwk (j : Json) (name : String) : Option (Option Jwk) :=
  match j.get name with
  | none => some none
  | some .null => some none
  | some v => (Jwk.ofJson v).map some

def headerOfJson (j : Json) : Option JwsHeader := do
  let alg ← (j.get "alg").bind Json.asStr
  let typ ← optMember j "typ"
  let kid ← optMember j "kid"
  let jwk ← optJwk j "jwk"
  let x5c ← optStrings j "x5c"
  some ⟨alg, typ, kid, jwk, x5c⟩

/-- The label of the algorithm. -/
def algLabel : CborInt := ofU64 1

def headerEntries (h : CoseHeader) : List (Cbor × Cbor) :=
  (h.alg.map fun a => (Cbor.integer algLabel, Cbor.integer a)).toList ++
    h.rest.map fun p => (.integer p.1, p.2)

/-- The protected header as it is signed: no bytes at all if it is empty. -/
def protectedBytes (h : ProtectedHeader) : Bytes :=
  h.originalData.getD (if (headerEntries h.header).isEmpty then []
    else encode (.map (headerEntries h.header)))

/-- A parameter with no field of its own. -/
def plainParameter : Cbor × Cbor → Option (CborInt × Cbor)
  | (.integer label, v) => if 9 < label.val then some (label, v) else none
  | _ => none

def readHeader (entries : List (Cbor × Cbor)) : CoseHeader where
  alg := ((entries.find? fun e => e.1.asInteger == some algLabel).map Prod.snd).bind Cbor.asInteger
  rest := entries.filterMap plainParameter

def readProtected (bytes : Bytes) : Except String ProtectedHeader :=
  if bytes.isEmpty then .ok ⟨some bytes, ⟨none, []⟩⟩
  else
    match CborBytes.decode bytes with
    | some (.map entries) => .ok ⟨some bytes, readHeader entries⟩
    | _ => .error "invalid protected header"

/-- A payload that may be detached. -/
def payloadValue : Option Bytes → Cbor
  | none => .null
  | some bytes => .bytes bytes

def readPayload : Cbor → Except String (Option Bytes)
  | .null => .ok none
  | .bytes bytes => .ok (some bytes)
  | _ => .error "expected bstr or nil"

def sign1Items (s : CoseSign1) : List Cbor :=
  [.bytes (protectedBytes s.protectedHeader), .map (headerEntries s.unprotectedHeader),
    payloadValue s.payload, .bytes s.signature]

def readSign1 : Cbor → Except String CoseSign1
  | .array [.bytes protectedHeader, .map unprotectedHeader, payload, .bytes signature] => do
    let protectedHeader ← readProtected protectedHeader
    let payload ← readPayload payload
    pure ⟨protectedHeader, readHeader unprotectedHeader, payload, signature⟩
  | _ => .error "expected an array of 4"

/-- What is signed. -/
def sigStructure (h : ProtectedHeader) (payload : Bytes) : Bytes :=
  encode (.array [.text "Signature1", .bytes (protectedBytes h), .bytes [], .bytes payload])

/-- The text of a header value: visible ASCII, blanks and tabs. -/
def readVisible (value : Bytes) : Except String String :=
  if value.all (fun b => (32 ≤ b && b < 127) || b == 9) = true then
    .ok (String.ofList (value.map fun b => Char.ofNat b.toNat))
  else .error "failed to convert header to a str"

/-- Crates with codecs, and nothing else that succeeds. -/
def codecs : Crates :=
  { Crates.inert with
    base64UrlEncode := Base64.encode '-' '_'
    base64UrlDecode := decodeBase64Url
    jsonToVec := jsonBytes
    jsonFromSlice := fun bytes => (readJson bytes).map sortMembers
    jsonArrayFromSlice := fun bytes => do
      let v ← readJson bytes
      okOr "expected a sequence" (match v with | .arr items => some items | _ => none)
    headerFromSlice := fun bytes => do
      let v ← readJson bytes
      okOr "invalid header" (headerOfJson v)
    urlencode := Percent.encode
    headerToStr := readVisible
    cborEncode := fun v => .ok (encode v)
    cborDecode := fun bytes => okOr "unexpected end" (CborBytes.decode bytes)
    coseToValue := fun s => .ok (.array (sign1Items s))
    coseFromValue := readSign1
    coseSigStructure := sigStructure }

lemma readJson_jsonBytes (v : Json) : readJson (jsonBytes v) = .ok v := by
  simp [readJson, jsonBytes, decodeUtf8_utf8, parse_print]

lemma codecs_alphabet (bytes : Bytes) :
    '.' ∉ (codecs.base64UrlEncode bytes).toList ∧ '~' ∉ (codecs.base64UrlEncode bytes).toList := by
  have hdigit : ∀ i < 64, Base64.digit '-' '_' i ≠ '.' ∧ Base64.digit '-' '_' i ≠ '~' := by decide
  simp only [codecs, Base64.encode, String.toList_ofList, List.mem_map, not_exists, not_and]
  exact ⟨fun i hi => (hdigit i (Base64.sextets_lt i hi)).1,
    fun i hi => (hdigit i (Base64.sextets_lt i hi)).2⟩

lemma urlEncoding_codecs : UrlEncoding codecs := ⟨fun _ => rfl⟩

theorem base64Url_codecs : Base64Url codecs where
  decode_encode bytes := by
    simp [codecs, decodeBase64Url, Base64.decode_encode Base64.alphabet_urlSafe]
  alphabet := codecs_alphabet
  nonempty bytes h := by
    intro he
    have := congrArg (Base64.decode '-' '_') he
    rw [codecs, Base64.decode_encode Base64.alphabet_urlSafe] at this
    exact h (Option.some.inj this)

lemma optMember_find {j : Json} {name : String} {value : Option String}
    (h : j.get name = value.map Json.str) : optMember j name = some value := by
  unfold optMember
  cases value with
  | none => simp [h]
  | some s => simp [h, optString]

lemma find_member (n name : String) (value : Option String) :
    (member n value).find? (fun m => m.1 == name) =
      if n = name then value.map fun s => (n, Json.str s) else none := by
  cases value with
  | none => simp [member]
  | some s =>
    by_cases h : n = name
    · simp [member, h]
    · simp [member, h]

lemma ofJson_toJson (k : Jwk) : Jwk.ofJson k.toJson = some k := by
  have hkty : k.toJson.get "kty" = some (.str k.kty) := by simp [Json.get, Jwk.toJson]
  have hget : ∀ {name : String} {value : Option String},
      (name, value) ∈ [("crv", k.crv), ("x", k.x), ("y", k.y), ("d", k.d), ("alg", k.alg),
        ("kid", k.kid), ("use", k.use)] → optMember k.toJson name = some value := by
    intro name value h
    apply optMember_find
    simp only [List.mem_cons, Prod.mk.injEq, List.not_mem_nil, or_false] at h
    rcases h with ⟨rfl, rfl⟩ | ⟨rfl, rfl⟩ | ⟨rfl, rfl⟩ | ⟨rfl, rfl⟩ | ⟨rfl, rfl⟩ | ⟨rfl, rfl⟩ |
      ⟨rfl, rfl⟩ <;>
    simp [Json.get, Jwk.toJson, List.find?_append, find_member, Function.comp_def]
  obtain ⟨members, hmembers⟩ : ∃ members, k.toJson = .obj members := ⟨_, rfl⟩
  rw [hmembers] at hkty hget ⊢
  simp [Jwk.ofJson, hkty, hget]

lemma asStrings_str (certs : List String) :
    (Json.arr (certs.map Json.str)).asStrings = some certs := by
  simp only [Json.asStrings]
  induction certs with
  | nil => rfl
  | cons c cs ih => simp [ih]

lemma headerOfJson_toJson (h : JwsHeader) : headerOfJson h.toJson = some h := by
  obtain ⟨alg, typ, kid, jwk, x5c⟩ := h
  have halg : ((JwsHeader.toJson ⟨alg, typ, kid, jwk, x5c⟩).get "alg") = some (.str alg) := by
    simp [Json.get, JwsHeader.toJson]
  have htyp : optMember (JwsHeader.toJson ⟨alg, typ, kid, jwk, x5c⟩) "typ" = some typ := by
    apply optMember_find
    cases jwk <;> cases x5c <;>
      simp [Json.get, JwsHeader.toJson, List.find?_append, find_member, Function.comp_def]
  have hkid : optMember (JwsHeader.toJson ⟨alg, typ, kid, jwk, x5c⟩) "kid" = some kid := by
    apply optMember_find
    cases jwk <;> cases x5c <;>
      simp [Json.get, JwsHeader.toJson, List.find?_append, find_member, Function.comp_def]
  have hjwk : optJwk (JwsHeader.toJson ⟨alg, typ, kid, jwk, x5c⟩) "jwk" = some jwk := by
    have hget : (JwsHeader.toJson ⟨alg, typ, kid, jwk, x5c⟩).get "jwk" = jwk.map Jwk.toJson := by
      cases jwk <;> cases x5c <;>
        simp [Json.get, JwsHeader.toJson, List.find?_append, find_member]
    unfold optJwk
    rw [hget]
    cases jwk with
    | none => rfl
    | some k =>
      obtain ⟨members, hmembers⟩ : ∃ members, k.toJson = .obj members := ⟨_, rfl⟩
      have := ofJson_toJson k
      rw [hmembers] at this
      simp [hmembers, this]
  have hx5c : optStrings (JwsHeader.toJson ⟨alg, typ, kid, jwk, x5c⟩) "x5c" = some x5c := by
    have hget : (JwsHeader.toJson ⟨alg, typ, kid, jwk, x5c⟩).get "x5c" =
        x5c.map fun certs => Json.arr (certs.map .str) := by
      cases jwk <;> cases x5c <;>
        simp [Json.get, JwsHeader.toJson, List.find?_append, find_member]
    unfold optStrings
    rw [hget]
    cases x5c with
    | none => rfl
    | some certs => simp [asStrings_str]
  simp [headerOfJson, halg, htyp, hkid, hjwk, hx5c]

/-- The codecs read back what they write. -/
theorem serdeJson_codecs : SerdeJson codecs where
  object members _ _ := by
    refine ⟨members.mergeSort fun a b => decide (a.1 ≤ b.1), List.mergeSort_perm _ _, ?_⟩
    simp only [codecs, readJson_jsonBytes]
    rfl
  array items _ := by
    simp [codecs, readJson_jsonBytes]
  nonempty v he := by
    have := readJson_jsonBytes v
    rw [show jsonBytes v = [] from he] at this
    cases this
  header h := by
    simp [codecs, readJson_jsonBytes, headerOfJson_toJson]

lemma jsonFromSlice_codecs (v : Json) :
    codecs.jsonFromSlice (codecs.jsonToVec v) = .ok (sortMembers v) := by
  have hslice : codecs.jsonFromSlice = fun bytes => (readJson bytes).map sortMembers := rfl
  have hvec : codecs.jsonToVec = jsonBytes := rfl
  rw [hslice, hvec]
  simp only [readJson_jsonBytes, Except.map]

lemma cborCodec_codecs : CborCodec codecs where
  total v := ⟨encode v, rfl⟩
  decode_encode := by
    rintro v bytes ⟨⟩
    simp [codecs, CborBytes.decode_encode]

/-- Only the algorithm has a field of its own. -/
lemma readHeader_headerEntries {h : CoseHeader} (hplain : h.Plain) :
    readHeader (headerEntries h) = h := by
  obtain ⟨alg, rest⟩ := h
  obtain ⟨-, hlabels⟩ := hplain
  have hlabel : ∀ p ∈ rest, p.1 ≠ algLabel := by
    rintro p hp heq
    have := hlabels p hp
    rw [heq] at this
    exact absurd this (by decide)
  have hnone : (rest.map fun p => (Cbor.integer p.1, p.2)).find?
      (fun e => e.1.asInteger == some algLabel) = none := by
    rw [List.find?_eq_none]
    intro e he
    obtain ⟨p, hp, rfl⟩ := List.mem_map.mp he
    simp [hlabel p hp]
  have hrest : (rest.map fun p => (Cbor.integer p.1, p.2)).filterMap plainParameter = rest := by
    rw [List.filterMap_map]
    have : ∀ p ∈ rest, (plainParameter ∘ fun p => (Cbor.integer p.1, p.2)) p = some p :=
      fun p hp => by simp [plainParameter, hlabels p hp]
    rw [List.filterMap_congr this, List.filterMap_some]
  have halg : plainParameter (.integer algLabel, .integer algLabel) = none := by decide
  cases alg with
  | none => simp [readHeader, headerEntries, hnone, hrest]
  | some a =>
    have ha : plainParameter (.integer algLabel, .integer a) = none := rfl
    simp [readHeader, headerEntries, hrest, ha]

lemma readProtected_protectedBytes {h : ProtectedHeader} (horiginal : h.originalData = none)
    (hplain : h.header.Plain) :
    readProtected (protectedBytes h) = .ok ⟨some (protectedBytes h), h.header⟩ := by
  obtain ⟨original, header⟩ := h
  simp only at horiginal hplain
  subst horiginal
  have hread := readHeader_headerEntries hplain
  simp only [protectedBytes, Option.getD_none]
  cases hentries : headerEntries header with
  | nil =>
    rw [hentries] at hread
    simp [readProtected, ← hread, readHeader]
  | cons e es =>
    have hne : (encode (.map (e :: es))).isEmpty = false := by
      have := size_lt (.map (e :: es))
      cases hbytes : encode (.map (e :: es)) with
      | nil => simp [hbytes] at this
      | cons b bs => rfl
    rw [hentries] at hread
    simp [readProtected, hne, CborBytes.decode_encode, hread]

lemma readPayload_payloadValue (payload : Option Bytes) :
    readPayload (payloadValue payload) = .ok payload := by
  cases payload <;> rfl

theorem coseParameters_codecs : CoseParameters codecs where
  roundTrip s horiginal hheader hplain halg := by
    refine ⟨sign1Items s, ⟨⟨some (protectedBytes s.protectedHeader), s.protectedHeader.header⟩,
      s.unprotectedHeader, s.payload, s.signature⟩, rfl, ?_, rfl, rfl, rfl, rfl, fun _ => ?_⟩
    · simp only [codecs, sign1Items, readSign1, readProtected_protectedBytes horiginal hheader,
        readPayload_payloadValue, readHeader_headerEntries hplain]
      rfl
    · simp [codecs, sigStructure, protectedBytes]

theorem coseCodec_codecs : CoseCodec codecs where
  roundTrip s horiginal hrest hplain halg := by
    have hheader : s.protectedHeader.header.Plain := by
      rw [CoseHeader.Plain, hrest]
      exact ⟨List.nodup_nil, fun p hp => absurd hp List.not_mem_nil⟩
    exact coseParameters_codecs.roundTrip s horiginal hheader hplain halg
  sigStructure_inj h h' payload payload' heq := by
    have := congrArg CborBytes.decode heq
    simp only [codecs, sigStructure, CborBytes.decode_encode, Option.some.injEq, Cbor.array.injEq,
      List.cons.injEq, Cbor.bytes.injEq, and_true] at this
    exact this.2.2.2

/-! ### Crates that agree with a table -/

/-- What a table gives, and a value that is in no table of short entries otherwise. -/
def extend (entries : List (Bytes × Bytes)) (bytes : Bytes) : Bytes :=
  (entries.lookup bytes).getD (List.replicate 65 0 ++ bytes)

lemma mem_of_lookup {entries : List (Bytes × Bytes)} {a b : Bytes}
    (h : entries.lookup a = some b) : (a, b) ∈ entries := by
  obtain ⟨l₁, l₂, rfl, -⟩ := List.lookup_eq_some_iff.mp h
  simp

lemma extend_injective {entries : List (Bytes × Bytes)} (hnodup : (entries.map Prod.snd).Nodup)
    (hshort : ∀ e ∈ entries, e.2.length ≤ 64) : Function.Injective (extend entries) := by
  intro a b hab
  unfold extend at hab
  cases ha : entries.lookup a with
  | none =>
    cases hb : entries.lookup b with
    | none => simpa [ha, hb] using hab
    | some v =>
      have hlen : v.length ≤ 64 := hshort _ (mem_of_lookup hb)
      simp only [ha, hb, Option.getD_none, Option.getD_some] at hab
      rw [← hab, List.length_append, List.length_replicate] at hlen
      omega
  | some u =>
    cases hb : entries.lookup b with
    | none =>
      have hlen : u.length ≤ 64 := hshort _ (mem_of_lookup ha)
      simp only [ha, hb, Option.getD_none, Option.getD_some] at hab
      rw [hab, List.length_append, List.length_replicate] at hlen
      omega
    | some v =>
      simp only [ha, hb, Option.getD_some] at hab
      subst hab
      have := List.inj_on_of_nodup_map hnodup (mem_of_lookup ha) (mem_of_lookup hb) rfl
      exact (Prod.mk.inj this).1

/-- The codecs, with the digests and the P-256 signatures of a table. -/
def tabled (digests signatures : List (Bytes × Bytes)) : Crates :=
  { codecs with
    sha256 := extend digests
    p256FromAffine := fun _ _ => .ok ()
    p256Signature := fun _ => .ok ()
    p256Verify := fun _ message signature =>
      if signature = extend signatures message then .ok () else .error "signature error" }

lemma base64Url_tabled (digests signatures : List (Bytes × Bytes)) :
    Base64Url (tabled digests signatures) :=
  ⟨base64Url_codecs.decode_encode, base64Url_codecs.alphabet, base64Url_codecs.nonempty⟩

lemma serdeJson_tabled (digests signatures : List (Bytes × Bytes)) :
    SerdeJson (tabled digests signatures) :=
  serdeJson_codecs.congr rfl rfl rfl rfl

end Oid4vc.Codecs
