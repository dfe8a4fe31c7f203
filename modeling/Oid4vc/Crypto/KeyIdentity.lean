import Oid4vc.Crypto.PublicKey
import Oid4vc.Crypto.Tables

/-!
What tells a public key from every other one: its thumbprint, and the COSE_Key of a device.

A text decodes only if it is the encoding of what it decodes to. So the members that a
thumbprint is made of are those of a public key, and no quote of theirs ends one early.
-/

namespace Oid4vc.KeyIdentity

open Oid4vc.JsonValue Oid4vc.CborValue Oid4vc.CborBytes Oid4vc.Text Oid4vc.Fallible Oid4vc.Jwks
open Oid4vc.External Oid4vc.Codecs Oid4vc.Keys Oid4vc.Cose Oid4vc.PublicKeys

/-- `base64ct` decodes canonical text only. -/
structure CanonicalBase64Url (X : Crates) : Prop extends Base64Url X where
  encode_of_decode : ∀ text bytes, X.base64UrlDecode text = .ok bytes →
    X.base64UrlEncode bytes = text
  unquoted : ∀ bytes, '\x22' ∉ (X.base64UrlEncode bytes).toList

variable {X : Crates}

/-- Some signature verifies under the JWK. -/
def CanVerify (X : Crates) (jwk : Jwk) : Prop := ∃ m s, verifyWithJwk X jwk m s = .ok ()

/-! ### Thumbprints -/

/-- The text of a public key that its thumbprint hashes. -/
def thumbprintText (X : Crates) : PublicKey → String
  | .p256 x y => "\x7b\"crv\":\"" ++ "P-256" ++ "\",\"kty\":\"EC\",\"x\":\"" ++
      X.base64UrlEncode x ++ "\",\"y\":\"" ++ X.base64UrlEncode y ++ "\"\x7d"
  | .ed25519 x => "\x7b\"crv\":\"" ++ "Ed25519" ++ "\",\"kty\":\"OKP\",\"x\":\"" ++
      X.base64UrlEncode x ++ "\"\x7d"

@[simp] lemma thumbprintText_p256 (x y : Bytes) : thumbprintText X (.p256 x y) =
    "\x7b\"crv\":\"" ++ "P-256" ++ "\",\"kty\":\"EC\",\"x\":\"" ++ X.base64UrlEncode x ++
      "\",\"y\":\"" ++ X.base64UrlEncode y ++ "\"\x7d" := rfl

@[simp] lemma thumbprintText_ed25519 (x : Bytes) : thumbprintText X (.ed25519 x) =
    "\x7b\"crv\":\"" ++ "Ed25519" ++ "\",\"kty\":\"OKP\",\"x\":\"" ++
      X.base64UrlEncode x ++ "\"\x7d" := rfl

lemma decodedCoordinate_toOption (hb64 : CanonicalBase64Url X) {c : Option String} {bytes : Bytes}
    (h : (decodedCoordinate X c).toOption = some bytes) :
    c = some (X.base64UrlEncode bytes) := by
  have hok : decodedCoordinate X c = .ok bytes := by
    cases hd : decodedCoordinate X c with
    | error e => simp [hd, Except.toOption] at h
    | ok b => simpa [hd, Except.toOption] using h
  rw [decodedCoordinate, okOr_eq_ok, Option.bind_eq_some_iff] at hok
  obtain ⟨text, rfl, hdecode⟩ := hok
  cases hd : X.base64UrlDecode text with
  | error e => simp [hd, Except.toOption] at hdecode
  | ok b =>
    obtain rfl : b = bytes := by simpa [hd, Except.toOption] using hdecode
    rw [hb64.encode_of_decode text b hd]

/-- The members of a JWK that stands for a key. -/
lemma members_of_ofJwk (hb64 : CanonicalBase64Url X) {jwk : Jwk} {key : PublicKey}
    (h : PublicKey.ofJwk X jwk = some key) :
    (∃ x y, key = .p256 x y ∧ jwk.kty = "EC" ∧ jwk.crv = some "P-256" ∧
      jwk.x = some (X.base64UrlEncode x) ∧ jwk.y = some (X.base64UrlEncode y)) ∨
    ∃ x, key = .ed25519 x ∧ jwk.kty = "OKP" ∧ jwk.crv = some "Ed25519" ∧
      jwk.x = some (X.base64UrlEncode x) := by
  unfold PublicKey.ofJwk at h
  split at h
  · next hkty hcrv =>
    simp only [Option.bind_eq_bind, Option.bind_eq_some_iff, Option.some.injEq] at h
    obtain ⟨x, hx, y, hy, rfl⟩ := h
    exact .inl ⟨x, y, rfl, hkty, hcrv, decodedCoordinate_toOption hb64 hx,
      decodedCoordinate_toOption hb64 hy⟩
  · next hkty hcrv =>
    simp only [Option.bind_eq_bind, Option.bind_eq_some_iff, Option.some.injEq] at h
    obtain ⟨x, hx, rfl⟩ := h
    exact .inr ⟨x, rfl, hkty, hcrv, decodedCoordinate_toOption hb64 hx⟩
  · cases h

lemma canonicalMembers_of_ofJwk (hb64 : CanonicalBase64Url X) {jwk : Jwk} {key : PublicKey}
    (h : PublicKey.ofJwk X jwk = some key) : canonicalMembers jwk = thumbprintText X key := by
  rcases members_of_ofJwk hb64 h with ⟨x, y, rfl, hkty, hcrv, hx, hy⟩ | ⟨x, rfl, hkty, hcrv, hx⟩
  · simp only [canonicalMembers, hkty, hcrv, hx, hy, Option.getD_some, thumbprintText_p256]
  · simp only [canonicalMembers, hkty, hcrv, hx, Option.getD_some, thumbprintText_ed25519]

lemma eq_of_quoted {as bs post post' : List Char} (has : '\x22' ∉ as) (hbs : '\x22' ∉ bs)
    (h : as ++ '\x22' :: post = bs ++ '\x22' :: post') : as = bs ∧ post = post' := by
  have hsplit := congrArg (splitFirst '\x22' 1) h
  rw [splitFirst_append has, splitFirst_append hbs] at hsplit
  simpa [splitFirst] using hsplit

/-- What stands before and after the members of a key. -/
def beforeX : PublicKey → String
  | .p256 _ _ => "\x7b\"crv\":\"P-256\",\"kty\":\"EC\",\"x\":\""
  | .ed25519 _ => "\x7b\"crv\":\"Ed25519\",\"kty\":\"OKP\",\"x\":\""

def afterX (X : Crates) : PublicKey → List Char
  | .p256 _ y => ",\"y\":\"".toList ++ ((X.base64UrlEncode y).toList ++ ['\x22', '\x7d'])
  | .ed25519 _ => ['\x7d']

def coordinateX : PublicKey → Bytes
  | .p256 x _ => x
  | .ed25519 x => x

@[simp] lemma afterX_p256 (x y : Bytes) : afterX X (.p256 x y) =
    ",\"y\":\"".toList ++ ((X.base64UrlEncode y).toList ++ ['\x22', '\x7d']) := rfl

@[simp] lemma afterX_ed25519 (x : Bytes) : afterX X (.ed25519 x) = ['\x7d'] := rfl

lemma toList_thumbprintText (key : PublicKey) : (thumbprintText X key).toList =
    (beforeX key).toList ++
      ((X.base64UrlEncode (coordinateX key)).toList ++ '\x22' :: afterX X key) := by
  cases key with
  | p256 x y => simp [beforeX, coordinateX, String.toList_append]
  | ed25519 x => simp [beforeX, coordinateX, String.toList_append]

lemma thumbprintText_inj (hb64 : CanonicalBase64Url X) {key key' : PublicKey}
    (h : thumbprintText X key = thumbprintText X key') : key = key' := by
  have htext := congrArg String.toList h
  rw [toList_thumbprintText, toList_thumbprintText] at htext
  cases key with
  | p256 x y =>
    cases key' with
    | p256 x' y' =>
      obtain ⟨hx, hafter⟩ := eq_of_quoted (hb64.unquoted x) (hb64.unquoted x')
        (List.append_cancel_left htext)
      obtain ⟨hy, -⟩ := eq_of_quoted (hb64.unquoted y) (hb64.unquoted y')
        (List.append_cancel_left hafter)
      rw [hb64.inj (String.toList_inj.mp hx), hb64.inj (String.toList_inj.mp hy)]
    | ed25519 x' => simp [beforeX] at htext
  | ed25519 x =>
    cases key' with
    | p256 x' y' => simp [beforeX] at htext
    | ed25519 x' =>
      obtain ⟨hx, -⟩ := eq_of_quoted (hb64.unquoted x) (hb64.unquoted x')
        (List.append_cancel_left htext)
      rw [hb64.inj (String.toList_inj.mp hx)]

/-- **Thumbprints.** Of two JWKs that stand for a key, the thumbprints agree if and only if the
keys do. -/
lemma computeThumbprint_eq_iff (hb64 : CanonicalBase64Url X) (hsha : Function.Injective X.sha256)
    {jwk jwk' : Jwk} {key key' : PublicKey} (h : PublicKey.ofJwk X jwk = some key)
    (h' : PublicKey.ofJwk X jwk' = some key') :
    computeThumbprint X jwk = computeThumbprint X jwk' ↔ key = key' := by
  rw [computeThumbprint, computeThumbprint, canonicalMembers_of_ofJwk hb64 h,
    canonicalMembers_of_ofJwk hb64 h']
  refine ⟨fun heq => ?_, fun heq => by rw [heq]⟩
  exact thumbprintText_inj hb64 (utf8_inj (hsha (hb64.inj heq)))

/-- **A thumbprint identifies the key.** Whatever else two JWKs carry under which signatures
verify, their thumbprints agree if and only if they are of one curve and decode to the same
coordinates. -/
theorem thumbprint_identifies_key (hb64 : CanonicalBase64Url X)
    (hsha : Function.Injective X.sha256) {jwk jwk' : Jwk} (h : CanVerify X jwk)
    (h' : CanVerify X jwk') :
    ∃ key key', PublicKey.ofJwk X jwk = some key ∧ PublicKey.ofJwk X jwk' = some key' ∧
      (computeThumbprint X jwk = computeThumbprint X jwk' ↔ key = key') := by
  obtain ⟨m, s, hverify⟩ := h
  obtain ⟨m', s', hverify'⟩ := h'
  obtain ⟨key, hkey, -, -⟩ := PublicKey.exists_of_verifyWithJwk hverify
  obtain ⟨key', hkey', -, -⟩ := PublicKey.exists_of_verifyWithJwk hverify'
  exact ⟨key, key', hkey, hkey', computeThumbprint_eq_iff hb64 hsha hkey hkey'⟩

/-! ### COSE_Keys -/

def coseEntries : PublicKey → List (Cbor × Cbor)
  | .p256 x y => [(.integer (int 1), .integer (int 2)), (.integer (int (-1)), .integer (int 1)),
      (.integer (int (-2)), .bytes x), (.integer (int (-3)), .bytes y)]
  | .ed25519 x => [(.integer (int 1), .integer (int 1)), (.integer (int (-1)), .integer (int 6)),
      (.integer (int (-2)), .bytes x)]

/-- The labels of the parameters of a key: its type, its curve, and its coordinates. -/
def parameterLabels : PublicKey → List ℤ
  | .p256 _ _ => [1, -1, -2, -3]
  | .ed25519 _ => [1, -1, -2]

lemma labelled_of_labelledInt {entries : List (Cbor × Cbor)} {label n : ℤ}
    (h : labelledInt entries label = some n) :
    labelled entries label = some (.integer (int n)) := by
  rw [labelledInt, Option.bind_eq_some_iff] at h
  obtain ⟨i, hi, hn⟩ := h
  rw [Option.bind_eq_some_iff] at hi
  obtain ⟨value, hvalue, hinteger⟩ := hi
  split_ifs at hn with hrange
  have hval : i.val = n := Option.some.inj hn
  have hint : i = int n := CborInt.ext_val (by rw [hval, int_val (hval ▸ hrange)])
  cases value with
  | integer j =>
    rw [Cbor.asInteger_integer, Option.some.injEq] at hinteger
    rw [hvalue, hinteger, hint]
  | _ => cases hinteger

lemma labelled_of_asBytes {entries : List (Cbor × Cbor)} {label : ℤ} {bytes : Bytes}
    (h : (labelled entries label).bind Cbor.asBytes = some bytes) :
    labelled entries label = some (.bytes bytes) := by
  rw [Option.bind_eq_some_iff] at h
  obtain ⟨value, hvalue, hbytes⟩ := h
  cases value with
  | bytes b =>
    rw [Cbor.asBytes_bytes, Option.some.injEq] at hbytes
    rw [hvalue, hbytes]
  | _ => cases hbytes

lemma decodedCoordinate_encode (hb64 : CanonicalBase64Url X) (bytes : Bytes) :
    decodedCoordinate X (some (X.base64UrlEncode bytes)) = .ok bytes := by
  simp [decodedCoordinate, hb64.decode_encode, Except.toOption]

/-- A JWK that stands for a key is written as a COSE_Key, which is read as the same key. -/
lemma exists_coseKey_of_ofJwk (hb64 : CanonicalBase64Url X) {jwk : Jwk} {key : PublicKey}
    (h : PublicKey.ofJwk X jwk = some key) :
    ∃ cose jwk', coseKey X jwk = .ok cose ∧ jwkFromCoseKey X cose = .ok jwk' ∧
      (∀ m s, verifyWithJwk X jwk' m s = verifyWithJwk X jwk m s) ∧
      algorithmForJwk jwk' = algorithmForJwk jwk ∧ canonicalMembers jwk' = canonicalMembers jwk := by
  rcases members_of_ofJwk hb64 h with ⟨x, y, rfl, hkty, hcrv, hx, hy⟩ | ⟨x, rfl, hkty, hcrv, hx⟩
  · refine ⟨.map (coseEntries (.p256 x y)),
      publicJwkOf "EC" "P-256" (X.base64UrlEncode x) (some (X.base64UrlEncode y)),
      ?_, ?_, fun m s => ?_, ?_, ?_⟩
    · simp [coseKey, coseEntries, hkty, hcrv, hx, hy, decodedCoordinate_encode hb64]
    · simp [jwkFromCoseKey, coseEntries, labelledInt, coordinate, labelled_cons, int_inj, int_val]
    · exact verifyWithJwk_congr (by simp [Jwk.publicMembers, publicJwkOf, hkty, hcrv, hx, hy]) m s
    · simp [algorithmForJwk, publicJwkOf, hkty, hcrv]
    · simp [canonicalMembers, publicJwkOf, hkty, hcrv, hx, hy]
  · refine ⟨.map (coseEntries (.ed25519 x)),
      publicJwkOf "OKP" "Ed25519" (X.base64UrlEncode x) none, ?_, ?_, fun m s => ?_, ?_, ?_⟩
    · simp [coseKey, coseEntries, hkty, hcrv, hx, decodedCoordinate_encode hb64]
    · simp [jwkFromCoseKey, coseEntries, labelledInt, coordinate, labelled_cons, int_inj, int_val]
    · -- no check reads the second coordinate of an Ed25519 key
      simp only [verifyWithJwk, verifyEd25519, publicJwkOf, hkty, hcrv, hx]
    · simp [algorithmForJwk, publicJwkOf, hkty, hcrv]
    · simp [canonicalMembers, publicJwkOf, hkty, hcrv, hx]

/-- A COSE_Key that is read as a JWK is written again with its parameters. -/
lemma exists_coseKey_of_jwkFromCoseKey (hb64 : CanonicalBase64Url X) {cose : Cbor} {jwk : Jwk}
    (h : jwkFromCoseKey X cose = .ok jwk) :
    ∃ key entries entries', cose = .map entries ∧ PublicKey.ofCoseKey cose = some key ∧
      coseKey X jwk = .ok (.map entries') ∧
      ∀ label ∈ parameterLabels key, labelled entries' label = labelled entries label := by
  simp only [jwkFromCoseKey, bind_eq_ok, okOr_eq_ok] at h
  obtain ⟨entries, hentries, h⟩ := h
  have hmap : cose = .map entries := by
    cases cose with
    | map es => rw [Cbor.asMap_map, Option.some.injEq] at hentries; rw [hentries]
    | _ => cases hentries
  subst hmap
  -- by the key type and the curve of the COSE_Key
  split at h
  · next hkty hcrv =>
    simp only [bind_eq_ok, coordinate_eq_ok, pure_eq_ok] at h
    obtain ⟨_, ⟨y, hy, rfl⟩, _, ⟨x, hx, rfl⟩, rfl⟩ := h
    refine ⟨.p256 x y, entries, coseEntries (.p256 x y), rfl, ?_, ?_, ?_⟩
    · simp [PublicKey.ofCoseKey, hkty, hcrv, hx, hy]
    · simp [coseKey, coseEntries, publicJwkOf, decodedCoordinate_encode hb64]
    · intro label hlabel
      simp only [parameterLabels, List.mem_cons, List.not_mem_nil, or_false] at hlabel
      rcases hlabel with rfl | rfl | rfl | rfl
      · simp [coseEntries, labelled_cons, labelled_of_labelledInt hkty]
      · simp [coseEntries, labelled_cons, int_inj, labelled_of_labelledInt hcrv]
      · simp [coseEntries, labelled_cons, int_inj, labelled_of_asBytes hx]
      · simp [coseEntries, labelled_cons, int_inj, labelled_of_asBytes hy]
  · next hkty hcrv =>
    simp only [bind_eq_ok, coordinate_eq_ok, pure_eq_ok] at h
    obtain ⟨_, ⟨x, hx, rfl⟩, rfl⟩ := h
    refine ⟨.ed25519 x, entries, coseEntries (.ed25519 x), rfl, ?_, ?_, ?_⟩
    · simp [PublicKey.ofCoseKey, hkty, hcrv, hx]
    · simp [coseKey, coseEntries, publicJwkOf, decodedCoordinate_encode hb64]
    · intro label hlabel
      simp only [parameterLabels, List.mem_cons, List.not_mem_nil, or_false] at hlabel
      rcases hlabel with rfl | rfl | rfl
      · simp [coseEntries, labelled_cons, labelled_of_labelledInt hkty]
      · simp [coseEntries, labelled_cons, int_inj, labelled_of_labelledInt hcrv]
      · simp [coseEntries, labelled_cons, int_inj, labelled_of_asBytes hx]
  · cases h

/-- **The device key is the proof key.** A JWK under which signatures verify, written as a
COSE_Key and read back, verifies what it did, with its algorithm and its thumbprint; and a
COSE_Key that is read as a JWK is written again with its parameters. -/
theorem cose_key_round_trips (hb64 : CanonicalBase64Url X) :
    (∀ jwk, CanVerify X jwk → ∃ cose jwk', coseKey X jwk = .ok cose ∧
      jwkFromCoseKey X cose = .ok jwk' ∧
      (∀ m s, verifyWithJwk X jwk' m s = verifyWithJwk X jwk m s) ∧
      algorithmForJwk jwk' = algorithmForJwk jwk ∧
      computeThumbprint X jwk' = computeThumbprint X jwk) ∧
    ∀ cose jwk, jwkFromCoseKey X cose = .ok jwk →
      ∃ key entries entries', cose = .map entries ∧ PublicKey.ofCoseKey cose = some key ∧
        coseKey X jwk = .ok (.map entries') ∧
        ∀ label ∈ parameterLabels key, labelled entries' label = labelled entries label := by
  refine ⟨fun jwk hjwk => ?_, fun cose jwk => exists_coseKey_of_jwkFromCoseKey hb64⟩
  obtain ⟨m, s, hverify⟩ := hjwk
  obtain ⟨key, hkey, -, -⟩ := PublicKey.exists_of_verifyWithJwk hverify
  obtain ⟨cose, jwk', hcose, hread, hsame, halg, htext⟩ := exists_coseKey_of_ofJwk hb64 hkey
  exact ⟨cose, jwk', hcose, hread, hsame, halg, by rw [computeThumbprint, htext, computeThumbprint]⟩

/-! ### Two keys -/

section Sample

lemma canonicalBase64Url_table (t : Tables.Table) : CanonicalBase64Url t.crates where
  toBase64Url := Tables.Table.base64Url
  encode_of_decode text bytes h := Base64.encode_of_decode (okOr_eq_ok.mp h)
  unquoted bytes := by
    have hdigit : ∀ i < 64, Base64.digit '-' '_' i ≠ '\x22' := by decide
    have hencode : t.crates.base64UrlEncode bytes = Base64.encode '-' '_' bytes := rfl
    rw [hencode, Base64.encode, String.toList_ofList, List.mem_map]
    rintro ⟨i, hi, heq⟩
    exact hdigit i (Base64.sextets_lt i hi) heq

def possession : Bytes := utf8 "proof of possession"

def firstX : ℕ := 0xadff660c4d6ea6efb18ac6bcfe10e40ff51a70b8d36d5f08b9168474abbae38c

def firstY : ℕ := 0x75a821fd62944a60d5c461c5c68068f0ea11f43f2a84f378d9b3f80f27c22300

def secondX : ℕ := 0xdb3d797c1ea368aba969e2c69809c97c1c9ecfd6b7c53f1f34c7c1e97d1bb4b0

def secondY : ℕ := 0xd429b57efe6727d02fd4834a64b39c78e064a13707ff23490987bc41b6f97a9a

/-- What the two keys sign, and the digests of what their thumbprints are of. -/
def keysTable : Tables.Table where
  digests := [
    (utf8 (thumbprintText codecs (.p256 (bigEndian 32 firstX) (bigEndian 32 firstY))),
      bigEndian 32 0xc7b7ab0bf81b4664fefb605cbf7ea2493562a474fa8c7280ae5768581141fe79),
    (utf8 (thumbprintText codecs (.p256 (bigEndian 32 secondX) (bigEndian 32 secondY))),
      bigEndian 32 0x030913fdd8439bc38a2d7b21f1c9d44a8cc3a85395a3d508454e559765dab1b5)]
  signatures := [
    ((bigEndian 32 firstX, bigEndian 32 firstY), [(possession,
      bigEndian 32 0x9daa3dfae9b67990de6205e560743736a0f50a928e21e8463092eb94315843ce ++
        bigEndian 32 0x63a2a347e3bf4652c10362729bed07c1dcc31775bee44aa05f68fee4a88c1ebb)]),
    ((bigEndian 32 secondX, bigEndian 32 secondY), [(possession,
      bigEndian 32 0x81a1e3e074b04ca7822b2da69ba9cb533260a3fe1099f4a53d81b3129a10fb19 ++
        bigEndian 32 0xfe7f98a63b350b08009b5f60b76a00e3a8848b412acf50846fd36545d93d3d00)])]
  certificates := []
  derSignatures := []
  dates := []

/-- The JWK of a key, with members that are no part of it. -/
def decorated (x y : ℕ) (d alg kid use : Option String) : Jwk :=
  ⟨"EC", some "P-256", some (codecs.base64UrlEncode (bigEndian 32 x)),
    some (codecs.base64UrlEncode (bigEndian 32 y)), d, alg, kid, use⟩

variable {t : Tables.Table}

lemma canVerify_decorated (x y : ℕ) (d alg kid use : Option String) :
    CanVerify t.crates (decorated x y d alg kid use) := by
  have hmembers : (decorated x y d alg kid use).publicMembers =
      ((t.key x y).toKeyPair t.crates).publicJwk.publicMembers := rfl
  obtain ⟨s, hs⟩ := SigningKey.sign_total (X := t.crates) (Tables.Table.key_signs (t := t) x y)
    possession
  refine ⟨possession, s, ?_⟩
  rw [verifyWithJwk_congr hmembers]
  exact SigningKey.verifyWithJwk_of_sign Tables.Table.base64Url.decode_encode
    (Tables.Table.key_correct x y) hs

lemma ofJwk_decorated (x y : ℕ) (d alg kid use : Option String) :
    PublicKey.ofJwk t.crates (decorated x y d alg kid use) =
      some (.p256 (bigEndian 32 x) (bigEndian 32 y)) := by
  have hdecode : ∀ bytes,
      t.crates.base64UrlDecode (codecs.base64UrlEncode bytes) = .ok bytes :=
    Tables.Table.base64Url.decode_encode
  simp [PublicKey.ofJwk, decorated, decodedCoordinate, hdecode, Except.toOption]

lemma keysTable_injective : Function.Injective keysTable.crates.sha256 :=
  extend_injective (by decide +kernel) (by decide +kernel)

/-- The JWK of a key as its owner keeps it and as it is published, and that of another key. -/
theorem thumbprint_of_decorated :
    computeThumbprint keysTable.crates (decorated firstX firstY (some "AQ") none none none) =
      computeThumbprint keysTable.crates
        (decorated firstX firstY none (some "ES256") (some "k1") (some "sig")) ∧
    computeThumbprint keysTable.crates (decorated firstX firstY none none none none) ≠
      computeThumbprint keysTable.crates (decorated secondX secondY none none none none) := by
  have hb64 := canonicalBase64Url_table keysTable
  refine ⟨?_, ?_⟩
  · obtain ⟨key, key', hkey, hkey', hiff⟩ := thumbprint_identifies_key hb64 keysTable_injective
      (canVerify_decorated firstX firstY (some "AQ") none none none)
      (canVerify_decorated firstX firstY none (some "ES256") (some "k1") (some "sig"))
    rw [ofJwk_decorated, Option.some.injEq] at hkey hkey'
    exact hiff.mpr (hkey.symm.trans hkey')
  · obtain ⟨key, key', hkey, hkey', hiff⟩ := thumbprint_identifies_key hb64 keysTable_injective
      (canVerify_decorated firstX firstY none none none none)
      (canVerify_decorated secondX secondY none none none none)
    rw [ofJwk_decorated, Option.some.injEq] at hkey hkey'
    intro heq
    have hne : bigEndian 32 firstX ≠ bigEndian 32 secondX := by decide +kernel
    have hsame := hiff.mp heq
    rw [← hkey, ← hkey', PublicKey.p256.injEq] at hsame
    exact hne hsame.1

/-- The first key as a COSE_Key in another order, with an identifier of its own. -/
def shuffled : List (Cbor × Cbor) :=
  [(.integer (int (-3)), .bytes (bigEndian 32 firstY)), (.integer (int 2), .bytes (utf8 "k1")),
    (.integer (int (-2)), .bytes (bigEndian 32 firstX)), (.integer (int (-1)), .integer (int 1)),
    (.integer (int 1), .integer (int 2))]

lemma jwkFromCoseKey_shuffled : jwkFromCoseKey t.crates (.map shuffled) =
    .ok (publicJwkOf "EC" "P-256" (t.crates.base64UrlEncode (bigEndian 32 firstX))
      (some (t.crates.base64UrlEncode (bigEndian 32 firstY)))) := by
  simp [jwkFromCoseKey, shuffled, labelledInt, coordinate, labelled_cons, int_inj, int_val]

/-- A key with a private member and an identifier, and a COSE_Key in another order. -/
theorem cose_key_of_shuffled :
    (∃ cose jwk', coseKey keysTable.crates
        (decorated firstX firstY (some "AQ") none (some "k1") none) = .ok cose ∧
      jwkFromCoseKey keysTable.crates cose = .ok jwk' ∧
      computeThumbprint keysTable.crates jwk' = computeThumbprint keysTable.crates
        (decorated firstX firstY (some "AQ") none (some "k1") none)) ∧
    ∃ jwk key entries', jwkFromCoseKey keysTable.crates (.map shuffled) = .ok jwk ∧
      coseKey keysTable.crates jwk = .ok (.map entries') ∧
      ∀ label ∈ parameterLabels key, labelled entries' label = labelled shuffled label := by
  obtain ⟨hjwk, hcose⟩ := cose_key_round_trips (canonicalBase64Url_table keysTable)
  refine ⟨?_, ?_⟩
  · obtain ⟨cose, jwk', hwritten, hread, -, -, hthumbprint⟩ := hjwk _
      (canVerify_decorated firstX firstY (some "AQ") none (some "k1") none)
    exact ⟨cose, jwk', hwritten, hread, hthumbprint⟩
  · obtain ⟨key, entries, entries', hentries, -, hwritten, hlabels⟩ :=
      hcose _ _ jwkFromCoseKey_shuffled
    rw [Cbor.map.injEq] at hentries
    subst hentries
    exact ⟨_, key, entries', jwkFromCoseKey_shuffled, hwritten, hlabels⟩

end Sample

end Oid4vc.KeyIdentity
