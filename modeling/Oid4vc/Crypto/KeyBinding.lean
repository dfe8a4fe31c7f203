import Oid4vc.Crypto.Selective

/-!
Key binding: the JWT at the end of a presentation is the holder's signature over a nonce, an
audience and the bytes that come before it.
-/

namespace Oid4vc.KeyBinding

open Oid4vc.JsonValue Oid4vc.Text Oid4vc.Instant Oid4vc.Fallible Oid4vc.Jwks Oid4vc.External
open Oid4vc.Codecs Oid4vc.Keys Oid4vc.Jws Oid4vc.Credentials Oid4vc.SdJwt Oid4vc.Selective
open Oid4vc.CborBytes (bigEndian)

variable {X : Crates}

/-! ### What the check establishes -/

lemma exists_presented {token kbJwt : String} {init : List String}
    (h : split '~' token = init ++ [kbJwt]) (hne : init ≠ []) :
    ∃ presented, stripSuffix token kbJwt = some presented ∧ token = presented ++ kbJwt ∧
      ∃ t, presented.toList = t ++ ['~'] := by
  obtain ⟨t, ht⟩ := exists_prefix_of_split h hne
  refine ⟨String.ofList (t ++ ['~']), ?_, ?_, t, by simp⟩
  · have : token = String.ofList (t ++ ['~']) ++ kbJwt := by
      rw [← String.toList_inj, ht]
      simp
    rw [this, stripSuffix_append]
  · rw [← String.toList_inj, ht]
    simp

/-- Parsing keeps the first part, and a key binding JWT is the last. -/
lemma parse_parts {token : String} {v : SdJwtVc} {kbJwt : String}
    (h : SdJwtVc.parse token = .ok v) (hkb : v.keyBindingJwt = some kbJwt) :
    ∃ middle, split '~' token = v.issuerJwt :: middle ++ [kbJwt] := by
  unfold SdJwtVc.parse at h
  split at h
  · cases h
  · next issuerJwt parts hsplit =>
    split_ifs at h
    simp only [Except.ok.injEq] at h
    subst h
    obtain ⟨⟨middle, rfl⟩, -⟩ := parseParts_keyBinding hkb
    exact ⟨middle, by simpa using hsplit⟩

lemma expectClaim_eq_ok {payload : Json} {name expected mismatch : String} {u : Unit} :
    expectClaim payload name expected mismatch = .ok u ↔
      payload.get name = some (.str expected) := by
  simp only [expectClaim, bind_eq_ok, okOr_eq_ok, ensure_eq_ok, Option.bind_eq_some_iff]
  constructor
  · rintro ⟨value, ⟨v, hv, hs⟩, rfl⟩
    rw [hv, Json.asStr_eq_some hs]
  · intro h
    exact ⟨expected, ⟨_, h, rfl⟩, rfl⟩

/-- **What the key binding check establishes.** -/
lemma verifyKeyBinding_ok {token nonce audience : String} {holderJwk : Jwk}
    (h : verifyKeyBinding X token holderJwk nonce audience = .ok ()) :
    ∃ v kbJwt presented header binding,
      SdJwtVc.parse token = .ok v ∧ v.keyBindingJwt = some kbJwt ∧
      stripSuffix token kbJwt = some presented ∧
      SignedAs X (fun m s => verifyWithJwk X holderJwk m s = .ok ()) kbJwt header binding ∧
      binding.get "nonce" = some (.str nonce) ∧ binding.get "aud" = some (.str audience) ∧
      binding.get "sd_hash" = some (.str (computeSdHash X presented)) := by
  simp only [verifyKeyBinding, bind_eq_ok, mapError_eq_ok, okOr_eq_ok, ensure_eq_ok,
    expectClaim_eq_ok, exists_unit] at h
  obtain ⟨v, hv, kbJwt, hkb, decoded, hdec, alg, -, -, -, hver, binding, hbind, hn, ha,
    presented, hpres, hhash⟩ := h
  exact ⟨v, kbJwt, presented, decoded.header, binding, hv, hkb, hpres,
    signedAs_iff.mpr ⟨decoded, hdec, rfl, hbind, hver⟩, hn, ha, hhash⟩

lemma computeSdHash_of_last {presented : String} (h : ∃ t, presented.toList = t ++ ['~']) :
    computeSdHash X presented = X.base64UrlEncode (X.sha256 (utf8 presented)) := by
  obtain ⟨t, ht⟩ := h
  rw [computeSdHash, upToLast?_of_snoc ht, Option.getD_some]

/-! ### What a holder makes -/

lemma countChar_signCompact (hb64 : Base64Url X) {key : KeyPair} {header : JwsHeader}
    {payload : Json} {jws : String} (h : signCompact X key header payload = .ok jws) :
    countChar '.' jws = 2 := by
  simp only [signCompact, bind_eq_ok, mapError_eq_ok, pure_eq_ok] at h
  obtain ⟨signature, -, rfl⟩ := h
  have hzero : ∀ bytes, (X.base64UrlEncode bytes).toList.count '.' = 0 :=
    fun bytes => List.count_eq_zero.mpr (hb64.alphabet bytes).1
  simp [countChar, String.toList_append, List.count_append, hzero]

/-- A JWT after the parts of a presentation is its key binding JWT. -/
lemma parseParts_snoc {parts : List String} {kbJwt : String} (hne : kbJwt ≠ "")
    (hdots : countChar '.' kbJwt = 2) : (parseParts (parts ++ [kbJwt])).2 = some kbJwt := by
  induction parts with
  | nil => simp [parseParts, hne, hdots]
  | cons p ps ih =>
    cases ps with
    | nil =>
      simp only [List.nil_append, List.cons_append, parseParts] at ih ⊢
      split_ifs at ih ⊢ <;> simp_all
    | cons q qs =>
      simp only [List.cons_append, parseParts] at ih ⊢
      split_ifs at ih ⊢ <;> simp_all

lemma create_succeeds {holderKey : KeyPair} (hsign : ∀ m, ∃ s, holderKey.sign m = .ok s)
    (nonce audience hash : String) (clock : ℤ) :
    ∃ kbJwt, createKeyBindingJwt X holderKey nonce audience hash clock = .ok kbJwt := by
  simp only [createKeyBindingJwt, mapError_eq_ok]
  exact signCompact_total hsign _ _

lemma parse_append {t kbJwt : String} (hissuer : (split '~' (t ++ "~")).head? ≠ some "")
    (htilde : '~' ∉ kbJwt.toList) (hne : kbJwt ≠ "") (hdots : countChar '.' kbJwt = 2) :
    ∃ v, SdJwtVc.parse (t ++ "~" ++ kbJwt) = .ok v ∧ v.keyBindingJwt = some kbJwt := by
  have hempty : split '~' (t ++ "~") = split '~' (String.ofList t.toList) ++ [""] :=
    split_snoc (by simp [String.toList_append]) List.not_mem_nil
  have hwhole : split '~' (t ++ "~" ++ kbJwt) = split '~' (String.ofList t.toList) ++ [kbJwt] :=
    split_snoc (by simp [String.toList_append]) htilde
  cases hparts : split '~' (String.ofList t.toList) with
  | nil => exact absurd hparts (split_ne_nil _ _)
  | cons issuerJwt rest =>
    rw [hparts] at hempty hwhole
    have hissuer' : issuerJwt ≠ "" := by
      rintro rfl
      rw [hempty] at hissuer
      exact hissuer rfl
    rw [SdJwtVc.parse, hwhole]
    simp only [List.cons_append, if_neg hissuer']
    exact ⟨_, rfl, parseParts_snoc hne hdots⟩

/-- The members of a key binding JWT are read back. -/
lemma binding_read (hserde : SerdeJson X) {nonce audience hash : String} {clock : ℤ}
    (hclock : Representable clock) :
    ∃ payload, X.jsonFromSlice (X.jsonToVec (.obj [("aud", .str audience),
        ("iat", i64Json (timestamp clock)), ("nonce", .str nonce), ("sd_hash", .str hash)])) =
          .ok payload ∧
      payload.get "nonce" = some (.str nonce) ∧ payload.get "aud" = some (.str audience) ∧
      payload.get "sd_hash" = some (.str hash) := by
  obtain ⟨hlow, hhigh⟩ := hclock
  have hiat : (i64Json (timestamp clock)).Proper := proper_i64Json (by omega) (by omega)
  obtain ⟨sorted, hperm, hread⟩ := hserde.object
    [("aud", .str audience), ("iat", i64Json (timestamp clock)), ("nonce", .str nonce),
      ("sd_hash", .str hash)] (by simp) (by simp [Json.ProperMembers, Json.Proper, hiat])
  have hnodup : (sorted.map Prod.fst).Nodup := by
    rw [(hperm.map Prod.fst).nodup_iff]
    simp
  refine ⟨.obj sorted, hread, ?_, ?_, ?_⟩
  all_goals
    rw [Json.get_obj_eq_some hnodup, hperm.mem_iff]
    simp

/-- **A bound presentation.** The key binding JWT that a holder makes for a presentation is
accepted after it, for the nonce and the audience it was made for and no others. -/
theorem verifyKeyBinding_create (hb64 : Base64Url X) (hserde : SerdeJson X) {key : SigningKey}
    (hkey : key.Correct X) {t nonce audience kbJwt : String} {clock : ℤ}
    (hissuer : (split '~' (t ++ "~")).head? ≠ some "") (hclock : Representable clock)
    (hcreate : createKeyBindingJwt X (key.toKeyPair X) nonce audience
      (computeSdHash X (t ++ "~")) clock = .ok kbJwt) (nonce' audience' : String) :
    verifyKeyBinding X (t ++ "~" ++ kbJwt) (key.toKeyPair X).publicJwk nonce' audience' = .ok () ↔
      nonce' = nonce ∧ audience' = audience := by
  simp only [createKeyBindingJwt, mapError_eq_ok] at hcreate
  obtain ⟨signature, signingInput, hdec, hsign, htilde, hne⟩ :=
    decodeCompact_signCompact hb64 hserde hcreate
  obtain ⟨v, hparse, hkb⟩ := parse_append hissuer htilde hne (countChar_signCompact hb64 hcreate)
  obtain ⟨payload, hread, hnonce, haud, hhash⟩ := binding_read hserde hclock
  have hver := SigningKey.verifyWithJwk_of_sign hb64.decode_encode hkey hsign
  have hstrip := stripSuffix_append (t ++ "~") kbJwt
  simp only [verifyKeyBinding, bind_eq_ok, mapError_eq_ok, okOr_eq_ok, ensure_eq_ok,
    expectClaim_eq_ok, exists_unit]
  constructor
  · rintro ⟨v', hv', kbJwt', hkb', d, hd, -, -, -, -, -, payload', hpayload', hn, ha, -⟩
    obtain rfl : v = v' := Except.ok.inj (hparse.symm.trans hv')
    obtain rfl : kbJwt = kbJwt' := Option.some.inj (hkb.symm.trans hkb')
    obtain rfl := Except.ok.inj (hdec.symm.trans hd)
    obtain rfl : payload = payload' := Except.ok.inj (hread.symm.trans hpayload')
    rw [hnonce, Option.some.injEq, Json.str.injEq] at hn
    rw [haud, Option.some.injEq, Json.str.injEq] at ha
    exact ⟨hn.symm, ha.symm⟩
  · rintro ⟨rfl, rfl⟩
    exact ⟨v, hparse, kbJwt, hkb, _, hdec, _, SigningKey.algorithmForJwk_publicJwk key, rfl, rfl,
      hver, payload, hread, hnonce, haud, t ++ "~", hstrip, hhash⟩

/-- Accepted presentations with the same key binding JWT are the same. -/
lemma eq_of_same_kbJwt (hb64 : Base64Url X) (hsha : Function.Injective X.sha256)
    {p p' kbJwt nonce audience nonce' audience' : String} {jwk jwk' : Jwk} {v v' : SdJwtVc}
    (hv : SdJwtVc.parse p = .ok v) (hv' : SdJwtVc.parse p' = .ok v')
    (hkb : v.keyBindingJwt = some kbJwt) (hkb' : v'.keyBindingJwt = some kbJwt)
    (h : verifyKeyBinding X p jwk nonce audience = .ok ())
    (h' : verifyKeyBinding X p' jwk' nonce' audience' = .ok ()) :
    ∃ before, p = before ++ kbJwt ∧ p' = before ++ kbJwt := by
  have hpart : ∀ {q : String} {w : SdJwtVc} {n a : String} {j : Jwk}, SdJwtVc.parse q = .ok w →
      w.keyBindingJwt = some kbJwt → verifyKeyBinding X q j n a = .ok () →
      ∃ before decoded binding, q = before ++ kbJwt ∧ decodeCompact X kbJwt = .ok decoded ∧
        X.jsonFromSlice decoded.payload = .ok binding ∧ binding.get "sd_hash" =
          some (.str (X.base64UrlEncode (X.sha256 (utf8 before)))) := by
    intro q w n a j hw hwkb hq
    obtain ⟨w', kbJwt', before, header, binding, hw', hkb', hstrip, hsigned, -, -, hhash⟩ :=
      verifyKeyBinding_ok hq
    obtain rfl : w = w' := Except.ok.inj (hw.symm.trans hw')
    obtain rfl : kbJwt = kbJwt' := Option.some.inj (hwkb.symm.trans hkb')
    obtain ⟨middle, hparts⟩ := parse_parts hw hwkb
    obtain ⟨before', hstrip', heq, hlast⟩ := exists_presented hparts (by simp)
    obtain rfl : before = before' := Option.some.inj (hstrip.symm.trans hstrip')
    obtain ⟨decoded, hdec, -, hread, -⟩ := signedAs_iff.mp hsigned
    rw [computeSdHash_of_last hlast] at hhash
    exact ⟨before, decoded, binding, heq, hdec, hread, hhash⟩
  obtain ⟨before, d, binding, rfl, hd, hread, hhash⟩ := hpart hv hkb h
  obtain ⟨before', d', binding', rfl, hd', hread', hhash'⟩ := hpart hv' hkb' h'
  obtain rfl : d = d' := Except.ok.inj (hd.symm.trans hd')
  obtain rfl : binding = binding' := Except.ok.inj (hread.symm.trans hread')
  rw [hhash, Option.some.injEq, Json.str.injEq] at hhash'
  obtain rfl := utf8_inj (hsha (hb64.inj hhash'))
  exact ⟨before, rfl, rfl⟩

/-- **Key binding covers what is presented.** A holder's key binding JWT over a presentation is
accepted after it for its nonce and its audience, and for no others; and it is accepted after
no other bytes. -/
theorem keyBinding_exact (hb64 : Base64Url X) (hserde : SerdeJson X)
    (hsha : Function.Injective X.sha256) {key : SigningKey} (hkey : key.Correct X) :
    (∀ {s nonce audience kbJwt : String} {clock : ℤ}, (∃ t, s = t ++ "~") →
      (split '~' s).head? ≠ some "" → Representable clock →
      createKeyBindingJwt X (key.toKeyPair X) nonce audience (computeSdHash X s) clock =
        .ok kbJwt →
      ∀ nonce' audience',
        verifyKeyBinding X (s ++ kbJwt) (key.toKeyPair X).publicJwk nonce' audience' = .ok () ↔
          nonce' = nonce ∧ audience' = audience) ∧
    (∀ {p p' kbJwt nonce audience nonce' audience' : String} {jwk jwk' : Jwk} {v v' : SdJwtVc},
      SdJwtVc.parse p = .ok v → SdJwtVc.parse p' = .ok v' →
      v.keyBindingJwt = some kbJwt → v'.keyBindingJwt = some kbJwt →
      verifyKeyBinding X p jwk nonce audience = .ok () →
      verifyKeyBinding X p' jwk' nonce' audience' = .ok () →
      ∃ before, p = before ++ kbJwt ∧ p' = before ++ kbJwt) := by
  refine ⟨?_, eq_of_same_kbJwt hb64 hsha⟩
  rintro s nonce audience kbJwt clock ⟨t, rfl⟩ hissuer hclock hcreate nonce' audience'
  exact verifyKeyBinding_create hb64 hserde hkey hissuer hclock hcreate nonce' audience'

section Holder

def presented : String := "eyJhbGciOiJFUzI1NiJ9.e30.c2ln~"

/-- The thumbprint of the holder's key, and a presentation, with their digests. -/
def holderDigests : List (Bytes × Bytes) := [
  (utf8 ("\x7b\"crv\":\"P-256\",\"kty\":\"EC\"," ++
      "\"x\":\"f83OJ3D2xF1Bg8vub9tLe1gHMzV76e8Tus9uPHvRVEU\"," ++
      "\"y\":\"x_FEzRu9m36HLN_tue659LNpXW6pCyStikYjKIWI5a0\"\x7d"),
    bigEndian 32 0xa0a232c2f194a53553cb1310ddbc0821e414b9d7ebfc290b323084d7d1020fe5),
  (utf8 presented,
    bigEndian 32 0x0e8b2ca9f41582539a9f4ef04f5368811d67ac3ae7149065643169d68621a1fb)]

def holderSignatures : List (Bytes × Bytes) := [
  (utf8 ("eyJhbGciOiJFUzI1NiIsInR5cCI6ImtiK2p3dCIsImp3ayI6eyJrdHkiOiJFQyIsImNydiI6IlAtMjU2Iiwi" ++
      "eCI6ImY4M09KM0QyeEYxQmc4dnViOXRMZTFnSE16Vjc2ZThUdXM5dVBIdlJWRVUiLCJ5IjoieF9GRXpSdTlt" ++
      "MzZITE5fdHVlNjU5TE5wWFc2cEN5U3Rpa1lqS0lXSTVhMCIsImFsZyI6IkVTMjU2Iiwia2lkIjoib0tJeXd2" ++
      "R1VwVFZUeXhNUTNid0lJZVFVdWRmcl9Da0xNakNFMTlFQ0QtVSIsInVzZSI6InNpZyJ9fQ.eyJhdWQiOiJod" ++
      "HRwczovL3ZlcmlmaWVyLmV4YW1wbGUuY29tIiwiaWF0IjoxNzkwMDAwMDAwLCJub25jZSI6Im4tMFM2X1d6Q" ++
      "TJNaiIsInNkX2hhc2giOiJEb3NzcWZRVmdsT2FuMDd3VDFOb2dSMW5yRHJuRkpCbFpERnAxb1lob2ZzIn0"),
    bigEndian 32 0x0bc08b34e970d1f664613c08be0d856289a3a198304030f75259d478eeaab136 ++
      bigEndian 32 0x901a0cffb4e3f77c6cd25e31e3ffedb2a41e7864bcb56ae85d02f4ff01edc505)]

def holderCrates : Crates := tabled holderDigests holderSignatures

def holderKey : SigningKey :=
  tabledKey 0x7fcdce2770f6c45d4183cbee6fdb4b7b580733357be9ef13bacf6e3c7bd15445
    0xc7f144cd1bbd9b7e872cdfedb9eeb9f4b3695d6ea90b24ad8a4623288588e5ad holderSignatures

lemma holderKey_signs (m : Bytes) : ∃ s, (holderKey.toKeyPair holderCrates).sign m = .ok s :=
  ⟨_, rfl⟩

/-- A presentation for a nonce and an audience is accepted for them, and not for another
nonce. -/
theorem presentation_bound : ∃ kbJwt,
    createKeyBindingJwt holderCrates (holderKey.toKeyPair holderCrates) "n-0S6_WzA2Mj"
      "https://verifier.example.com" (computeSdHash holderCrates presented) sampleClock =
        .ok kbJwt ∧
    verifyKeyBinding holderCrates (presented ++ kbJwt) (holderKey.toKeyPair holderCrates).publicJwk
      "n-0S6_WzA2Mj" "https://verifier.example.com" = .ok () ∧
    verifyKeyBinding holderCrates (presented ++ kbJwt) (holderKey.toKeyPair holderCrates).publicJwk
      "" "https://verifier.example.com" ≠ .ok () := by
  obtain ⟨kbJwt, hcreate⟩ := create_succeeds holderKey_signs "n-0S6_WzA2Mj"
    "https://verifier.example.com" (computeSdHash holderCrates presented) sampleClock
  have hbound := (keyBinding_exact (base64Url_tabled _ _) (serdeJson_tabled _ _)
    (extend_injective (by decide) (by decide)) (tabledKey_correct _ _ _ _)).1
    ⟨"eyJhbGciOiJFUzI1NiJ9.e30.c2ln", rfl⟩ (by decide) (by decide) hcreate
  refine ⟨kbJwt, hcreate, (hbound _ _).mpr ⟨rfl, rfl⟩, fun h => ?_⟩
  have := ((hbound _ _).mp h).1
  simp at this

end Holder

end Oid4vc.KeyBinding
