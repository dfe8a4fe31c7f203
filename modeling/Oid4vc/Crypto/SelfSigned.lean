import Oid4vc.Crypto.Jws

/-!
JWTs that a key signs, with whatever header and payload: what a wallet sends, and what others can
make.
-/

namespace Oid4vc.SelfSigned

open Oid4vc.JsonValue Oid4vc.Text Oid4vc.Fallible Oid4vc.Jwks Oid4vc.External Oid4vc.Keys
open Oid4vc.Codecs Oid4vc.Jws

/-- The JWT of a key; nothing if it cannot sign. -/
def signJwt (X : Crates) (key : SigningKey) (header : JwsHeader) (payload : Json) : String :=
  ((signCompact X (key.toKeyPair X) header payload).toOption).getD ""

variable {X : Crates}

/-- **What a key has signed** decodes, and verifies under every JWK of its public members. -/
theorem signJwt_decodes (hb64 : Base64Url X) (hserde : SerdeJson X) {key : SigningKey}
    (hkey : key.Correct X) (hsigns : key.Signs) (header : JwsHeader) (payload : Json) :
    ∃ signature signingInput, decodeCompact X (signJwt X key header payload) =
        .ok ⟨header, X.jsonToVec payload, signature, signingInput⟩ ∧
      ∀ jwk : Jwk, jwk.publicMembers = (key.toKeyPair X).publicJwk.publicMembers →
        verifyWithJwk X jwk (utf8 signingInput) signature = .ok () := by
  obtain ⟨jws, hjws⟩ := signCompact_total (SigningKey.sign_total (X := X) hsigns) header payload
  obtain ⟨signature, signingInput, hdecoded, hsign, -, -⟩ := decodeCompact_signCompact hb64 hserde hjws
  have hsame : signJwt X key header payload = jws := by
    rw [signJwt, hjws]
    rfl
  refine ⟨signature, signingInput, by rw [hsame]; exact hdecoded, fun jwk hjwk => ?_⟩
  rw [verifyWithJwk_congr hjwk]
  exact SigningKey.verifyWithJwk_of_sign hb64.decode_encode hkey hsign

end Oid4vc.SelfSigned
