import Oid4vc.Crypto.Jws
import Oid4vc.Crypto.Tables

/-!
The two checks of a JWS: against a key pair, and against the public JWK of one. They decode the
same text and check the same signature; only the second compares the `alg` of the header with
the key. So they part on a text whose signature verifies under a header of another algorithm.
-/

namespace Oid4vc.AlgorithmPinned

open Oid4vc.JsonValue Oid4vc.Text Oid4vc.Fallible Oid4vc.Jwks Oid4vc.External Oid4vc.Codecs
open Oid4vc.Keys Oid4vc.Jws
open Oid4vc.CborBytes (bigEndian)

variable (X : Crates)

/-- The key pair verifies what its public JWK alone verifies. -/
def VerifiesAlike (key : KeyPair) : Prop :=
  ∀ message signature,
    key.verify message signature = .ok () ↔ verifyWithJwk X key.publicJwk message signature = .ok ()

/-- Both checks accept the text, with the same parts, or neither does; and neither accepts it
under an `alg` that is not the key's. -/
structure Agree (jws : String) (key : KeyPair) : Prop where
  same : ∀ d, verifyCompact X jws key = .ok d ↔ verifyWithPublicJwk X jws key.publicJwk = .ok d
  pinned : ∀ d, decodeCompact X jws = .ok d → d.header.alg ≠ key.algorithm.asStr →
    ∀ d', verifyCompact X jws key ≠ .ok d' ∧ verifyWithPublicJwk X jws key.publicJwk ≠ .ok d'

/-- A text that decodes and whose signature verifies has the `alg` of the key, which is the one
of its public JWK. -/
def Pinned (jws : String) (key : KeyPair) : Prop :=
  ∀ d, decodeCompact X jws = .ok d →
    key.verify (utf8 d.signingInput) d.signature = .ok () →
    d.header.alg = key.algorithm.asStr ∧ algorithmForJwk key.publicJwk = .ok key.algorithm

variable {X}

lemma asStr_injective : Function.Injective Algorithm.asStr := by
  intro a b h
  cases a <;> cases b <;> simp_all [Algorithm.asStr]

/-- **A key pair of either algorithm verifies as its public JWK does**, with a base64url that
reads back what it writes. -/
theorem verifiesAlike (hb64 : Base64Url X) {k : SigningKey} (hk : k.Correct X) :
    VerifiesAlike X (k.toKeyPair X) := by
  intro m s
  cases k with
  | p256 k =>
    obtain ⟨hx, hy, hpoint, -⟩ := hk
    simp [SigningKey.toKeyPair, EcdsaP256KeyPair.toKeyPair, EcdsaP256KeyPair.buildPublicJwk,
      verifyWithJwk, verifyP256, decodeCoordinate, hb64.decode_encode, hx, hy, hpoint]
  | ed25519 k =>
    obtain ⟨hx, hkey, -⟩ := hk
    simp [SigningKey.toKeyPair, Ed25519KeyPair.toKeyPair, Ed25519KeyPair.buildPublicJwk,
      verifyWithJwk, verifyEd25519, decodeCoordinate, hb64.decode_encode, hx, hkey]

lemma verifyCompact_of_verifyWithPublicJwk {key : KeyPair} (hkey : VerifiesAlike X key)
    {jws : String} {d : DecodedJws} (h : verifyWithPublicJwk X jws key.publicJwk = .ok d) :
    verifyCompact X jws key = .ok d := by
  obtain ⟨hdecoded, -, hsignature⟩ := verifyWithPublicJwk_eq_ok.mp h
  exact verifyCompact_eq_ok.mpr ⟨hdecoded, (hkey _ _).mpr hsignature⟩

lemma verifyWithPublicJwk_iff {key : KeyPair} (hkey : VerifiesAlike X key) {jws : String}
    {d : DecodedJws} :
    verifyWithPublicJwk X jws key.publicJwk = .ok d ↔
      verifyCompact X jws key = .ok d ∧
        ∃ a, algorithmForJwk key.publicJwk = .ok a ∧ d.header.alg = a.asStr := by
  rw [verifyWithPublicJwk_eq_ok, verifyCompact_eq_ok, ← hkey]
  tauto

/-- **When the two checks agree.** For every text, and every key pair that verifies as its public
JWK does, they agree exactly when a text whose signature verifies has the algorithm of the key
in its header. -/
theorem agree_iff {key : KeyPair} (hkey : VerifiesAlike X key) (jws : String) :
    Agree X jws key ↔ Pinned X jws key := by
  constructor
  · intro h d hdecoded hsignature
    have haccepted : verifyCompact X jws key = .ok d :=
      verifyCompact_eq_ok.mpr ⟨hdecoded, hsignature⟩
    obtain ⟨-, a, ha, halg⟩ := (verifyWithPublicJwk_iff hkey).mp ((h.same d).mp haccepted)
    have hname : d.header.alg = key.algorithm.asStr := by
      by_contra hne
      exact (h.pinned d hdecoded hne d).1 haccepted
    have hsame : a = key.algorithm := asStr_injective (halg.symm.trans hname)
    exact ⟨hname, hsame ▸ ha⟩
  · intro h
    refine ⟨fun d => ⟨fun haccepted => ?_, verifyCompact_of_verifyWithPublicJwk hkey⟩, ?_⟩
    · obtain ⟨hdecoded, hsignature⟩ := verifyCompact_eq_ok.mp haccepted
      obtain ⟨hname, halg⟩ := h d hdecoded hsignature
      exact (verifyWithPublicJwk_iff hkey).mpr ⟨haccepted, key.algorithm, halg, hname⟩
    · -- a text of another algorithm has a signature that does not verify
      intro d hdecoded hne d'
      have hrejected : verifyCompact X jws key ≠ .ok d' := by
        intro haccepted
        obtain ⟨hdecoded', hsignature⟩ := verifyCompact_eq_ok.mp haccepted
        have heq : d' = d := Except.ok.inj (hdecoded'.symm.trans hdecoded)
        exact hne (heq ▸ (h d' hdecoded' hsignature).1)
      refine ⟨hrejected, fun haccepted => ?_⟩
      exact hrejected (verifyCompact_of_verifyWithPublicJwk hkey haccepted)

/-! ### A header without an algorithm -/

section Sample

/-- What the key signs: an empty object under `none`, and under its algorithm. -/
def signedTexts : List (Bytes × Bytes) :=
  [(utf8 "eyJhbGciOiJub25lIn0.e30",
      bigEndian 32 0x0517ef1e5a4c275ae5904e17105a6f432ca83b5daddf7e4c701cc65bfc7584fa ++
        bigEndian 32 0x9060d35463fcb404761e54366ed862d611fe74c14d5cf693d864476ae67c6dee),
    (utf8 "eyJhbGciOiJFUzI1NiJ9.e30",
      bigEndian 32 0x85cfc1681e409bc55ef8bb01bfd974f229f0398641921dfcc14ac2d1c1ca51bc ++
        bigEndian 32 0xef4c7e3d16b6f6e9c7c0ec0c6f9db5fd3115785d02e9b6de6bde3e2e2780cc05)]

def pinningCrates : Crates := tabled [] signedTexts

def pinningKey : SigningKey := tabledKey Tables.signerX Tables.signerY signedTexts

def emptyPayload (alg : String) : Except JwsError String :=
  signCompact pinningCrates (pinningKey.toKeyPair pinningCrates) ⟨alg, none, none, none, none⟩
    (.obj [])

def unpinned : String :=
  "eyJhbGciOiJub25lIn0.e30." ++
    "BRfvHlpMJ1rlkE4XEFpvQyyoO12t335McBzGW_x1hPqQYNNUY_y0BHYeVDZu2GLWEf50wU1c9pPYZEdq5nxt7g"

def pinned : String :=
  "eyJhbGciOiJFUzI1NiJ9.e30." ++
    "hc_BaB5Am8Ve-LsBv9l08inwOYZBkh38wUrC0cHKUbzvTH49Frb26cfA7AxvnbX9MRV4XQLptt5r3j4uJ4DMBQ"

lemma correct_pinningKey : pinningKey.Correct pinningCrates := tabledKey_correct _ _ _ _

lemma alike_pinningKey : VerifiesAlike pinningCrates (pinningKey.toKeyPair pinningCrates) :=
  verifiesAlike (base64Url_tabled [] signedTexts) correct_pinningKey

lemma verifyCompact_emptyPayload {alg jws : String} (h : emptyPayload alg = .ok jws) :
    ∃ d, verifyCompact pinningCrates jws (pinningKey.toKeyPair pinningCrates) = .ok d ∧
      d.header.alg = alg := by
  obtain ⟨signature, signingInput, hdecoded, hsigned, -⟩ :=
    decodeCompact_signCompact (base64Url_tabled [] signedTexts) (serdeJson_tabled [] signedTexts) h
  exact ⟨_, verifyCompact_eq_ok.mpr
    ⟨hdecoded, SigningKey.verify_of_sign correct_pinningKey hsigned⟩, rfl⟩

lemma emptyPayload_none : emptyPayload "none" = .ok unpinned := by decide +kernel

lemma emptyPayload_es256 : emptyPayload "ES256" = .ok pinned := by decide +kernel

/-- **The two checks disagree** on a JWS that the key signed under `none`: the key pair accepts
it and its public JWK does not. -/
theorem accepts_none :
    VerifiesAlike pinningCrates (pinningKey.toKeyPair pinningCrates) ∧
      (∃ d, verifyCompact pinningCrates unpinned (pinningKey.toKeyPair pinningCrates) = .ok d ∧
        d.header.alg = "none") ∧
      (∀ d, verifyWithPublicJwk pinningCrates unpinned
        (pinningKey.toKeyPair pinningCrates).publicJwk ≠ .ok d) ∧
      ¬ Agree pinningCrates unpinned (pinningKey.toKeyPair pinningCrates) := by
  obtain ⟨d, haccepted, halg⟩ := verifyCompact_emptyPayload emptyPayload_none
  have hrejected : ∀ d', verifyWithPublicJwk pinningCrates unpinned
      (pinningKey.toKeyPair pinningCrates).publicJwk ≠ .ok d' := by
    intro d' h
    obtain ⟨haccepted', a, -, hname⟩ := (verifyWithPublicJwk_iff alike_pinningKey).mp h
    have heq : d' = d := Except.ok.inj (haccepted'.symm.trans haccepted)
    rw [heq, halg] at hname
    cases a <;> simp [Algorithm.asStr] at hname
  exact ⟨alike_pinningKey, ⟨d, haccepted, halg⟩, hrejected,
    fun h => hrejected d ((h.same d).mp haccepted)⟩

/-- And they agree on what it signed under its own algorithm. -/
theorem agree_pinned : Agree pinningCrates pinned (pinningKey.toKeyPair pinningCrates) := by
  refine (agree_iff alike_pinningKey pinned).mpr fun d hdecoded _ => ?_
  obtain ⟨d', haccepted, halg⟩ := verifyCompact_emptyPayload emptyPayload_es256
  have heq : d' = d :=
    Except.ok.inj ((verifyCompact_eq_ok.mp haccepted).1.symm.trans hdecoded)
  exact ⟨heq ▸ halg, rfl⟩

end Sample

end Oid4vc.AlgorithmPinned
