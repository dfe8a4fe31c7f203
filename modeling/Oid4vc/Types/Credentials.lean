import Oid4vc.Base.Fallible
import Oid4vc.Base.Text

/-!
The credential formats, and the compact serialization of an SD-JWT VC:
`<issuer-jwt>~<disclosure-1>~...~<disclosure-n>~<kb-jwt>`.
-/

namespace Oid4vc.Credentials

open Oid4vc.Text Oid4vc.Fallible

/-- Supported credential formats. -/
inductive CredentialFormat
  | sdJwtVc
  | mdoc
  | jwtVc
  deriving DecidableEq

/-- The OID4VCI format identifier. -/
def CredentialFormat.asStr : CredentialFormat → String
  | .sdJwtVc => "dc+sd-jwt"
  | .mdoc => "mso_mdoc"
  | .jwtVc => "jwt_vc_json"

structure SdJwtVc where
  issuerJwt : String
  disclosures : List String
  keyBindingJwt : Option String
  deriving DecidableEq

inductive SdJwtParseError
  | empty
  | missingIssuerJwt
  deriving DecidableEq

def SdJwtParseError.toString : SdJwtParseError → String
  | .empty => "input is empty"
  | .missingIssuerJwt => "missing issuer JWT"

/-- The parts after the issuer JWT. Empty parts are skipped; the last part is the key
binding JWT if it has the two dots of a JWT. -/
def parseParts : List String → List String × Option String
  | [] => ([], none)
  | [part] =>
    if part = "" then ([], none)
    else if countChar '.' part = 2 then ([], some part)
    else ([part], none)
  | part :: parts =>
    let (disclosures, keyBindingJwt) := parseParts parts
    if part = "" then (disclosures, keyBindingJwt) else (part :: disclosures, keyBindingJwt)

def SdJwtVc.parse (compact : String) : Except SdJwtParseError SdJwtVc :=
  match split '~' compact with
  | [] => .error .empty
  | issuerJwt :: parts =>
    if issuerJwt = "" then .error .missingIssuerJwt
    else
      let (disclosures, keyBindingJwt) := parseParts parts
      .ok ⟨issuerJwt, disclosures, keyBindingJwt⟩

def SdJwtVc.toCompact (v : SdJwtVc) : String :=
  join "~" (v.issuerJwt :: v.disclosures ++ [v.keyBindingJwt.getD ""])

/-- A key binding JWT is the last part, and not empty. -/
lemma parseParts_keyBinding {parts : List String} {kb : String}
    (h : (parseParts parts).2 = some kb) : (∃ init, parts = init ++ [kb]) ∧ kb ≠ "" := by
  induction parts with
  | nil => simp [parseParts] at h
  | cons part parts ih =>
    cases parts with
    | nil =>
      simp only [parseParts] at h
      split_ifs at h with hempty hdots
      · simp only [Option.some.injEq] at h
        exact ⟨⟨[], by simp [h]⟩, h ▸ hempty⟩
    | cons next rest =>
      have h' : (parseParts (next :: rest)).2 = some kb := by
        simp only [parseParts] at h
        split_ifs at h <;> exact h
      obtain ⟨⟨init, hinit⟩, hne⟩ := ih h'
      exact ⟨⟨part :: init, by simp [hinit]⟩, hne⟩

/-- **Grammar.** A presentation that parses starts with its issuer JWT, up to the first
separator. -/
theorem parse_issuerJwt {compact : String} {v : SdJwtVc} (h : SdJwtVc.parse compact = .ok v) :
    (split '~' compact).head? = some v.issuerJwt ∧ v.issuerJwt ≠ "" := by
  unfold SdJwtVc.parse at h
  split at h
  · cases h
  · next issuerJwt parts hsplit =>
    split_ifs at h with hempty
    simp only [Except.ok.injEq] at h
    subst h
    exact ⟨by simp [hsplit], hempty⟩

/-- **Grammar.** A key binding JWT comes after the last separator. -/
theorem parse_keyBinding {compact kb : String} {v : SdJwtVc}
    (h : SdJwtVc.parse compact = .ok v) (hkb : v.keyBindingJwt = some kb) :
    ∃ t, compact.toList = t ++ ['~'] ++ kb.toList := by
  unfold SdJwtVc.parse at h
  split at h
  · cases h
  · next issuerJwt parts hsplit =>
    split_ifs at h with hempty
    simp only [Except.ok.injEq] at h
    subst h
    obtain ⟨⟨init, rfl⟩, -⟩ := parseParts_keyBinding hkb
    have hparts : split '~' compact = issuerJwt :: init ++ [kb] := by simpa using hsplit
    exact exists_prefix_of_split hparts (by simp)

end Oid4vc.Credentials
