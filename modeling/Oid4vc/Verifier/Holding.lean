import Oid4vc.Crypto.KeyBinding
import Oid4vc.Issuer.HolderKey
import Oid4vc.Server.IssuerRoutes
import Oid4vc.Verifier.Response

/-!
A holder of a credential of this server, who presents it with a key binding JWT for what the
verifier asked: every check passes, and the claims are those the holder chose to disclose.
-/

namespace Oid4vc.Holding

open Oid4vc.JsonValue Oid4vc.Text Oid4vc.Instant Oid4vc.Fallible Oid4vc.PartialMap Oid4vc.Jwks
open Oid4vc.External Oid4vc.Codecs Oid4vc.Keys Oid4vc.Jws Oid4vc.Credentials Oid4vc.SdJwt
open Oid4vc.Disclosures Oid4vc.Selective Oid4vc.KeyBinding Oid4vc.Credential Oid4vc.HolderKey
open Oid4vc.PublicKeys Oid4vc.Oid4vp Oid4vc.Response Oid4vc.Dcql Oid4vc.Server Oid4vc.IssuerRoutes

variable {X : Crates} {app : AppState X} {issuer holder : SigningKey}

/-- A credential that the server signed for this holder, and what of it the holder discloses. -/
structure Held (app : AppState X) (holder : SigningKey) where
  vct : String
  status : Option Json
  draws : CredentialDraws
  issuedAt : ℤ
  compact : String
  chosen : List Disclosure
  issued : signSdJwtCredential X (issuanceContext app) vct (holder.toKeyPair X).publicJwk status draws
    issuedAt = .ok (.str compact)
  status_proper : ∀ v ∈ status, v.Proper
  issuedAt_representable : Representable issuedAt
  /-- Some of the disclosures, in any order. -/
  chosen_subperm : chosen.Subperm (disclosuresFor X draws.claims draws.salts)
  /-- No two of the disclosures have the same digest. -/
  distinct : ∀ d ∈ disclosuresFor X draws.claims draws.salts,
    ∀ d' ∈ disclosuresFor X draws.claims draws.salts,
      X.sha256 (utf8 d.encoded) = X.sha256 (utf8 d'.encoded) → d.encoded = d'.encoded

/-- The credential with what is disclosed of it. -/
def Held.presented (h : Held app holder) : String := presentWith h.compact h.chosen

/-- The credential is good at this instant. -/
def Held.Good (h : Held app holder) (now : ℤ) : Prop :=
  h.issuedAt ≤ now ∧ timestamp now < expiry h.issuedAt

/-- A claim of each of these names is disclosed. -/
def Held.Shows (h : Held app holder) (names : List String) : Prop :=
  ∀ name ∈ names, name ∈ h.chosen.map Disclosure.claimName

/-- The token of a holder: the credential, and a key binding JWT for this nonce and this audience. -/
structure Held.Token (h : Held app holder) (nonce audience token : String) where
  kbJwt : String
  signedAt : ℤ
  signedAt_representable : Representable signedAt
  created : createKeyBindingJwt X (holder.toKeyPair X) nonce audience
    (computeSdHash X h.presented) signedAt = .ok kbJwt
  token_eq : token = h.presented ++ kbJwt

/-- A credential of this server, whose holder discloses everything. -/
lemma exists_held (hsigns : issuer.Signs) (hkey : app.primaryKey = issuer.toKeyPair X)
    (hsha : Function.Injective X.sha256) (holder : SigningKey) (vct : String) (draws : CredentialDraws)
    {issuedAt : ℤ} (hissuedAt : Representable issuedAt) :
    ∃ h : Held app holder, h.chosen = disclosuresFor X draws.claims draws.salts ∧
      h.draws = draws ∧ h.issuedAt = issuedAt := by
  obtain ⟨compact, hissue⟩ : ∃ compact, issueSdJwtVcWithX5c X (issuer.toKeyPair X) app.issuerId vct []
      draws.claims (some (.obj [("jwk", (holder.toKeyPair X).publicJwk.toValue)])) none
      (some (x5c app.leaf)) issuedAt draws.salts =
        .ok (compact, disclosuresFor X draws.claims draws.salts) :=
    issue_succeeds (SigningKey.sign_total hsigns) draws.claims _ draws.salts
  have hsigned : signSdJwtCredential X (issuanceContext app) vct (holder.toKeyPair X).publicJwk none
      draws issuedAt = .ok (.str compact) := by
    simp only [signSdJwtCredential, bind_eq_ok, mapError_eq_ok, pure_eq_ok, issuanceContext, hkey]
    exact ⟨_, hissue, rfl⟩
  exact ⟨⟨vct, none, draws, issuedAt, compact, _, hsigned, by simp, hissuedAt, List.Subperm.refl _,
    fun d _ d' _ h => utf8_inj (hsha h)⟩, rfl, rfl, rfl⟩

lemma Held.exists_token (hsigns : holder.Signs) (h : Held app holder) (nonce audience : String) :
    ∃ token, Nonempty (h.Token nonce audience token) := by
  obtain ⟨kbJwt, hkbJwt⟩ := signCompact_total (X := X) (SigningKey.sign_total hsigns)
    (buildHeaderWithJwk (holder.toKeyPair X) (some "kb+jwt"))
    (.obj [("aud", .str audience), ("iat", i64Json (timestamp h.issuedAt)), ("nonce", .str nonce),
      ("sd_hash", .str (computeSdHash X h.presented))])
  exact ⟨_, ⟨kbJwt, h.issuedAt, h.issuedAt_representable, mapError_eq_ok.mpr hkbJwt, rfl⟩⟩

/-! ### Parsing -/

/-- What comes last takes nothing from the disclosures before it. -/
lemma parseParts_bound {parts : List String} {kbJwt : String} (hne : kbJwt ≠ "")
    (hdots : countChar '.' kbJwt = 2) :
    parseParts (parts ++ [kbJwt]) = ((parseParts (parts ++ [""])).1, some kbJwt) := by
  induction parts with
  | nil => simp [parseParts, hne, hdots]
  | cons p parts ih =>
    have hskip : ∀ last : String, parseParts (p :: (parts ++ [last])) =
        if p = "" then parseParts (parts ++ [last])
        else (p :: (parseParts (parts ++ [last])).1, (parseParts (parts ++ [last])).2) := by
      intro last
      cases hparts : parts ++ [last] with
      | nil => simp at hparts
      | cons q qs =>
        rw [parseParts]
        simp
    rw [List.cons_append, List.cons_append, hskip, hskip, ih]
    split_ifs <;> rfl

/-- A key binding JWT after a presentation leaves its other parts as they are. -/
lemma parse_bound {t kbJwt : String} {v : SdJwtVc} (hparse : SdJwtVc.parse (t ++ "~") = .ok v)
    (htilde : '~' ∉ kbJwt.toList) (hne : kbJwt ≠ "") (hdots : countChar '.' kbJwt = 2) :
    SdJwtVc.parse (t ++ "~" ++ kbJwt) = .ok ⟨v.issuerJwt, v.disclosures, some kbJwt⟩ := by
  have hempty : split '~' (t ++ "~") = split '~' (String.ofList t.toList) ++ [""] :=
    split_snoc (by simp [String.toList_append]) List.not_mem_nil
  have hwhole : split '~' (t ++ "~" ++ kbJwt) = split '~' (String.ofList t.toList) ++ [kbJwt] :=
    split_snoc (by simp [String.toList_append]) htilde
  cases hparts : split '~' (String.ofList t.toList) with
  | nil => exact absurd hparts (split_ne_nil _ _)
  | cons issuerJwt rest =>
    rw [hparts] at hempty hwhole
    rw [SdJwtVc.parse, hempty] at hparse
    rw [SdJwtVc.parse, hwhole]
    simp only [List.cons_append] at hparse ⊢
    split_ifs at hparse ⊢ with hissuer
    obtain rfl := Except.ok.inj hparse
    rw [parseParts_bound hne hdots]

/-- The checks that a presentation passes, it passes with a key binding JWT after it. -/
lemma checked_bound {t kbJwt : String} {issuerKey : KeyPair} {now : ℤ} {payload : Json}
    {ds : List Disclosure} (h : Checked X (t ++ "~") issuerKey now payload ds)
    (htilde : '~' ∉ kbJwt.toList) (hne : kbJwt ≠ "") (hdots : countChar '.' kbJwt = 2) :
    Checked X (t ++ "~" ++ kbJwt) issuerKey now payload ds := by
  obtain ⟨v, decoded, hparse, hverified, hpayload, hds⟩ := h.signed
  exact ⟨⟨_, decoded, parse_bound hparse htilde hne hdots, hverified, hpayload, hds⟩, h.window,
    h.hashes, h.distinct⟩

/-! ### The token -/

lemma presentWith_snoc (compact : String) (ds : List Disclosure) :
    ∃ t, presentWith compact ds = t ++ "~" := by
  refine ⟨join "~" ((split '~' compact).headD "" :: ds.map Disclosure.encoded), ?_⟩
  have hjoin := toList_join '~'
  apply String.toList_inj.mp
  rw [String.toList_append, presentWith, show ("~" : String) = String.singleton '~' from rfl, hjoin,
    hjoin, List.cons_append, List.map_cons, List.map_append, ← List.cons_append, List.map_singleton,
    intercalate_snoc _ _ (by simp), List.map_cons]
  simp

/-- **A bound presentation verifies.** An issued credential with some of its disclosures, and a key
binding JWT of its holder after them, passes every check while the credential is good, for the nonce
and the audience that the JWT was made for; and it is of the type it was issued with. -/
theorem verifySdJwtVp_bound (hb64 : Base64Url X) (hserde : SerdeJson X) (hissuer : issuer.Correct X)
    (hholder : holder.Correct X) {issuerUrl vct : String} {disclosable : List (String × Json)}
    {status : Option Json} {x5c : Option (List String)} {issuedAt : ℤ} {salts : ℕ → Bytes}
    {compact : String} {ds chosen : List Disclosure}
    (hissue : issueSdJwtVcWithX5c X (issuer.toKeyPair X) issuerUrl vct [] disclosable
      (some (.obj [("jwk", (holder.toKeyPair X).publicJwk.toValue)])) status x5c issuedAt salts =
        .ok (compact, ds))
    (hnodup : (disclosable.map Prod.fst).Nodup) (hproper : Json.ProperMembers disclosable)
    (hstatus : ∀ v ∈ status, v.Proper) (hissuedAt : Representable issuedAt)
    (hdistinct : ∀ d ∈ ds, ∀ d' ∈ ds,
      X.sha256 (utf8 d.encoded) = X.sha256 (utf8 d'.encoded) → d.encoded = d'.encoded)
    (hchosen : chosen.Subperm ds) {nonce audience kbJwt : String} {signedAt : ℤ}
    (hsignedAt : Representable signedAt)
    (hcreated : createKeyBindingJwt X (holder.toKeyPair X) nonce audience
      (computeSdHash X (presentWith compact chosen)) signedAt = .ok kbJwt)
    {now : ℤ} (hstart : issuedAt ≤ now) (hend : timestamp now < expiry issuedAt) :
    '~' ∈ (presentWith compact chosen ++ kbJwt).toList ∧
      verifySdJwtVp X (presentWith compact chosen ++ kbJwt) (issuer.toKeyPair X) nonce audience now =
        .ok (empty.insertAll (chosen.map entryOf)) ∧
      ∃ payload, payload.get "vct" = some (.str vct) ∧
        Checked X (presentWith compact chosen ++ kbJwt) (issuer.toKeyPair X) now payload chosen := by
  obtain ⟨rfl, -⟩ := issue_ok hissue
  have hcnf : ∀ v ∈ some (Json.obj [("jwk", (holder.toKeyPair X).publicJwk.toValue)]), v.Proper := by
    intro v hv
    obtain rfl := Option.some.inj hv
    rw [Json.Proper, Json.properMembers_iff]
    refine ⟨fun m hm => ?_, List.pairwise_singleton _ _⟩
    rw [List.mem_singleton.mp hm]
    exact proper_toValue _
  obtain ⟨payload, hpayload, hissued⟩ := checked_of_issue hb64 hserde hissuer hissue List.nodup_nil
    (by simp) (by simp [Json.properMembers_iff]) hproper hcnf hstatus hissuedAt
  obtain ⟨same, hsame, hsub⟩ := hchosen
  have hhashes : (chosen.map Disclosure.hash).Nodup := by
    rw [← (hsame.map Disclosure.hash).nodup_iff]
    exact (hash_nodup hb64 hserde hnodup hproper hdistinct).sublist (hsub.map _)
  have hchecked := hissued chosen (fun d hd => hsub.subset (hsame.mem_iff.mpr hd)) hhashes now
    hstart hend
  -- the payload has no plain claims, so the claims are those of the disclosures
  have hplain : plainMembers payload = [] := by
    have := hpayload.plainMembers (by simp)
    exact this.eq_nil
  have hholderJwk : cnfJwk payload = some (holder.toKeyPair X).publicJwk := by
    have hget : payload.get "cnf" =
        some (.obj [("jwk", (holder.toKeyPair X).publicJwk.toValue)]) := by
      apply hpayload.get
      simp [registered, claimsFor]
    have hjwk : (Json.obj [("jwk", (holder.toKeyPair X).publicJwk.toValue)]).get "jwk" =
        some (holder.toKeyPair X).publicJwk.toValue := rfl
    simp only [cnfJwk, hget, Option.bind_eq_bind, Option.bind_some, hjwk, ofJson_toValue]
  -- the key binding JWT comes after what was verified
  obtain ⟨t, ht⟩ := presentWith_snoc compact chosen
  rw [ht] at hcreated hchecked ⊢
  have hsigned := hcreated
  simp only [createKeyBindingJwt, mapError_eq_ok] at hsigned
  obtain ⟨-, -, -, -, htilde, hne⟩ := decodeCompact_signCompact hb64 hserde hsigned
  have hbound := checked_bound hchecked htilde hne (countChar_signCompact hb64 hsigned)
  have hhead : (split '~' (t ++ "~")).head? ≠ some "" := by
    obtain ⟨parsed, -, hparse, -⟩ := hchecked.signed
    obtain ⟨hissuerJwt, hnonempty⟩ := parse_issuerJwt hparse
    rw [hissuerJwt]
    simpa using hnonempty
  have hbinding := (verifyKeyBinding_create hb64 hserde hholder hhead hsignedAt hcreated nonce
    audience).mpr ⟨rfl, rfl⟩
  have hvct : payload.get "vct" = some (.str vct) := by
    apply hpayload.get
    simp [registered, claimsFor]
  refine ⟨by simp [String.toList_append], ?_, payload, hvct, hbound⟩
  have hclaims : empty.insertAll (chosen.map entryOf) = claimsOf payload chosen := by
    rw [claimsOf, hplain, List.append_nil]
  simp only [verifySdJwtVp, bind_eq_ok, mapError_eq_ok, okOr_eq_ok, pure_eq_ok, exists_unit]
  exact ⟨⟨_, payload⟩, verifySdJwtVc_eq_ok.mpr ⟨chosen, hbound, rfl⟩, _, hholderJwk, hbinding,
    hclaims.symm⟩

/-- **A holder's token verifies**, for the nonce and the audience that it was made for, as long as
the credential is good; and its claims are those that the holder chose. -/
theorem Held.verifies (hb64 : Base64Url X) (hserde : SerdeJson X) (hissuer : issuer.Correct X)
    (hholder : holder.Correct X) (hkey : app.primaryKey = issuer.toKeyPair X)
    (h : Held app holder) {nonce audience token : String} (htoken : h.Token nonce audience token)
    {now : ℤ} (hgood : h.Good now) :
    '~' ∈ token.toList ∧ ∃ claims,
      verifySdJwtVp X token app.primaryKey nonce audience now = .ok claims ∧
      ∀ name value, claims.get name = some value ↔ (name, value) ∈ h.chosen.map entryOf := by
  -- the credential was issued by the call that the issuer makes
  obtain ⟨ds, hissue⟩ : ∃ ds, issueSdJwtVcWithX5c X (issuer.toKeyPair X) app.issuerId h.vct []
      h.draws.claims (some (.obj [("jwk", (holder.toKeyPair X).publicJwk.toValue)])) h.status
      (some (x5c app.leaf)) h.issuedAt h.draws.salts = .ok (h.compact, ds) := by
    have hissued := h.issued
    simp only [signSdJwtCredential, bind_eq_ok, mapError_eq_ok, pure_eq_ok, issuanceContext,
      hkey] at hissued
    obtain ⟨⟨compact, ds⟩, hr, heq⟩ := hissued
    obtain rfl : compact = h.compact := Json.str.inj heq
    exact ⟨ds, hr⟩
  have hdisclosures := (issue_ok hissue).1
  have hproper : Json.ProperMembers h.draws.claims := by
    rw [Json.properMembers_iff]
    intro c hc
    have := h.draws.walks.subset hc
    simp only [demoClaims, List.mem_cons, List.not_mem_nil, or_false] at this
    rcases this with rfl | rfl | rfl <;> trivial
  have hnodup : (h.draws.claims.map Prod.fst).Nodup := by
    have hdemo : (demoClaims.map Prod.fst).Nodup := by decide
    exact (h.draws.walks.map Prod.fst).nodup_iff.mpr hdemo
  have hchosen : h.chosen.Subperm ds := by
    rw [hdisclosures]
    exact h.chosen_subperm
  obtain ⟨kbJwt, signedAt, hsignedAt, hcreated, rfl⟩ := htoken
  obtain ⟨hsep, hverified, -⟩ := verifySdJwtVp_bound hb64 hserde hissuer hholder hissue hnodup hproper
    h.status_proper h.issuedAt_representable (by rw [hdisclosures]; exact h.distinct) hchosen
    hsignedAt hcreated hgood.1 hgood.2
  -- what is presented is some of what was issued, so no name comes twice
  have hnames : ((h.chosen.map entryOf).map Prod.fst).Nodup := by
    obtain ⟨same, hsame, hsub⟩ := h.chosen_subperm
    rw [← ((hsame.map entryOf).map Prod.fst).nodup_iff]
    refine List.Nodup.sublist ((hsub.map entryOf).map Prod.fst) ?_
    rwa [entryOf_disclosuresFor]
  exact ⟨hsep, _, by rw [hkey]; exact hverified, fun _ _ => get_insertAll_empty hnames⟩

lemma Held.shows_of_chosen {h : Held app holder} (hchosen : h.chosen.map entryOf = demoClaims)
    {names : List String} (hnames : names ⊆ demoClaims.map Prod.fst) : h.Shows names := by
  have hshown : h.chosen.map Disclosure.claimName = demoClaims.map Prod.fst := by
    rw [← hchosen, List.map_map]
    rfl
  intro name hname
  rw [hshown]
  exact hnames hname

/-- A presentation that shows what a query asks for satisfies it. -/
lemma Held.satisfies {h : Held app holder} {names : List String} (hshows : h.Shows names)
    {claims : PMap String Json}
    (hclaims : ∀ name value, claims.get name = some value ↔ (name, value) ∈ h.chosen.map entryOf)
    {id vct : String} {mandatory : List (String × Bool)} (hnames : mandatory.map Prod.fst = names) :
    checkQuery (some (Dcql.DcqlQueryBuilder.new.addSdJwtVcQuery id vct mandatory).build) claims =
      .ok () := by
  have hfound : ∀ name ∈ names, ∃ value, claims.get name = some value := by
    intro name hname
    obtain ⟨d, hd, rfl⟩ := List.mem_map.mp (hshows name hname)
    exact ⟨d.claimValue, (hclaims _ _).mpr (List.mem_map_of_mem hd)⟩
  have hsatisfied : ∀ query ∈ (DcqlQueryBuilder.new.addSdJwtVcQuery id vct mandatory).build.credentials,
      evaluateCredentialQuery query claims = true := by
    intro query hquery
    obtain rfl := List.mem_singleton.mp hquery
    rw [evaluateCredentialQuery, hnames, DcqlQueryBuilder.claimQueries]
    split_ifs
    · rfl
    · simp only [List.all_map, List.all_eq_true, Function.comp_apply]
      intro name hname
      obtain ⟨value, hvalue⟩ := hfound name hname
      simp only [evaluateClaimQuery, hvalue]
  exact checkQueries_eq_ok.mpr hsatisfied

end Oid4vc.Holding
