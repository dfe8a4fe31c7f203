import Oid4vc.Crypto.Disclosures
import Oid4vc.Types.RoundTrip

/-!
Selective disclosure: an issued SD-JWT VC, presented with some of its disclosures in any
order, verifies to its plain claims and the claims of these disclosures.
-/

namespace Oid4vc.Selective

open Oid4vc.JsonValue Oid4vc.Text Oid4vc.Instant Oid4vc.Fallible Oid4vc.PartialMap Oid4vc.Jwks
open Oid4vc.External Oid4vc.Codecs Oid4vc.Keys Oid4vc.Jws Oid4vc.Credentials Oid4vc.SdJwt
open Oid4vc.Disclosures
open Oid4vc.CborBytes (bigEndian)

/-- An SD-JWT VC with these disclosures in place of its own. -/
def presentWith (compact : String) (ds : List Disclosure) : String :=
  join "~" ((split '~' compact).headD "" :: ds.map Disclosure.encoded ++ [""])

/-- The last second of an SD-JWT VC issued at this instant. -/
def expiry (clock : ℤ) : ℤ := timestamp clock - timestamp clock % daySecs + daySecs * 365

variable {X : Crates}

/-! ### Disclosures -/

/-- **A disclosure is read back.** -/
lemma fromEncoded_new (hb64 : Base64Url X) (hserde : SerdeJson X) (salt : Bytes) (name : String)
    {value : Json} (hvalue : value.Proper) :
    Disclosure.fromEncoded X (Disclosure.new X salt name value).encoded =
      .ok (Disclosure.new X salt name value) := by
  have hitems : Json.ProperItems [.str (X.base64UrlEncode salt), .str name, value] := by
    simp [Json.ProperItems, Json.Proper, hvalue]
  simp [Disclosure.fromEncoded, Disclosure.new, hb64.decode_encode, hserde.array _ hitems,
    Except.mapError, okOr, pure, Except.pure, bind, Except.bind]

def disclosuresFor (X : Crates) (claims : List (String × Json)) (salts : ℕ → Bytes) :
    List Disclosure :=
  claims.mapIdx fun i c => Disclosure.new X (salts i) c.1 c.2

lemma entryOf_disclosuresFor (claims : List (String × Json)) (salts : ℕ → Bytes) :
    (disclosuresFor X claims salts).map entryOf = claims := by
  refine List.ext_getElem (by simp [disclosuresFor]) fun i h₁ h₂ => ?_
  simp [disclosuresFor, entryOf, Disclosure.new]

lemma of_mem_disclosuresFor {claims : List (String × Json)} {salts : ℕ → Bytes} {d : Disclosure}
    (h : d ∈ disclosuresFor X claims salts) :
    ∃ i, ∃ c ∈ claims, d = Disclosure.new X (salts i) c.1 c.2 := by
  obtain ⟨i, hi, rfl⟩ := List.mem_mapIdx.mp h
  exact ⟨i, claims[i], List.getElem_mem hi, rfl⟩

lemma fromEncoded_of_mem (hb64 : Base64Url X) (hserde : SerdeJson X)
    {claims : List (String × Json)} (hproper : Json.ProperMembers claims) {salts : ℕ → Bytes}
    {d : Disclosure} (h : d ∈ disclosuresFor X claims salts) :
    Disclosure.fromEncoded X d.encoded = .ok d := by
  obtain ⟨i, c, hc, rfl⟩ := of_mem_disclosuresFor h
  exact fromEncoded_new hb64 hserde _ _ (Json.properMembers_iff.mp hproper c hc)

lemma encoded_of_mem (hb64 : Base64Url X) (hserde : SerdeJson X) {claims : List (String × Json)}
    {salts : ℕ → Bytes} {d : Disclosure} (h : d ∈ disclosuresFor X claims salts) :
    d.encoded ≠ "" ∧ '~' ∉ d.encoded.toList ∧
      d.hash = X.base64UrlEncode (X.sha256 (utf8 d.encoded)) := by
  obtain ⟨i, c, -, rfl⟩ := of_mem_disclosuresFor h
  exact ⟨hb64.nonempty _ (hserde.nonempty _), (hb64.alphabet _).2, rfl⟩

/-- Disclosures of distinct names have distinct hashes. -/
lemma hash_nodup (hb64 : Base64Url X) (hserde : SerdeJson X) {claims : List (String × Json)}
    (hnodup : (claims.map Prod.fst).Nodup) (hproper : Json.ProperMembers claims)
    {salts : ℕ → Bytes}
    (hsha : ∀ d ∈ disclosuresFor X claims salts, ∀ d' ∈ disclosuresFor X claims salts,
      X.sha256 (utf8 d.encoded) = X.sha256 (utf8 d'.encoded) → d.encoded = d'.encoded) :
    ((disclosuresFor X claims salts).map Disclosure.hash).Nodup := by
  have hds : (disclosuresFor X claims salts).Nodup := by
    have hentry : ((disclosuresFor X claims salts).map entryOf).Nodup := by
      rw [entryOf_disclosuresFor]
      exact hnodup.of_map
    exact hentry.of_map
  refine hds.map_on fun d hd d' hd' heq => ?_
  rw [(encoded_of_mem hb64 hserde hd).2.2, (encoded_of_mem hb64 hserde hd').2.2] at heq
  have henc := hsha d hd d' hd' (hb64.inj heq)
  have hread := fromEncoded_of_mem hb64 hserde hproper hd
  rw [henc, fromEncoded_of_mem hb64 hserde hproper hd', Except.ok.injEq] at hread
  exact hread.symm

/-! ### The payload -/

lemma asI64_i64Json {n : ℤ} (hlow : -2 ^ 63 ≤ n) (hhigh : n < 2 ^ 63) :
    (i64Json n).asI64 = some n := by
  unfold i64Json
  split_ifs with hn
  · have hn' : (BitVec.ofInt 64 n).toNat = n := by
      rw [BitVec.toNat_ofInt]
      omega
    have hfits : (BitVec.ofInt 64 n).toNat < 2 ^ 63 := by omega
    simp only [Json.asI64, if_pos hfits, hn']
  · have : (BitVec.ofInt 64 n).toInt = n := by
      rw [BitVec.toInt_ofInt, Int.bmod_def]
      omega
    simp [Json.asI64, this]

lemma proper_i64Json {n : ℤ} (hlow : -2 ^ 63 ≤ n) (hhigh : n < 2 ^ 63) : (i64Json n).Proper := by
  have hread := asI64_i64Json hlow hhigh
  unfold i64Json at hread ⊢
  split_ifs with hn
  · simp [Json.Proper]
  · simp only [hn, if_false, Json.asI64, Option.some.injEq] at hread
    simp only [Json.Proper, hread]
    omega

/-- The members of a payload that come before its plain claims. -/
def registered (c : SdJwtVcClaims) : List (String × Json) :=
  [("iss", .str c.iss)] ++ (c.sub.map fun s => ("sub", Json.str s)).toList ++
    [("iat", i64Json c.iat)] ++ (c.exp.map fun t => ("exp", i64Json t)).toList ++
    (c.nbf.map fun t => ("nbf", i64Json t)).toList ++ [("vct", .str c.vct)] ++
    (if c.sd = [] then [] else [("_sd", .arr (c.sd.map .str))]) ++
    (c.sdAlg.map fun a => ("_sd_alg", Json.str a)).toList ++
    (c.cnf.map fun v => ("cnf", v)).toList ++
    (c.status.map fun v => ("status", v)).toList

def claimsFor (issuerUrl vct : String) (plain : List (String × Json)) (ds : List Disclosure)
    (holderJwk status : Option Json) (clock : ℤ) : SdJwtVcClaims where
  iss := issuerUrl
  sub := none
  iat := timestamp clock - timestamp clock % daySecs
  exp := some (expiry clock)
  nbf := some (timestamp clock - timestamp clock % daySecs)
  vct := vct
  sd := ds.map Disclosure.hash
  sdAlg := some "sha-256"
  cnf := holderJwk
  status := status
  plainClaims := plain

variable {issuerUrl vct : String} {plain : List (String × Json)} {ds : List Disclosure}
  {holderJwk status : Option Json} {clock : ℤ}

/-- The names of the members that are about the credential. -/
def registeredNames : List String :=
  ["iss", "iat", "exp", "nbf", "vct", "_sd", "_sd_alg", "cnf", "status"]

lemma registered_sublist :
    ((registered (claimsFor issuerUrl vct plain ds holderJwk status clock)).map
      Prod.fst).Sublist registeredNames := by
  unfold registered claimsFor registeredNames
  by_cases hds : ds = []
  · cases holderJwk <;> cases status <;> simp [hds]
  · cases holderJwk <;> cases status <;> simp [hds]

lemma registered_not_plain :
    ∀ m ∈ registered (claimsFor issuerUrl vct plain ds holderJwk status clock),
      isPlainClaim m.1 = false := by
  have hnames : ∀ name ∈ registeredNames, isPlainClaim name = false := by decide
  intro m hm
  exact hnames _ (registered_sublist.subset (List.mem_map_of_mem hm))

lemma registered_nodup :
    ((registered (claimsFor issuerUrl vct plain ds holderJwk status clock)).map Prod.fst).Nodup :=
  List.Nodup.sublist registered_sublist (by decide)

/-- An entry of the payload, if no plain claim is named like a claim about the credential. -/
lemma members_nodup (hnodup : (plain.map Prod.fst).Nodup)
    (hnames : ∀ c ∈ plain, isPlainClaim c.1 = true) :
    ((registered (claimsFor issuerUrl vct plain ds holderJwk status clock) ++ plain).map
      Prod.fst).Nodup := by
  rw [List.map_append]
  refine List.Nodup.append registered_nodup hnodup ?_
  intro name hreg hplain
  obtain ⟨m, hm, rfl⟩ := List.mem_map.mp hreg
  obtain ⟨c, hc, heq⟩ := List.mem_map.mp hplain
  have := hnames c hc
  rw [heq, registered_not_plain m hm] at this
  cases this

/-- Values are kept as they are. -/
lemma members_proper (hplain : Json.ProperMembers plain) (hholder : ∀ v ∈ holderJwk, v.Proper)
    (hstatus : ∀ v ∈ status, v.Proper) (hclock : Representable clock) :
    Json.ProperMembers
      (registered (claimsFor issuerUrl vct plain ds holderJwk status clock) ++ plain) := by
  have hstrs : Json.ProperItems ((ds.map Disclosure.hash).map Json.str) := by
    rw [Json.properItems_iff]
    simp [Json.Proper]
  obtain ⟨hlow, hhigh⟩ := hclock
  have hiat : (i64Json (timestamp clock - timestamp clock % daySecs)).Proper :=
    proper_i64Json (by unfold daySecs; omega) (by unfold daySecs; omega)
  have hexp : (i64Json (expiry clock)).Proper :=
    proper_i64Json (by unfold expiry daySecs; omega) (by unfold expiry daySecs; omega)
  rw [Json.properMembers_iff] at hplain ⊢
  intro m hm
  rcases List.mem_append.mp hm with hm | hm
  · unfold registered claimsFor at hm
    by_cases hds : ds = []
    · simp only [hds, List.map_nil, if_true, Option.map_none, Option.map_some, Option.toList_none,
        Option.toList_some, List.mem_append, List.mem_singleton, List.not_mem_nil, or_false,
        Option.mem_toList, Option.map_eq_some_iff] at hm
      rcases hm with ((((((rfl | rfl) | rfl) | rfl) | rfl) | rfl) | ⟨v, hv, rfl⟩) | ⟨v, hv, rfl⟩
      all_goals first | exact hiat | exact hexp | exact hholder v hv | exact hstatus v hv | trivial
    · have hne : ds.map Disclosure.hash ≠ [] := by simpa using hds
      simp only [if_neg hne, Option.map_none, Option.map_some, Option.toList_none,
        Option.toList_some, List.mem_append, List.mem_singleton, List.not_mem_nil, or_false,
        Option.mem_toList, Option.map_eq_some_iff] at hm
      rcases hm with (((((((rfl | rfl) | rfl) | rfl) | rfl) | rfl) | rfl) | ⟨v, hv, rfl⟩) |
        ⟨v, hv, rfl⟩
      all_goals first
        | exact hiat | exact hexp | exact hholder v hv | exact hstatus v hv | exact hstrs | trivial
  · exact hplain m hm

/-- A payload with the members of the claims, in any order. -/
structure PayloadOf (c : SdJwtVcClaims) (payload : Json) : Prop where
  members : ∃ sorted : List (String × Json), payload = .obj sorted ∧
    sorted.Perm (registered c ++ c.plainClaims)
  nodup : ((registered c ++ c.plainClaims).map Prod.fst).Nodup

lemma PayloadOf.get {c : SdJwtVcClaims} {payload : Json} (h : PayloadOf c payload)
    {name : String} {v : Json} (hv : (name, v) ∈ registered c) : payload.get name = some v := by
  obtain ⟨sorted, rfl, hperm⟩ := h.members
  have hnodup : (sorted.map Prod.fst).Nodup := (hperm.map Prod.fst).nodup_iff.mpr h.nodup
  rw [Json.get_obj_eq_some hnodup, hperm.mem_iff, List.mem_append]
  exact Or.inl hv

lemma PayloadOf.plainMembers {payload : Json}
    (h : PayloadOf (claimsFor issuerUrl vct plain ds holderJwk status clock) payload)
    (hnames : ∀ c ∈ plain, isPlainClaim c.1 = true) : (plainMembers payload).Perm plain := by
  obtain ⟨sorted, rfl, hperm⟩ := h.members
  have hfilter := hperm.filter fun m => isPlainClaim m.1
  have hreg : (registered (claimsFor issuerUrl vct plain ds holderJwk status clock)).filter
      (fun m => isPlainClaim m.1) = [] := by
    rw [List.filter_eq_nil_iff]
    intro m hm
    simp [registered_not_plain m hm]
  have hplain : plain.filter (fun m => isPlainClaim m.1) = plain :=
    List.filter_eq_self.mpr hnames
  rw [List.filter_append, hreg, List.nil_append] at hfilter
  exact hplain ▸ hfilter

lemma PayloadOf.signedHashes {payload : Json}
    (h : PayloadOf (claimsFor issuerUrl vct plain ds holderJwk status clock) payload)
    {d : Disclosure} (hd : d ∈ ds) : d.hash ∈ signedHashes payload := by
  have hne : ds.map Disclosure.hash ≠ [] := by
    intro hnil
    rw [List.map_eq_nil_iff.mp hnil] at hd
    cases hd
  have hget : payload.get "_sd" = some (.arr ((ds.map Disclosure.hash).map .str)) := by
    apply h.get
    simp [registered, claimsFor, hne]
  rw [Disclosures.signedHashes, hget, Option.bind_some, asStrings_str, Option.getD_some]
  exact List.mem_map_of_mem hd

/-- The window of the payload: from the start of the day to its expiry. -/
lemma PayloadOf.checkWindow {payload : Json}
    (h : PayloadOf (claimsFor issuerUrl vct plain ds holderJwk status clock) payload)
    (hclock : Representable clock) {now : ℤ} (hstart : clock ≤ now)
    (hend : timestamp now < expiry clock) :
    checkWindow payload (timestamp now) = .ok () := by
  have hexp : payload.get "exp" = some (i64Json (expiry clock)) := by
    apply h.get
    simp [registered, claimsFor]
  have hnbf : payload.get "nbf" =
      some (i64Json (timestamp clock - timestamp clock % daySecs)) := by
    apply h.get
    simp [registered, claimsFor]
  obtain ⟨hlow, hhigh⟩ := hclock
  have hmono := timestamp_mono hstart
  have hexp' : i64Claim payload "exp" = some (expiry clock) := by
    rw [i64Claim, hexp, Option.bind_some]
    exact asI64_i64Json (by unfold expiry daySecs; omega) (by unfold expiry daySecs; omega)
  have hnbf' : i64Claim payload "nbf" =
      some (timestamp clock - timestamp clock % daySecs) := by
    rw [i64Claim, hnbf, Option.bind_some]
    exact asI64_i64Json (by unfold daySecs; omega) (by unfold daySecs; omega)
  have hday : timestamp clock - timestamp clock % daySecs ≤ timestamp now := by
    unfold daySecs
    omega
  simp only [SdJwt.checkWindow, bind_eq_ok, ensure_eq_ok, exists_unit, hexp', hnbf',
    Option.mem_def, Option.some.injEq]
  exact ⟨fun _ he => he ▸ hend, fun _ he => he ▸ hday⟩

/-! ### The presentation -/

lemma issue_ok {issuerKey : KeyPair} {disclosable : List (String × Json)}
    {x5c : Option (List String)} {salts : ℕ → Bytes} {compact : String}
    (h : issueSdJwtVcWithX5c X issuerKey issuerUrl vct plain disclosable holderJwk status x5c clock
      salts = .ok (compact, ds)) :
    ds = disclosuresFor X disclosable salts ∧ ∃ issuerJwt header,
      signCompact X issuerKey header
        (claimsFor issuerUrl vct plain ds holderJwk status clock).toJson = .ok issuerJwt ∧
      compact = join "~" (issuerJwt :: ds.map Disclosure.encoded ++ [""]) := by
  simp only [issueSdJwtVcWithX5c, bind_eq_ok, mapError_eq_ok, pure_eq_ok, Prod.mk.injEq] at h
  obtain ⟨issuerJwt, hsign, rfl, rfl⟩ := h
  exact ⟨rfl, issuerJwt, _, hsign, rfl⟩

lemma issue_succeeds {issuerKey : KeyPair} (hsign : ∀ m, ∃ s, issuerKey.sign m = .ok s)
    (disclosable : List (String × Json)) (x5c : Option (List String)) (salts : ℕ → Bytes) :
    ∃ compact, issueSdJwtVcWithX5c X issuerKey issuerUrl vct plain disclosable holderJwk status x5c
      clock salts = .ok (compact, disclosuresFor X disclosable salts) := by
  simp only [issueSdJwtVcWithX5c, signCompact, bind_eq_ok, mapError_eq_ok, pure_eq_ok,
    Prod.mk.injEq]
  obtain ⟨signature, hsig⟩ := hsign _
  exact ⟨_, _, ⟨signature, hsig, rfl⟩, rfl, rfl⟩

lemma wellFormed_presentation (hb64 : Base64Url X) (hserde : SerdeJson X)
    {disclosable : List (String × Json)} {salts : ℕ → Bytes} {issuerJwt : String}
    (htilde : '~' ∉ issuerJwt.toList) (hne : issuerJwt ≠ "") {S : List Disclosure}
    (hS : S ⊆ disclosuresFor X disclosable salts) :
    SdJwtVc.WellFormed ⟨issuerJwt, S.map Disclosure.encoded, none⟩ := by
  refine ⟨⟨hne, htilde⟩, fun e he => ?_, by simp⟩
  obtain ⟨d, hd, rfl⟩ := List.mem_map.mp he
  obtain ⟨hnonempty, hseparator, -⟩ := encoded_of_mem hb64 hserde (hS hd)
  exact ⟨hnonempty, hseparator⟩

/-- **Every check passes.** What was issued passes every check of the verification until it
expires, with any of its disclosures in any order. -/
theorem checked_of_issue (hb64 : Base64Url X) (hserde : SerdeJson X) {key : SigningKey}
    (hkey : key.Correct X) {disclosable : List (String × Json)} {x5c : Option (List String)}
    {salts : ℕ → Bytes} {compact : String}
    (hissue : issueSdJwtVcWithX5c X (key.toKeyPair X) issuerUrl vct plain disclosable holderJwk
      status x5c clock salts = .ok (compact, ds))
    (hplain : (plain.map Prod.fst).Nodup) (hnames : ∀ c ∈ plain, isPlainClaim c.1 = true)
    (hproper : Json.ProperMembers plain) (hproper' : Json.ProperMembers disclosable)
    (hholder : ∀ v ∈ holderJwk, v.Proper) (hstatus : ∀ v ∈ status, v.Proper)
    (hclock : Representable clock) :
    ∃ payload, PayloadOf (claimsFor issuerUrl vct plain ds holderJwk status clock) payload ∧
      ∀ S : List Disclosure, S ⊆ ds → (S.map Disclosure.hash).Nodup → ∀ now, clock ≤ now →
        timestamp now < expiry clock →
        Checked X (presentWith compact S) (key.toKeyPair X) now payload S := by
  obtain ⟨rfl, issuerJwt, header, hsign, rfl⟩ := issue_ok hissue
  obtain ⟨signature, signingInput, hdec, hsig, htilde, hne⟩ :=
    decodeCompact_signCompact hb64 hserde hsign
  have hnodup : ((registered (claimsFor issuerUrl vct plain (disclosuresFor X disclosable salts)
      holderJwk status clock) ++ plain).map Prod.fst).Nodup := members_nodup hplain hnames
  obtain ⟨sorted, hperm, hparse⟩ :=
    hserde.object _ hnodup (members_proper hproper hholder hstatus hclock)
  have hpayload : PayloadOf (claimsFor issuerUrl vct plain (disclosuresFor X disclosable salts)
      holderJwk status clock) (.obj sorted) := ⟨⟨sorted, rfl, hperm⟩, hnodup⟩
  refine ⟨.obj sorted, hpayload, fun S hS hhash now hstart hend => ⟨?_, ?_, ?_, hhash⟩⟩
  · have hissued := List.Subset.refl (disclosuresFor X disclosable salts)
    have hwhole := split_toCompact (wellFormed_presentation hb64 hserde htilde hne hissued)
    have hparsed := parse_of_wellFormed (wellFormed_presentation hb64 hserde htilde hne hS)
    have hver := verifyCompact_eq_ok.mpr ⟨hdec, SigningKey.verify_of_sign hkey hsig⟩
    refine ⟨⟨issuerJwt, S.map Disclosure.encoded, none⟩, _, ?_, hver, hparse, ?_⟩
    · have hpresent : ∀ whole, split '~' whole = issuerJwt ::
          (disclosuresFor X disclosable salts).map Disclosure.encoded ++ [""] →
          presentWith whole S = join "~" (issuerJwt :: S.map Disclosure.encoded ++ [""]) := by
        intro whole hw
        rw [presentWith, hw]
        rfl
      exact (congrArg SdJwtVc.parse (hpresent _ hwhole)).trans hparsed
    · rw [List.forall₂_map_left_iff, List.forall₂_same]
      exact fun d hd => fromEncoded_of_mem hb64 hserde hproper' (hS hd)
  · exact hpayload.checkWindow hclock hstart hend
  · exact fun d hd => hpayload.signedHashes (hS hd)

/-- **Selective disclosure.** An issued SD-JWT VC with any of its disclosures, in any order,
verifies until it expires; and the claims are the plain claims and those of the disclosures
presented, with their values. -/
theorem verifies_to_disclosed (hb64 : Base64Url X) (hserde : SerdeJson X) {key : SigningKey}
    (hkey : key.Correct X) {disclosable : List (String × Json)} {x5c : Option (List String)}
    {salts : ℕ → Bytes} {compact : String}
    (hissue : issueSdJwtVcWithX5c X (key.toKeyPair X) issuerUrl vct plain disclosable holderJwk
      status x5c clock salts = .ok (compact, ds))
    (hnodup : ((plain ++ disclosable).map Prod.fst).Nodup)
    (hnames : ∀ c ∈ plain ++ disclosable, isPlainClaim c.1 = true)
    (hproper : Json.ProperMembers (plain ++ disclosable))
    (hholder : ∀ v ∈ holderJwk, v.Proper) (hstatus : ∀ v ∈ status, v.Proper)
    (hclock : Representable clock)
    (hsha : ∀ d ∈ ds, ∀ d' ∈ ds,
      X.sha256 (utf8 d.encoded) = X.sha256 (utf8 d'.encoded) → d.encoded = d'.encoded)
    {S : List Disclosure} (hS : S.Subperm ds) {now : ℤ} (hstart : clock ≤ now)
    (hend : timestamp now < expiry clock) :
    ds.map entryOf = disclosable ∧
    ∃ v, verifySdJwtVc X (presentWith compact S) (key.toKeyPair X) now = .ok v ∧
      ∀ name value, v.claims.get name = some value ↔
        (name, value) ∈ plain ∨ (name, value) ∈ S.map entryOf := by
  rw [List.map_append, List.nodup_append'] at hnodup
  obtain ⟨hplain, hdisclosable, hdisjoint⟩ := hnodup
  simp only [Json.properMembers_iff, List.mem_append] at hproper
  have hproper₁ : Json.ProperMembers plain :=
    Json.properMembers_iff.mpr fun m hm => hproper m (Or.inl hm)
  have hproper₂ : Json.ProperMembers disclosable :=
    Json.properMembers_iff.mpr fun m hm => hproper m (Or.inr hm)
  have hnames₁ : ∀ c ∈ plain, isPlainClaim c.1 = true :=
    fun c hc => hnames c (List.mem_append_left _ hc)
  obtain ⟨payload, hpayload, hchecked⟩ := checked_of_issue hb64 hserde hkey hissue hplain hnames₁
    hproper₁ hproper₂ hholder hstatus hclock
  obtain ⟨rfl, -⟩ := issue_ok hissue
  have hentries := entryOf_disclosuresFor (X := X) disclosable salts
  refine ⟨hentries, ?_⟩
  -- an order of the issued ones, some of them left out
  obtain ⟨S', hSS', hsub⟩ := hS
  have hhash : (S.map Disclosure.hash).Nodup :=
    (hSS'.map _).nodup_iff.mp
      ((hash_nodup hb64 hserde hdisclosable hproper₂ hsha).sublist (hsub.map _))
  have hSnames : (S.map Disclosure.claimName).Nodup := by
    rw [← names_eq, ← (((hSS'.map entryOf).map Prod.fst).nodup_iff)]
    refine List.Nodup.sublist ((hsub.map entryOf).map Prod.fst) ?_
    rwa [hentries]
  have hSsub : S ⊆ disclosuresFor X disclosable salts :=
    fun d hd => hsub.subset (hSS'.mem_iff.mpr hd)
  have hcheck := hchecked S hSsub hhash now hstart hend
  refine ⟨⟨claimsOf payload S, payload⟩, verifySdJwtVc_eq_ok.mpr ⟨S, hcheck, rfl⟩, ?_⟩
  -- no name is both plain and disclosed, so no entry replaces another
  have hentriesNodup : ((S.map entryOf ++ plainMembers payload).map Prod.fst).Nodup := by
    have hplainNames := (hpayload.plainMembers hnames₁).map Prod.fst
    rw [List.map_append, names_eq]
    refine List.Nodup.append hSnames (hplainNames.nodup_iff.mpr hplain) ?_
    intro name hname hname'
    refine hdisjoint (hplainNames.mem_iff.mp hname') ?_
    rw [← hentries, names_eq]
    exact List.map_subset _ hSsub hname
  intro name value
  have hmem : (name, value) ∈ S.map entryOf ++ plainMembers payload ↔
      (name, value) ∈ plain ∨ (name, value) ∈ S.map entryOf := by
    rw [List.mem_append, (hpayload.plainMembers hnames₁).mem_iff, or_comm]
  rw [← hmem]
  exact get_insertAll_empty hentriesNodup

section Sample

/-- The thumbprint of the issuer's key, and three disclosures, with their digests. -/
def sampleDigests : List (Bytes × Bytes) := [
  (utf8 ("\x7b\"crv\":\"P-256\",\"kty\":\"EC\"," ++
      "\"x\":\"f83OJ3D2xF1Bg8vub9tLe1gHMzV76e8Tus9uPHvRVEU\"," ++
      "\"y\":\"x_FEzRu9m36HLN_tue659LNpXW6pCyStikYjKIWI5a0\"\x7d"),
    bigEndian 32 0xa0a232c2f194a53553cb1310ddbc0821e414b9d7ebfc290b323084d7d1020fe5),
  (utf8 "WyJMaDFxa0VmenVGd2FmcFRRdzJKYi1BIiwiZmFtaWx5X25hbWUiLCJMb3ZlbGFjZSJd",
    bigEndian 32 0xf84e86ce978e3fc1d0c6f07025e82593f8764d2313f4560cc919bdb745569404),
  (utf8 "WyJMaDFxa0VmenVGd2FmcFRRdzJKYi1RIiwiYmlydGhkYXRlIiwiMTgxNS0xMi0xMCJd",
    bigEndian 32 0x2c839bb6f1c6d50e1b46a0ba01e5e3b6f862be1f9da1be6eda7589fd263e90b7),
  (utf8 "WyJMaDFxa0VmenVGd2FmcFRRdzJKYi1BIiwiZ2l2ZW5fbmFtZSIsIkV2ZSJd",
    bigEndian 32 0xf19010ea2211e5d2f011283fa1894355dd1add93c775076d178d46b5b5646b0e)]

/-- What the issuer signs: a credential with two of the disclosures, and one with the third. -/
def sampleSignatures : List (Bytes × Bytes) := [
  (utf8 ("eyJhbGciOiJFUzI1NiIsInR5cCI6ImRjK3NkLWp3dCIsImtpZCI6Im9LSXl3dkdVcFRWVHl4TVEzYndJSWVR" ++
      "VXVkZnJfQ2tMTWpDRTE5RUNELVUifQ.eyJpc3MiOiJodHRwczovL2lzc3Vlci5leGFtcGxlLmNvbSIsImlhd" ++
      "CI6MTc4OTk0ODgwMCwiZXhwIjoxODIxNDg0ODAwLCJuYmYiOjE3ODk5NDg4MDAsInZjdCI6Imh0dHBzOi8va" ++
      "XNzdWVyLmV4YW1wbGUuY29tL2NyZWRlbnRpYWxzL2lkZW50aXR5IiwiX3NkIjpbIi1FNkd6cGVPUDhIUXh2Q" ++
      "ndKZWdsa19oMlRTTVQ5RllNeVJtOXQwVldsQVEiLCJMSU9idHZIRzFRNGJScUM2QWVYanR2aGl2aC1kb2I1d" ++
      "TJuV0pfU1kta0xjIl0sIl9zZF9hbGciOiJzaGEtMjU2IiwiZ2l2ZW5fbmFtZSI6IkFkYSJ9"),
    bigEndian 32 0xcbc5b28e5d14ae94c6b44ac437a47ea38548a20cb5ae06d9af8b035d07e099e7 ++
      bigEndian 32 0xb4b5d68261d5f5668a76199321bb88731ecc09d234e0daec048275ac7c380746),
  (utf8 ("eyJhbGciOiJFUzI1NiIsInR5cCI6ImRjK3NkLWp3dCIsImtpZCI6Im9LSXl3dkdVcFRWVHl4TVEzYndJSWVR" ++
      "VXVkZnJfQ2tMTWpDRTE5RUNELVUifQ.eyJpc3MiOiJodHRwczovL2lzc3Vlci5leGFtcGxlLmNvbSIsImlhd" ++
      "CI6MTc4OTk0ODgwMCwiZXhwIjoxODIxNDg0ODAwLCJuYmYiOjE3ODk5NDg4MDAsInZjdCI6Imh0dHBzOi8va" ++
      "XNzdWVyLmV4YW1wbGUuY29tL2NyZWRlbnRpYWxzL2lkZW50aXR5IiwiX3NkIjpbIjhaQVE2aUlSNWRMd0VTZ" ++
      "19vWWxEVmQwYTNaUEhkUWR0RjQxR3RiVmthdzQiXSwiX3NkX2FsZyI6InNoYS0yNTYiLCJnaXZlbl9uYW1lI" ++
      "joiQWRhIn0"),
    bigEndian 32 0x0638564e478063205d6bc34481bbf1ed5709912d5c00153307c2c5f70450d444 ++
      bigEndian 32 0x811a586fb2df1d25d00f1ab093f16d5f1d37581e5272eda0e3e3031784554370)]

def sampleCrates : Crates := tabled sampleDigests sampleSignatures

def sampleKey : SigningKey :=
  tabledKey 0x7fcdce2770f6c45d4183cbee6fdb4b7b580733357be9ef13bacf6e3c7bd15445
    0xc7f144cd1bbd9b7e872cdfedb9eeb9f4b3695d6ea90b24ad8a4623288588e5ad sampleSignatures

/-- September 21, 2026. -/
def sampleClock : ℤ := seconds 1790000000

def sampleSalts (i : ℕ) : Bytes := bigEndian 16 (0x2e1d6a9047f3b85c1a7e94d0c3625bf8 + i)

def sampleClaims : List (String × Json) :=
  [("family_name", .str "Lovelace"), ("birthdate", .str "1815-12-10")]

lemma sample_sha256_injective : Function.Injective sampleCrates.sha256 :=
  extend_injective (by decide) (by decide)

lemma sampleKey_signs (m : Bytes) : ∃ s, (sampleKey.toKeyPair sampleCrates).sign m = .ok s :=
  ⟨_, rfl⟩

/-- Of two claims that can be disclosed, a name and a birthdate, the birthdate is shown. -/
theorem birthdate_disclosed : ∃ compact family birth,
    issueSdJwtVcWithX5c sampleCrates (sampleKey.toKeyPair sampleCrates)
      "https://issuer.example.com" "https://issuer.example.com/credentials/identity"
      [("given_name", .str "Ada")] sampleClaims none none none sampleClock sampleSalts =
        .ok (compact, [family, birth]) ∧
    ∃ v, verifySdJwtVc sampleCrates (presentWith compact [birth])
        (sampleKey.toKeyPair sampleCrates) sampleClock = .ok v ∧
      ∀ name value, v.claims.get name = some value ↔
        (name, value) = ("given_name", .str "Ada") ∨
        (name, value) = ("birthdate", .str "1815-12-10") := by
  obtain ⟨compact, hissue⟩ := issue_succeeds sampleKey_signs sampleClaims none sampleSalts
  refine ⟨compact, _, _, hissue, ?_⟩
  obtain ⟨-, v, hv, hclaims⟩ := verifies_to_disclosed (base64Url_tabled _ _) (serdeJson_tabled _ _)
    (tabledKey_correct _ _ _ _) hissue (by decide) (by decide)
    (by simp [Json.ProperMembers, Json.Proper, sampleClaims]) (by simp) (by simp) (by decide)
    (fun d _ d' _ h => utf8_inj (sample_sha256_injective h))
    (List.Sublist.subperm (List.sublist_append_right [_] [_])) le_rfl (by decide)
  refine ⟨v, hv, fun name value => ?_⟩
  rw [hclaims]
  simp [entryOf, Disclosure.new]

end Sample

end Oid4vc.Selective
