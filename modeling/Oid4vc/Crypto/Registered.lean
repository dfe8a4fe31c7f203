import Oid4vc.Crypto.Selective
import Oid4vc.Types.RoundTrip

/-!
Claims with the name of a registered one.

The plain claims are written after the registered ones, at the same level, and a parser keeps the
last member of a name: a plain claim named like a registered one takes its place.
-/

namespace Oid4vc.Registered

open Oid4vc.JsonValue Oid4vc.Text Oid4vc.Instant Oid4vc.Fallible Oid4vc.CborBytes Oid4vc.Jwks
open Oid4vc.External Oid4vc.Codecs Oid4vc.Keys Oid4vc.Jws Oid4vc.Credentials Oid4vc.SdJwt
open Oid4vc.Selective

/-! ### Members of one name -/

lemma get_append (a b : List (String × Json)) (name : String) :
    (Json.obj (a ++ b)).get name = ((Json.obj a).get name).or ((Json.obj b).get name) := by
  simp only [Json.get, List.find?_append, Option.map_or]

lemma get_singleton (m : String × Json) (name : String) :
    (Json.obj [m]).get name = if m.1 = name then some m.2 else none := by
  by_cases h : m.1 = name
  · simp [Json.get, h]
  · simp [Json.get, h]

lemma get_congr {a b : List (String × Json)} (h : a.Perm b) (hnodup : (a.map Prod.fst).Nodup)
    (name : String) : (Json.obj a).get name = (Json.obj b).get name := by
  refine Option.ext fun v => ?_
  rw [Json.get_obj_eq_some hnodup, Json.get_obj_eq_some ((h.map Prod.fst).nodup_iff.mp hnodup),
    h.mem_iff]

lemma get_reverse_append {a b : List (String × Json)} (ha : (a.map Prod.fst).Nodup)
    (hb : (b.map Prod.fst).Nodup) (name : String) : (Json.obj (a ++ b).reverse).get name =
      ((Json.obj b).get name).or ((Json.obj a).get name) := by
  calc (Json.obj (a ++ b).reverse).get name
      = (Json.obj (b.reverse ++ a.reverse)).get name := by rw [List.reverse_append]
    _ = ((Json.obj b.reverse).get name).or ((Json.obj a.reverse).get name) := get_append _ _ _
    _ = ((Json.obj b).get name).or ((Json.obj a).get name) := by
        rw [get_congr (List.reverse_perm a).symm ha, get_congr (List.reverse_perm b).symm hb]

/-- serde_json on members that come more than once: the last of a name is kept. -/
structure LastWins (X : Crates) : Prop where
  object : ∀ members : List (String × Json), Json.ProperMembers members → ∃ kept,
    X.jsonFromSlice (X.jsonToVec (.obj members)) = .ok (.obj kept) ∧
      ∀ name, (Json.obj kept).get name = (Json.obj members.reverse).get name

/-! ### The payload -/

/-- The values of the registered claims that an issuance sets, from its arguments, its clock and
the disclosures it makes. -/
def issuerSets (issuerUrl vct : String) (ds : List Disclosure) (holderJwk status : Option Json)
    (clock : ℤ) : String → Option Json
  | "iss" => some (.str issuerUrl)
  | "vct" => some (.str vct)
  | "cnf" => holderJwk
  | "status" => status
  | "iat" => some (i64Json (timestamp clock - timestamp clock % daySecs))
  | "nbf" => some (i64Json (timestamp clock - timestamp clock % daySecs))
  | "exp" => some (i64Json (expiry clock))
  | "_sd" => if ds = [] then none else some (.arr (ds.map fun d => .str d.hash))
  | "_sd_alg" => some (.str "sha-256")
  | _ => none

variable {X : Crates} {issuerUrl vct : String} {plain : List (String × Json)}
  {ds : List Disclosure} {holderJwk status : Option Json} {clock : ℤ}

lemma get_optional {α : Type} (o : Option α) (n : String) (f : α → Json) (name : String) :
    (Json.obj (o.map fun a => (n, f a)).toList).get name = if n = name then o.map f else none := by
  cases o with
  | none => simp [Json.get]
  | some a =>
    rw [Option.map_some, Option.toList_some, get_singleton]
    rfl

/-- What is set is what is written. -/
lemma get_registered {name : String} (h : name ∈ registeredNames) :
    (Json.obj (registered (claimsFor issuerUrl vct plain ds holderJwk status clock))).get name =
      issuerSets issuerUrl vct ds holderJwk status clock name := by
  have hsd : ∀ hashes : List String, (Json.obj (if hashes = [] then []
      else [("_sd", .arr (hashes.map .str))])).get name =
        if hashes = [] ∨ "_sd" ≠ name then none else some (.arr (hashes.map .str)) := by
    intro hashes
    by_cases hempty : hashes = []
    · simp [hempty, Json.get]
    · simp [hempty, get_singleton]
  have hcnf := fun o : Option Json => get_optional o "cnf" (fun v => v) name
  have hstatus := fun o : Option Json => get_optional o "status" (fun v => v) name
  simp only [registered, get_append, get_singleton, get_optional, hsd, hcnf, hstatus]
  simp only [registeredNames, List.mem_cons, List.not_mem_nil, or_false] at h
  rcases h with rfl | rfl | rfl | rfl | rfl | rfl | rfl | rfl | rfl <;>
    simp [issuerSets, claimsFor, Function.comp_def]

/-- **The last member of a name is read**: a plain claim, if there is one of that name, or else
what the issuer set. -/
lemma get_payload {kept : List (String × Json)} (hplain : (plain.map Prod.fst).Nodup)
    (hkept : ∀ name, (Json.obj kept).get name = (Json.obj (registered
      (claimsFor issuerUrl vct plain ds holderJwk status clock) ++ plain).reverse).get name)
    {name : String} (hname : name ∈ registeredNames) :
    (Json.obj kept).get name = ((Json.obj plain).get name).or
      (issuerSets issuerUrl vct ds holderJwk status clock name) := by
  rw [hkept, get_reverse_append registered_nodup hplain, get_registered hname]

/-- The plain claims displace nothing if each of them that is named like a registered claim has
the value that the issuer sets. -/
def Agrees (plain : List (String × Json)) (sets : String → Option Json) : Prop :=
  ∀ c ∈ plain, c.1 ∈ registeredNames → sets c.1 = some c.2

lemma agrees_iff {sets : String → Option Json} (hplain : (plain.map Prod.fst).Nodup) :
    (∀ name ∈ registeredNames, ((Json.obj plain).get name).or (sets name) = sets name) ↔
      Agrees plain sets := by
  constructor
  · rintro h ⟨name, value⟩ hmem hname
    have hget := (Json.get_obj_eq_some hplain).mpr hmem
    have hsame := h name hname
    rw [hget, Option.some_or] at hsame
    exact hsame.symm
  · intro h name hname
    cases hget : (Json.obj plain).get name with
    | none => rw [Option.none_or]
    | some value =>
      rw [Option.some_or]
      exact (h (name, value) ((Json.get_obj_eq_some hplain).mp hget) hname).symm

/-! ### What verification parses -/

variable (X) in
/-- The payload that the verification of an SD-JWT VC parses. -/
def ParsesTo (sdJwt : String) (issuerKey : KeyPair) (payload : Json) : Prop :=
  ∃ parsed decoded, SdJwtVc.parse sdJwt = .ok parsed ∧
    verifyCompact X parsed.issuerJwt issuerKey = .ok decoded ∧
    X.jsonFromSlice decoded.payload = .ok payload

variable (X) in
/-- Whoever verifies it, the registered claims of an SD-JWT VC are those that the issuer set. -/
def RegisteredKept (sdJwt : String) (sets : String → Option Json) : Prop :=
  ∀ issuerKey payload, ParsesTo X sdJwt issuerKey payload →
    ∀ name ∈ registeredNames, payload.get name = sets name

/-- What was issued parses to what was written. -/
lemma parsesTo_iff (hb64 : Base64Url X) (hserde : SerdeJson X) {key : SigningKey}
    (hkey : key.Correct X) {disclosable : List (String × Json)} {x5c : Option (List String)}
    {salts : ℕ → Bytes} {compact : String}
    (hissue : issueSdJwtVcWithX5c X (key.toKeyPair X) issuerUrl vct plain disclosable holderJwk
      status x5c clock salts = .ok (compact, ds)) :
    (∀ issuerKey payload, ParsesTo X compact issuerKey payload → X.jsonFromSlice (X.jsonToVec
      (claimsFor issuerUrl vct plain ds holderJwk status clock).toJson) = .ok payload) ∧
    ∀ payload, X.jsonFromSlice (X.jsonToVec
      (claimsFor issuerUrl vct plain ds holderJwk status clock).toJson) = .ok payload →
      ParsesTo X compact (key.toKeyPair X) payload := by
  obtain ⟨rfl, issuerJwt, header, hsign, rfl⟩ := issue_ok hissue
  obtain ⟨signature, signingInput, hdecoded, hsigned, hseparator, hne⟩ :=
    decodeCompact_signCompact hb64 hserde hsign
  have hissued := List.Subset.refl (disclosuresFor X disclosable salts)
  have hparsed := parse_of_wellFormed (wellFormed_presentation hb64 hserde hseparator hne hissued)
  constructor
  · rintro issuerKey payload ⟨parsed, decoded, hparsed', hverified, hpayload⟩
    obtain rfl := Except.ok.inj (hparsed.symm.trans hparsed')
    obtain ⟨hdecoded', -⟩ := verifyCompact_eq_ok.mp hverified
    obtain rfl := Except.ok.inj (hdecoded.symm.trans hdecoded')
    exact hpayload
  · intro payload hpayload
    exact ⟨_, _, hparsed,
      verifyCompact_eq_ok.mpr ⟨hdecoded, SigningKey.verify_of_sign hkey hsigned⟩, hpayload⟩

/-- **Registered claims are kept** exactly where every plain claim that is named like one has the
value that the issuer sets. -/
theorem registered_kept_iff (hb64 : Base64Url X) (hserde : SerdeJson X) (hlast : LastWins X)
    {key : SigningKey} (hkey : key.Correct X) {disclosable : List (String × Json)}
    {x5c : Option (List String)} {salts : ℕ → Bytes} {compact : String}
    (hissue : issueSdJwtVcWithX5c X (key.toKeyPair X) issuerUrl vct plain disclosable holderJwk
      status x5c clock salts = .ok (compact, ds))
    (hnodup : (plain.map Prod.fst).Nodup) (hproper : Json.ProperMembers plain)
    (hholder : ∀ v ∈ holderJwk, v.Proper) (hstatus : ∀ v ∈ status, v.Proper)
    (hclock : Representable clock) :
    RegisteredKept X compact (issuerSets issuerUrl vct ds holderJwk status clock) ↔
      Agrees plain (issuerSets issuerUrl vct ds holderJwk status clock) := by
  obtain ⟨hparses, hparsed⟩ := parsesTo_iff hb64 hserde hkey hissue
  obtain ⟨kept, hread, hget⟩ :=
    hlast.object _ (members_proper hproper hholder hstatus hclock)
  rw [← agrees_iff hnodup]
  constructor
  · intro h name hname
    rw [← get_payload hnodup hget hname]
    exact h _ _ (hparsed _ hread) name hname
  · intro h issuerKey payload hpayload name hname
    obtain rfl := Except.ok.inj (hread.symm.trans (hparses _ _ hpayload))
    rw [get_payload hnodup hget hname]
    exact h name hname

/-! ### A second confirmation key -/

section Sample

/-- The members whose name does not come again. -/
def lastMembers : List (String × Json) → List (String × Json)
  | [] => []
  | m :: ms => if m.1 ∈ ms.map Prod.fst then lastMembers ms else m :: lastMembers ms

/-- An object as it is kept if members come more than once. -/
def keepLast : Json → Json
  | .obj members => .obj (lastMembers members)
  | v => v

/-- A parser that keeps the last member of a name. -/
def lastWins (X : Crates) : Crates :=
  { X with jsonFromSlice := fun bytes => (readJson bytes).map fun v => sortMembers (keepLast v) }

lemma get_isSome {members : List (String × Json)} {name : String} :
    ((Json.obj members).get name).isSome = true ↔ name ∈ members.map Prod.fst := by
  simp [Json.get, List.find?_isSome]

lemma names_lastMembers {members : List (String × Json)} {name : String}
    (h : name ∈ (lastMembers members).map Prod.fst) : name ∈ members.map Prod.fst := by
  induction members with
  | nil => exact h
  | cons m ms ih =>
    unfold lastMembers at h
    rw [List.map_cons, List.mem_cons]
    split at h
    · exact Or.inr (ih h)
    · rw [List.map_cons, List.mem_cons] at h
      exact h.imp_right ih

lemma lastMembers_nodup (members : List (String × Json)) :
    ((lastMembers members).map Prod.fst).Nodup := by
  induction members with
  | nil => exact List.nodup_nil
  | cons m ms ih =>
    unfold lastMembers
    split
    · exact ih
    · rename_i hm
      rw [List.map_cons, List.nodup_cons]
      exact ⟨mt names_lastMembers hm, ih⟩

lemma lastMembers_of_nodup {members : List (String × Json)}
    (h : (members.map Prod.fst).Nodup) : lastMembers members = members := by
  induction members with
  | nil => rfl
  | cons m ms ih =>
    rw [List.map_cons, List.nodup_cons] at h
    rw [lastMembers, if_neg h.1, ih h.2]

lemma get_lastMembers (members : List (String × Json)) (name : String) :
    (Json.obj (lastMembers members)).get name = (Json.obj members.reverse).get name := by
  induction members with
  | nil => rfl
  | cons m ms ih =>
    rw [List.reverse_cons, get_append, get_singleton]
    unfold lastMembers
    split
    · rename_i hm
      rw [ih]
      split
      · rename_i hname
        have hsome : ((Json.obj ms.reverse).get name).isSome = true := by
          rw [get_isSome, List.map_reverse, List.mem_reverse, ← hname]
          exact hm
        rw [Option.or_of_isSome hsome]
      · rw [Option.or_none]
    · rename_i hm
      have hcons : (Json.obj (m :: lastMembers ms)).get name =
          ((Json.obj [m]).get name).or ((Json.obj (lastMembers ms)).get name) :=
        get_append [m] (lastMembers ms) name
      rw [hcons, get_singleton, ih]
      split
      · rename_i hname
        have hnone : (Json.obj ms.reverse).get name = none := by
          rw [← Option.not_isSome_iff_eq_none, get_isSome, List.map_reverse, List.mem_reverse,
            ← hname]
          exact hm
        rw [hnone, Option.some_or, Option.none_or]
      · rw [Option.none_or, Option.or_none]

variable {digests signatures : List (Bytes × Bytes)}

lemma jsonFromSlice_lastWins (members : List (String × Json)) :
    (lastWins (tabled digests signatures)).jsonFromSlice
      ((lastWins (tabled digests signatures)).jsonToVec (.obj members)) =
        .ok (sortMembers (.obj (lastMembers members))) := by
  have hslice : (lastWins (tabled digests signatures)).jsonFromSlice =
      fun bytes => (readJson bytes).map fun v => sortMembers (keepLast v) := rfl
  have hvec : (lastWins (tabled digests signatures)).jsonToVec = jsonBytes := rfl
  rw [hslice, hvec]
  simp only [readJson_jsonBytes, Except.map, keepLast]

lemma serdeJson_lastWins : SerdeJson (lastWins (tabled digests signatures)) where
  object members hnodup _ := by
    refine ⟨members.mergeSort fun a b => decide (a.1 ≤ b.1), List.mergeSort_perm _ _, ?_⟩
    rw [jsonFromSlice_lastWins, lastMembers_of_nodup hnodup, sortMembers]
  array := (serdeJson_tabled digests signatures).array
  nonempty := (serdeJson_tabled digests signatures).nonempty
  header header := by
    have hheader : (lastWins (tabled digests signatures)).headerFromSlice =
        (tabled digests signatures).headerFromSlice := rfl
    have hvec : (lastWins (tabled digests signatures)).jsonToVec =
        (tabled digests signatures).jsonToVec := rfl
    rw [hheader, hvec]
    exact (serdeJson_tabled digests signatures).header header

lemma lastWins_tabled : LastWins (lastWins (tabled digests signatures)) where
  object members _ := by
    refine ⟨_, jsonFromSlice_lastWins members, fun name => ?_⟩
    rw [← get_lastMembers]
    exact (get_congr (List.mergeSort_perm _ _).symm (lastMembers_nodup members) name).symm

lemma base64Url_lastWins : Base64Url (lastWins (tabled digests signatures)) :=
  ⟨(base64Url_tabled digests signatures).decode_encode,
    (base64Url_tabled digests signatures).alphabet,
    (base64Url_tabled digests signatures).nonempty⟩

/-- What the issuer signs: a credential with its type twice, and one with two keys. -/
def keptSignatures : List (Bytes × Bytes) := [
  (utf8 ("eyJhbGciOiJFUzI1NiIsInR5cCI6ImRjK3NkLWp3dCIsImtpZCI6Im9LSXl3dkdVcFRWVHl4TVEzYndJSWVR" ++
      "VXVkZnJfQ2tMTWpDRTE5RUNELVUifQ.eyJpc3MiOiJodHRwczovL2lzc3Vlci5leGFtcGxlLmNvbSIsImlhd" ++
      "CI6MTc4OTk0ODgwMCwiZXhwIjoxODIxNDg0ODAwLCJuYmYiOjE3ODk5NDg4MDAsInZjdCI6Imh0dHBzOi8va" ++
      "XNzdWVyLmV4YW1wbGUuY29tL2NyZWRlbnRpYWxzL2lkZW50aXR5IiwiX3NkX2FsZyI6InNoYS0yNTYiLCJjb" ++
      "mYiOnsiandrIjp7ImNydiI6IlAtMjU2Iiwia3R5IjoiRUMiLCJ4IjoiTUtCQ1ROSWNLVVNEaWkxMXlTczM1M" ++
      "jZpRFo4QWlUbzdUdTZLUEFxdjdENCIsInkiOiI0RXRsNlNSVzJZaUxVck41dmZ2Vkh1aHA3eDhQeGx0bVdXb" ++
      "GJiTTRJRnlNIn19LCJnaXZlbl9uYW1lIjoiQWRhIiwidmN0IjoiaHR0cHM6Ly9pc3N1ZXIuZXhhbXBsZS5jb" ++
      "20vY3JlZGVudGlhbHMvaWRlbnRpdHkifQ"),
    bigEndian 32 0x188979865cbb06e4d7113bd6d5353c1698bf9b30d9ffdd4c11fd5212c8560d66 ++
      bigEndian 32 0xae44a830de3dd3e8614de1274ccb33fc2259a179edce55a273ac7cbd8549d7cc),
  (utf8 ("eyJhbGciOiJFUzI1NiIsInR5cCI6ImRjK3NkLWp3dCIsImtpZCI6Im9LSXl3dkdVcFRWVHl4TVEzYndJSWVR" ++
      "VXVkZnJfQ2tMTWpDRTE5RUNELVUifQ.eyJpc3MiOiJodHRwczovL2lzc3Vlci5leGFtcGxlLmNvbSIsImlhd" ++
      "CI6MTc4OTk0ODgwMCwiZXhwIjoxODIxNDg0ODAwLCJuYmYiOjE3ODk5NDg4MDAsInZjdCI6Imh0dHBzOi8va" ++
      "XNzdWVyLmV4YW1wbGUuY29tL2NyZWRlbnRpYWxzL2lkZW50aXR5IiwiX3NkX2FsZyI6InNoYS0yNTYiLCJjb" ++
      "mYiOnsiandrIjp7ImNydiI6IlAtMjU2Iiwia3R5IjoiRUMiLCJ4IjoiTUtCQ1ROSWNLVVNEaWkxMXlTczM1M" ++
      "jZpRFo4QWlUbzdUdTZLUEFxdjdENCIsInkiOiI0RXRsNlNSVzJZaUxVck41dmZ2Vkh1aHA3eDhQeGx0bVdXb" ++
      "GJiTTRJRnlNIn19LCJjbmYiOnsiandrIjp7ImNydiI6IlAtMjU2Iiwia3R5IjoiRUMiLCJ4IjoiNVdPcTN0M" ++
      "m9UWFMyWlU3R25INFdiY3RLVXpYMHVDeVl6M0dkSmg4bjJFbyIsInkiOiItQWtlaE5yS0JlOTNrcVVqeVN0S" ++
      "i03T0Nqd3gyb1NaaVFiV3N2MkVCSWpBIn19fQ"),
    bigEndian 32 0x8158819321aeaeeba395b4afb58d731c89d7f6cbfa6b40d54a4668f11a778a7d ++
      bigEndian 32 0x6e8838b388c4b300b867b9cb288bb4f5b6b2c42bbf72e28ef757c9aaea0bd43f)]

def keptCrates : Crates := lastWins (tabled sampleDigests keptSignatures)

def keptKey : SigningKey :=
  tabledKey 0x7fcdce2770f6c45d4183cbee6fdb4b7b580733357be9ef13bacf6e3c7bd15445
    0xc7f144cd1bbd9b7e872cdfedb9eeb9f4b3695d6ea90b24ad8a4623288588e5ad keptSignatures

lemma keptKey_correct : keptKey.Correct keptCrates := by
  refine ⟨length_bigEndian _ _, length_bigEndian _ _, rfl, ?_⟩
  rintro m s ⟨⟩
  exact ⟨rfl, if_pos rfl⟩

lemma keptKey_signs (m : Bytes) : ∃ s, (keptKey.toKeyPair keptCrates).sign m = .ok s := ⟨_, rfl⟩

def cnf (x y : String) : Json :=
  .obj [("jwk", .obj [("crv", .str "P-256"), ("kty", .str "EC"), ("x", .str x), ("y", .str y)])]

lemma proper_cnf (x y : String) : (cnf x y).Proper := by
  have hnames : ["crv", "kty", "x", "y"].Pairwise (· < ·) := by decide
  have hjwk : (Json.obj [("crv", .str "P-256"), ("kty", .str "EC"), ("x", .str x),
      ("y", .str y)]).Proper := ⟨⟨trivial, trivial, trivial, trivial, trivial⟩, hnames⟩
  exact ⟨⟨hjwk, trivial⟩, List.pairwise_singleton _ _⟩

def holderCnf : Json :=
  cnf "MKBCTNIcKUSDii11ySs3526iDZ8AiTo7Tu6KPAqv7D4" "4Etl6SRW2YiLUrN5vfvVHuhp7x8PxltmWWlbbM4IFyM"

def otherCnf : Json :=
  cnf "5WOq3t2oTXS2ZU7GnH4WbctKUzX0uCyYz3GdJh8n2Eo" "-AkehNrKBe93kqUjyStJ-7OCjwx2oSZiQbWsv2EBIjA"

def identity : String := "https://issuer.example.com/credentials/identity"

/-- A type that comes twice, but is the same. -/
def sameType : List (String × Json) := [("given_name", .str "Ada"), ("vct", .str identity)]

/-- The plain claims name the type once more. -/
theorem registered_kept_same : ∃ compact,
    issueSdJwtVcWithX5c keptCrates (keptKey.toKeyPair keptCrates) "https://issuer.example.com"
      identity sameType [] (some holderCnf) none none sampleClock sampleSalts = .ok (compact, []) ∧
    RegisteredKept keptCrates compact
      (issuerSets "https://issuer.example.com" identity [] (some holderCnf) none sampleClock) := by
  obtain ⟨compact, hissue⟩ := issue_succeeds keptKey_signs [] none sampleSalts
  refine ⟨compact, hissue, (registered_kept_iff base64Url_lastWins serdeJson_lastWins
    lastWins_tabled keptKey_correct hissue (by decide) (by simp [sameType, Json.ProperMembers,
      Json.Proper]) ?_ (by simp) (by decide)).mpr ?_⟩
  · rintro v ⟨⟩
    exact proper_cnf _ _
  · rintro c hc hname
    simp only [sameType, List.mem_cons, List.not_mem_nil, or_false] at hc
    rcases hc with rfl | rfl
    · simp [registeredNames] at hname
    · rfl

/-- A plain claim called `cnf` takes the place of the holder's key. -/
theorem holder_key_displaced : ∃ compact,
    issueSdJwtVcWithX5c keptCrates (keptKey.toKeyPair keptCrates) "https://issuer.example.com"
      identity [("cnf", otherCnf)] [] (some holderCnf) none none sampleClock sampleSalts =
        .ok (compact, []) ∧
    ¬ RegisteredKept keptCrates compact
      (issuerSets "https://issuer.example.com" identity [] (some holderCnf) none sampleClock) := by
  obtain ⟨compact, hissue⟩ := issue_succeeds keptKey_signs [] none sampleSalts
  refine ⟨compact, hissue, fun h => ?_⟩
  obtain ⟨-, hparsed⟩ := parsesTo_iff base64Url_lastWins serdeJson_lastWins keptKey_correct hissue
  have hproper : Json.ProperMembers [("cnf", otherCnf)] := ⟨proper_cnf _ _, trivial⟩
  have hholder : ∀ v ∈ some holderCnf, v.Proper := by
    rintro v ⟨⟩
    exact proper_cnf _ _
  have hclock : Representable sampleClock := by decide
  have hstatus : ∀ v ∈ (none : Option Json), v.Proper := by simp
  obtain ⟨kept, hread, hget⟩ :=
    lastWins_tabled.object _ (members_proper hproper hholder hstatus hclock)
  have hcnf := h _ _ (hparsed _ hread) "cnf" (by decide)
  rw [get_payload (by simp) hget (by decide)] at hcnf
  have hsame : some otherCnf = some holderCnf := hcnf
  simp [otherCnf, holderCnf, cnf] at hsame

end Sample

end Oid4vc.Registered
