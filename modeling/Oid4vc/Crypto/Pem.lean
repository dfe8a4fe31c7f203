import Oid4vc.Base.Lines
import Oid4vc.Crypto.Tables

/-!
PEM: blocks of base64 between boundary lines, read by the line; and the bundle in which an issuer
keeps its certificates.
-/

namespace Oid4vc.Pem

open Oid4vc.JsonValue Oid4vc.Text Oid4vc.Lines Oid4vc.Instant Oid4vc.Fallible Oid4vc.External
open Oid4vc.Codecs Oid4vc.X509 Oid4vc.Tables

def beginLine (label : String) : String := "-----BEGIN " ++ label ++ "-----"

def endLine (label : String) : String := "-----END " ++ label ++ "-----"

/-- What is put together of texts. -/
def concat (parts : List String) : String := String.ofList (parts.flatMap String.toList)

variable (X : Crates)

/-- The base64 of `der`, in lines of 64 characters, between the boundaries of its label. -/
def derToPem (der : Bytes) (label : String) : String :=
  let b64 := X.base64Encode der
  beginLine label ++ "\n" ++ String.ofList (unlines (chunks 64 b64.toList)) ++ endLine label ++ "\n"

/-- What has been read of a PEM text: the body of the block that is open, and the blocks before. -/
structure Scan where
  body : Option String
  blocks : List Bytes

def scanLine (label : String) (s : Scan) (line : String) : Scan :=
  if line = beginLine label then { s with body := some "" }
  else if line = endLine label then
    match s.body with
    | none => s
    | some b64 =>
      match X.base64Decode b64 with
      | .ok der => ⟨none, s.blocks ++ [der]⟩
      | .error _ => ⟨none, s.blocks⟩
  else
    match s.body with
    | none => s
    | some b64 => { s with body := some (b64 ++ line) }

def scan (label : String) (s : Scan) (ls : List String) : Scan := ls.foldl (scanLine X label) s

/-- Decode every PEM block with the given label, in order. -/
def pemBlocks (pem label : String) : List Bytes :=
  (scan X label ⟨none, []⟩ ((lines pem).map trim)).blocks

/-! ### Bundles -/

/-- Everything the issuer certifies its key with. -/
structure IssuerPki where
  /-- The root that anchors every certificate below. -/
  trustAnchor : Bytes
  leaf : IssuerCertificate X
  mdocSigner : IssuerCertificate X
  mdocStatusSigner : IssuerCertificate X
  crl : Bytes

variable {X}

namespace IssuerPki

def certificateToPem (c : IssuerCertificate X) : String := derToPem X c.der "CERTIFICATE"

def trustAnchorPem (pki : IssuerPki X) : String := derToPem X pki.trustAnchor "CERTIFICATE"

/-- One PEM bundle: the leaf, the mdoc document signer, the mdoc status list signer, the trust
anchor, then the CRL. -/
def toPem (pki : IssuerPki X) : String :=
  concat [certificateToPem pki.leaf, certificateToPem pki.mdocSigner,
    certificateToPem pki.mdocStatusSigner, pki.trustAnchorPem, derToPem X pki.crl "X509 CRL"]

variable (X)

/-- Load a bundle, checking that every leaf certifies `publicKey` and chains to the bundled trust
anchor; the clock is read for each of them. -/
def fromPem (pem : String) (publicKey : Bytes) (now : ℕ → ℤ) : Except X509Error (IssuerPki X) :=
  match pemBlocks X pem "CERTIFICATE" with
  | [leaf, mdocSigner, mdocStatusSigner, trustAnchor] => do
    let crl ← okOr (.invalidPem "no X509 CRL block") (pemBlocks X pem "X509 CRL").head?
    let leaf ← IssuerCertificate.fromDer X leaf publicKey
    let mdocSigner ← IssuerCertificate.fromDer X mdocSigner publicKey
    let mdocStatusSigner ← IssuerCertificate.fromDer X mdocStatusSigner publicKey
    let _ ← validateChain X [leaf.der] [trustAnchor] (now 0)
    let _ ← validateChain X [mdocSigner.der] [trustAnchor] (now 1)
    let _ ← validateChain X [mdocStatusSigner.der] [trustAnchor] (now 2)
    pure ⟨trustAnchor, leaf, mdocSigner, mdocStatusSigner, crl⟩
  | certs => .error (.invalidPem ("expected 4 certificates (leaf, mdoc signer, mdoc status " ++
      "signer, trust anchor), found " ++ toString certs.length))

variable {X}

def leaves (pki : IssuerPki X) : List (IssuerCertificate X) :=
  [pki.leaf, pki.mdocSigner, pki.mdocStatusSigner]

/-- Every leaf certifies this key. -/
def Certifies (pki : IssuerPki X) (publicKey : Bytes) : Prop :=
  ∀ c ∈ pki.leaves, c.certificate.subjectPublicKey = publicKey

/-- Every leaf chains to the trust anchor at this instant. -/
def ChainsAt (pki : IssuerPki X) (instant : ℤ) : Prop :=
  ∀ c ∈ pki.leaves, ∃ key, validateChain X [c.der] [pki.trustAnchor] instant = .ok key

end IssuerPki

/-! ### Lines -/

def pemLines (X : Crates) (block : Bytes × String) : List (List Char) :=
  (beginLine block.2).toList :: chunks 64 (X.base64Encode block.1).toList ++
    [(endLine block.2).toList]

/-- A character of base64 is neither white space nor part of a boundary. -/
lemma base64_char {c : Char} (h : c.isAlphanum = true ∨ c = '+' ∨ c = '/' ∨ c = '=') :
    isWhitespace c = false ∧ c ≠ '-' := by
  rcases h with h | rfl | rfl | rfl
  · have hrange : 48 ≤ c.toNat ∧ c.toNat ≤ 122 := by
      have hcode : (decide (c.val ≥ 65 ∧ c.val ≤ 90) ||
          (decide (c.val ≥ 97) && decide (c.val ≤ 122)) ||
          (decide (c.val ≥ 48) && decide (c.val ≤ 57))) = true := h
      simp only [Bool.or_eq_true, Bool.and_eq_true, decide_eq_true_eq, ge_iff_le,
        UInt32.le_iff_toNat_le] at hcode
      change ((65 ≤ c.toNat ∧ c.toNat ≤ 90) ∨ (97 ≤ c.toNat ∧ c.toNat ≤ 122)) ∨
        (48 ≤ c.toNat ∧ c.toNat ≤ 57) at hcode
      omega
    refine ⟨?_, ?_⟩
    · simp only [isWhitespace, Bool.or_eq_false_iff, Bool.and_eq_false_iff, decide_eq_false_iff_not,
        beq_eq_false_iff_ne]
      omega
    · rintro rfl
      exact absurd hrange (by decide)
  · decide
  · decide
  · decide

/-- A line that is read as it was written: in one piece, and not trimmed. -/
structure Plain (line : List Char) : Prop where
  isLine : IsLine line
  trimmed : trim (String.ofList line) = String.ofList line

/-- A boundary starts and ends with a dash. -/
lemma plain_boundary {start label : String} (hhead : start.toList.head? = some '-')
    (hstart : '\n' ∉ start.toList) (hlabel : '\n' ∉ label.toList) :
    Plain (start ++ label ++ "-----").toList := by
  have hlast : (start ++ label ++ "-----").toList.getLast? = some '-' := by
    rw [String.toList_append, List.getLast?_append]
    rfl
  have hfirst : (start ++ label ++ "-----").toList.head? = some '-' := by
    rw [String.toList_append, String.toList_append, List.append_assoc, List.head?_append, hhead]
    rfl
  refine ⟨⟨?_, ?_⟩, ?_⟩
  · exact not_mem_append (not_mem_append hstart hlabel) (by decide)
  · rw [hlast]
    decide
  · rw [String.ofList_toList]
    apply trim_of_ends
    · intro c hc
      rw [hfirst, Option.some.injEq] at hc
      exact hc ▸ rfl
    · intro c hc
      rw [hlast, Option.some.injEq] at hc
      exact hc ▸ rfl

/-- A line of base64 has no dash, and neither line feeds nor white space. -/
lemma plain_of_base64 {line : List Char}
    (h : ∀ c ∈ line, c.isAlphanum = true ∨ c = '+' ∨ c = '/' ∨ c = '=') : Plain line := by
  have hblank : ∀ c ∈ line, isWhitespace c = false := fun c hc => (base64_char (h c hc)).1
  refine ⟨⟨?_, ?_⟩, ?_⟩
  · intro hmem
    exact absurd (hblank _ hmem) (by decide)
  · intro hlast
    exact absurd (hblank _ (List.mem_of_getLast? hlast)) (by decide)
  · apply trim_of_ends
    · rw [String.toList_ofList]
      exact fun c hc => hblank c (List.mem_of_head? hc)
    · rw [String.toList_ofList]
      exact fun c hc => hblank c (List.mem_of_getLast? hc)

lemma plain_beginLine {label : String} (h : '\n' ∉ label.toList) : Plain (beginLine label).toList :=
  plain_boundary rfl (by decide) h

lemma plain_endLine {label : String} (h : '\n' ∉ label.toList) : Plain (endLine label).toList :=
  plain_boundary rfl (by decide) h

lemma plain_chunks (hb64 : Base64Padded X) (der : Bytes) {piece : List Char}
    (hpiece : piece ∈ chunks 64 (X.base64Encode der).toList) : Plain piece :=
  plain_of_base64 fun c hc => hb64.alphabet der c (mem_of_mem_chunks hpiece hc)

lemma plain_pemLines (hb64 : Base64Padded X) {block : Bytes × String} (h : '\n' ∉ block.2.toList) :
    ∀ line ∈ pemLines X block, Plain line := by
  intro line hline
  rcases List.mem_cons.mp hline with rfl | hline
  · exact plain_beginLine h
  · rcases List.mem_append.mp hline with hline | hline
    · exact plain_chunks hb64 block.1 hline
    · rw [List.mem_singleton.mp hline]
      exact plain_endLine h

lemma toList_derToPem (block : Bytes × String) :
    (derToPem X block.1 block.2).toList = unlines (pemLines X block) := by
  have hend : unlines [(endLine block.2).toList] = (endLine block.2).toList ++ ['\n'] :=
    List.flatMap_singleton ..
  have hbegin : ∀ ls, unlines ((beginLine block.2).toList :: ls) =
      (beginLine block.2).toList ++ ['\n'] ++ unlines ls := fun ls => List.flatMap_cons ..
  rw [pemLines, List.cons_append, hbegin, unlines_append, hend]
  simp only [derToPem, String.toList_append, String.toList_ofList, String.reduceToList,
    List.append_assoc]

/-! ### Boundaries -/

lemma beginLine_inj {label label' : String} (h : beginLine label = beginLine label') :
    label = label' := by
  have hchars := congrArg String.toList h
  simp only [beginLine, String.toList_append] at hchars
  exact String.toList_inj.mp (List.append_cancel_left (List.append_cancel_right hchars))

lemma beginLine_ne_endLine (label label' : String) : beginLine label ≠ endLine label' := by
  intro h
  have hchar := congrArg (fun s => s.toList[5]?) h
  simp [beginLine, endLine, String.toList_append] at hchar

lemma dash_mem_boundary (label : String) :
    '-' ∈ (beginLine label).toList ∧ '-' ∈ (endLine label).toList := by
  simp [beginLine, endLine, String.toList_append]

/-! ### Blocks -/

lemma scanLine_closed {label line : String} (blocks : List Bytes) (h : line ≠ beginLine label) :
    scanLine X label ⟨none, blocks⟩ line = ⟨none, blocks⟩ := by
  rw [scanLine, if_neg h]
  split_ifs
  · rfl
  · rfl

lemma scan_closed {label : String} {ls : List String} (blocks : List Bytes)
    (h : ∀ line ∈ ls, line ≠ beginLine label) : scan X label ⟨none, blocks⟩ ls = ⟨none, blocks⟩ := by
  induction ls with
  | nil => rfl
  | cons line ls ih =>
    rw [scan, List.foldl_cons, scanLine_closed blocks (h line List.mem_cons_self)]
    exact ih fun l hl => h l (List.mem_cons_of_mem line hl)

/-- Inside a block the lines of its body are put together. -/
lemma scan_open {label : String} {ls : List (List Char)} (body : String) (blocks : List Bytes)
    (hbegin : ∀ line ∈ ls, String.ofList line ≠ beginLine label)
    (hend : ∀ line ∈ ls, String.ofList line ≠ endLine label) :
    scan X label ⟨some body, blocks⟩ (ls.map String.ofList) =
      ⟨some (body ++ String.ofList ls.flatten), blocks⟩ := by
  induction ls generalizing body with
  | nil =>
    have hempty : body ++ String.ofList [] = body := by simp
    rw [List.flatten_nil, hempty]
    rfl
  | cons line ls ih =>
    have hline : scanLine X label ⟨some body, blocks⟩ (String.ofList line) =
        ⟨some (body ++ String.ofList line), blocks⟩ := by
      rw [scanLine, if_neg (hbegin line List.mem_cons_self), if_neg (hend line List.mem_cons_self)]
    rw [List.map_cons, scan, List.foldl_cons, hline, ← scan,
      ih _ (fun l hl => hbegin l (List.mem_cons_of_mem line hl))
        (fun l hl => hend l (List.mem_cons_of_mem line hl)),
      List.flatten_cons, String.ofList_append, String.append_assoc]

lemma scan_append (label : String) (s : Scan) (ls ls' : List String) :
    scan X label s (ls ++ ls') = scan X label (scan X label s ls) ls' := List.foldl_append

/-- **A block is read if it has the label**, and leaves no block open. -/
theorem scan_pemLines (hb64 : Base64Padded X) (label : String) (blocks : List Bytes)
    (block : Bytes × String) :
    scan X label ⟨none, blocks⟩ ((pemLines X block).map String.ofList) =
      ⟨none, blocks ++ if block.2 = label then [block.1] else []⟩ := by
  -- a boundary has a dash, and base64 has none
  have hpiece : ∀ piece ∈ chunks 64 (X.base64Encode block.1).toList, '-' ∉ piece := by
    intro piece hpiece hdash
    exact (base64_char (hb64.alphabet block.1 _ (mem_of_mem_chunks hpiece hdash))).2 rfl
  have hbegin : ∀ piece ∈ chunks 64 (X.base64Encode block.1).toList,
      String.ofList piece ≠ beginLine label := by
    intro piece hmem heq
    apply hpiece piece hmem
    rw [← String.toList_ofList (l := piece), heq]
    exact (dash_mem_boundary label).1
  have hend : ∀ piece ∈ chunks 64 (X.base64Encode block.1).toList,
      String.ofList piece ≠ endLine label := by
    intro piece hmem heq
    apply hpiece piece hmem
    rw [← String.toList_ofList (l := piece), heq]
    exact (dash_mem_boundary label).2
  by_cases hlabel : block.2 = label
  · subst hlabel
    rw [if_pos rfl, pemLines, List.cons_append, List.map_cons, List.map_append, List.map_singleton,
      String.ofList_toList, String.ofList_toList]
    have hopen : scanLine X block.2 ⟨none, blocks⟩ (beginLine block.2) = ⟨some "", blocks⟩ :=
      if_pos rfl
    have hbody : "" ++ String.ofList (chunks 64 (X.base64Encode block.1).toList).flatten =
        X.base64Encode block.1 := by
      rw [flatten_chunks, String.empty_append, String.ofList_toList]
    rw [scan, List.foldl_cons, hopen, ← scan, scan_append, scan_open "" blocks hbegin hend, hbody]
    have hclose : scanLine X block.2 ⟨some (X.base64Encode block.1), blocks⟩ (endLine block.2) =
        ⟨none, blocks ++ [block.1]⟩ := by
      rw [scanLine, if_neg (beginLine_ne_endLine _ _).symm, if_pos rfl]
      simp only [hb64.decode_encode]
    exact hclose
  · rw [if_neg hlabel, List.append_nil]
    -- no line of another block opens this one
    apply scan_closed
    intro line hline
    obtain ⟨piece, hmem, rfl⟩ := List.mem_map.mp hline
    rcases List.mem_cons.mp hmem with rfl | hmem
    · rw [String.ofList_toList]
      exact fun heq => hlabel (beginLine_inj heq)
    · rcases List.mem_append.mp hmem with hmem | hmem
      · exact hbegin piece hmem
      · rw [List.mem_singleton.mp hmem, String.ofList_toList]
        exact (beginLine_ne_endLine _ _).symm

/-- **A run over blocks** reads those with the label, in order. -/
theorem scan_bundle (hb64 : Base64Padded X) (label : String) (blocks : List Bytes)
    (bundle : List (Bytes × String)) :
    scan X label ⟨none, blocks⟩ ((bundle.flatMap (pemLines X)).map String.ofList) =
      ⟨none, blocks ++ (bundle.filter fun b => b.2 = label).map Prod.fst⟩ := by
  induction bundle generalizing blocks with
  | nil => simp [scan]
  | cons block bundle ih =>
    rw [List.flatMap_cons, List.map_append, scan_append, scan_pemLines hb64, ih, List.filter_cons]
    by_cases hlabel : block.2 = label
    · simp [hlabel]
    · simp [hlabel]

/-- **Blocks put together are read one by one**: those of a label, in order, with their bytes. -/
theorem pemBlocks_concat (hb64 : Base64Padded X) {bundle : List (Bytes × String)}
    (hlabels : ∀ b ∈ bundle, '\n' ∉ b.2.toList) (label : String) :
    pemBlocks X (concat (bundle.map fun b => derToPem X b.1 b.2)) label =
      (bundle.filter fun b => b.2 = label).map Prod.fst := by
  have htext : (concat (bundle.map fun b => derToPem X b.1 b.2)).toList =
      unlines (bundle.flatMap (pemLines X)) := by
    rw [concat, String.toList_ofList, List.flatMap_map, unlines, List.flatMap_assoc]
    exact List.flatMap_congr fun b _ => toList_derToPem b
  have hplain : ∀ line ∈ bundle.flatMap (pemLines X), Plain line := by
    intro line hline
    obtain ⟨b, hb, hline⟩ := List.mem_flatMap.mp hline
    exact plain_pemLines hb64 (hlabels b hb) line hline
  have hlines : (lines (concat (bundle.map fun b => derToPem X b.1 b.2))).map trim =
      (bundle.flatMap (pemLines X)).map String.ofList := by
    rw [lines, htext, linesFrom_unlines fun line hline => (hplain line hline).isLine, List.map_map]
    exact List.map_congr_left fun line hline => (hplain line hline).trimmed
  rw [pemBlocks, hlines, scan_bundle hb64, List.nil_append]

/-! ### Certificates -/

lemma fromDer_der {c : IssuerCertificate X} {publicKey : Bytes}
    (h : c.certificate.subjectPublicKey = publicKey) :
    IssuerCertificate.fromDer X c.der publicKey = .ok c := by
  obtain ⟨der, certificate, hparsed⟩ := c
  unfold IssuerCertificate.fromDer
  split
  · next e he =>
    rw [hparsed] at he
    cases he
  · next cert hcert =>
    have hcertificate : cert = certificate := Except.ok.inj (hcert.symm.trans hparsed)
    subst hcertificate
    exact if_pos h

def IssuerPki.blocks (pki : IssuerPki X) : List (Bytes × String) :=
  [(pki.leaf.der, "CERTIFICATE"), (pki.mdocSigner.der, "CERTIFICATE"),
    (pki.mdocStatusSigner.der, "CERTIFICATE"), (pki.trustAnchor, "CERTIFICATE"),
    (pki.crl, "X509 CRL")]

lemma single_of_label {label : String} (h : label = "CERTIFICATE" ∨ label = "X509 CRL") :
    '\n' ∉ label.toList := by
  rcases h with rfl | rfl
  · decide
  · decide

/-- A bundle is read by its labels. -/
lemma pemBlocks_toPem (hb64 : Base64Padded X) (pki : IssuerPki X) (label : String) :
    pemBlocks X pki.toPem label = (pki.blocks.filter fun b => b.2 = label).map Prod.fst := by
  have hlabels : ∀ b ∈ pki.blocks, '\n' ∉ b.2.toList := by
    intro b hb
    apply single_of_label
    simp only [IssuerPki.blocks, List.mem_cons, List.not_mem_nil, or_false] at hb
    rcases hb with rfl | rfl | rfl | rfl | rfl <;> simp
  exact pemBlocks_concat hb64 hlabels label

lemma IssuerPki.fromPem_toPem (hb64 : Base64Padded X) {pki : IssuerPki X} {publicKey : Bytes}
    {now : ℕ → ℤ} (hkey : pki.Certifies publicKey) (hchain : ∀ i < 3, pki.ChainsAt (now i)) :
    IssuerPki.fromPem X pki.toPem publicKey now = .ok pki := by
  have hcertificates : pemBlocks X pki.toPem "CERTIFICATE" =
      [pki.leaf.der, pki.mdocSigner.der, pki.mdocStatusSigner.der, pki.trustAnchor] := by
    rw [pemBlocks_toPem hb64]
    simp [IssuerPki.blocks]
  have hcrl : pemBlocks X pki.toPem "X509 CRL" = [pki.crl] := by
    rw [pemBlocks_toPem hb64]
    simp [IssuerPki.blocks]
  obtain ⟨hleaf, hmdoc, hstatus⟩ : pki.leaf ∈ pki.leaves ∧ pki.mdocSigner ∈ pki.leaves ∧
      pki.mdocStatusSigner ∈ pki.leaves := by simp [IssuerPki.leaves]
  obtain ⟨key, h0⟩ := hchain 0 (by omega) _ hleaf
  obtain ⟨key', h1⟩ := hchain 1 (by omega) _ hmdoc
  obtain ⟨key'', h2⟩ := hchain 2 (by omega) _ hstatus
  simp only [IssuerPki.fromPem, hcertificates, hcrl, List.head?_cons, okOr_some, bind_eq_ok,
    Except.ok.injEq, exists_eq_left', fromDer_der (hkey _ hleaf), fromDer_der (hkey _ hmdoc),
    fromDer_der (hkey _ hstatus), pure_eq_ok]
  exact ⟨key, h0, key', h1, key'', h2, trivial⟩

/-- **PEM bundles round trip.** However certificates and CRLs are put together, the blocks of each
label are read back in order; so an issuer whose leaves certify its key and chain to its anchor is
loaded again from its bundle. -/
theorem pem_round_trips (hb64 : Base64Padded X) :
    (∀ (bundle : List (Bytes × String)) (label : String),
      (∀ b ∈ bundle, b.2 = "CERTIFICATE" ∨ b.2 = "X509 CRL") →
      pemBlocks X (concat (bundle.map fun b => derToPem X b.1 b.2)) label =
        (bundle.filter fun b => b.2 = label).map Prod.fst) ∧
    ∀ (pki : IssuerPki X) (publicKey : Bytes) (now : ℕ → ℤ), pki.Certifies publicKey →
      (∀ i < 3, pki.ChainsAt (now i)) →
      IssuerPki.fromPem X pki.toPem publicKey now = .ok pki := by
  refine ⟨fun bundle label hlabels => ?_, fun pki publicKey now hkey hchain => ?_⟩
  · exact pemBlocks_concat hb64 (fun b hb => single_of_label (hlabels b hb)) label
  · exact IssuerPki.fromPem_toPem hb64 hkey hchain

/-! ### A bundle of the document signer -/

section Sample

/-- The crates of the certificates, with base64 in the standard alphabet. -/
def bundleCrates : Crates :=
  { (pki [] [] [] []).crates with
    base64Encode := Base64.encodePadded
    base64Decode := fun s => okOr "invalid Base64 encoding" (Base64.decodePadded s) }

lemma base64Padded_bundle : Base64Padded bundleCrates := by
  have hencode : bundleCrates.base64Encode = Base64.encodePadded := rfl
  have hdecode : bundleCrates.base64Decode =
      fun s => okOr "invalid Base64 encoding" (Base64.decodePadded s) := rfl
  refine ⟨fun bytes => ?_, fun bytes c hc => ?_⟩
  · rw [hencode, hdecode]
    exact okOr_eq_ok.mpr (Base64.decodePadded_encodePadded bytes)
  · rw [hencode] at hc
    exact Base64.mem_encodePadded hc

lemma parses_signer : bundleCrates.certificateFromDer signerDer = .ok signerCertificate := by
  have hfrom : bundleCrates.certificateFromDer = (pki [] [] [] []).crates.certificateFromDer := rfl
  rw [hfrom]
  exact certificateFromDer_signer rfl

lemma parses_root : bundleCrates.certificateFromDer rootDer = .ok rootCertificate := by
  have hfrom : bundleCrates.certificateFromDer = (pki [] [] [] []).crates.certificateFromDer := rfl
  rw [hfrom]
  exact certificateFromDer_root rfl

lemma chains_signer {instant : ℤ} (hfrom : seconds 1767225600 ≤ instant)
    (huntil : instant ≤ seconds 1893456000) :
    ∃ key, validateChain bundleCrates [signerDer] [rootDer] instant = .ok key := by
  have hissued : verifyIssuedBy bundleCrates = verifyIssuedBy (pki [] [] [] []).crates := rfl
  have hjwk : p256Jwk bundleCrates = p256Jwk (pki [] [] [] []).crates := rfl
  obtain ⟨key, hkey, -⟩ := p256Jwk_signer (t := pki [] [] [] [])
  refine ⟨key, validateChain_single parses_signer parses_root List.mem_cons_self ?_ ?_
    (checkValidity_eq_ok.mpr ⟨hfrom, huntil⟩) (checkValidity_eq_ok.mpr ⟨hfrom, huntil⟩)⟩
  · rw [hissued]
    exact verifyIssuedBy_root rfl
  · rw [hjwk]
    exact hkey

def bundleSigner : IssuerCertificate bundleCrates := ⟨signerDer, signerCertificate, parses_signer⟩

def bundlePki : IssuerPki bundleCrates where
  trustAnchor := rootDer
  leaf := bundleSigner
  mdocSigner := bundleSigner
  mdocStatusSigner := bundleSigner
  crl := []

/-- Two certificates with CRLs around them, one of them empty; and a bundle in 2026. -/
theorem bundle_round_trips :
    pemBlocks bundleCrates (concat [derToPem bundleCrates [] "X509 CRL",
      derToPem bundleCrates rootDer "CERTIFICATE", derToPem bundleCrates [0x30] "X509 CRL",
      derToPem bundleCrates signerDer "CERTIFICATE"]) "CERTIFICATE" = [rootDer, signerDer] ∧
    IssuerPki.fromPem bundleCrates bundlePki.toPem signerCertificate.subjectPublicKey
      (fun i => seconds (1767225600 + i)) = .ok bundlePki := by
  obtain ⟨hblocks, hpki⟩ := pem_round_trips base64Padded_bundle
  refine ⟨?_, hpki bundlePki _ _ ?_ ?_⟩
  · have h := hblocks [([], "X509 CRL"), (rootDer, "CERTIFICATE"), ([0x30], "X509 CRL"),
      (signerDer, "CERTIFICATE")] "CERTIFICATE" (by simp)
    have hfilter : ([([], "X509 CRL"), (rootDer, "CERTIFICATE"), ([0x30], "X509 CRL"),
        (signerDer, "CERTIFICATE")].filter fun b : Bytes × String => b.2 = "CERTIFICATE").map
        Prod.fst = [rootDer, signerDer] := by simp
    rw [hfilter] at h
    exact h
  · intro c hc
    simp only [IssuerPki.leaves, bundlePki, List.mem_cons, List.not_mem_nil, or_false,
      or_self] at hc
    rw [hc]
    rfl
  · intro i hi c hc
    simp only [IssuerPki.leaves, bundlePki, List.mem_cons, List.not_mem_nil, or_false,
      or_self] at hc
    have hfrom : seconds 1767225600 ≤ seconds (1767225600 + (i : ℤ)) := by
      unfold seconds
      omega
    have huntil : seconds (1767225600 + (i : ℤ)) ≤ seconds 1893456000 := by
      unfold seconds
      omega
    rw [hc]
    exact chains_signer hfrom huntil

end Sample

end Oid4vc.Pem
