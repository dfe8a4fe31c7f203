import Oid4vc.Codecs
import Oid4vc.Crypto.SelfSigned
import Oid4vc.Server.Response

/-!
JWTs as header values: the text of a JWT is visible ASCII, and a handler reads it as it was sent.
-/

namespace Oid4vc.Server

open Oid4vc.JsonValue Oid4vc.Text Oid4vc.Fallible Oid4vc.Jwks Oid4vc.External Oid4vc.Codecs
open Oid4vc.Keys Oid4vc.Jws Oid4vc.SelfSigned

lemma utf8_visible {cs : List Char} (h : ∀ c ∈ cs, Visible c) :
    utf8 (String.ofList cs) = cs.map fun c => BitVec.ofNat 8 c.toNat := by
  unfold utf8
  rw [String.toList_ofList]
  induction cs with
  | nil => rfl
  | cons c cs ih =>
    obtain ⟨-, hhigh⟩ := h c List.mem_cons_self
    have hone : String.utf8EncodeChar c = [UInt8.ofNat c.toNat] := by
      have hsmall : c.val.toNat ≤ 0x7f := Nat.le_of_lt_succ (Nat.lt_succ_of_lt hhigh)
      unfold String.utf8EncodeChar
      exact if_pos hsmall
    rw [List.flatMap_cons, List.map_cons, ih fun c' hc' => h c' (List.mem_cons_of_mem _ hc'), hone]
    rfl

/-- **Visible text is read as it was sent** by the header values of the codecs. -/
theorem headerValues_codecs : HeaderValues codecs := by
  refine ⟨fun s h => ?_⟩
  change readVisible (utf8 s) = .ok s
  have hbytes := utf8_visible h
  rw [String.ofList_toList] at hbytes
  have hsmall : ∀ c ∈ s.toList, (BitVec.ofNat 8 c.toNat).toNat = c.toNat := by
    intro c hc
    obtain ⟨-, hhigh⟩ := h c hc
    rw [BitVec.toNat_ofNat]
    exact Nat.mod_eq_of_lt (by omega)
  have hall : (utf8 s).all (fun b => (32 ≤ b && b < 127) || b == 9) = true := by
    rw [hbytes, List.all_map, List.all_eq_true]
    intro c hc
    obtain ⟨hlow, hhigh⟩ := h c hc
    have := hsmall c hc
    simp only [Function.comp_apply, Bool.or_eq_true, Bool.and_eq_true, decide_eq_true_eq]
    left
    constructor
    · rw [BitVec.le_def, this]
      exact hlow
    · rw [BitVec.lt_def, this]
      exact hhigh
  have hchars : s.toList.map ((fun b : BitVec 8 => Char.ofNat b.toNat) ∘
      fun c => BitVec.ofNat 8 c.toNat) = s.toList := by
    calc s.toList.map ((fun b : BitVec 8 => Char.ofNat b.toNat) ∘ fun c => BitVec.ofNat 8 c.toNat)
      _ = s.toList.map id := by
        refine List.map_congr_left fun c hc => ?_
        simp only [Function.comp_apply, hsmall c hc, Char.ofNat_toNat, id]
      _ = s.toList := List.map_id _
  rw [readVisible, if_pos hall, hbytes, List.map_map, hchars, String.ofList_toList]

lemma visible_base64 (bytes : Bytes) : ∀ c ∈ (Base64.encode '-' '_' bytes).toList, Visible c := by
  have hdigit : ∀ i < 64, Visible (Base64.digit '-' '_' i) := by
    unfold Visible
    decide
  intro c hc
  rw [Base64.encode, String.toList_ofList, List.mem_map] at hc
  obtain ⟨i, hi, rfl⟩ := hc
  exact hdigit i (Base64.sextets_lt i hi)

/-- A JWT is visible text. -/
lemma visible_signJwt {X : Crates} (hencode : X.base64UrlEncode = Base64.encode '-' '_')
    (key : SigningKey) (header : JwsHeader) (payload : Json) :
    ∀ c ∈ (signJwt X key header payload).toList, Visible c := by
  intro c hc
  rw [signJwt] at hc
  cases hsigned : signCompact X (key.toKeyPair X) header payload with
  | error e => simp [hsigned, Except.toOption] at hc
  | ok jws =>
    have hdot : ∀ c ∈ ".".toList, Visible c := by
      have hchars : ".".toList = ['.'] := rfl
      intro c hc
      rw [hchars, List.mem_singleton] at hc
      rw [hc, Visible]
      exact ⟨by decide, by decide⟩
    rw [hsigned] at hc
    simp only [signCompact, bind_eq_ok, mapError_eq_ok, pure_eq_ok, hencode] at hsigned
    obtain ⟨signature, -, rfl⟩ := hsigned
    simp only [Except.toOption, Option.getD_some, String.toList_append, List.mem_append] at hc
    rcases hc with (((hc | hc) | hc) | hc) | hc
    · exact visible_base64 _ c hc
    · exact hdot c hc
    · exact visible_base64 _ c hc
    · exact hdot c hc
    · exact visible_base64 _ c hc

lemma headerText_signJwt {X Y : Crates} (hheader : HeaderValues X)
    (hencode : Y.base64UrlEncode = Base64.encode '-' '_')
    (key : SigningKey) (header : JwsHeader) (payload : Json) {headers : Headers} {name : String}
    (h : getAll headers name = [utf8 (signJwt Y key header payload)]) :
    headerText X headers name = some (signJwt Y key header payload) := by
  rw [headerText, h]
  simp only [List.head?_cons, Option.bind_some, hheader.toStr _ (visible_signJwt hencode key header payload),
    Except.toOption]

end Oid4vc.Server
