import Oid4vc.Base.Percent
import Oid4vc.Issuer.Offer
import Oid4vc.Types.Serialized

/-!
A credential offer in a link, and what a wallet that opens the link finds there.
-/

namespace Oid4vc.OfferUri

open Oid4vc.Text Oid4vc.Percent Oid4vc.External Oid4vc.Codecs Oid4vc.Oid4vci Oid4vc.IssuerStore
open Oid4vc.Offer Oid4vc.Records Oid4vc.Serialized

variable {X : Crates}

def encodeOfferUri (X : Crates) (_issuerUrl : String) (offer : CredentialOffer) : String :=
  "openid-credential-offer://?credential_offer=" ++ X.urlencode (X.jsonToVec (offerToValue offer))

/-- What a wallet finds: the offer, if the link carries that alone. -/
def readOfferUri (X : Crates) (uri : String) : Option CredentialOffer :=
  match readQuery (queryOf uri) with
  | [(name, bytes)] =>
    if name = utf8 "credential_offer" then (X.jsonFromSlice bytes).toOption.bind readOffer else none
  | _ => none

lemma encodeOfferUri_eq (hurl : UrlEncoding X) (issuerUrl : String) (offer : CredentialOffer) :
    encodeOfferUri X issuerUrl offer = "openid-credential-offer://" ++ "?" ++
      query [(utf8 "credential_offer", X.jsonToVec (offerToValue offer))] := by
  have hname : Percent.encode (utf8 "credential_offer") = "credential_offer" := by decide +kernel
  have hfront : "openid-credential-offer://?credential_offer=" =
      "openid-credential-offer://" ++ "?" ++ ("credential_offer" ++ "=") := by decide +kernel
  rw [query_singleton, hname]
  calc encodeOfferUri X issuerUrl offer
    _ = "openid-credential-offer://?credential_offer=" ++
        Percent.encode (X.jsonToVec (offerToValue offer)) :=
      congrArg ("openid-credential-offer://?credential_offer=" ++ ·) (hurl.encode _)
    _ = "openid-credential-offer://" ++ "?" ++ ("credential_offer" ++ "=") ++
        Percent.encode (X.jsonToVec (offerToValue offer)) :=
      congrArg (· ++ Percent.encode (X.jsonToVec (offerToValue offer))) hfront
    _ = _ := String.append_assoc

/-- **The link of an offer carries the offer.** -/
theorem readOfferUri_encodeOfferUri (hurl : UrlEncoding X) (hserde : SerdeOrder X) {offer : CredentialOffer}
    (hfits : OfferFits offer) (issuerUrl : String) :
    readOfferUri X (encodeOfferUri X issuerUrl offer) = some offer := by
  have hread : readQuery (queryOf (encodeOfferUri X issuerUrl offer)) =
      [(utf8 "credential_offer", X.jsonToVec (offerToValue offer))] := by
    have hfront : '?' ∉ "openid-credential-offer://".toList ∧
        '#' ∉ "openid-credential-offer://".toList := by decide +kernel
    rw [encodeOfferUri_eq hurl]
    exact (congrArg readQuery (queryOf_link hfront _)).trans (readQuery_query (List.cons_ne_nil _ _))
  obtain ⟨v, hv, halike⟩ := hserde.readBack _ (readable_offer offer)
  unfold readOfferUri
  rw [hread]
  calc (if utf8 "credential_offer" = utf8 "credential_offer" then
        (X.jsonFromSlice (X.jsonToVec (offerToValue offer))).toOption.bind readOffer else none)
    _ = (X.jsonFromSlice (X.jsonToVec (offerToValue offer))).toOption.bind readOffer := if_pos rfl
    _ = (some v).bind readOffer := congrArg (fun r => r.toOption.bind readOffer) hv
    _ = some offer := readsBack_offer hfits v halike

/-- The offer of a wallet-initiated visit: both grants, and a transaction code. -/
def pinOffer : CredentialOffer :=
  (createOffer codecs "https://issuer.example.com/" ⟨["pid", "mDL"], true, true, true⟩
    ⟨0, 0, InMemoryIssuerState.new⟩).1.1

/-- The offer comes out of its link, with the six digits of its transaction code. -/
theorem pinOffer_read : readOfferUri codecs (encodeOfferUri codecs "https://issuer.example.com/" pinOffer) =
    some pinOffer := by
  refine readOfferUri_encodeOfferUri urlEncoding_codecs serdeOrder_codecs ?_ _
  intro grants hgrants grant hgrant code hcode n hn
  obtain rfl := Option.some.inj hgrants
  obtain rfl := Option.some.inj hgrant
  obtain rfl := Option.some.inj hcode
  obtain rfl := Option.some.inj hn
  decide

end Oid4vc.OfferUri
