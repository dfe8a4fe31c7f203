import Oid4vc.Base.PartialMap
import Oid4vc.Types.Oid4vp

/-!
DCQL queries: how they are built, and their evaluation against the claims a presentation disclosed.
-/

namespace Oid4vc.Dcql

open Oid4vc.JsonValue Oid4vc.PartialMap Oid4vc.Oid4vp

/-- Builder for constructing DCQL queries. -/
structure DcqlQueryBuilder where
  credentials : List CredentialQuery

namespace DcqlQueryBuilder

def new : DcqlQueryBuilder := ⟨[]⟩

/-- The claims of a query, if there are any. -/
def claimQueries (claims : List String) : Option (List ClaimQuery) :=
  if claims = [] then none
  else some (claims.map fun path => ⟨[path], none, some path, none⟩)

/-- Add an SD-JWT VC credential query. Whether a claim is mandatory is not looked at. -/
def addSdJwtVcQuery (b : DcqlQueryBuilder) (id vct : String) (claims : List (String × Bool)) :
    DcqlQueryBuilder where
  credentials := b.credentials ++
    [⟨id, "dc+sd-jwt", some vct, none, claimQueries (claims.map Prod.fst)⟩]

def build (b : DcqlQueryBuilder) : DcqlQuery := ⟨b.credentials⟩

end DcqlQueryBuilder

/-- One claim query: its first path element is disclosed, with one of the values asked for. -/
def evaluateClaimQuery (claim : ClaimQuery) (disclosedClaims : PMap String Json) : Bool :=
  match claim.path with
  | [] => true
  | firstPath :: _ =>
    match disclosedClaims.get firstPath with
    | none => false
    | some actualValue =>
      match claim.values with
      | none => true
      | some expectedValues => expectedValues.any fun v => v.beq actualValue

/-- Whether a set of disclosed claims satisfies a DCQL credential query. -/
def evaluateCredentialQuery (query : CredentialQuery) (disclosedClaims : PMap String Json) :
    Bool :=
  match query.claims with
  | none => true
  | some claims => claims.all fun claim => evaluateClaimQuery claim disclosedClaims

end Oid4vc.Dcql
