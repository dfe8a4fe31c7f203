import Oid4vc.Crypto.SdJwt
import Oid4vc.Server.Response

/-!
The routes of the status lists: the Token Status List, and the admin endpoints.
-/

namespace Oid4vc.StatusRoutes

open Oid4vc.JsonValue Oid4vc.Text Oid4vc.Fallible Oid4vc.Instant Oid4vc.Atomic Oid4vc.External
open Oid4vc.Jwks Oid4vc.Jws Oid4vc.SdJwt Oid4vc.Credential Oid4vc.Manager Oid4vc.Server

variable {X : Crates} (app : AppState X)

/-- How long a relying party may cache a Status List Token, in seconds. -/
def statusListTtlSecs : ℤ := 300

/-- The claims of a Status List Token, which names the URL it is served at. -/
def statusTokenClaims (id : String) (list : StatusTypes.TokenStatusList) (now : ℤ) : Json :=
  .obj [("iss", .str app.issuerId), ("sub", .str (app.urlFor ("/status/" ++ id ++ "/token"))),
    ("iat", i64Json now), ("exp", i64Json (now + 24 * 3600)), ("ttl", i64Json statusListTtlSecs),
    ("status_list", .obj [("bits", i64Json list.bits), ("lst", .str list.lst)])]

def statusTokenHeader : JwsHeader :=
  { buildHeader app.primaryKey (some "statuslist+jwt") with x5c := some (Server.x5c app.leaf) }

def signStatusToken (id : String) (list : StatusTypes.TokenStatusList) (now : ℤ) : Response :=
  match signCompact X app.primaryKey (statusTokenHeader app) (statusTokenClaims app id list now) with
  | .ok jwt => ⟨200, [("content-type", "application/statuslist+jwt")], .statusToken jwt⟩
  | .error e => jsonError 500 "server_error" e.toString

/-- `GET /status/{id}/token`: the Status List Token. -/
def getTokenStatusList (id : String) : Prog Stores Reply :=
  .call (onStatus fun manager => (manager.buildTokenStatusList X id, manager)) fun
    | .error e => .ret (.response (jsonError 404 "not_found" e.toString))
    | .ok list => .call Calls.readClock fun now =>
        .ret (.response (signStatusToken app id list (timestamp now)))

/-- Request body for status update endpoints. -/
structure StatusUpdateRequest where
  index : ℕ
  format : Option String

def StatusUpdateRequest.isMdoc (request : StatusUpdateRequest) : Bool :=
  request.format == some "mso_mdoc"

/-- The mdoc list has one bit per mdoc: revoked or not. -/
def rejectMdocSuspension : Response := jsonError 400 "invalid_request"
  "an mdoc can be revoked but not suspended: its revocation list has one bit per mdoc"

/-- Comparison of two byte strings in constant time. -/
def constantTimeEq (presented expected : Bytes) : Bool :=
  presented.length == expected.length &&
    (presented.zip expected).foldl (fun acc p => acc ||| (p.1 ^^^ p.2)) 0 == 0

/-- Check the admin bearer token; an error response when it is wrong. -/
def rejectUnauthorizedAdmin (headers : Headers) : Option Response :=
  let presented := (((headerText X headers "authorization").bind
    fun value => stripPrefix value "Bearer ")).getD ""
  if constantTimeEq (utf8 presented) (utf8 app.adminToken) = true then none
  else some (jsonError 401 "invalid_token" "admin endpoints require a valid Bearer token")

/-- How an update of a status list is answered. -/
def updateReply (status : String) (index : ℕ) : Except (Fault ManagerError) Unit → Reply
  | .ok () => .response ⟨200, [], .updated status index⟩
  | .error (.err e) => .response (jsonError 400 "invalid_request" e.toString)
  | .error .panic => .panicked

/-- `POST /admin/status/revoke`. -/
def revokeCredential (headers : Headers) (request : StatusUpdateRequest) : Prog Stores Reply :=
  match rejectUnauthorizedAdmin app headers with
  | some response => .ret (.response response)
  | none => .call (onStatus fun manager =>
      if request.isMdoc = true then manager.revokeMdoc request.index
      else manager.revoke request.index) fun r => .ret (updateReply "revoked" request.index r)

/-- What the two endpoints that only an SD-JWT VC has do, by this operation. -/
def suspensionEndpoint (status : String)
    (update : StatusManager → ℕ → Except (Fault ManagerError) Unit × StatusManager)
    (headers : Headers) (request : StatusUpdateRequest) : Prog Stores Reply :=
  match rejectUnauthorizedAdmin app headers with
  | some response => .ret (.response response)
  | none =>
    if request.isMdoc = true then .ret (.response rejectMdocSuspension)
    else .call (onStatus fun manager => update manager request.index) fun r =>
      .ret (updateReply status request.index r)

/-- `POST /admin/status/suspend`. -/
def suspendCredential (headers : Headers) (request : StatusUpdateRequest) : Prog Stores Reply :=
  suspensionEndpoint app "suspended" StatusManager.suspend headers request

/-- `POST /admin/status/reinstate`. -/
def reinstateCredential (headers : Headers) (request : StatusUpdateRequest) : Prog Stores Reply :=
  suspensionEndpoint app "reinstated" StatusManager.reinstate headers request

end Oid4vc.StatusRoutes
