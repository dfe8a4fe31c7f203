import Oid4vc.Base.Atomic
import Oid4vc.Base.Base64
import Oid4vc.Base.Bitfield
import Oid4vc.Base.Cbor
import Oid4vc.Base.CborBytes
import Oid4vc.Base.Cells
import Oid4vc.Base.Earning
import Oid4vc.Base.Escape
import Oid4vc.Base.Fallible
import Oid4vc.Base.Files
import Oid4vc.Base.Instant
import Oid4vc.Base.Json
import Oid4vc.Base.JsonText
import Oid4vc.Base.Lines
import Oid4vc.Base.Locks
import Oid4vc.Base.NumericDate
import Oid4vc.Base.Packed
import Oid4vc.Base.PartialMap
import Oid4vc.Base.Percent
import Oid4vc.Base.Records
import Oid4vc.Base.Rely
import Oid4vc.Base.Run
import Oid4vc.Base.Scripts
import Oid4vc.Base.Sections
import Oid4vc.Base.Spending
import Oid4vc.Base.Text
import Oid4vc.Codecs
import Oid4vc.Crates
import Oid4vc.Crypto.Acceptance
import Oid4vc.Crypto.AlgorithmPinned
import Oid4vc.Crypto.Chains
import Oid4vc.Crypto.Cose
import Oid4vc.Crypto.DeviceBound
import Oid4vc.Crypto.Disclosures
import Oid4vc.Crypto.Elements
import Oid4vc.Crypto.Issuance
import Oid4vc.Crypto.Jwk
import Oid4vc.Crypto.Jws
import Oid4vc.Crypto.KeyBinding
import Oid4vc.Crypto.KeyIdentity
import Oid4vc.Crypto.Keys
import Oid4vc.Crypto.Mdoc
import Oid4vc.Crypto.Minting
import Oid4vc.Crypto.Pem
import Oid4vc.Crypto.Presented
import Oid4vc.Crypto.PublicKey
import Oid4vc.Crypto.Registered
import Oid4vc.Crypto.Rendering
import Oid4vc.Crypto.SdJwt
import Oid4vc.Crypto.Selective
import Oid4vc.Crypto.SelfSigned
import Oid4vc.Crypto.Shadowing
import Oid4vc.Crypto.StatusCwt
import Oid4vc.Crypto.Tables
import Oid4vc.Crypto.Tampering
import Oid4vc.Crypto.X509
import Oid4vc.Issuer.Attested
import Oid4vc.Issuer.Authorization
import Oid4vc.Issuer.Batch
import Oid4vc.Issuer.Burnt
import Oid4vc.Issuer.ClientAttestation
import Oid4vc.Issuer.Credential
import Oid4vc.Issuer.Dates
import Oid4vc.Issuer.DocumentSigner
import Oid4vc.Issuer.Dpop
import Oid4vc.Issuer.Effects
import Oid4vc.Issuer.Endpoints
import Oid4vc.Issuer.Freshness
import Oid4vc.Issuer.HolderKey
import Oid4vc.Issuer.Innocent
import Oid4vc.Issuer.Metadata
import Oid4vc.Issuer.Offer
import Oid4vc.Issuer.OfferUri
import Oid4vc.Issuer.PrivateKey
import Oid4vc.Issuer.Processing
import Oid4vc.Issuer.Redemption
import Oid4vc.Issuer.Refusals
import Oid4vc.Issuer.Replay
import Oid4vc.Issuer.Spent
import Oid4vc.Issuer.State
import Oid4vc.Issuer.StatusRef
import Oid4vc.Issuer.TimeLimits
import Oid4vc.Issuer.Token
import Oid4vc.Issuer.Tokens
import Oid4vc.Issuer.Wallet
import Oid4vc.Server.Authorize
import Oid4vc.Server.CodeFlow
import Oid4vc.Server.Consent
import Oid4vc.Server.Effects
import Oid4vc.Server.Guarantees
import Oid4vc.Server.Handles
import Oid4vc.Server.Headers
import Oid4vc.Server.Honest
import Oid4vc.Server.IssuerRoutes
import Oid4vc.Server.Lifetimes
import Oid4vc.Server.Marking
import Oid4vc.Server.OfferTaken
import Oid4vc.Server.Pages
import Oid4vc.Server.Presenting
import Oid4vc.Server.Promises
import Oid4vc.Server.Provenance
import Oid4vc.Server.Published
import Oid4vc.Server.Requests
import Oid4vc.Server.Response
import Oid4vc.Server.Routes
import Oid4vc.Server.Startup
import Oid4vc.Server.StatusRoutes
import Oid4vc.Server.StoreLocks
import Oid4vc.Server.StoreSections
import Oid4vc.Server.StoredSessions
import Oid4vc.Server.Suspension
import Oid4vc.Status.Arrays
import Oid4vc.Status.Birth
import Oid4vc.Status.Consistency
import Oid4vc.Status.Decoded
import Oid4vc.Status.Lists
import Oid4vc.Status.Manager
import Oid4vc.Status.StatusList2021
import Oid4vc.Status.Taken
import Oid4vc.Status.TokenStatusList
import Oid4vc.Types.Credentials
import Oid4vc.Types.Oid4vci
import Oid4vc.Types.Oid4vp
import Oid4vc.Types.RoundTrip
import Oid4vc.Types.Serialized
import Oid4vc.Types.Status
import Oid4vc.Verifier.AskedFor
import Oid4vc.Verifier.Dcql
import Oid4vc.Verifier.Holding
import Oid4vc.Verifier.KeyBound
import Oid4vc.Verifier.Paths
import Oid4vc.Verifier.Request
import Oid4vc.Verifier.Response
import Oid4vc.Verifier.Session
import Oid4vc.Verifier.Sessions
import Oid4vc.Verifier.SingleUse
