import Oid4vc.Server.Marking
import Oid4vc.Server.Promises

/-!
What the published lists read, in any of their forms and in any run of the whole server.

An update that was answered shows in every list that is asked for after it; and what a list reads as
marked, somebody with the admin token has marked.
-/

namespace Oid4vc.Published

open Oid4vc.JsonValue Oid4vc.Fallible Oid4vc.Instant Oid4vc.Run Oid4vc.Atomic Oid4vc.Rely
open Oid4vc.External Oid4vc.Codecs Oid4vc.Keys Oid4vc.Jws Oid4vc.X509 Oid4vc.Mdoc Oid4vc.StatusCwt
open Oid4vc.StatusTypes Oid4vc.StatusList2021 Oid4vc.TokenStatusList Oid4vc.Manager Oid4vc.Lists
open Oid4vc.StatusConsistency Oid4vc.StatusArrays Oid4vc.Server Oid4vc.StatusRoutes
open Oid4vc.Suspension Oid4vc.Routes Oid4vc.Promises Oid4vc.Marking

variable {X : Crates} {app : ServerState X} {θ : Type} {written : ListName → ℕ → Bool → Prop}
  {m : StatusManager} {r : ServerRequest}

/-! ### The lists, as they are read -/

/-- The forms that a list is published in. -/
inductive ListForm
  | credential (purpose : StatusPurpose)
  | token (purpose : StatusPurpose)
  | mdoc

namespace ListForm

def list : ListForm → ListName
  | .credential p => .entries p
  | .token p => .entries p
  | .mdoc => .mdoc

def request : ListForm → ServerRequest
  | .credential p => .statusList p.toString
  | .token p => .issuer (.tokenStatusList p.toString)
  | .mdoc => .mdocStatusList

/-- What a marked entry reads, or one that is not. -/
def value (form : ListForm) (marked : Bool) : Byte :=
  match form with
  | .credential _ => if marked = true then 1 else 0
  | .token p => (valueOf (.entries p) marked).toByte
  | .mdoc => (valueOf .mdoc marked).toByte

/-- What a relying party reads at an index, at an instant: the bit of a list credential; the value
of a Status List Token, if it verifies under the key of the issuer; and that of the list of the
mdocs, if its signature and its certificates verify. -/
def read (D : Decompressors) (app : ServerState X) (trustAnchors : List Bytes) (now : ℤ)
    (form : ListForm) (reply : ServerReply) (i : ℕ) : Option Byte :=
  match form, reply with
  | .credential _, .statusListCredential published => do
    let list ← (StatusList.decode X D published.credentialSubject.encodedList listCapacity).toOption
    let bit ← (list.get i).toOption
    pure (if bit = true then 1 else 0)
  | .token _, .reply (.response ⟨_, _, .statusToken jwt⟩) =>
    (verifyWithPublicJwk X jwt app.primaryKey.publicJwk).toOption.bind fun _ => statusIn X D jwt i
  | .mdoc, .statusListCwt cwt => do
    let verified ← (verifyStatusListCwt X cwt trustAnchors now).toOption
    let list ← (TokenStatusListImpl.decode X D (X.base64UrlEncode verified.lst) listCapacity
      verified.bits.toNat).toOption
    (list.get i).toOption
  | _, _ => none

end ListForm

/-- The server is up to publish its lists: its key signs, and its codecs read back what they write. -/
structure Publishing (X : Crates) (D : Decompressors) (app : ServerState X) (key : SigningKey) :
    Prop where
  base64Url : Base64Url X
  serdeJson : SerdeJson X
  cborCodec : CborCodec X
  coseParameters : CoseParameters X
  lossless : Lossless X D
  correct : key.Correct X
  signs : key.Signs
  primaryKey : app.primaryKey = key.toKeyPair X

/-- The lists can be dated by this clock, and have not expired at the instant. -/
def Dated (now clock : ℤ) : Prop :=
  Representable clock ∧ Representable (clock + dayNanos) ∧ now ≤ wholeSeconds (clock + dayNanos)

/-- The list reads as the manager has its marks. -/
def Listed (D : Decompressors) (app : ServerState X) (trustAnchors : List Bytes) (now : ℤ)
    (form : ListForm) (shown : Marks) (reply : ServerReply) : Prop :=
  ∀ i < listCapacity, form.read D app trustAnchors now reply i =
    some (form.value (shown form.list i))

section Forms

variable {D : Decompressors} {key : SigningKey} (trustAnchors : List Bytes) (now : ℤ) {shown : Marks}

lemma listed_credential (h : Publishing X D app key) (hshows : Shows m shown) (p : StatusPurpose)
    (clock : ℤ) :
    ∃ credential, m.buildStatusListCredential X p.toString app.externalUrl clock = .ok credential ∧
      Listed D app trustAnchors now (.credential p) shown (.statusListCredential credential) := by
  obtain ⟨l, hget, hsound, -⟩ := hshows.list p
  obtain ⟨encoded, hencode, hdecode⟩ := bit_round_trip h.base64Url h.lossless l.sl2021
  rw [hsound.size] at hdecode
  have hbuild : ∃ credential,
      m.buildStatusListCredential X p.toString app.externalUrl clock = .ok credential ∧
        credential.credentialSubject.encodedList = encoded := by
    simp only [StatusManager.buildStatusListCredential, bind_eq_ok, okOr_eq_ok, mapError_eq_ok,
      pure_eq_ok]
    exact ⟨_, ⟨l, hget, encoded, hencode, rfl⟩, rfl⟩
  obtain ⟨credential, hcredential, rfl⟩ := hbuild
  refine ⟨credential, hcredential, fun i hi => ?_⟩
  have hbit := (reads_of_shows hshows (.entries p) hi).bit l.sl2021 (by simp [bitstring, hget])
  have hread : ListForm.read D app trustAnchors now (.credential p) (.statusListCredential credential) i =
      some (if shown (.entries p) i = true then 1 else 0) := by
    unfold ListForm.read
    dsimp only
    rw [hdecode]
    simp only [Except.toOption, Option.bind_eq_bind, Option.bind_some, hbit]
    exact congrFun Option.pure_def _
  exact hread

/-- **A Status List Token verifies** under the key that signed it. -/
lemma listed_token (h : Publishing X D app key) (hshows : Shows m shown) (p : StatusPurpose)
    {clock : ℤ} (hclock : Representable clock) :
    ∃ list jwt, m.buildTokenStatusList X p.toString = .ok list ∧
      signStatusToken app.toAppState p.toString list (timestamp clock) =
        ⟨200, [("content-type", "application/statuslist+jwt")], .statusToken jwt⟩ ∧
      Listed D app trustAnchors now (.token p) shown
        (.reply (.response ⟨200, [("content-type", "application/statuslist+jwt")], .statusToken jwt⟩)) := by
  obtain ⟨l, hget, hsound, -⟩ := hshows.list p
  obtain ⟨encoded, hencode, hdecode⟩ := token_round_trip h.base64Url h.lossless.zlib l.tsl
  rw [hsound.tslCapacity] at hdecode
  have hsign : ∀ message, ∃ s, app.primaryKey.sign message = .ok s := by
    rw [h.primaryKey]
    exact SigningKey.sign_total h.signs
  obtain ⟨jwt, hjwt⟩ := signCompact_total (X := X) hsign (statusTokenHeader app.toAppState)
    (statusTokenClaims app.toAppState p.toString ⟨l.tsl.bitsPerStatus, encoded⟩ (timestamp clock))
  refine ⟨⟨l.tsl.bitsPerStatus, encoded⟩, jwt, ?_, ?_, fun i hi => ?_⟩
  · simp only [StatusManager.buildTokenStatusList, bind_eq_ok, okOr_eq_ok, mapError_eq_ok, pure_eq_ok]
    exact ⟨l, hget, encoded, hencode, rfl⟩
  · rw [signStatusToken, hjwt]
  · obtain ⟨signature, signingInput, hdecoded, hsigned, -⟩ :=
      decodeCompact_signCompact h.base64Url h.serdeJson hjwt
    have hverified : ∃ d, verifyWithPublicJwk X jwt app.primaryKey.publicJwk = .ok d := by
      rw [h.primaryKey] at hsigned ⊢
      refine ⟨_, verifyWithPublicJwk_eq_ok.mpr ⟨hdecoded, ⟨_, key.algorithmForJwk_publicJwk, ?_⟩,
        SigningKey.verifyWithJwk_of_sign h.base64Url.decode_encode h.correct hsigned⟩⟩
      rw [statusTokenHeader, h.primaryKey]
      rfl
    obtain ⟨d, hd⟩ := hverified
    obtain ⟨tsl, htsl, hvalue⟩ := (reads_of_shows hshows (.entries p) hi).value
    simp only [tokenList, hget, Option.map_some, Option.some.injEq] at htsl
    rw [← htsl] at hvalue
    have hnow : -2 ^ 62 ≤ timestamp clock ∧ timestamp clock < 2 ^ 62 :=
      ⟨le_trans (by decide) hclock.1, lt_of_le_of_lt hclock.2 (by decide)⟩
    have hwidth : l.tsl.bitsPerStatus ≤ 8 := by rw [hsound.tslBits]; decide
    have hread := statusIn_of_signed (i := i) h.base64Url h.serdeJson hjwt hnow hwidth hdecode
    simp only [ListForm.read, hd, Except.toOption, Option.bind_some, hread, hvalue, ListForm.value,
      ListForm.list]

/-- **The list of the mdocs verifies** under the certificate of its signer. -/
lemma listed_mdoc (h : Publishing X D app key) (hshows : Shows m shown) {clock : ℤ}
    (hclock : Dated now clock)
    (hchain : ∃ leaf, validateChain X [app.mdocStatusSigner.der] trustAnchors now = .ok leaf ∧
      leaf.publicMembers = app.primaryKey.publicJwk.publicMembers) :
    ∃ bits lst token, m.mdocStatusList X = .ok (bits, lst) ∧
      signMdocStatusList app bits lst clock = .statusListCwt token ∧
      Listed D app trustAnchors now .mdoc shown (.statusListCwt token) := by
  obtain ⟨compressed, hzlib, hinflate⟩ := h.lossless.zlib m.mdoc.tsl.data
  obtain ⟨token, htoken, hverify⟩ := verify_signStatusListCwt h.base64Url.decode_encode h.cborCodec
    h.coseParameters h.correct h.signs {
      uri := app.urlFor IssuerRoutes.mdocStatusPath
      bits := BitVec.ofNat 8 m.mdoc.tsl.bitsPerStatus
      lst := compressed
      iat := clock
      exp := clock + dayNanos
      ttl := some (BitVec.ofInt 64 statusListTtlSecs)
      x5chain := [app.mdocStatusSigner.der]
      iat_representable := hclock.1
      exp_representable := hclock.2.1 }
  rw [← h.primaryKey] at htoken hverify
  refine ⟨m.mdoc.tsl.bitsPerStatus, compressed, token, ?_, ?_, fun i hi => ?_⟩
  · simp only [StatusManager.mdocStatusList, bind_eq_ok, mapError_eq_ok, pure_eq_ok,
      TokenStatusListImpl.compress]
    exact ⟨compressed, hzlib, rfl⟩
  · rw [signMdocStatusList, dif_pos ⟨hclock.1, hclock.2.1⟩, htoken]
  · have hverified := (hverify trustAnchors now).1 hchain hclock.2.2
    -- the width goes out as one byte, which is enough for the widths there are
    have hbits : (BitVec.ofNat 8 m.mdoc.tsl.bitsPerStatus).toNat = m.mdoc.tsl.bitsPerStatus := by
      rw [hshows.mdocBits]
      rfl
    have hdecode : TokenStatusListImpl.decode X D (X.base64UrlEncode compressed) listCapacity
        m.mdoc.tsl.bitsPerStatus = .ok m.mdoc.tsl := by
      rw [← hshows.mdocCapacity]
      exact TokenStatusListImpl.decode_eq_ok.mpr
        ⟨m.mdoc.tsl.width, compressed, m.mdoc.tsl.data, h.base64Url.decode_encode compressed, hinflate, rfl⟩
    obtain ⟨tsl, htsl, hvalue⟩ := (reads_of_shows hshows .mdoc hi).value
    rw [← Option.some.inj htsl] at hvalue
    simp only [ListForm.read, hverified, Except.toOption, Option.bind_eq_bind, Option.bind_some, hbits,
      hdecode, hvalue, ListForm.value, ListForm.list]

end Forms

/-! ### Handlers of lists -/

/-- Only what was written is marked, and these entries stand as they are said to. -/
structure Marked (written stood : ListName → ℕ → Bool → Prop) (shown : Marks) : Prop where
  written : ∀ t, ∀ i < listCapacity, shown t i = true → written t i true
  stood : ∀ t, ∀ i < listCapacity, ∀ marked, stood t i marked → shown t i = marked

/-- The manager shows such marks, and its lists can be dated. -/
def Standing (window : ℤ → Prop) (written stood : ListName → ℕ → Bool → Prop) (w : ServerWorld) : Prop :=
  window w.stores.issuer.clock ∧ ∃ shown, Shows w.stores.status shown ∧ Marked written stood shown

variable {stood : ListName → ℕ → Bool → Prop}

lemma stable_standing (hstood : ∀ t i marked, stood t i marked → ¬ written t i (!marked)) :
    Stable (Counted window written) (Standing window written stood) := by
  rintro w w' h ⟨hwindow, shown, hshows, hmarked⟩
  obtain ⟨shown', hshows'⟩ := h.2.kept ⟨shown, hshows⟩
  refine ⟨h.1 hwindow, shown', hshows', fun t i hi hmark => ?_, fun t i hi marked hstands => ?_⟩
  · rcases h.2.entry ⟨shown, hshows⟩ t i hi true ((reads_iff hshows' hi).mpr hmark) with hread | hw
    · exact hmarked.written t i hi ((reads_iff hshows hi).mp hread)
    · exact hw
  · have hread := (reads_iff hshows hi).mpr (hmarked.stood t i hi marked hstands)
    exact (reads_iff hshows' hi).mp
      (h.2.stays ⟨shown, hshows⟩ hi (hstood t i marked hstands) hread)

/-- What is read of a list: of the marks that it had when it was asked for. -/
def Answered (D : Decompressors) (app : ServerState X) (trustAnchors : List Bytes) (now : ℤ)
    (written stood : ListName → ℕ → Bool → Prop) (form : ListForm) (reply : ServerReply) : Prop :=
  ∃ shown, Marked written stood shown ∧ Listed D app trustAnchors now form shown reply

/-- **The handler of a list** answers with the marks that it finds. -/
theorem outline_list {D : Decompressors} {key : SigningKey} {trustAnchors : List Bytes} {now : ℤ}
    (h : Publishing X D app key) (hstood : ∀ t i marked, stood t i marked → ¬ written t i (!marked)) (form : ListForm)
    (hchain : form = .mdoc →
      ∃ leaf, validateChain X [app.mdocStatusSigner.der] trustAnchors now = .ok leaf ∧
        leaf.publicMembers = app.primaryKey.publicJwk.publicMembers) (r : ServerRequest) :
    Outline (Counted (Dated now) written) (Leaves app r)
      (fun reply _ => Answered D app trustAnchors now written stood form reply)
      (Standing (Dated now) written stood) (serve app form.request) := by
  have hstable : Stable (Counted (Dated now) written) (Standing (Dated now) written stood) :=
    stable_standing hstood
  have hsame : ∀ w, Leaves app r w w := fun w => leaves_of_same rfl rfl
  cases form with
  | credential p =>
    refine outline_read (fun _ => rfl) hsame hstable fun w hw => ?_
    obtain ⟨-, shown, hshows, hmarked⟩ := hw
    obtain ⟨credential, hbuild, hlisted⟩ :=
      listed_credential trustAnchors now h hshows p w.stores.issuer.clock
    simp only [Prog.through, hbuild]
    exact outline_ret fun _ => ⟨shown, hmarked, hlisted⟩
  | token p =>
    refine outline_read (fun _ => rfl) hsame hstable fun w hw => ?_
    obtain ⟨hclock, shown, hshows, hmarked⟩ := hw
    obtain ⟨list, -, hbuild, -, -⟩ := listed_token trustAnchors now h hshows p hclock.1
    simp only [Prog.through, onStatus, hbuild]
    refine outline_read (fun _ => rfl) hsame hstable fun w' hw' => ?_
    obtain ⟨list', jwt, hbuild', hsigned, hlisted⟩ := listed_token trustAnchors now h hshows p hw'.1.1
    rw [hbuild] at hbuild'
    -- the clock is read after the list: the list is the one that was built before
    obtain rfl := Except.ok.inj hbuild'
    simp only [Prog.through, Credential.Calls.readClock, hsigned]
    exact outline_ret fun _ => ⟨shown, hmarked, hlisted⟩
  | mdoc =>
    refine outline_read (fun _ => rfl) hsame hstable fun w hw => ?_
    obtain ⟨hclock, shown, hshows, hmarked⟩ := hw
    obtain ⟨bits, lst, -, hbuild, -, -⟩ := listed_mdoc trustAnchors now h hshows hclock (hchain rfl)
    simp only [Prog.through, onStatus, hbuild]
    refine outline_read (fun _ => rfl) hsame hstable fun w' hw' => ?_
    obtain ⟨bits', lst', token, hbuild', hsigned, hlisted⟩ :=
      listed_mdoc trustAnchors now h hshows hw'.1 (hchain rfl)
    rw [hbuild] at hbuild'
    obtain ⟨rfl, rfl⟩ := Prod.mk.inj (Except.ok.inj hbuild')
    simp only [Prog.through, Credential.Calls.readClock, hsigned]
    exact outline_ret fun _ => ⟨shown, hmarked, hlisted⟩

/-! ### Runs -/

section Runs

variable [DecidableEq θ] {requests : θ → ServerRequest} {clock : ℤ}

/-- Somebody whose turn comes writes this to the entry. -/
def WrittenIn (app : ServerState X) (requests : θ → ServerRequest) (events : List (Event θ ℤ))
    (t : ListName) (i : ℕ) (marked : Bool) : Prop :=
  ∃ u, .thread u ∈ events ∧ Writing app (requests u) t i marked

/-- An update of the entry was answered by success, and nobody whose turn comes writes anything else
to it. -/
def StoodIn (app : ServerState X) (requests : θ → ServerRequest) (events : List (Event θ ℤ))
    (pool : Pool θ ServerWorld ServerReply) (t : ListName) (i : ℕ) (marked : Bool) : Prop :=
  (∃ u reply, entryOf (requests u) = some (t, i, marked) ∧ (pool.prog u).answer = some reply ∧
    Updated reply) ∧ ¬ WrittenIn app requests events t i (!marked)

/-- What every request can count on. -/
abbrev anything : ServerWorld → ServerWorld → Prop := Counted (fun _ => True) fun _ _ _ => True

omit [DecidableEq θ] in
lemma compatible_leaves (app : ServerState X) (requests : θ → ServerRequest) :
    Compatible (fun _ => anything) fun t => Leaves app (requests t) :=
  fun _ _ _ _ _ h => h.counted fun _ _ _ _ => trivial

lemma every_wait (pool : Pool θ ServerWorld ServerReply) (events : List (Event θ ℤ)) :
    Every (service θ) (fun pool event => ∀ _ : θ, ActsAsRelied anything wait pool event) pool events :=
  (every_true pool events).mono fun _ _ _ _ _ _ => ⟨fun _ => trivial, .refl _⟩

lemma run_leaves (app : ServerState X) (requests : θ → ServerRequest) (clock : ℤ)
    (events : List (Event θ ℤ)) :
    AllStand (fun _ => anything) (fun t => Leaves app (requests t)) (fun _ _ _ => True)
      (run (service θ) (arrived app requests clock) events) := by
  have hstart : AllStand (fun _ => anything) (fun t => Leaves app (requests t)) (fun _ _ _ => True)
      (arrived app requests clock) := fun t => ⟨fun _ => True, trivial,
    outline_of_within (within_serve app (requests t)) (fun _ _ _ _ => trivial) (fun _ _ h w _ => h w)
      fun _ _ _ _ _ => trivial⟩
  exact run_allStand (compatible_leaves app requests) hstart (every_wait _ events)

/-- **A handler in focus**, where others write nothing but this. -/
lemma run_counted {window : ℤ → Prop} {written : ListName → ℕ → Bool → Prop} {t : θ}
    {Q : ServerReply → ServerWorld → Prop} (before : List (Event θ ℤ)) {after : List (Event θ ℤ)}
    (hself : Stands (Counted window written) (Leaves app (requests t)) Q
      (run (service θ) (arrived app requests clock) before).shared
      ((run (service θ) (arrived app requests clock) before).prog t))
    (hwritten : ∀ u, .thread u ∈ after → ∀ l i marked, Writing app (requests u) l i marked →
      written l i marked)
    (hclock : ClockIn window (run (service θ) (arrived app requests clock) before) after) :
    Stands (Counted window written) (Leaves app (requests t)) Q
      (run (service θ) (arrived app requests clock) (before ++ after)).shared
      ((run (service θ) (arrived app requests clock) (before ++ after)).prog t) := by
  rw [run_append]
  refine run_focused (compatible_leaves app requests) (run_leaves app requests clock before)
    (every_wait _ after) hself (fun u _ hmem w w' h => h.counted (hwritten u hmem)) ?_
  exact hclock.2.mono fun pool _ hwindow n hn => ⟨fun _ => hwindow n hn, .refl _⟩

/-- The entries that stand, in any run. -/
lemma run_standing (app : ServerState X) (requests : θ → ServerRequest) (clock : ℤ)
    (before after : List (Event θ ℤ)) :
    ∃ shown, Shows (run (service θ) (arrived app requests clock) before).shared.stores.status shown ∧
      Marked (WrittenIn app requests (before ++ after))
        (StoodIn app requests (before ++ after) (run (service θ) (arrived app requests clock) before))
        shown := by
  have hmarks : Standing (fun _ => True) (WrittenIn app requests (before ++ after)) (fun _ _ _ => False)
      (run (service θ) (arrived app requests clock) before).shared := by
    have hstable : Stable (Counted (fun _ => True) (WrittenIn app requests (before ++ after)))
        (Standing (fun _ => True) (WrittenIn app requests (before ++ after)) fun _ _ _ => False) :=
      stable_standing fun _ _ _ hstood => hstood.elim
    have hstart : AllStand (fun _ => anything) (fun t => Leaves app (requests t)) (fun _ _ _ => True)
        (arrived app requests clock) := run_leaves app requests clock []
    refine run_invariant (compatible_leaves app requests) hstart (every_wait _ before)
      (fun t hmem w w' h => hstable w w' (h.counted fun l i marked hwrites => ?_)) (fun _ _ h => h)
      ⟨trivial, _, shows_new app.externalUrl, fun _ _ _ hmark => ?_, fun _ _ _ _ hstood => hstood.elim⟩
    · exact ⟨t, List.mem_append_left after hmem, hwrites⟩
    · cases hmark
  obtain ⟨-, shown, hshows, hmarked⟩ := hmarks
  refine ⟨shown, hshows, hmarked.written, ?_⟩
  rintro t i hi marked ⟨⟨u, reply, hentry, hanswer, hupdated⟩, hnone⟩
  have hstands : Stands (Counted (fun _ => True) (WrittenIn app requests (before ++ after)))
      (Leaves app (requests u)) (Effective (WrittenIn app requests (before ++ after)) (requests u))
      (arrived app requests clock).shared ((arrived app requests clock).prog u) :=
    ⟨_, ⟨_, shows_new app.externalUrl⟩, outline_effective app (requests u)⟩
  have hrun := run_counted [] hstands
    (fun v hmem l j value hwrites => ⟨v, List.mem_append_left after hmem, hwrites⟩) (clockIn_any _ before)
  obtain ⟨-, heffective⟩ := hrun.answered hanswer
  exact (reads_iff hshows hi).mp (heffective hupdated t i marked hentry hnone).2

/-- The handler of a list makes two calls at most. -/
lemma bounded_list (app : ServerState X) (form : ListForm) : Bounded 2 (serve app form.request) := by
  cases form with
  | credential p =>
    refine .call fun answer => ?_
    cases answer with
    | ok credential => exact .ret 1 _
    | error e => exact .ret 1 _
  | token p =>
    refine .call fun answer => ?_
    cases answer with
    | ok list => exact .call fun _ => .ret 0 _
    | error e => exact .ret 1 _
  | mdoc =>
    refine .call fun answer => ?_
    cases answer with
    | ok list => exact .call fun _ => .ret 0 _
    | error e => exact .ret 1 _

/-- **What a published list reads.** In any run of the server, whoever asks for a list is answered,
in any of its forms, and reads a value at every index of it: a mark that somebody with the admin
token has written, or none; and if an update of the entry was answered before, what it wrote, unless
somebody writes the opposite. -/
theorem list_published {D : Decompressors} {key : SigningKey} (h : Publishing X D app key)
    {before after : List (Event θ ℤ)} {t : θ} {form : ListForm} (hrequest : requests t = form.request)
    (hlate : .thread t ∉ before) (hturns : 2 ≤ turns t after) {trustAnchors : List Bytes} {now : ℤ}
    (hchain : form = .mdoc →
      ∃ leaf, validateChain X [app.mdocStatusSigner.der] trustAnchors now = .ok leaf ∧
        leaf.publicMembers = app.primaryKey.publicJwk.publicMembers)
    (hclock : ClockIn (Dated now) (run (service θ) (arrived app requests clock) before) after) :
    ∃ reply, ((run (service θ) (arrived app requests clock) (before ++ after)).prog t).answer =
        some reply ∧
      ∀ i < listCapacity, ∃ marked,
        form.read D app trustAnchors now reply i = some (form.value marked) ∧
        (marked = true → WrittenIn app requests (before ++ after) form.list i true) ∧
        ∀ stands, StoodIn app requests (before ++ after)
          (run (service θ) (arrived app requests clock) before) form.list i stands →
          marked = stands := by
  obtain ⟨shown, hshows, hmarked⟩ := run_standing app requests clock before after
  have hprog : (run (service θ) (arrived app requests clock) before).prog t = serve app form.request := by
    rw [run_prog_of_not_mem hlate, ← hrequest]
    rfl
  -- the handler starts now, with the entries that stand
  have hself : Stands (Counted (Dated now) (WrittenIn app requests (before ++ after)))
      (Leaves app (requests t))
      (fun reply _ => Answered D app trustAnchors now (WrittenIn app requests (before ++ after))
        (StoodIn app requests (before ++ after) (run (service θ) (arrived app requests clock) before))
        form reply)
      (run (service θ) (arrived app requests clock) before).shared
      ((run (service θ) (arrived app requests clock) before).prog t) := by
    rw [hprog]
    exact ⟨_, ⟨hclock.1, shown, hshows, hmarked⟩,
      outline_list h (fun _ _ _ hstood => hstood.2) form hchain (requests t)⟩
  have hrun := run_counted before hself
    (fun u hmem l i marked hwrites => ⟨u, List.mem_append_right before hmem, hwrites⟩) hclock
  have hbounded : Bounded 2 ((run (service θ) (arrived app requests clock) before).prog t) := by
    rw [hprog]
    exact bounded_list app form
  obtain ⟨reply, hreply⟩ := answered_of_turns hbounded hturns
  rw [← run_append] at hreply
  obtain ⟨shown', hmarked', hlisted⟩ := hrun.answered hreply
  refine ⟨reply, hreply, fun i hi => ⟨shown' form.list i, hlisted i hi, ?_, fun stands hstood => ?_⟩⟩
  · exact hmarked'.written form.list i hi
  · exact hmarked'.stood form.list i hi stands hstood

end Runs

/-! ### An mdoc that is revoked -/

section Sample

open Oid4vc.CborBytes (bigEndian)
open Oid4vc.Cose Oid4vc.Tables Oid4vc.Batch Oid4vc.Honest

/-- The list of the mdocs, with the one at index 7 revoked. -/
def markedMdocs : Bytes := 128 :: List.replicate 12499 0

def markedZlib : Bytes :=
  bigEndian 35 0x78daedc121010000000220a73bdd1726a0010000000000000000000000f81b9c3c0081

lemma publishedIat_representable : Representable (seconds 1767225600) := by decide

lemma publishedExp_representable : Representable (seconds 1767225600 + dayNanos) := by decide

def publishedList : StatusListCwt where
  uri := "https://issuer.example.com/status/mdoc"
  bits := 1
  lst := markedZlib
  iat := seconds 1767225600
  exp := seconds 1767225600 + dayNanos
  ttl := some 300
  x5chain := [signerDer]
  iat_representable := publishedIat_representable
  exp_representable := publishedExp_representable

def publishedInput : Bytes :=
  Codecs.sigStructure ⟨none, ⟨some (coseAlgorithm .es256), parameters publishedList⟩⟩
    (CborBytes.encode (.map (cwtClaims publishedList)))

def publishedTable : Table :=
  pki []
    [(publishedInput,
      bigEndian 32 0xf423516109a122851dff177b363702ceb09df4eb3c796219f22f9ee54c2dc22d ++
        bigEndian 32 0x489e52205d60116db2cfdabe6e9be995d02fbce23401cd8c22987bf0f3a9e33b)] [] []

/-- The crates of the table, with compressors that agree with `flate2` on such lists. -/
def publishedCrates : Crates :=
  { publishedTable.crates with
    gzip := exampleCrates.gzip
    zlib := compressLike markedMdocs markedZlib
    urlJoin := fun base path => base ++ path }

def publishedDecompressors : Decompressors :=
  { exampleDecompressors with inflate := decompressLike markedMdocs markedZlib }

lemma parses_published : publishedCrates.certificateFromDer signerDer = .ok signerCertificate := by
  have hfrom : publishedCrates.certificateFromDer = publishedTable.crates.certificateFromDer := rfl
  rw [hfrom]
  exact certificateFromDer_signer rfl

def publishedSigner : IssuerCertificate publishedCrates :=
  ⟨signerDer, signerCertificate, parses_published⟩

def publishedKey : SigningKey := publishedTable.key signerX signerY

def publishedServer : ServerState publishedCrates where
  metadata := visitApp.metadata
  primaryKey := publishedKey.toKeyPair publishedCrates
  leaf := publishedSigner
  mdocSigner := publishedSigner
  externalUrl := visitApp.externalUrl
  issuerId := visitApp.issuerId
  adminToken := visitApp.adminToken
  clientAttesters := []
  secondaryKey := publishedKey.toKeyPair publishedCrates
  mdocStatusSigner := publishedSigner
  crl := []

/-- The administrator revokes an mdoc, and the others ask for the list. -/
def publishedRequests : ℕ → ServerRequest
  | 0 => .issuer (.revoke (bearer publishedServer.adminToken) ⟨7, some "mso_mdoc"⟩)
  | _ + 1 => .mdocStatusList

lemma publishing_published : Publishing publishedCrates publishedDecompressors publishedServer
    publishedKey where
  base64Url :=
    ⟨base64Url_codecs.decode_encode, base64Url_codecs.alphabet, base64Url_codecs.nonempty⟩
  serdeJson := serdeJson_codecs.congr rfl rfl rfl rfl
  cborCodec := ⟨cborCodec_codecs.total, cborCodec_codecs.decode_encode⟩
  coseParameters := by
    refine ⟨fun s horiginal hheader hplain halg => ?_⟩
    obtain ⟨items, s', hto, hfrom, hsame⟩ :=
      coseParameters_codecs.roundTrip s horiginal hheader hplain halg
    exact ⟨items, s', hto, hfrom, hsame.header, hsame.unprotectedHeader, hsame.payload,
      hsame.signature, hsame.sigStructure⟩
  lossless := ⟨decompressLike_compressLike (by decide), decompressLike_compressLike (by decide)⟩
  correct := Table.key_correct_of_eq (t := publishedTable) (X := publishedCrates) rfl rfl rfl signerX
    signerY
  signs := Table.key_signs signerX signerY
  primaryKey := rfl

def publishedArrived : Pool ℕ ServerWorld ServerReply :=
  arrived publishedServer publishedRequests (seconds 1767225600)

/-- The revocation is served first, and it succeeds. -/
lemma revoked_published : ∃ reply,
    ((run (service ℕ) publishedArrived [.thread 0]).prog 0).answer = some reply ∧ Updated reply ∧
      (run (service ℕ) publishedArrived [.thread 0]).shared.stores.issuer.clock = seconds 1767225600 := by
  have hauthorized : rejectUnauthorizedAdmin publishedServer.toAppState
      (bearer publishedServer.adminToken) = none := rfl
  have hprog : publishedArrived.prog 0 =
      (onStores (.call (onStatus fun manager => manager.revokeMdoc 7) fun answer =>
        .ret (updateReply "revoked" 7 answer))).bind fun reply => .ret (.reply reply) := by
    have hserve : publishedArrived.prog 0 = (onStores (revokeCredential publishedServer.toAppState
      (bearer publishedServer.adminToken) ⟨7, some "mso_mdoc"⟩)).bind fun reply =>
        .ret (.reply reply) := rfl
    rw [hserve, revokeCredential, hauthorized]
    rfl
  have hshows := shows_new publishedServer.externalUrl
  have hset := TokenStatusListImpl.set_eq hshows.mdocCovered (show 7 < listCapacity by decide)
    (show (1 : Byte) ≤ BitVec.ofNat 8 (2 ^ 1 - 1) by decide)
  have hok : (publishedArrived.shared.stores.status.revokeMdoc 7).1 = .ok () := by
    have hstatus : publishedArrived.shared.stores.status = StatusManager.new publishedServer.externalUrl :=
      rfl
    rw [hstatus, StatusManager.revokeMdoc, hset]
  have hrun : run (service ℕ) publishedArrived [.thread 0] = publishedArrived.advance 0 := rfl
  rw [hrun]
  refine ⟨.reply (updateReply "revoked" 7 (.ok ())), ?_, rfl, ?_⟩
  · rw [advance_prog_self hprog]
    exact congrArg (fun answer => some (ServerReply.reply (updateReply "revoked" 7 answer))) hok
  · rw [advance_shared hprog]
    rfl

lemma chain_published : ∃ leaf,
    validateChain publishedCrates [publishedServer.mdocStatusSigner.der] [rootDer] (seconds 1767225600) =
        .ok leaf ∧
      leaf.publicMembers = publishedServer.primaryKey.publicJwk.publicMembers := by
  obtain ⟨leaf, hleaf, hmembers⟩ := p256Jwk_signer (t := publishedTable)
  have hjwk : p256Jwk publishedCrates = p256Jwk publishedTable.crates := rfl
  have hissued : verifyIssuedBy publishedCrates = verifyIssuedBy publishedTable.crates := rfl
  have hfrom : publishedCrates.certificateFromDer = publishedTable.crates.certificateFromDer := rfl
  have hvalid : checkValidity publishedCrates signerCertificate (seconds 1767225600) = .ok () :=
    checkValidity_eq_ok.mpr (by decide)
  have hanchor : checkValidity publishedCrates rootCertificate (seconds 1767225600) = .ok () :=
    checkValidity_eq_ok.mpr (by decide)
  refine ⟨leaf, ?_, hmembers⟩
  refine validateChain_single parses_published ?_ List.mem_cons_self ?_ ?_ hvalid hanchor
  · rw [hfrom]
    exact certificateFromDer_root rfl
  · rw [hissued]
    exact verifyIssuedBy_root rfl
  · rw [hjwk]
    exact hleaf

/-- The revocation of an mdoc shows in the list. -/
theorem published_revoked : ∃ reply,
    ((run (service ℕ) publishedArrived
      ([.thread 0] ++ [.thread 1, .thread 1])).prog 1).answer = some reply ∧
    ListForm.mdoc.read publishedDecompressors publishedServer [rootDer] (seconds 1767225600) reply 7 =
      some 1 := by
  obtain ⟨answer, hanswered, hupdated, hclock⟩ := revoked_published
  have hstill : ∀ n, (.outside n : Event ℕ ℤ) ∉ [.thread 1, .thread 1] := by
    intro n
    simp
  have hdated : Dated (seconds 1767225600)
      (run (service ℕ) publishedArrived [.thread 0]).shared.stores.issuer.clock := by
    rw [hclock, Dated]
    decide
  have hrequest : publishedRequests 1 = ListForm.mdoc.request := rfl
  have hlate : (.thread 1 : Event ℕ ℤ) ∉ [.thread 0] := by simp
  obtain ⟨reply, hanswer, hread⟩ := list_published publishing_published hrequest hlate
    (by decide) (fun _ => chain_published) (clockIn_still hdated hstill)
  refine ⟨reply, hanswer, ?_⟩
  obtain ⟨marked, hvalue, -, hstands⟩ := hread 7 (by decide)
  have hmarked : marked = true := by
    refine hstands true ⟨?_, ?_⟩
    · exact ⟨0, answer, rfl, hanswered, hupdated⟩
    · rintro ⟨u, -, hentry, -⟩
      cases u <;> cases hentry
  rw [hvalue, hmarked]
  rfl

end Sample

end Oid4vc.Published
