import CertIssuer.Proofs.Redelivery
import CertIssuer.Proofs.Utf8

/-!
Every response of the authority has one meaning, whatever its status code, its header fields and its
body. The request of the call is issued with the certificate that the response grants, it is left as
it was and tried again if the response reports that the certificate could not be stored, and it
fails for good after every other response.

The body is read as a whole before any of it counts. So a report that the certificate could not be
stored is only taken for one if the result next to it, which a failure has no use for, can be read.
-/

namespace CertIssuer

variable {σ ω : Type}

/-- A member that may be missing or null is read if it is, or holds a value that can be read. -/
theorem Json.isSome_optional {α : Type} {read : Json → Option α} {m : Option Json} :
    (optional read m).isSome = true
      ↔ m = none ∨ m = some .null ∨ ∃ j a, m = some j ∧ read j = some a := by
  cases m with
  | none => simp [optional]
  | some j => cases j <;> simp [optional, nullable?, Option.isSome_iff_exists]

/-! ### Envelopes -/

namespace Envelope

variable {e : Envelope} {r : SignResponse} {status : Nat} {rayId : String}

/-- A success that brings an answer. -/
structure Grants (e : Envelope) (r : SignResponse) : Prop where
  success : e.success = true
  result : e.result = some r

/-- A failure whose first error is that the certificate could not be stored. -/
structure ReportsUnstored (e : Envelope) : Prop where
  failure : e.success = false
  first : e.errors.head?.map ApiMessage.code = some ApiError.databaseWrite

theorem outcome_eq_ok : e.outcome status rayId = .ok r ↔ e.Grants r := by
  unfold outcome
  constructor
  · intro h
    split at h
    · next success =>
      split at h
      · next granted result =>
        cases h
        exact ⟨success, result⟩
      · cases h
    · split at h <;> cases h
  · intro h
    simp [h.success, h.result]

/-- No status code is the code of the one error that may go away, so only the errors of an envelope
can report it. -/
theorem retryable_outcome_iff (h : status ≤ 999) :
    (∃ fault, e.outcome status rayId = .error fault
        ∧ (ProvisionError.sign fault).classify = .retryable) ↔ e.ReportsUnstored := by
  constructor
  · rintro ⟨fault, houtcome, hclass⟩
    obtain ⟨error, rfl, hcode⟩ := RequestReconcile.code_of_retryable hclass
    unfold outcome at houtcome
    split at houtcome
    · split at houtcome <;> cases houtcome
    · next failure =>
      refine ⟨by simpa using failure, ?_⟩
      split at houtcome
      · next first rest herrors =>
        cases houtcome
        rw [herrors, ← hcode]
        rfl
      · cases houtcome
        have hcode : (status : Int) = 1100 := hcode
        omega
  · intro reports
    obtain ⟨first, hfirst, hcode⟩ := Option.map_eq_some_iff.mp reports.first
    obtain ⟨rest, herrors⟩ := List.head?_eq_some_iff.mp hfirst
    refine ⟨.api ⟨first.code, first.message, rayId⟩, ?_, if_pos hcode⟩
    simp [outcome, reports.failure, herrors]

/-- A body in JSON, with these declared members, that reports a failure whose first error is this
one. Nothing is said about the result. -/
structure ReportsFailure (body : Json) (members : String → Option Json) (first : ApiMessage) :
    Prop where
  record : body.record? ["success", "errors", "result"] = some members
  success : Json.withDefault false Json.bool? (members "success") = some false
  errors : ∃ rest, Json.withDefault [] (Json.list? messageOfJson?) (members "errors")
    = some (first :: rest)

/-- A reported failure is read if its result is missing, null or an answer. -/
theorem ofJson?_of_reportsFailure {body : Json} {members : String → Option Json}
    {first : ApiMessage} (reports : ReportsFailure body members first) :
    ∃ rest, ofJson? body = (Json.optional SignResponse.ofJson? (members "result")).map
      fun result => ⟨false, first :: rest, result⟩ := by
  obtain ⟨rest, herrors⟩ := reports.errors
  refine ⟨rest, ?_⟩
  simp only [ofJson?, reports.record, reports.success, herrors, Option.bind_eq_bind,
    Option.bind_some, Option.map_eq_bind]
  rfl

end Envelope

/-! ### Responses -/

namespace Client

variable {response : WireResponse} {r : SignResponse}

theorem interpret_eq_ok : interpret response = .ok r
    ↔ ∃ e, Envelope.parse (bodyText response) = some e ∧ e.Grants r := by
  unfold interpret
  cases Envelope.parse (bodyText response) with
  | none => simp
  | some e => simp [Envelope.outcome_eq_ok]

theorem retryable_interpret_iff (h : response.status ≤ 999) :
    (∃ fault, interpret response = .error fault
        ∧ (ProvisionError.sign fault).classify = .retryable)
      ↔ ∃ e, Envelope.parse (bodyText response) = some e ∧ e.ReportsUnstored := by
  unfold interpret
  cases Envelope.parse (bodyText response) with
  | none => simp [ProvisionError.classify, ProvisionError.signError?, SignError.apiError?]
  | some e => simp [Envelope.retryable_outcome_iff h]

/-- A reported failure is answered with its first error if its result can be read, and otherwise
taken for no answer. -/
theorem interpret_of_reportsFailure {body : Json} {members : String → Option Json}
    {first : ApiMessage} (json : Json.parse (bodyText response) = some body)
    (reports : Envelope.ReportsFailure body members first) :
    interpret response = .error
      (if (Json.optional SignResponse.ofJson? (members "result")).isSome then
        .api ⟨first.code, first.message, rayId response⟩
      else .invalidResponse ("status " ++ Http.statusText response.status
        ++ ": the body is no answer of the API")) := by
  obtain ⟨rest, hread⟩ := Envelope.ofJson?_of_reportsFailure reports
  rw [interpret, Envelope.parse, json, Option.bind_some, hread]
  cases Json.optional SignResponse.ofJson? (members "result") <;> rfl

end Client

/-! ### What follows a call -/

namespace RequestReconcile

variable {settings : Settings} {r : CertificateRequest} {l : List (Access σ)}
  {b : Except ReconcileError Unit} {call : SignCall σ}

/-- What a reconcile records after a call with this answer, and its result. -/
inductive Answered (r : CertificateRequest) : Except SignError SignResponse →
    Option CertificateRequest → Except ReconcileError Unit → Prop
  | granted (response : SignResponse) (now : Instant) :
      Answered r (.ok response)
        (some (issuedRecord r (Text.encodeUtf8 response.certificate) now)) (.ok ())
  | unstored (e : SignError) (hclass : (ProvisionError.sign e).classify = .retryable) :
      Answered r (.error e) none (.error (.remoteTransient (.sign e)))
  | refused (e : SignError) (now : Instant)
      (hclass : (ProvisionError.sign e).classify = .terminal) :
      Answered r (.error e)
        (some (unreadyRecord r Reason.failed ("Failed to sign certificate request: "
          ++ (ProvisionError.sign e).message) now))
        (.error (.remoteTerminal (.sign e)))

theorem answered_of_call {issuer : ResolvedIssuer} {signer : σ} (after : Call r issuer signer l b)
    (mem : call ∈ calls l) : ∃ record, Recording l record ∧ Answered r call.answer record b := by
  cases after with
  | malformed e now written h => cases mem
  | issued request response now written h =>
    obtain rfl : call = _ := List.mem_singleton.mp mem
    exact ⟨_, (Recording.write _ written).cons rfl, .granted response now⟩
  | transient request e h hclass =>
    obtain rfl : call = _ := List.mem_singleton.mp mem
    exact ⟨none, .nothing (by simp [Access.isWrite]), .unstored e hclass⟩
  | rejected request e now written h hclass =>
    obtain rfl : call = _ := List.mem_singleton.mp mem
    exact ⟨_, (Recording.write _ written).cons rfl, .refused e now hclass⟩

/-- The answer to a call decides what is recorded and how the reconcile ends. -/
theorem answered_of_outcome (outcome : Outcome settings r l b) (mem : call ∈ calls l) :
    ∃ record, Recording l record ∧ Answered r call.answer record b := by
  cases outcome with
  | left _ _ | denied _ _ _ _ | homeless _ | unknownKind _ _ _ _ => cases mem
  | signing kind ns _ _ _ signing =>
    cases signing with
    | unresolved _ _ _ _ _ | keyless _ _ _ _ _ _ _ _ | signerless _ _ _ _ _ _ _ => cases mem
    | opened answer issuer secret serviceKey signer rest _ _ _ after =>
      obtain ⟨record, recording, answered⟩ := answered_of_call after mem
      exact ⟨record, ((recording.cons rfl).cons rfl).cons rfl, answered⟩

theorem Answered.metadata_eq {answer : Except SignError SignResponse} {r' : CertificateRequest}
    (h : Answered r answer (some r') b) : r'.metadata = r.metadata := by
  cases h <;> rfl

end RequestReconcile

/-- How a reconcile ends once its call was answered. -/
inductive CallEnd where
  /-- It succeeds, and its request is issued with this certificate. -/
  | certified (certificate : Bytes)
  /-- It fails for now, and leaves everything as it was. -/
  | postponed
  /-- It fails for good, and so has its request. -/
  | refused

namespace CallEnd

/-- The end after a call with this answer. -/
def ofAnswer : Except SignError SignResponse → CallEnd
  | .ok response => .certified (Text.encodeUtf8 response.certificate)
  | .error e =>
    match (ProvisionError.sign e).classify with
    | .retryable => .postponed
    | .terminal => .refused

variable {answer : Except SignError SignResponse} {certificate : Bytes}

theorem certified_eq_ofAnswer : certified certificate = ofAnswer answer
    ↔ ∃ response, answer = .ok response ∧ certificate = Text.encodeUtf8 response.certificate := by
  cases answer with
  | ok response => simp [ofAnswer]
  | error e => cases hclass : (ProvisionError.sign e).classify <;> simp [ofAnswer, hclass]

theorem postponed_eq_ofAnswer : postponed = ofAnswer answer
    ↔ ∃ e, answer = .error e ∧ (ProvisionError.sign e).classify = .retryable := by
  cases answer with
  | ok response => simp [ofAnswer]
  | error e => cases hclass : (ProvisionError.sign e).classify <;> simp [ofAnswer, hclass]

theorem refused_eq_ofAnswer : refused = ofAnswer answer
    ↔ (∀ response, answer ≠ .ok response)
      ∧ ¬ ∃ e, answer = .error e ∧ (ProvisionError.sign e).classify = .retryable := by
  cases answer with
  | ok response => simp [ofAnswer]
  | error e => cases hclass : (ProvisionError.sign e).classify <;> simp [ofAnswer, hclass]

/-- A reconcile of the request at a key, run in a world, came to this end. -/
def Reached (before : World ω) (key : ObjectKey) (ended : Except ReconcileError Unit × World ω) :
    CallEnd → Prop
  | .certified certificate => ended.1 = .ok ()
    ∧ ∃ o, ended.2.store.requests.get? key = some o
      ∧ Conditions.hasWithReason o.conditions Condition.ready .yes Reason.issued = true
      ∧ o.statusOrEmpty.certificate = certificate
  | .postponed => (∃ e, ended.1 = .error e ∧ e.isRetryable = true)
    ∧ ended.2.store = before.store
  | .refused => (∃ e, ended.1 = .error e ∧ e.isRetryable = false)
    ∧ ∃ o, ended.2.store.requests.get? key = some o ∧ o.isFailed = true

/-- The ends exclude each other. -/
theorem Reached.unique {before : World ω} {key : ObjectKey}
    {ended : Except ReconcileError Unit × World ω} {x y : CallEnd} (hx : x.Reached before key ended)
    (hy : y.Reached before key ended) : x = y := by
  obtain ⟨result, after⟩ := ended
  cases x with
  | certified certificate =>
    obtain ⟨rfl, o, stored, _, rfl⟩ := hx
    cases y with
    | certified certificate' =>
      obtain ⟨_, o', stored', _, rfl⟩ := hy
      obtain rfl : o = o' := Option.some.inj (stored.symm.trans stored')
      rfl
    | postponed | refused =>
      obtain ⟨⟨_, he, _⟩, _⟩ := hy
      cases he
  | postponed =>
    obtain ⟨⟨e, rfl, retryable⟩, _⟩ := hx
    cases y with
    | certified _ => cases hy.1
    | postponed => rfl
    | refused =>
      obtain ⟨⟨_, he, terminal⟩, _⟩ := hy
      cases he
      cases retryable.symm.trans terminal
  | refused =>
    obtain ⟨⟨e, rfl, terminal⟩, _⟩ := hx
    cases y with
    | certified _ => cases hy.1
    | postponed =>
      obtain ⟨⟨_, he, retryable⟩, _⟩ := hy
      cases he
      cases retryable.symm.trans terminal
    | refused => rfl

end CallEnd

namespace World

variable {a : Authority σ ω} {w : World ω} {key : ObjectKey}
  {settings : RequestReconcile.Settings} {call : SignCall σ}

/-- Where status writes are accepted, what the answer to a call has recorded is stored. -/
theorem answered_of_run (keyed : w.store.Keyed) (accepting : w.Accepting)
    (mem : call ∈ w.callsOf a (RequestReconcile.reconcile settings key.ns key.name)) :
    let ended := w.run a (RequestReconcile.reconcile settings key.ns key.name)
    ∃ r record, RequestReconcile.Answered r call.answer record ended.1
      ∧ (record = none → ended.2.store = w.store)
      ∧ ∀ r', record = some r' → ended.2.store.requests.get? key
        = some ({ r with status := r'.status }.atVersion w.store.stamp) := by
  intro ended
  cases read : w.readRequest key with
  | error e =>
    rw [(w.unread_of_run a settings read).1] at mem
    cases mem
  | ok r =>
    obtain ⟨l, hl, outcome, answers⟩ := w.outcome_of_run a settings read
    rw [callsOf, hl, calls_readRequest] at mem
    obtain ⟨record, recording, answered⟩ := RequestReconcile.answered_of_outcome outcome mem
    have hmeta : ∀ r', record = some r' → r'.metadata = r.metadata := by
      rintro r' rfl
      exact answered.metadata_eq
    refine ⟨r, record, answered, ?_⟩
    rcases recorded_of_answers keyed read recording answers hmeta
      with ⟨hsame, refused⟩ | ⟨r', rfl, hstore⟩
    · refine ⟨fun _ => hsame, fun r' hrecord => ?_⟩
      rw [refused accepting] at hrecord
      cases hrecord
    · refine ⟨fun h => (Option.some_ne_none _ h).elim, fun _ hrecord => ?_⟩
      cases hrecord
      rw [show ended.2.store = _ from hstore]
      exact w.store.get?_withStatus r'.status (keyed key r (stored_of_readRequest read))

/-- Where status writes are accepted, the answer to a call decides the end of a reconcile. -/
theorem reached_of_call (keyed : w.store.Keyed) (accepting : w.Accepting)
    (mem : call ∈ w.callsOf a (RequestReconcile.reconcile settings key.ns key.name)) :
    (CallEnd.ofAnswer call.answer).Reached w key
      (w.run a (RequestReconcile.reconcile settings key.ns key.name)) := by
  obtain ⟨r, record, answered, unrecorded, recorded⟩ := answered_of_run keyed accepting mem
  generalize w.run a (RequestReconcile.reconcile settings key.ns key.name) = ended at *
  generalize call.answer = answer at answered
  obtain ⟨result, after⟩ := ended
  cases answered with
  | granted response now =>
    exact ⟨rfl, _, recorded _ rfl, Conditions.hasWithReason_set, rfl⟩
  | unstored e hclass =>
    rw [CallEnd.ofAnswer, hclass]
    exact ⟨⟨_, rfl, rfl⟩, unrecorded rfl⟩
  | refused e now hclass =>
    rw [CallEnd.ofAnswer, hclass]
    exact ⟨⟨_, rfl, rfl⟩, _, recorded _ rfl, Conditions.hasWithReason_set⟩

theorem reached_iff_of_call (keyed : w.store.Keyed) (accepting : w.Accepting)
    (mem : call ∈ w.callsOf a (RequestReconcile.reconcile settings key.ns key.name))
    (x : CallEnd) : x.Reached w key
        (w.run a (RequestReconcile.reconcile settings key.ns key.name))
      ↔ x = .ofAnswer call.answer := by
  have hreached := reached_of_call keyed accepting mem
  constructor
  · exact fun h => h.unique hreached
  · rintro rfl
    exact hreached

/-! ### Calls of an endpoint -/

/-- The one call of a reconcile goes to a signer that was opened just before. -/
theorem answer_of_mem_callsOf
    (mem : call ∈ w.callsOf a (RequestReconcile.reconcile settings key.ns key.name)) :
    ∃ serviceKey, (a.openSigner serviceKey w.authority).1 = .ok call.signer
      ∧ call.answer
        = (a.sign call.signer call.request (a.openSigner serviceKey w.authority).2).1.1 := by
  obtain ⟨r, read, eligible, supply, hsigner, payload⟩ := supply_of_mem_callsOf mem
  have mem' := mem_callsOf_of_supply supply read eligible payload
  have single := w.length_callsOf_le_one a settings key.ns key.name
  -- a reconcile makes no second call
  obtain ⟨only, honly⟩ := List.length_eq_one_iff.mp
    (Nat.le_antisymm single (List.length_pos_of_mem mem))
  rw [honly] at mem mem'
  obtain rfl := List.mem_singleton.mp mem
  have hcall := List.mem_singleton.mp mem'
  rw [← hcall]
  exact ⟨supply.serviceKey, supply.opened, rfl⟩

/-- Where signers are clients of an endpoint, a call is answered with the next response. -/
theorem answer_of_endpoint {w : World Script} {call : SignCall ScriptSigner} {url : String}
    {e : Endpoint} (endpoint : w.authority.endpoint = some (url, e))
    (mem : call ∈ w.callsOf Script.authority
      (RequestReconcile.reconcile settings key.ns key.name)) :
    ∃ c, call.signer = .client c ∧ call.answer = (c.exchange call.request e.response).1 := by
  obtain ⟨serviceKey, opened, hanswer⟩ := answer_of_mem_callsOf mem
  simp only [Script.authority, Script.openSigner, endpoint] at opened hanswer
  split at opened
  · cases opened
  · split at opened
    · next c _ =>
      have hsigner : call.signer = .client c := (Except.ok.inj opened).symm
      rw [hsigner] at hanswer
      exact ⟨c, hsigner, by simpa [Script.sign, endpoint, Endpoint.call] using hanswer⟩
    · cases opened

variable {w : World Script} {call : SignCall ScriptSigner} {url : String} {e : Endpoint}
  {response : WireResponse} {c : Client}

/-- A call that is sent, and whose response arrives, is answered with what the response says. -/
theorem answer_of_response (endpoint : w.authority.endpoint = some (url, e))
    (received : e.response = some response)
    (mem : call ∈ w.callsOf Script.authority
      (RequestReconcile.reconcile settings key.ns key.name))
    (sent : ∃ c wire, call.signer = .client c ∧ c.request call.request = .ok wire) :
    call.answer = Client.interpret response := by
  obtain ⟨c, hsigner, hanswer⟩ := answer_of_endpoint endpoint mem
  obtain ⟨c', wire, hsigner', hwire⟩ := sent
  obtain rfl : c' = c := ScriptSigner.client.inj (hsigner'.symm.trans hsigner)
  simp [hanswer, Client.exchange, hwire, received]

/-! ### A sample endpoint -/

/-- The sample world with all that it takes to sign the request, whose authority is an endpoint with
this response. -/
def responding (response : WireResponse) : World Script :=
  { sample signable with
    authority := { Script.new with
      endpoint := some ("https://api.test/v4", Endpoint.new [some response]) } }

/-- What is sent there for the sample request. -/
def sampleCall (response : WireResponse) : SignCall ScriptSigner :=
  ⟨.client ⟨"https://api.test/v4", "v1"⟩,
    ⟨[], 7, "origin-rsa", Text.decodeLossy (Sample.request [] [] none).spec.request⟩,
    Client.interpret response⟩

theorem sampleCall_mem (response : WireResponse) : sampleCall response ∈
    (responding response).callsOf Script.authority
      (RequestReconcile.reconcile Sample.settings Sample.key.ns Sample.key.name) := by
  let r := (Sample.request [Sample.condition Condition.approved] [] none).atVersion "1"
  obtain ⟨hrequest, hissuer, hsecret⟩ :
      (MemoryStore.afterChanges signable).requests.get? Sample.key = some r
      ∧ (MemoryStore.afterChanges signable).issuers.get? (.origin ⟨"default", "prod"⟩)
        = some (Sample.issuer.atVersion "2")
      ∧ (MemoryStore.afterChanges signable).secrets.get? ⟨"default", "service-key"⟩
        = some Sample.secret := by
    decide +kernel
  have signer : Client.new "https://api.test/v4" [118, 49] = .ok ⟨"https://api.test/v4", "v1"⟩ := by
    rw [Client.new, Text.decodeUtf8_eq_ok.mpr (show _ = Text.encodeUtf8 "v1" by decide +kernel)]
    rfl
  let supply : Supply Script.authority Sample.settings (responding response) r :=
    { ns := "default"
      issuerKey := .origin ⟨"default", "prod"⟩
      keyNs := "default"
      issuer := Sample.issuer.atVersion "2"
      secret := Sample.secret
      serviceKey := [118, 49]
      signer := .client ⟨"https://api.test/v4", "v1"⟩
      home := rfl
      named := .inl ⟨rfl, rfl, rfl⟩
      found := readIssuer_of_stored hissuer rfl
      ready := by decide
      kept := readSecret_of_stored hsecret rfl
      selected := rfl
      opened := by
        simp [Script.authority, Script.openSigner, responding, Script.new, signer] }
  have eligible : RequestReconcile.Eligible Sample.settings r :=
    ⟨.inl rfl, by decide, by decide, by decide, by decide, .inr (by decide), rfl, rfl⟩
  have payload : RequestReconcile.Payload r.spec supply.issuer.spec.requestType
      (sampleCall response).request := RequestReconcile.signRequest_eq_ok.mp rfl
  exact mem_callsOf_of_supply supply (readRequest_of_stored hrequest rfl) eligible payload

/-- A failure in JSON: the certificate could not be stored. It has this result. -/
def unstoredReport (result : Json) : Json :=
  .obj [("success", .bool false),
    ("errors", .arr [.obj [("code", .int 1100), ("message", .str "")]]), ("result", result)]

/-- The response of such a failure, with this text for its result. -/
def unstoredResponse (result : String) : WireResponse :=
  ⟨200, [], Text.encodeUtf8 ("\x7b\"success\":false,"
    ++ "\"errors\":[\x7b\"code\":1100,\"message\":\"\"\x7d],\"result\":" ++ result ++ "\x7d")⟩

theorem reportsFailure_unstoredReport (result : Json) : ∃ members,
    Envelope.ReportsFailure (unstoredReport result) members ⟨1100, ""⟩
      ∧ members "result" = some result := ⟨_, ⟨rfl, rfl, _, rfl⟩, rfl⟩

/-! ### The end after a response -/

/-- Suppose the call of a reconcile is sent, its response arrives, and status writes are accepted. The
request is issued with a certificate exactly if the body grants that certificate. It is left as it
was, and may be tried again, exactly if the body reports a failure whose first error is that the
certificate could not be stored. It fails for good in every other case. What the body says is all
that counts: no header field matters, no later error, and no status code but one without a body. -/
theorem response_decides_end {changes : List Change} (reached : w.store = .afterChanges changes)
    (accepting : w.Accepting) (endpoint : w.authority.endpoint = some (url, e))
    (received : e.response = some response) (status : response.status ≤ 999)
    (mem : call ∈ w.callsOf Script.authority
      (RequestReconcile.reconcile settings key.ns key.name))
    (sent : ∃ c wire, call.signer = .client c ∧ c.request call.request = .ok wire) :
    let envelope := Envelope.parse (Client.bodyText response)
    let ended := w.run Script.authority (RequestReconcile.reconcile settings key.ns key.name)
    (∀ certificate, (CallEnd.certified certificate).Reached w key ended
        ↔ ∃ said r, envelope = some said ∧ said.Grants r
          ∧ certificate = Text.encodeUtf8 r.certificate)
      ∧ (CallEnd.postponed.Reached w key ended
        ↔ ∃ said, envelope = some said ∧ said.ReportsUnstored)
      ∧ (CallEnd.refused.Reached w key ended
        ↔ ∀ said, envelope = some said → ¬ said.ReportsUnstored ∧ ∀ r, ¬ said.Grants r) := by
  intro envelope ended
  have keyed := MemoryStore.keyed_of_reached reached
  have hanswer := answer_of_response endpoint received mem sent
  have hends := reached_iff_of_call keyed accepting mem
  rw [hanswer] at hends
  refine ⟨fun certificate => ?_, ?_, ?_⟩
  · rw [hends, CallEnd.certified_eq_ofAnswer]
    constructor
    · rintro ⟨r, hr, hcertificate⟩
      obtain ⟨said, hsaid, grants⟩ := Client.interpret_eq_ok.mp hr
      exact ⟨said, r, hsaid, grants, hcertificate⟩
    · rintro ⟨said, r, hsaid, grants, hcertificate⟩
      exact ⟨r, Client.interpret_eq_ok.mpr ⟨said, hsaid, grants⟩, hcertificate⟩
  · rw [hends, CallEnd.postponed_eq_ofAnswer, Client.retryable_interpret_iff status]
  · rw [hends, CallEnd.refused_eq_ofAnswer, Client.retryable_interpret_iff status]
    constructor
    · rintro ⟨ungranted, stored⟩ said hsaid
      exact ⟨fun reports => stored ⟨said, hsaid, reports⟩,
        fun r grants => ungranted r (Client.interpret_eq_ok.mpr ⟨said, hsaid, grants⟩)⟩
    · intro neither
      refine ⟨fun r hr => ?_, fun ⟨said, hsaid, reports⟩ => (neither said hsaid).1 reports⟩
      obtain ⟨said, hsaid, grants⟩ := Client.interpret_eq_ok.mp hr
      exact (neither said hsaid).2 r grants

/-- A status code of success does not keep a failure from being tried again. -/
theorem response_decides_end_unstored :
    CallEnd.postponed.Reached (responding (unstoredResponse "null")) Sample.key
      ((responding (unstoredResponse "null")).run Script.authority
        (RequestReconcile.reconcile Sample.settings "default" "web")) := by
  have reached : (responding (unstoredResponse "null")).store = .afterChanges signable := rfl
  have sent : ∃ c wire, (sampleCall (unstoredResponse "null")).signer = .client c
      ∧ c.request (sampleCall (unstoredResponse "null")).request = .ok wire := ⟨_, _, rfl, rfl⟩
  have envelope : Envelope.parse (Client.bodyText (unstoredResponse "null"))
      = some ⟨false, [⟨1100, ""⟩], none⟩ := by decide +kernel
  have decides := response_decides_end reached ⟨rfl, rfl⟩ rfl
    (e := Endpoint.new [some (unstoredResponse "null")]) rfl (by decide)
    (sampleCall_mem (unstoredResponse "null")) sent
  exact decides.2.1.mpr ⟨_, envelope, rfl, rfl⟩

/-- Suppose the call of a reconcile is sent, status writes are accepted, and the response is a failure
in JSON whose first error is that the certificate could not be stored. If the result next to it is
missing, null or an answer, that error is what the call ends in, and the request is left as it was
and may be tried again. Over any other result the response is taken for no answer at all, and the
request fails for good. -/
theorem unstored_report_end {changes : List Change} (reached : w.store = .afterChanges changes)
    (accepting : w.Accepting) (endpoint : w.authority.endpoint = some (url, e))
    (received : e.response = some response)
    (mem : call ∈ w.callsOf Script.authority
      (RequestReconcile.reconcile settings key.ns key.name))
    (sent : ∃ c wire, call.signer = .client c ∧ c.request call.request = .ok wire)
    {body : Json} {members : String → Option Json} {first : ApiMessage}
    (json : Json.parse (Client.bodyText response) = some body)
    (reports : Envelope.ReportsFailure body members first)
    (code : first.code = ApiError.databaseWrite) :
    let ended := w.run Script.authority (RequestReconcile.reconcile settings key.ns key.name)
    let readable := members "result" = none ∨ members "result" = some .null
      ∨ ∃ j r, members "result" = some j ∧ SignResponse.ofJson? j = some r
    (readable → call.answer
          = .error (.api ⟨ApiError.databaseWrite, first.message, Client.rayId response⟩)
        ∧ CallEnd.postponed.Reached w key ended)
      ∧ (¬ readable → (∃ text, call.answer = .error (.invalidResponse text))
        ∧ CallEnd.refused.Reached w key ended) := by
  intro ended readable
  have hends := reached_of_call (MemoryStore.keyed_of_reached reached) accepting mem
  have hanswer := answer_of_response endpoint received mem sent
  rw [Client.interpret_of_reportsFailure json reports, code] at hanswer
  have hreadable : (Json.optional SignResponse.ofJson? (members "result")).isSome = true
      ↔ readable := Json.isSome_optional
  constructor
  · intro h
    rw [if_pos (hreadable.mpr h)] at hanswer
    rw [hanswer] at hends ⊢
    exact ⟨rfl, hends⟩
  · intro h
    rw [if_neg (mt hreadable.mp h)] at hanswer
    rw [hanswer] at hends
    exact ⟨⟨_, hanswer⟩, hends⟩

/-- A result that is an answer does not keep the report from being heeded. -/
theorem unstored_report_end_beside_answer :
    let response := unstoredResponse "\x7b\"certificate\":\"\"\x7d"
    (sampleCall response).answer = .error (.api ⟨1100, "", ""⟩)
      ∧ CallEnd.postponed.Reached (responding response) Sample.key ((responding response).run
        Script.authority (RequestReconcile.reconcile Sample.settings "default" "web")) := by
  intro response
  have reached : (responding response).store = .afterChanges signable := rfl
  have accepting : (responding response).Accepting := ⟨rfl, rfl⟩
  have endpoint : (responding response).authority.endpoint
      = some ("https://api.test/v4", Endpoint.new [some response]) := rfl
  have received : (Endpoint.new [some response]).response = some response := rfl
  have sent : ∃ c wire, (sampleCall response).signer = .client c
      ∧ c.request (sampleCall response).request = .ok wire := ⟨_, _, rfl, rfl⟩
  have json : Json.parse (Client.bodyText response)
      = some (unstoredReport (.obj [("certificate", .str "")])) := by
    rw [show Client.bodyText response = _ from Text.decodeLossy_encodeUtf8 _]
    simp only [Json.parse, String.reduceAppend, String.reduceToList]
    rfl
  obtain ⟨members, reports, hresult⟩ :=
    reportsFailure_unstoredReport (.obj [("certificate", .str "")])
  have heeded := (unstored_report_end reached accepting endpoint received
    (sampleCall_mem response) sent json reports rfl).1
  exact heeded (.inr (.inr ⟨_, .ofCertificate "", hresult, rfl⟩))

/-- Over an empty object for a result the report is not heeded, and the request fails for good. -/
theorem unstored_report_lost_over_empty_result :
    let response := unstoredResponse "\x7b\x7d"
    Json.parse (Client.bodyText response) = some (unstoredReport (.obj []))
      ∧ (∃ text, (sampleCall response).answer = .error (.invalidResponse text))
      ∧ CallEnd.refused.Reached (responding response) Sample.key ((responding response).run
        Script.authority (RequestReconcile.reconcile Sample.settings "default" "web")) := by
  intro response
  have json : Json.parse (Client.bodyText response) = some (unstoredReport (.obj [])) := by
    rw [show Client.bodyText response = _ from Text.decodeLossy_encodeUtf8 _]
    simp only [Json.parse, String.reduceAppend, String.reduceToList]
    rfl
  obtain ⟨members, reports, hresult⟩ := reportsFailure_unstoredReport (.obj [])
  have hanswer := Client.interpret_of_reportsFailure json reports
  rw [hresult, if_neg (by decide)] at hanswer
  have reached : (responding response).store = .afterChanges signable := rfl
  have hend := reached_of_call (MemoryStore.keyed_of_reached reached) ⟨rfl, rfl⟩
    (sampleCall_mem response)
  rw [show (sampleCall response).answer = _ from hanswer] at hend
  exact ⟨json, ⟨_, hanswer⟩, hend⟩

end World
end CertIssuer
