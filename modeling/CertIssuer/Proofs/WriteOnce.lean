import CertIssuer.Proofs.Interleaving
import CertIssuer.Simulation.Script

/-!
What interleaved reconciles never do to a stored request: they replace no terminal status, they
change no certificate and no failure time that is there, and they issue nothing that is not approved
at the moment it is recorded.

Each of these is a property of records over a copy, and the copy of an accepted record is the stored
request itself. The statements are about any run that stamps fewer than 2^64 versions, since a
version occurs again after that many.
-/

namespace CertIssuer.Fleet

variable {σ ω : Type} {a : Authority σ ω} {authority : ω} {moves : List (Move ω)}

/-- A reconcile of the request takes off and makes some of its operations. -/
def sampleMoves (r : CertificateRequest) (operations : Nat) : List (Move Script) :=
  [.change (.insertRequest r), .change (.insertIssuer .origin Sample.issuer),
    .change (.insertSecret Sample.secret), .start Sample.settings "default" "web"]
    ++ List.replicate operations (.proceed 0)

/-! ### Terminal statuses -/

/-- A request whose Ready condition is terminal stays as it is, whatever a reconcile of it does that
read it at any time before. -/
theorem terminal_request_kept
    (fresh : (initial authority : Fleet σ ω).stamps a moves < UInt64.size) (i : Nat) {key : ObjectKey}
    {o : CertificateRequest}
    (stored : ((initial authority).run a moves).world.store.requests.get? key = some o)
    (terminal : o.isTerminal = true) :
    (((initial authority).run a moves).step a (.proceed i)).world.store.requests.get? key
      = some o := by
  have sound : ((initial authority).run a moves).Sound := sound_run fresh
  rcases sound.proceed with hsame | ⟨settings, r, r', hget, record, hrequests⟩
  · rw [hsame]
    exact stored
  · rw [hrequests, Table.get?_insert]
    split
    · next hkey =>
      -- the record would be over the terminal request itself
      rw [hkey, hget] at stored
      cases stored
      exact absurd terminal (by simp [record.notTerminal])
    · exact stored

/-- The sample request after somebody denied it for good. -/
def refusedSample : CertificateRequest :=
  Sample.request [⟨Condition.ready, .no, none, some Reason.denied, none⟩] [] none

/-- A certificate is signed and about to be recorded when the request is denied for good. -/
def lateCertificate : List (Move Script) :=
  sampleMoves (Sample.request [Sample.condition Condition.approved] [] none) 8
    ++ [.change (.writeRequest refusedSample)]

theorem terminal_request_kept_over_late_certificate :
    (((initial Script.new).run Script.authority lateCertificate).step Script.authority
      (.proceed 0)).world.store.requests.get? Sample.key
        = some (refusedSample.atVersion "3") :=
  terminal_request_kept (by decide +kernel) 0 (by decide +kernel) (by decide +kernel)

/-! ### Fields that are written once -/

/-- A certificate that is there and a failure time that is there stay, whatever a reconcile does. -/
theorem certificate_and_failureTime_kept
    (fresh : (initial authority : Fleet σ ω).stamps a moves < UInt64.size) (i : Nat) {key : ObjectKey}
    {o : CertificateRequest}
    (stored : ((initial authority).run a moves).world.store.requests.get? key = some o) :
    ∃ o', (((initial authority).run a moves).step a (.proceed i)).world.store.requests.get? key
        = some o'
      ∧ (o.statusOrEmpty.certificate ≠ [] →
        o'.statusOrEmpty.certificate = o.statusOrEmpty.certificate)
      ∧ ∀ time, o.statusOrEmpty.failureTime = some time →
        o'.statusOrEmpty.failureTime = some time := by
  have sound : ((initial authority).run a moves).Sound := sound_run fresh
  rcases sound.proceed with hsame | ⟨settings, r, r', hget, record, hrequests⟩
  · rw [hsame]
    exact ⟨o, stored, fun _ => rfl, fun _ => id⟩
  · rw [hrequests, Table.get?_insert]
    split
    · next hkey =>
      rw [hkey, hget] at stored
      cases stored
      exact ⟨_, rfl, record.certificate_eq, fun _ => record.failureTime_eq⟩
    · exact ⟨o, stored, fun _ => rfl, fun _ => id⟩

/-- A denied request with a certificate, a failure time and no Ready condition. -/
def certifiedSample : CertificateRequest :=
  Sample.request [Sample.condition Condition.denied] [45] (some "2020-01-01T00:00:00Z")

theorem certificate_and_failureTime_kept_by_denial :
    ∃ o', (((initial Script.new).run Script.authority (sampleMoves certifiedSample 5)).step
        Script.authority (.proceed 0)).world.store.requests.get? Sample.key = some o'
      ∧ o'.statusOrEmpty.certificate = [45]
      ∧ o'.statusOrEmpty.failureTime = some "2020-01-01T00:00:00Z" := by
  have fresh : (initial Script.new).stamps Script.authority (sampleMoves certifiedSample 5)
      < UInt64.size := by decide +kernel
  have stored : ((initial Script.new).run Script.authority
      (sampleMoves certifiedSample 5)).world.store.requests.get? Sample.key
        = some (certifiedSample.atVersion "1") := by decide +kernel
  obtain ⟨o', hget, hcertificate, htime⟩ := certificate_and_failureTime_kept fresh 0 stored
  exact ⟨o', hget, hcertificate (by decide), htime _ (by decide)⟩

/-! ### What entitles to a certificate -/

/-- A request that a certificate may be issued for. -/
structure Entitled (r : CertificateRequest) : Prop where
  approved : Conditions.has r.conditions Condition.approved .yes = true
  notDenied : Conditions.has r.conditions Condition.denied .yes = false
  notTerminal : r.isTerminal = false
  noCertificate : r.statusOrEmpty.certificate = []
  notCA : r.spec.isCA = false
  group : r.spec.issuerRef.group = none ∨ r.spec.issuerRef.group = some ""
    ∨ r.spec.issuerRef.group = some issuerGroup

/-- Writing the status of `r'` over `o` stores a certificate that was not there, or the condition
that one was issued. -/
def Issues (o r' : CertificateRequest) : Prop :=
  r'.statusOrEmpty.certificate ≠ o.statusOrEmpty.certificate
    ∨ Conditions.hasWithReason r'.conditions Condition.ready .yes Reason.issued = true

/-- The write that a flight is about to make, with its settings. -/
def writing? (S : Fleet σ ω) (i : Nat) : Option (RequestReconcile.Settings × CertificateRequest) :=
  S.flights[i]?.bind fun f => f.writing?.map fun r => (f.settings, r)

theorem flight_of_writing {S : Fleet σ ω} {i : Nat} {settings : RequestReconcile.Settings}
    {r : CertificateRequest} (h : S.writing? i = some (settings, r)) :
    ∃ f ∈ S.flights, f.settings = settings ∧ f.writing? = some r := by
  obtain ⟨f, hf, hwriting⟩ := Option.bind_eq_some_iff.mp h
  obtain ⟨r', hr', heq⟩ := Option.map_eq_some_iff.mp hwriting
  cases heq
  exact ⟨f, List.mem_of_getElem? hf, rfl, hr'⟩

/-- An accepted write of a reconcile that issues a certificate is over a request that is entitled to
one at that moment, whoever changed it since it was read. -/
theorem issued_only_if_entitled
    (fresh : (initial authority : Fleet σ ω).stamps a moves < UInt64.size) {i : Nat}
    {settings : RequestReconcile.Settings} {r' : CertificateRequest}
    (writing : ((initial authority).run a moves).writing? i = some (settings, r'))
    (check : settings.checkApproval = true)
    (accepted : (((initial authority).run a moves).world.writeRequest r').1.isOk = true) :
    ∃ o, ((initial authority).run a moves).world.store.requests.get? r'.key = some o
      ∧ (Issues o r' → Entitled o) := by
  have sound : ((initial authority).run a moves).Sound := sound_run fresh
  obtain ⟨f, hf, rfl, hwriting⟩ := flight_of_writing writing
  rcases World.written_guarded ((initial authority).run a moves).world .writeRequest
    (((initial authority).run a moves).world.store.writeRequest r') with ⟨store, h, _⟩ | ⟨e, he⟩
  · obtain ⟨o, hget, record, _⟩ := sound.record_of_accepted hf hwriting h
    refine ⟨o, hget, fun issues => ?_⟩
    have admitted := record.admitted issues
    exact
      { approved := admitted.approved check
        notDenied := admitted.notDenied
        notTerminal := admitted.notTerminal
        noCertificate := admitted.noCertificate
        notCA := admitted.notCA
        group := RequestReconcile.group_of_isOurs admitted.ours }
  · rw [World.writeRequest, he] at accepted
    cases accepted

/-- An approved request. -/
def approvedSample : CertificateRequest := Sample.request [Sample.condition Condition.approved] [] none

/-- The approval is taken back and given again before the request is read, and the certificate is
about to be recorded. -/
def approvedAgain : List (Move Script) :=
  [.change (.insertRequest approvedSample),
      .change (.writeRequest (Sample.request [Sample.condition Condition.denied] [] none))]
    ++ sampleMoves approvedSample 8

theorem issued_only_if_entitled_on_approval :
    ∃ o, ((initial Script.new).run Script.authority approvedAgain).world.store.requests.get?
        Sample.key = some o ∧ Entitled o := by
  have fresh : (initial Script.new).stamps Script.authority approvedAgain < UInt64.size := by
    decide +kernel
  have writing : ((initial Script.new).run Script.authority approvedAgain).writing? 0
      = some (Sample.settings, RequestReconcile.issuedRecord (approvedSample.atVersion "3")
        (Text.encodeUtf8 Script.standardCertificate) 0) := by decide +kernel
  obtain ⟨o, hget, entitled⟩ := issued_only_if_entitled fresh writing rfl (by decide +kernel)
  exact ⟨o, hget, entitled (.inr (by decide +kernel))⟩

end CertIssuer.Fleet
