import CertIssuer.Proofs.Endings

/-!
When the authority is called, and for what. A reconcile makes one signing call if its request is
eligible, the issuer it names is ready, the service key of the issuer opens a signer, and the request
can be read as a signing request with a lifetime; otherwise it makes none.

`Eligible`, `Supply` and `Payload` state the conditions on the request, on the world and on what is
sent. The main statement is that a call is made exactly when all three hold, and is that call.
-/

namespace CertIssuer

variable {σ ω : Type}

namespace RequestReconcile

variable {settings : Settings} {r : CertificateRequest}

/-! ### The conditions on the request -/

/-- A request that may be signed: nobody has settled it, and nothing about it forbids it. -/
structure Eligible (settings : Settings) (r : CertificateRequest) : Prop where
  group : r.spec.issuerRef.group = none ∨ r.spec.issuerRef.group = some ""
    ∨ r.spec.issuerRef.group = some issuerGroup
  notReady : ∀ c ∈ r.conditions, ¬ (c.type = Condition.ready ∧ c.status = .yes)
  notFailed : ∀ c ∈ r.conditions,
    ¬ (c.type = Condition.ready ∧ c.status = .no ∧ c.reason = some Reason.failed)
  notRefused : ∀ c ∈ r.conditions,
    ¬ (c.type = Condition.ready ∧ c.status = .no ∧ c.reason = some Reason.denied)
  notDenied : ∀ c ∈ r.conditions, ¬ (c.type = Condition.denied ∧ c.status = .yes)
  approved : settings.checkApproval = false
    ∨ ∃ c ∈ r.conditions, c.type = Condition.approved ∧ c.status = .yes
  noCertificate : r.statusOrEmpty.certificate = []
  notCA : r.spec.isCA = false

/-- The eligible requests are those that get as far as their issuer. -/
theorem eligible_iff_admitted : Eligible settings r ↔ Admitted settings r := by
  have notTerminal : r.isTerminal = false ↔
      (∀ c ∈ r.conditions, ¬ (c.type = Condition.ready ∧ c.status = .yes))
        ∧ (∀ c ∈ r.conditions,
          ¬ (c.type = Condition.ready ∧ c.status = .no ∧ c.reason = some Reason.failed))
        ∧ ∀ c ∈ r.conditions,
          ¬ (c.type = Condition.ready ∧ c.status = .no ∧ c.reason = some Reason.denied) := by
    rw [CertificateRequest.isTerminal, Bool.or_eq_false_iff, Bool.or_eq_false_iff,
      Conditions.has_eq_false_iff, Conditions.hasWithReason_eq_false_iff,
      Conditions.hasWithReason_eq_false_iff, and_assoc]
  constructor
  · intro h
    refine ⟨isOurs_iff.mpr h.group, notTerminal.mpr ⟨h.notReady, h.notFailed, h.notRefused⟩,
      Conditions.has_eq_false_iff.mpr h.notDenied, fun check => ?_, h.noCertificate, h.notCA⟩
    rcases h.approved with off | approved
    · rw [check] at off
      cases off
    · exact Conditions.has_iff.mpr approved
  · intro h
    obtain ⟨notReady, notFailed, notRefused⟩ := notTerminal.mp h.notTerminal
    refine ⟨isOurs_iff.mp h.ours, notReady, notFailed, notRefused,
      Conditions.has_eq_false_iff.mp h.notDenied, ?_,
      h.noCertificate, h.notCA⟩
    cases check : settings.checkApproval with
    | false => exact .inl rfl
    | true => exact .inr (Conditions.has_iff.mp (h.approved check))

/-! ### What is sent -/

/-- What the authority is asked to sign for a request: the DNS names of the extensions that the
signing request asks for, in their order, the period nearest to the lifetime asked for, the kind of
signature of the issuer, and the signing request itself. -/
structure Payload (spec : RequestSpec) (type : RequestType) (request : SignRequest) : Prop where
  hostnames : ∃ contents attributes rest, Pem.parse spec.request = .ok contents
    ∧ Csr.readRequest contents = some (attributes, rest)
    ∧ request.hostnames = ((attributes.filterMap id).headD []).flatMap Csr.Extension.dnsNames
  validity : (spec.duration = none ∧ request.validity = Period.standard)
    ∨ ∃ text span, spec.duration = some text ∧ Lifetime.parse text = .ok span
      ∧ request.validity = Period.closest (Period.days span) Period.allowed
  requestType : request.requestType = type.apiTag
  csr : request.csr = Text.decodeLossy spec.request

theorem dnsNames_eq_ok {request : Bytes} {names : List String} :
    Csr.dnsNames request = .ok names ↔ ∃ contents attributes rest,
      Pem.parse request = .ok contents ∧ Csr.readRequest contents = some (attributes, rest)
        ∧ names = ((attributes.filterMap id).headD []).flatMap Csr.Extension.dnsNames := by
  have hnames : ∀ attributes, Csr.dnsNamesOf attributes
      = ((attributes.filterMap id).headD []).flatMap Csr.Extension.dnsNames := by
    intro attributes
    unfold Csr.dnsNamesOf
    cases attributes.filterMap id <;> rfl
  unfold Csr.dnsNames
  cases Pem.parse request with
  | error fault => simp
  | ok contents =>
    cases hread : Csr.readRequest contents with
    | none => simp [hread]
    | some read =>
      obtain ⟨attributes, rest⟩ := read
      simp [hread, hnames, eq_comm]

theorem validity_eq_ok {duration : Option String} {days : Int64} :
    Provision.validity duration = .ok days ↔ (duration = none ∧ days = Period.standard)
      ∨ ∃ text span, duration = some text ∧ Lifetime.parse text = .ok span
        ∧ days = Period.closest (Period.days span) Period.allowed := by
  unfold Provision.validity
  cases duration with
  | none => simp [eq_comm]
  | some text =>
    cases hspan : Lifetime.parse text with
    | error fault => simp [hspan]
    | ok span => simp [hspan, Period.ofLifetime, eq_comm]

/-- A request is sent exactly as its payload says. -/
theorem signRequest_eq_ok {spec : RequestSpec} {type : RequestType} {request : SignRequest} :
    Provision.signRequest type spec = .ok request ↔ Payload spec type request := by
  unfold Provision.signRequest
  constructor
  · intro h
    split at h
    · cases h
    · next names hnames =>
      split at h
      · cases h
      · next days hdays =>
        cases h
        exact ⟨dnsNames_eq_ok.mp hnames, validity_eq_ok.mp hdays, rfl, rfl⟩
  · intro h
    rw [dnsNames_eq_ok.mpr h.hostnames]
    dsimp only
    rw [validity_eq_ok.mpr h.validity, ← h.requestType, ← h.csr]

end RequestReconcile

/-! ### The conditions on the world -/

namespace World

variable {a : Authority σ ω} {settings : RequestReconcile.Settings} {w w' : World ω}
  {r : CertificateRequest} {l : List (Access σ)} {b : Except ReconcileError Unit}

/-- What it takes to sign a request in a world: the issuer that the request names is ready, and the
service key that the issuer names opens a signer. An origin issuer and its service key are in the
namespace of the request, the service key of a cluster issuer is in the namespace set aside. -/
structure Supply (a : Authority σ ω) (settings : RequestReconcile.Settings) (w : World ω)
    (r : CertificateRequest) where
  ns : String
  issuerKey : IssuerKey
  keyNs : String
  issuer : Issuer
  secret : Secret
  serviceKey : Bytes
  signer : σ
  home : r.metadata.ns = some ns
  named : (r.spec.issuerRef.kind = some "OriginIssuer"
      ∧ issuerKey = .origin ⟨ns, r.spec.issuerRef.name⟩ ∧ keyNs = ns)
    ∨ (r.spec.issuerRef.kind = some "ClusterOriginIssuer"
      ∧ issuerKey = .cluster r.spec.issuerRef.name ∧ keyNs = settings.clusterNs)
  found : w.readIssuer issuerKey = .ok issuer
  ready : ∃ c ∈ issuer.conditions, c.type = Condition.ready ∧ c.status = .yes
  kept : w.readSecret ⟨keyNs, issuer.spec.serviceKeyRef.name⟩ = .ok secret
  selected : secret.value? issuer.spec.serviceKeyRef.key = some serviceKey
  opened : (a.openSigner serviceKey w.authority).1 = .ok signer

/-- The issuer that a supply is from is the one that a reconcile of the request resolves. -/
theorem Supply.resolved (supply : Supply a settings w r) :
    ∃ kind, RequestReconcile.verdictOnIssuer r = .sign kind supply.ns
      ∧ supply.issuerKey = .referred kind supply.ns r.spec.issuerRef.name
      ∧ supply.keyNs = kind.credentialNs supply.ns settings.clusterNs := by
  rcases supply.named with ⟨hkind, hkey, hns⟩ | ⟨hkind, hkey, hns⟩
  · exact ⟨.origin, RequestReconcile.verdictOnIssuer_eq_sign.mpr ⟨supply.home, hkind⟩, hkey, hns⟩
  · exact ⟨.cluster, RequestReconcile.verdictOnIssuer_eq_sign.mpr ⟨supply.home, hkind⟩, hkey, hns⟩

/-! ### A call is made exactly when all conditions hold -/

/-- A call is for an eligible request, by the signer that its supply opens, and sends its payload. -/
theorem supply_of_call {signer : σ} {request : SignRequest}
    {answer : Except SignError SignResponse} (outcome : RequestReconcile.Outcome settings r l b)
    (answers : w.unlogged.AnswersAll a l w') (mem : .sign signer request answer ∈ l) :
    RequestReconcile.Eligible settings r ∧ ∃ supply : Supply a settings w r, supply.signer = signer
      ∧ RequestReconcile.Payload r.spec supply.issuer.spec.requestType request := by
  cases outcome with
  | left _ _ | denied _ _ _ _ | homeless _ | unknownKind _ _ _ _ => simp at mem
  | signing kind ns _ _ hverdict signing =>
    have admitted := RequestReconcile.admitted_of_sign hverdict
    refine ⟨RequestReconcile.eligible_iff_admitted.mpr admitted, ?_⟩
    rw [RequestReconcile.verdict_of_admitted admitted] at hverdict
    obtain ⟨home, named⟩ := RequestReconcile.verdictOnIssuer_eq_sign.mp hverdict
    cases signing with
    | unresolved _ _ _ _ _ | keyless _ _ _ _ _ _ _ _ | signerless _ _ _ _ _ _ _ => simp at mem
    | opened issuerRead issuer secretRead serviceKey opened rest _ hissuer hkey call =>
      obtain ⟨i, rfl, ready, rfl⟩ := Resolve.ofAnswer_eq_ok.mp hissuer
      obtain ⟨secret, rfl, selected⟩ := Resolve.keyOfAnswer_eq_ok.mp hkey
      obtain ⟨_, ⟨found, rfl⟩, _, ⟨kept, rfl⟩, _, ⟨hopened, rfl⟩, _⟩ := answers
      have sent : opened = signer
          ∧ Provision.signRequest i.spec.requestType r.spec = .ok request := by
        cases call with
        | malformed _ _ _ _ => simp at mem
        | issued _ _ _ _ h | transient _ _ h _ | rejected _ _ _ _ h _ =>
          simp only [List.mem_cons, reduceCtorEq, Access.sign.injEq, List.not_mem_nil, or_false,
            false_or] at mem
          obtain ⟨rfl, rfl, _⟩ := mem
          exact ⟨rfl, h⟩
      obtain ⟨rfl, hsent⟩ := sent
      refine ⟨⟨ns, _, _, i, secret, serviceKey, opened, home, ?_, found,
        Conditions.has_iff.mp ready, kept, selected, hopened⟩, rfl,
        RequestReconcile.signRequest_eq_ok.mp hsent⟩
      cases kind with
      | origin => exact .inl ⟨named, rfl, rfl⟩
      | cluster => exact .inr ⟨named, rfl, rfl⟩

/-- An eligible request with its supply is sent to the signer, which answers as it does at that
moment. -/
theorem call_of_supply (supply : Supply a settings w r) {request : SignRequest}
    (outcome : RequestReconcile.Outcome settings r l b) (answers : w.unlogged.AnswersAll a l w')
    (eligible : RequestReconcile.Eligible settings r)
    (payload : RequestReconcile.Payload r.spec supply.issuer.spec.requestType request) :
    .sign supply.signer request
      (a.sign supply.signer request (a.openSigner supply.serviceKey w.authority).2).1.1 ∈ l := by
  obtain ⟨kind, hverdict, hissuerKey, hkeyNs⟩ := supply.resolved
  have admitted := RequestReconcile.eligible_iff_admitted.mp eligible
  rw [← RequestReconcile.verdict_of_admitted admitted] at hverdict
  have found := supply.found
  have kept := supply.kept
  have ready := Conditions.has_iff.mpr supply.ready
  rw [hissuerKey] at found
  rw [hkeyNs] at kept
  cases outcome with
  | left _ h | denied _ _ _ h | homeless h | unknownKind _ _ _ h =>
    rw [hverdict] at h
    cases h
  | signing _ _ _ _ h signing =>
    rw [hverdict] at h
    cases h
    cases signing with
    | unresolved issuerRead e now written hissuer =>
      obtain ⟨_, ⟨hread, _⟩, _⟩ := answers
      have hread : issuerRead = .ok supply.issuer := hread.symm.trans found
      rw [hread, Resolve.ofAnswer_eq_ok.mpr ⟨_, rfl, ready, rfl⟩] at hissuer
      cases hissuer
    | keyless issuerRead issuer secretRead e now written hissuer hkey =>
      obtain ⟨i, rfl, _, rfl⟩ := Resolve.ofAnswer_eq_ok.mp hissuer
      obtain ⟨_, ⟨hread, rfl⟩, _, ⟨hsecret, _⟩, _⟩ := answers
      obtain rfl : supply.issuer = i := Except.ok.inj (found.symm.trans hread)
      rw [IssuerKey.kind_referred] at hsecret
      have hsecret : secretRead = .ok supply.secret := hsecret.symm.trans kept
      rw [hsecret, Resolve.keyOfAnswer_eq_ok.mpr ⟨_, rfl, supply.selected⟩] at hkey
      cases hkey
    | signerless issuerRead issuer secretRead serviceKey chain hissuer hkey =>
      obtain ⟨i, rfl, _, rfl⟩ := Resolve.ofAnswer_eq_ok.mp hissuer
      obtain ⟨secret, rfl, selected⟩ := Resolve.keyOfAnswer_eq_ok.mp hkey
      obtain ⟨_, ⟨hread, rfl⟩, _, ⟨hsecret, rfl⟩, _, ⟨hopened, _⟩, _⟩ := answers
      obtain rfl : supply.issuer = i := Except.ok.inj (found.symm.trans hread)
      rw [IssuerKey.kind_referred] at hsecret
      obtain rfl : supply.secret = secret := Except.ok.inj (kept.symm.trans hsecret)
      obtain rfl : supply.serviceKey = serviceKey :=
        Option.some.inj (supply.selected.symm.trans selected)
      cases supply.opened.symm.trans hopened
    | opened issuerRead issuer secretRead serviceKey signer rest _ hissuer hkey call =>
      obtain ⟨i, rfl, _, rfl⟩ := Resolve.ofAnswer_eq_ok.mp hissuer
      obtain ⟨secret, rfl, selected⟩ := Resolve.keyOfAnswer_eq_ok.mp hkey
      obtain ⟨_, ⟨hread, rfl⟩, _, ⟨hsecret, rfl⟩, _, ⟨hopened, rfl⟩, hrest⟩ := answers
      obtain rfl : supply.issuer = i := Except.ok.inj (found.symm.trans hread)
      rw [IssuerKey.kind_referred] at hsecret
      obtain rfl : supply.secret = secret := Except.ok.inj (kept.symm.trans hsecret)
      obtain rfl : supply.serviceKey = serviceKey :=
        Option.some.inj (supply.selected.symm.trans selected)
      obtain rfl : supply.signer = signer := Except.ok.inj (supply.opened.symm.trans hopened)
      have sent := RequestReconcile.signRequest_eq_ok.mpr payload
      cases call with
      | malformed _ _ _ h =>
        rw [sent] at h
        cases h
      | issued _ _ _ _ h | transient _ _ h _ | rejected _ _ _ _ h _ =>
        rw [sent] at h
        cases h
        obtain ⟨_, ⟨hanswer, _⟩, _⟩ := hrest
        simp [← hanswer, unlogged]

/-- What a reconcile has signed is a request that was read. -/
theorem supply_of_mem_callsOf {ns name : String} {signer : σ} {request : SignRequest}
    {answer : Except SignError SignResponse} (mem : ⟨signer, request, answer⟩
      ∈ w.callsOf a (RequestReconcile.reconcile settings ns name)) :
    ∃ r, w.readRequest ⟨ns, name⟩ = .ok r ∧ RequestReconcile.Eligible settings r
      ∧ ∃ supply : Supply a settings w r, supply.signer = signer
        ∧ RequestReconcile.Payload r.spec supply.issuer.spec.requestType request := by
  have path := Plan.path_run (handler a) (RequestReconcile.reconcile settings ns name) w
  have answers := w.answersAll_run a (RequestReconcile.reconcile settings ns name)
  unfold callsOf at mem
  rcases RequestReconcile.path_reconcile path with ⟨r, rest, hl, outcome⟩ | ⟨e, hl, _⟩
  · rw [hl] at answers mem
    obtain ⟨_, ⟨hread, rfl⟩, hrest⟩ := answers
    have hread : w.readRequest ⟨ns, name⟩ = .ok r := hread
    rw [calls_readRequest] at mem
    exact ⟨r, hread, supply_of_call outcome hrest (mem_calls.mp mem)⟩
  · -- a request that cannot be read is not signed
    rw [hl] at mem
    cases mem

/-- Where its supply is there, an eligible request that can be read is sent to the signer. -/
theorem mem_callsOf_of_supply (supply : Supply a settings w r) {key : ObjectKey}
    {request : SignRequest} (read : w.readRequest key = .ok r)
    (eligible : RequestReconcile.Eligible settings r)
    (payload : RequestReconcile.Payload r.spec supply.issuer.spec.requestType request) :
    ⟨supply.signer, request,
        (a.sign supply.signer request (a.openSigner supply.serviceKey w.authority).2).1.1⟩
      ∈ w.callsOf a (RequestReconcile.reconcile settings key.ns key.name) := by
  have path := Plan.path_run (handler a) (RequestReconcile.reconcile settings key.ns key.name) w
  have answers := w.answersAll_run a (RequestReconcile.reconcile settings key.ns key.name)
  unfold callsOf
  rcases RequestReconcile.path_reconcile path with ⟨o, rest, hl, outcome⟩ | ⟨e, hl, _⟩
  · rw [hl] at answers ⊢
    obtain ⟨_, ⟨hread, rfl⟩, hrest⟩ := answers
    obtain rfl : r = o := Except.ok.inj (read.symm.trans hread)
    rw [calls_readRequest]
    exact mem_calls.mpr (call_of_supply supply outcome hrest eligible payload)
  · rw [hl] at answers
    obtain ⟨_, ⟨hread, _⟩, _⟩ := answers
    cases read.symm.trans hread

end World
end CertIssuer
