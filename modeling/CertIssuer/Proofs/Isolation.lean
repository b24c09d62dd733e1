import CertIssuer.Proofs.Correspondence

/-!
Isolation: what a reconcile of a request depends on. It looks at the request, at the issuer that the
request names and at the secret that the issuer names, and at nothing else in the store, so two
worlds that agree on these three cannot be told apart by it, whatever other issuers and secrets they
hold.

A world is determined, as far as a run can see, by the answers it gives: a world that gives the
accesses of a run the same answers at the same time has the same run. It is then enough to show that
worlds which agree on the three objects answer every access alike.
-/

namespace CertIssuer

variable {σ ω α : Type}

/-- The service key that an access hands to the authority, if it does. -/
def Access.serviceKey? : Access σ → Option Bytes
  | .openSigner serviceKey _ => some serviceKey
  | _ => none

namespace World

/-- The service keys that a plan hands to the authority when it is run in a world. -/
def serviceKeysOf (a : Authority σ ω) (p : Plan σ α) (w : World ω) : List Bytes :=
  (p.accesses (handler a) w).filterMap Access.serviceKey?

variable {a : Authority σ ω} {w w' v v' : World ω} {x : Access σ} {l : List (Access σ)}

/-! ### Runs with the same answers -/

/-- A world that gives an access the same answer goes on as it would. -/
theorem handle_of_answersAll (op : Op σ) (time : v.now = w.now)
    (h : v.unlogged.AnswersAll a (op.accesses ((handler a).handle op w).1 ++ l) v') :
    ((handler a).handle op v).1 = ((handler a).handle op w).1
      ∧ ((handler a).handle op v).2.unlogged.AnswersAll a l v' := by
  cases op with
  | readRequest _ | readIssuer _ | readSecret _ | openSigner _ | sign _ _ =>
    obtain ⟨v₁, ⟨hanswer, rfl⟩, hrest⟩ := h
    exact ⟨hanswer, hrest⟩
  | writeRequest r =>
    obtain ⟨v₁, hwrite, hrest⟩ := h
    have hwritten := (unlogged_written v
      (v.guarded .writeRequest (v.store.writeRequest r))).symm.trans hwrite
    obtain ⟨hanswer, rfl⟩ := Prod.mk.inj hwritten
    exact ⟨hanswer, hrest⟩
  | writeIssuer kind i =>
    obtain ⟨v₁, hwrite, hrest⟩ := h
    have hwritten := (unlogged_written v
      (v.guarded (.writeIssuer kind) (v.store.writeIssuer kind i))).symm.trans hwrite
    obtain ⟨hanswer, rfl⟩ := Prod.mk.inj hwritten
    exact ⟨hanswer, hrest⟩
  | now => exact ⟨time, h⟩
  | note _ | tally _ => exact ⟨rfl, h⟩

/-- A world that gives the accesses of a run the same answers, at the same time, has that run. -/
theorem run_of_answersAll (p : Plan σ α) (time : v.now = w.now)
    (h : v.unlogged.AnswersAll a (p.accesses (handler a) w) v') :
    p.accesses (handler a) v = p.accesses (handler a) w ∧ (v.run a p).1 = (w.run a p).1
      ∧ (v.run a p).2.unlogged = v' := by
  induction p generalizing w v with
  | done _ => exact ⟨rfl, rfl, h.symm⟩
  | ask op next ih =>
    obtain ⟨hanswer, hrest⟩ := handle_of_answersAll op time h
    have later : ((handler a).handle op v).2.now = ((handler a).handle op w).2.now := by
      rw [(surroundings_handle a op v).2, (surroundings_handle a op w).2, time]
    obtain ⟨haccesses, hresult, hworld⟩ := ih ((handler a).handle op w).1 later hrest
    unfold run at hresult hworld ⊢
    rw [Plan.accesses, Plan.accesses, Plan.run, Plan.run, hanswer, haccesses]
    exact ⟨rfl, hresult, hworld⟩

/-! ### Worlds that agree on a request -/

/-- The worlds agree on a request, on an issuer and on the secret in the namespace `keyNs` that the
issuer names, on whether status writes are accepted, and on the time, the authority and the
operations that fail. -/
structure Agree (key : ObjectKey) (issuerKey : IssuerKey) (keyNs : String) (w v : World ω) :
    Prop where
  request : v.store.requests.get? key = w.store.requests.get? key
  issuer : v.store.issuers.get? issuerKey = w.store.issuers.get? issuerKey
  secret : ∀ i, w.store.issuers.get? issuerKey = some i →
    v.store.secrets.get? ⟨keyNs, i.spec.serviceKeyRef.name⟩
      = w.store.secrets.get? ⟨keyNs, i.spec.serviceKeyRef.name⟩
  writable : v.store.writable = w.store.writable
  faults : v.faults = w.faults
  now : v.now = w.now
  authority : v.authority = w.authority

/-- The accesses that change no store and read only what the worlds agree on. -/
def Concerns (key : ObjectKey) (issuerKey : IssuerKey) (keyNs : String) (s : MemoryStore) :
    Access σ → Prop
  | .readRequest k _ => k = key
  | .readIssuer k _ => k = issuerKey
  | .readSecret k _ =>
    ∃ i, s.issuers.get? issuerKey = some i ∧ k = ⟨keyNs, i.spec.serviceKeyRef.name⟩
  | .openSigner _ _ | .sign _ _ _ => True
  | .writeRequest _ _ | .writeIssuer _ _ _ => False

variable {key : ObjectKey} {issuerKey : IssuerKey} {keyNs : String}

theorem Agree.unlogged (agree : Agree key issuerKey keyNs w v) :
    Agree key issuerKey keyNs w.unlogged v.unlogged :=
  ⟨agree.request, agree.issuer, agree.secret, agree.writable, agree.faults, agree.now,
    agree.authority⟩

theorem Agree.readRequest_eq (agree : Agree key issuerKey keyNs w v) :
    v.readRequest key = w.readRequest key := by
  rw [readRequest, readRequest, guarded, guarded, MemoryStore.readRequest, MemoryStore.readRequest,
    agree.faults, agree.request]

/-- Reads of what the worlds agree on are answered alike. -/
theorem Agree.answers (agree : Agree key issuerKey keyNs w v)
    (concerns : Concerns key issuerKey keyNs w.store x) (h : w.Answers a x w') :
    ∃ v', v.Answers a x v' ∧ Agree key issuerKey keyNs w' v' ∧ w'.store = w.store := by
  cases x with
  | readRequest k answer =>
    obtain rfl : k = key := concerns
    obtain ⟨hanswer, rfl⟩ := h
    exact ⟨v, ⟨agree.readRequest_eq.trans hanswer, rfl⟩, agree, rfl⟩
  | readIssuer k answer =>
    obtain rfl : k = issuerKey := concerns
    obtain ⟨hanswer, rfl⟩ := h
    refine ⟨v, ⟨?_, rfl⟩, agree, rfl⟩
    rw [← hanswer, readIssuer, readIssuer, guarded, guarded, MemoryStore.readIssuer,
      MemoryStore.readIssuer, agree.faults, agree.issuer]
  | readSecret k answer =>
    obtain ⟨i, stored, rfl⟩ := concerns
    obtain ⟨hanswer, rfl⟩ := h
    refine ⟨v, ⟨?_, rfl⟩, agree, rfl⟩
    rw [← hanswer, readSecret, readSecret, guarded, guarded, MemoryStore.readSecret,
      MemoryStore.readSecret, agree.faults, agree.secret i stored]
  | openSigner serviceKey answer =>
    obtain ⟨hanswer, rfl⟩ := h
    rw [← agree.authority] at hanswer ⊢
    exact ⟨_, ⟨hanswer, rfl⟩, { agree with authority := rfl }, rfl⟩
  | sign signer request answer =>
    obtain ⟨hanswer, rfl⟩ := h
    rw [← agree.authority] at hanswer ⊢
    exact ⟨_, ⟨hanswer, rfl⟩, { agree with authority := rfl }, rfl⟩
  | writeRequest _ _ | writeIssuer _ _ _ => exact concerns.elim

theorem Agree.answersAll (agree : Agree key issuerKey keyNs w v)
    (concerns : ∀ x ∈ l, Concerns key issuerKey keyNs w.store x) (h : w.AnswersAll a l w') :
    ∃ v', v.AnswersAll a l v' ∧ Agree key issuerKey keyNs w' v' ∧ w'.store = w.store := by
  induction l generalizing w v with
  | nil =>
    obtain rfl : w' = w := h
    exact ⟨v, rfl, agree, rfl⟩
  | cons x l ih =>
    obtain ⟨w₁, hx, hrest⟩ := h
    obtain ⟨v₁, hx', agree', hstore⟩ := agree.answers (concerns x List.mem_cons_self) hx
    rw [← hstore] at concerns ⊢
    obtain ⟨v', hrest', hagree⟩ :=
      ih agree' (fun y hy => concerns y (List.mem_cons_of_mem _ hy)) hrest
    exact ⟨v', ⟨v₁, hx', hrest'⟩, hagree⟩

/-- A record over the request is written in both worlds, or in neither. -/
theorem Agree.answers_write {r r' : CertificateRequest} {written : Except StoreError Unit}
    (agree : Agree key issuerKey keyNs w v) (stored : w.store.requests.get? key = some r)
    (hkey : r.key = key) (hmeta : r'.metadata = r.metadata)
    (h : w.Answers a (.writeRequest r' written) w') :
    ∃ v', v.Answers a (.writeRequest r' written) v'
      ∧ (v'.store.requests.get? key).map Object.status
        = (w'.store.requests.get? key).map Object.status := by
  have stored' : v.store.requests.get? key = some r := agree.request.trans stored
  have hsame : (v.store.requests.get? key).map Object.status
      = (w.store.requests.get? key).map Object.status := by rw [agree.request]
  change w.writeRequest r' = (written, w') at h
  have hanswer : ∀ v', v.writeRequest r' = (written, v') →
      v.Answers a (.writeRequest r' written) v' := fun _ hv => hv
  unfold writeRequest guarded at h hanswer
  rw [agree.faults] at hanswer
  cases hfault : w.faults.lookup .writeRequest with
  | some e =>
    rw [hfault] at h hanswer
    cases h
    exact ⟨v, hanswer v rfl, hsame⟩
  | none =>
    rw [hfault] at h hanswer
    dsimp only at h hanswer
    cases hwritable : w.store.writable with
    | true =>
      rw [← hkey] at stored stored'
      rw [MemoryStore.writeRequest_of_stored stored hmeta hwritable] at h
      rw [MemoryStore.writeRequest_of_stored stored' hmeta (agree.writable.trans hwritable)]
        at hanswer
      cases h
      refine ⟨_, hanswer _ rfl, ?_⟩
      rw [v.store.get?_withStatus r'.status hkey, w.store.get?_withStatus r'.status hkey]
      rfl
    | false =>
      rw [MemoryStore.writeRequest_of_unwritable hwritable] at h
      rw [MemoryStore.writeRequest_of_unwritable (agree.writable.trans hwritable)] at hanswer
      cases h
      exact ⟨v, hanswer v rfl, hsame⟩

/-- Accesses that record at most something over the request are answered alike. -/
theorem Agree.answersAll_of_recording {r : CertificateRequest} {record : Option CertificateRequest}
    (agree : Agree key issuerKey keyNs w v) (recording : RequestReconcile.Recording l record)
    (concerns : ∀ x ∈ l, x.isWrite = false → Concerns key issuerKey keyNs w.store x)
    (stored : w.store.requests.get? key = some r) (hkey : r.key = key)
    (hmeta : ∀ r', record = some r' → r'.metadata = r.metadata) (h : w.AnswersAll a l w') :
    ∃ v', v.AnswersAll a l v' ∧ (v'.store.requests.get? key).map Object.status
      = (w'.store.requests.get? key).map Object.status := by
  cases recording with
  | nothing quiet =>
    obtain ⟨v', hl, agree', _⟩ := agree.answersAll (fun x hx => concerns x hx (quiet x hx)) h
    exact ⟨v', hl, by rw [agree'.request]⟩
  | @record before r' written quiet =>
    obtain ⟨w₁, hbefore, _, hwrite, rfl⟩ := h.split
    obtain ⟨v₁, hbefore', agree', hstore⟩ := agree.answersAll
      (fun x hx => concerns x (List.mem_append_left _ hx) (quiet x hx)) hbefore
    rw [← hstore] at stored
    obtain ⟨v', hwrite', hstatus⟩ := agree'.answers_write stored hkey (hmeta r' rfl) hwrite
    exact ⟨v', hbefore'.append ⟨v', hwrite', rfl⟩, hstatus⟩

end World

/-! ### What a reconcile looks at -/

namespace RequestReconcile

/-- The request is in a namespace and names this issuer, whose service key is in `keyNs`. An origin
issuer and its service key are in the namespace of the request, the service key of a cluster issuer
is in the namespace set aside. -/
def Names (settings : Settings) (r : CertificateRequest) (issuerKey : IssuerKey) (keyNs : String) :
    Prop :=
  ∃ ns, r.metadata.ns = some ns
    ∧ ((r.spec.issuerRef.kind = some "OriginIssuer"
        ∧ issuerKey = .origin ⟨ns, r.spec.issuerRef.name⟩ ∧ keyNs = ns)
      ∨ (r.spec.issuerRef.kind = some "ClusterOriginIssuer"
        ∧ issuerKey = .cluster r.spec.issuerRef.name ∧ keyNs = settings.clusterNs))

variable {settings : Settings} {r : CertificateRequest} {issuerKey : IssuerKey} {keyNs : String}

/-- The issuer that a request names is the one that a reconcile of it resolves. -/
theorem Names.resolved (names : Names settings r issuerKey keyNs) {kind : IssuerKind} {ns : String}
    (h : verdictOnIssuer r = .sign kind ns) :
    issuerKey = .referred kind ns r.spec.issuerRef.name
      ∧ keyNs = kind.credentialNs ns settings.clusterNs := by
  obtain ⟨home, hkind⟩ := verdictOnIssuer_eq_sign.mp h
  obtain ⟨ns', home', ⟨horigin, hkey, hns⟩ | ⟨hcluster, hkey, hns⟩⟩ := names
  · obtain rfl : ns' = ns := Option.some.inj (home'.symm.trans home)
    cases kind with
    | origin => exact ⟨hkey, hns⟩
    | cluster => exact absurd (horigin.symm.trans hkind) (by decide)
  · cases kind with
    | origin => exact absurd (hcluster.symm.trans hkind) (by decide)
    | cluster => exact ⟨hkey, hns⟩

variable {a : Authority σ ω} {w w' : World ω} {key : ObjectKey} {l : List (Access σ)}
  {b : Except ReconcileError Unit}

/-- The issuer that is read first tells which secret is read next. -/
theorem concerns_readSecret (names : Names settings r issuerKey keyNs) {kind : IssuerKind}
    {ns : String} (hv : verdictOnIssuer r = .sign kind ns) {answer : Except StoreError Issuer}
    {issuer : ResolvedIssuer} {secret : Except StoreError Secret}
    (h : Resolve.ofAnswer (.referred kind ns r.spec.issuerRef.name) ns settings.clusterNs answer
      = .ok issuer)
    (answers : w.AnswersAll a
      (.readIssuer (.referred kind ns r.spec.issuerRef.name) answer :: l) w') :
    World.Concerns key issuerKey keyNs w.store
      (.readSecret ⟨issuer.credentialNs, issuer.spec.serviceKeyRef.name⟩ secret : Access σ) := by
  obtain ⟨rfl, rfl⟩ := names.resolved hv
  obtain ⟨i, rfl, _, rfl⟩ := Resolve.ofAnswer_eq_ok.mp h
  obtain ⟨_, ⟨hread, _⟩, _⟩ := answers
  exact ⟨i, World.stored_of_readIssuer hread, by rw [IssuerKey.kind_referred]⟩

theorem concerns_of_call {s : MemoryStore} {issuer : ResolvedIssuer} {signer : σ}
    (call : Call r issuer signer l b) {x : Access σ} (mem : x ∈ l) (quiet : x.isWrite = false) :
    World.Concerns key issuerKey keyNs s x := by
  cases call with
  | malformed e now written _ =>
    cases List.mem_singleton.mp mem
    cases quiet
  | issued request response now written _ | rejected request e now written _ _ =>
    rcases List.mem_cons.mp mem with rfl | hwrite
    · trivial
    · cases List.mem_singleton.mp hwrite
      cases quiet
  | transient request e _ _ =>
    cases List.mem_singleton.mp mem
    trivial

theorem concerns_of_signing (names : Names settings r issuerKey keyNs) {kind : IssuerKind}
    {ns : String} (hv : verdictOnIssuer r = .sign kind ns)
    (signing : Signing settings r kind ns l b) (answers : w.AnswersAll a l w') {x : Access σ}
    (mem : x ∈ l) (quiet : x.isWrite = false) :
    World.Concerns key issuerKey keyNs w.store x := by
  have hkey := (names.resolved hv).1
  cases signing with
  | unresolved answer e now written h =>
    rcases List.mem_cons.mp mem with rfl | hwrite
    · exact hkey.symm
    · cases List.mem_singleton.mp hwrite
      cases quiet
  | keyless answer issuer secret e now written h _ =>
    rcases List.mem_cons.mp mem with rfl | hrest
    · exact hkey.symm
    · rcases List.mem_cons.mp hrest with rfl | hwrite
      · exact concerns_readSecret names hv h answers
      · cases List.mem_singleton.mp hwrite
        cases quiet
  | signerless answer issuer secret serviceKey chain h _ =>
    rcases List.mem_cons.mp mem with rfl | hrest
    · exact hkey.symm
    · rcases List.mem_cons.mp hrest with rfl | hopen
      · exact concerns_readSecret names hv h answers
      · cases List.mem_singleton.mp hopen
        trivial
  | opened answer issuer secret serviceKey signer rest _ h _ call =>
    rcases List.mem_cons.mp mem with rfl | hrest
    · exact hkey.symm
    · rcases List.mem_cons.mp hrest with rfl | hrest
      · exact concerns_readSecret names hv h answers
      · rcases List.mem_cons.mp hrest with rfl | hcall
        · trivial
        · exact concerns_of_call call hcall quiet

/-- Apart from its record, a reconcile reads the issuer that the request names and the secret that
this issuer names, and speaks to the authority. -/
theorem concerns_of_outcome (outcome : Outcome settings r l b)
    (names : Names settings r issuerKey keyNs) (answers : w.AnswersAll a l w') :
    ∀ x ∈ l, x.isWrite = false → World.Concerns key issuerKey keyNs w.store x := by
  intro x mem quiet
  cases outcome with
  | left _ _ | homeless _ => cases mem
  | denied _ _ _ _ | unknownKind _ _ _ _ =>
    cases List.mem_singleton.mp mem
    cases quiet
  | signing kind ns _ _ hv signing =>
    rw [verdict_of_admitted (admitted_of_sign hv)] at hv
    exact concerns_of_signing names hv signing answers mem quiet

end RequestReconcile

/-! ### Isolation -/

namespace World

variable {a : Authority σ ω} {w v : World ω} {key : ObjectKey} {issuerKey : IssuerKey}
  {keyNs : String} {r : CertificateRequest} {settings : RequestReconcile.Settings}

/-- A world that agrees on a request gives the accesses of a reconcile of it the same answers. -/
theorem Agree.answersAll_reconcile (agree : Agree key issuerKey keyNs w v)
    (stored : w.store.requests.get? key = some r) (hkey : r.key = key)
    (names : RequestReconcile.Names settings r issuerKey keyNs) :
    ∃ v', v.unlogged.AnswersAll a
        ((RequestReconcile.reconcile settings key.ns key.name).accesses (handler a) w) v'
      ∧ (v'.store.requests.get? key).map Object.status
        = ((w.run a (RequestReconcile.reconcile settings key.ns key.name)).2.store.requests.get?
            key).map Object.status := by
  have path := Plan.path_run (handler a) (RequestReconcile.reconcile settings key.ns key.name) w
  have answers := w.answersAll_run a (RequestReconcile.reconcile settings key.ns key.name)
  rcases RequestReconcile.path_reconcile path with ⟨o, rest, hl, outcome⟩ | ⟨e, hl, _⟩
  · rw [hl] at answers ⊢
    obtain ⟨_, ⟨hread, rfl⟩, hrest⟩ := answers
    have hread' : w.readRequest key = .ok o := hread
    obtain rfl : r = o := Option.some.inj (stored.symm.trans (stored_of_readRequest hread'))
    obtain ⟨record, recording, ending⟩ := RequestReconcile.ending_of_outcome outcome
    have hmeta : ∀ r', record = some r' → r'.metadata = r.metadata := by
      rintro r' rfl
      exact ending.metadata_eq
    have concerns : ∀ x ∈ rest, x.isWrite = false →
        Concerns key issuerKey keyNs w.unlogged.store x :=
      RequestReconcile.concerns_of_outcome outcome names hrest
    obtain ⟨v', hrest', hstatus⟩ :=
      agree.unlogged.answersAll_of_recording recording concerns stored hkey hmeta hrest
    have hread' : v.readRequest key = .ok r := agree.readRequest_eq.trans hread
    exact ⟨v', ⟨v.unlogged, ⟨hread', rfl⟩, hrest'⟩, hstatus⟩
  · rw [hl] at answers ⊢
    obtain ⟨_, ⟨hread, rfl⟩, hend⟩ := answers
    have hread' : v.readRequest key = .error e := agree.readRequest_eq.trans hread
    have hworld : (w.run a (RequestReconcile.reconcile settings key.ns key.name)).2.unlogged
        = w.unlogged := hend
    have hstore := congrArg World.store hworld
    refine ⟨v.unlogged, ⟨v.unlogged, ⟨hread', rfl⟩, rfl⟩, ?_⟩
    exact congrArg (Option.map Object.status)
      (agree.request.trans (congrArg (fun s => s.requests.get? key) hstore.symm))

/-- A reconcile of a request cannot tell worlds apart that agree on the request, on the issuer it
names and on the secret that this issuer names: it has the same result, hands the same service keys
to the authority, makes the same signing calls and leaves the same status, whatever else is stored. -/
theorem isolated_from_others (a : Authority σ ω) (settings : RequestReconcile.Settings)
    {changes : List Change} (reached : w.store = .afterChanges changes)
    (stored : w.store.requests.get? key = some r)
    (names : RequestReconcile.Names settings r issuerKey keyNs)
    (agree : Agree key issuerKey keyNs w v) :
    let reconcile : Plan σ (Except ReconcileError Unit) :=
      RequestReconcile.reconcile settings key.ns key.name
    (v.run a reconcile).1 = (w.run a reconcile).1
      ∧ v.serviceKeysOf a reconcile = w.serviceKeysOf a reconcile
      ∧ v.callsOf a reconcile = w.callsOf a reconcile
      ∧ ((v.run a reconcile).2.store.requests.get? key).map Object.status
        = ((w.run a reconcile).2.store.requests.get? key).map Object.status := by
  intro reconcile
  have hkey : r.key = key := MemoryStore.keyed_of_reached reached key r stored
  obtain ⟨v', answers, hstatus⟩ := agree.answersAll_reconcile (a := a) stored hkey names
  obtain ⟨haccesses, hresult, rfl⟩ := run_of_answersAll reconcile agree.now answers
  refine ⟨hresult, ?_, ?_, hstatus⟩
  · rw [serviceKeysOf, serviceKeysOf, haccesses]
  · rw [callsOf, callsOf, haccesses]

/-- An approved request for a cluster issuer. -/
def clusterRequest : CertificateRequest :=
  let request := Sample.request [Sample.condition Condition.approved] [] none
  { request with
    spec := { request.spec with issuerRef := ⟨"prod", some "ClusterOriginIssuer", none⟩ } }

/-- The request with all that it takes to sign it. -/
def clusterSignable : List Change :=
  [.insertRequest clusterRequest,
    .insertIssuer .cluster { Sample.issuer with metadata.ns := none },
    .insertSecret (.single "cluster" "service-key" "key" [118, 49])]

/-- The same, and in the namespace of the request an issuer and a secret of the same names. -/
def crowded : List Change :=
  clusterSignable ++ [.insertIssuer .origin Sample.issuer,
    .insertSecret (.single "default" "service-key" "key" [118, 50])]

/-- The service key that is used is the one in the namespace set aside. -/
theorem isolated_from_others_of_same_name :
    ((sample crowded).run Script.authority
        (RequestReconcile.reconcile Sample.settings "default" "web")).1 = .ok ()
      ∧ (sample crowded).serviceKeysOf Script.authority
        (RequestReconcile.reconcile Sample.settings "default" "web") = [[118, 49]] := by
  have reached : (sample clusterSignable).store = .afterChanges clusterSignable := rfl
  have stored : (sample clusterSignable).store.requests.get? Sample.key
      = some (clusterRequest.atVersion "1") := by decide +kernel
  have names : RequestReconcile.Names Sample.settings (clusterRequest.atVersion "1")
      (.cluster "prod") "cluster" := ⟨"default", rfl, .inr ⟨rfl, rfl, rfl⟩⟩
  have agree : Agree Sample.key (.cluster "prod") "cluster" (sample clusterSignable)
      (sample crowded) := by
    refine ⟨by decide +kernel, by decide +kernel, fun i hi => ?_, rfl, rfl, rfl, rfl⟩
    have hname : i.spec.serviceKeyRef.name = "service-key" := by
      have hissuer : (sample clusterSignable).store.issuers.get? (.cluster "prod")
          = some ({ Sample.issuer with metadata.ns := none }.atVersion "2") := by decide +kernel
      cases hissuer.symm.trans hi
      rfl
    rw [hname]
    decide +kernel
  obtain ⟨hresult, hkeys, _⟩ :=
    isolated_from_others Script.authority Sample.settings reached stored names agree
  exact ⟨hresult.trans rfl, hkeys.trans (by decide +kernel)⟩

end World
end CertIssuer
