import CertIssuer.Proofs.Resolution
import CertIssuer.Proofs.Responses

/-!
What becomes of a service key. A key that is no text, or nothing but white space, gives no client.
That is noticed before a call is made, and the request is left to be tried again. Any other key
gives a client, which sends it without the white space around it.

A header field cannot hold every text, though. That a key cannot be sent is only noticed in the
call, whose failure is one for good. So a request does not survive a service key with a line feed in
it, while it waits for one that is blank to be replaced.
-/

namespace CertIssuer

variable {σ ω : Type} {serviceKey : Bytes} {text : String}

/-! ### Clients -/

/-- The text that a service key is used as: without white space around it, and not empty. -/
structure KeyText (serviceKey : Bytes) (text : String) : Prop where
  trimmed : ∃ s, serviceKey = Text.encodeUtf8 s ∧ text = Text.trim s
  nonblank : text ≠ ""

/-- A text with a byte that no header field can hold. -/
def Unsendable (text : String) : Prop :=
  ∃ b ∈ Text.encodeUtf8 text, (b < 0x20 ∧ b ≠ 0x09) ∨ b = 0x7F

namespace Client

variable {url : String} {c : Client} {r : SignRequest}

/-- There is a client just for the keys that can be used as a text. -/
theorem new_eq_ok :
    new url serviceKey = .ok c ↔ KeyText serviceKey c.serviceKey ∧ c.endpoint = url := by
  unfold new
  constructor
  · intro h
    split at h
    · cases h
    · next s hs =>
      split at h
      · cases h
      · next nonblank =>
        cases h
        exact ⟨⟨⟨s, Text.decodeUtf8_eq_ok.mp hs, rfl⟩, nonblank⟩, rfl⟩
  · rintro ⟨⟨⟨s, rfl, htext⟩, nonblank⟩, rfl⟩
    rw [Text.decodeUtf8_eq_ok.mpr rfl]
    dsimp only
    rw [if_neg (htext ▸ nonblank), ← htext]

theorem unsendable_iff :
    Unsendable text ↔ (Text.encodeUtf8 text).all Http.isHeaderByte = false := by
  have byte (b : UInt8) : Http.isHeaderByte b = false ↔ (b < 0x20 ∧ b ≠ 0x09) ∨ b = 0x7F := by
    simp only [Http.isHeaderByte, Bool.or_eq_false_iff, Bool.and_eq_false_iff,
      decide_eq_false_iff_not, UInt8.not_le, ne_eq, Decidable.not_not]
    constructor
    · rintro ⟨hlow | rfl, htab⟩
      · exact .inl ⟨hlow, htab⟩
      · exact .inr rfl
    · rintro (⟨hlow, htab⟩ | rfl)
      · exact ⟨.inl hlow, htab⟩
      · exact ⟨.inr rfl, by decide⟩
  simp only [Unsendable, List.all_eq_false, Bool.not_eq_true, byte]

theorem request_of_sendable (h : ¬ Unsendable c.serviceKey) :
    ∃ wire, c.request r = .ok wire ∧ wire.serviceKey = Text.encodeUtf8 c.serviceKey := by
  rw [unsendable_iff, Bool.not_eq_false] at h
  exact ⟨_, if_pos h, rfl⟩

/-- A call with a key that cannot be sent does not reach the authority. -/
theorem exchange_of_unsendable (h : Unsendable c.serviceKey) (response : Option WireResponse) :
    c.exchange r response = (.error (.transport .unsendableKey), []) := by
  rw [unsendable_iff] at h
  simp [exchange, request, h]

end Client

/-! ### What follows a service key -/

namespace RequestReconcile

variable {settings : Settings} {r : CertificateRequest} {l : List (Access σ)}
  {b : Except ReconcileError Unit}

/-- What follows once a service key was handed to the authority, and how that ends. -/
inductive Handed (r : CertificateRequest) : Except (List String) σ → List (Access σ) →
    Except ReconcileError Unit → Prop
  | refused (chain : List String) : Handed r (.error chain) [] (.error (.signerFactory chain))
  | opened {issuer : ResolvedIssuer} {signer : σ} {l : List (Access σ)}
      {b : Except ReconcileError Unit} (call : Call r issuer signer l b) : Handed r (.ok signer) l b

theorem Handed.of_refused {chain : List String} (h : Handed r (.error chain : Except _ σ) l b) :
    b = .error (.signerFactory chain) ∧ calls l = [] ∧ Recording l none := by
  cases h
  exact ⟨rfl, rfl, .nothing (by simp)⟩

/-- A reconcile hands a service key to the authority once it has read the issuer and the secret, and
hands it no other. -/
theorem handed_of_outcome (outcome : Outcome settings r l b)
    (used : serviceKey ∈ l.filterMap Access.serviceKey?) :
    ∃ issuerKey issuer secretKey secret opened rest,
      l = .readIssuer issuerKey issuer :: .readSecret secretKey secret
          :: .openSigner serviceKey opened :: rest
        ∧ Handed r opened rest b := by
  cases outcome with
  | left _ _ | denied _ _ _ _ | homeless _ | unknownKind _ _ _ _ => cases used
  | signing kind ns _ _ _ signing =>
    cases signing with
    | unresolved _ _ _ _ _ | keyless _ _ _ _ _ _ _ _ => cases used
    | signerless answer issuer secret serviceKey' chain _ _ =>
      obtain rfl : serviceKey = serviceKey' := List.mem_singleton.mp used
      exact ⟨_, _, _, _, _, _, rfl, .refused chain⟩
    | opened answer issuer secret serviceKey' signer rest _ _ _ call =>
      have only : rest.filterMap Access.serviceKey? = [] := by cases call <;> rfl
      have used : serviceKey ∈ serviceKey' :: rest.filterMap Access.serviceKey? := used
      rw [only] at used
      obtain rfl : serviceKey = serviceKey' := List.mem_singleton.mp used
      exact ⟨_, _, _, _, _, _, rfl, .opened call⟩

theorem signer_of_call {issuer : ResolvedIssuer} {signer : σ} (after : Call r issuer signer l b)
    {call : SignCall σ} (mem : call ∈ calls l) : call.signer = signer := by
  cases after with
  | malformed _ _ _ _ => cases mem
  | issued _ _ _ _ _ | transient _ _ _ _ | rejected _ _ _ _ _ _ =>
    rw [List.mem_singleton.mp mem]

/-- Where every call fails for good, so does the request. -/
theorem failed_of_call {issuer : ResolvedIssuer} {signer : σ} (after : Call r issuer signer l b)
    (fails : ∀ call ∈ calls l, ∃ e, call.answer = .error e
      ∧ (ProvisionError.sign e).classify = .terminal) :
    ∃ e message now, b = .error e ∧ e.isRetryable = false
      ∧ Recording l (some (unreadyRecord r Reason.failed message now)) := by
  cases after with
  | malformed e now written h => exact ⟨_, _, now, rfl, rfl, .write _ written⟩
  | issued request response now written h =>
    obtain ⟨e, he, _⟩ := fails _ List.mem_cons_self
    cases he
  | transient request e h hclass =>
    obtain ⟨e', he, hterminal⟩ := fails _ List.mem_cons_self
    cases he
    cases hclass.symm.trans hterminal
  | rejected request e now written h hclass =>
    exact ⟨_, _, now, rfl, rfl, (Recording.write _ written).cons rfl⟩

end RequestReconcile

namespace World

variable {a : Authority σ ω} {w : World ω} {key : ObjectKey}
  {settings : RequestReconcile.Settings}

/-- A service key that a reconcile of a request comes to use: the request may be signed, the issuer
it names is ready, and the secret of that issuer holds the key. -/
structure Credential (settings : RequestReconcile.Settings) (w : World ω) (r : CertificateRequest)
    (serviceKey : Bytes) where
  issuerKey : IssuerKey
  keyNs : String
  issuer : Issuer
  secret : Secret
  eligible : RequestReconcile.Eligible settings r
  names : RequestReconcile.Names settings r issuerKey keyNs
  found : w.readIssuer issuerKey = .ok issuer
  ready : Conditions.has issuer.conditions Condition.ready .yes = true
  kept : w.readSecret ⟨keyNs, issuer.spec.serviceKeyRef.name⟩ = .ok secret
  selected : secret.value? issuer.spec.serviceKeyRef.key = some serviceKey

/-- Such a key is handed to the authority. -/
theorem Credential.used {r : CertificateRequest} (credential : Credential settings w r serviceKey)
    (read : w.readRequest key = .ok r) :
    serviceKey ∈ w.serviceKeysOf a (RequestReconcile.reconcile settings key.ns key.name) := by
  obtain ⟨issuerKey, keyNs, i, secret, eligible, names, found, ready, kept, selected⟩ := credential
  obtain ⟨l, hl, outcome, answers⟩ := w.outcome_of_run a settings read
  obtain ⟨kind, ns, hv⟩ := names.exists_verdict
  obtain ⟨rfl, rfl⟩ := names.resolved hv
  rw [← RequestReconcile.verdict_of_admitted
    (RequestReconcile.eligible_iff_admitted.mp eligible)] at hv
  rw [serviceKeysOf, hl]
  generalize (w.run a (RequestReconcile.reconcile settings key.ns key.name)).1 = b at outcome
  -- the credential fixes the verdict and both answers, and so the key that a signer is opened with
  cases outcome with
  | left _ h | denied _ _ _ h | homeless h | unknownKind _ _ _ h =>
    rw [hv] at h
    cases h
  | signing _ _ _ _ h signing =>
    rw [hv] at h
    cases h
    cases signing with
    | unresolved issuerRead e now written hissuer =>
      obtain ⟨_, ⟨hread, _⟩, _⟩ := answers
      obtain rfl : .ok i = issuerRead := found.symm.trans hread
      rw [Resolve.ofAnswer_eq_ok.mpr ⟨_, rfl, ready, rfl⟩] at hissuer
      cases hissuer
    | keyless issuerRead issuer secretRead e now written hissuer hkey =>
      obtain ⟨i', rfl, _, rfl⟩ := Resolve.ofAnswer_eq_ok.mp hissuer
      obtain ⟨_, ⟨hread, rfl⟩, _, ⟨hsecret, _⟩, _⟩ := answers
      obtain rfl : i = i' := Except.ok.inj (found.symm.trans hread)
      rw [IssuerKey.kind_referred] at hsecret
      obtain rfl : .ok secret = secretRead := kept.symm.trans hsecret
      rw [Resolve.keyOfAnswer_eq_ok.mpr ⟨_, rfl, selected⟩] at hkey
      cases hkey
    | signerless issuerRead issuer secretRead serviceKey' _ hissuer hkey
    | opened issuerRead issuer secretRead serviceKey' _ _ _ hissuer hkey _ =>
      obtain ⟨i', rfl, _, rfl⟩ := Resolve.ofAnswer_eq_ok.mp hissuer
      obtain ⟨secret', rfl, selected'⟩ := Resolve.keyOfAnswer_eq_ok.mp hkey
      obtain ⟨_, ⟨hread, rfl⟩, _, ⟨hsecret, rfl⟩, _⟩ := answers
      obtain rfl : i = i' := Except.ok.inj (found.symm.trans hread)
      rw [IssuerKey.kind_referred] at hsecret
      obtain rfl : secret = secret' := Except.ok.inj (kept.symm.trans hsecret)
      obtain rfl : serviceKey = serviceKey' := Option.some.inj (selected.symm.trans selected')
      exact List.mem_cons_self

/-- A reconcile goes on from the service key it hands to the authority as the authority answers. -/
theorem handed_of_run (used : serviceKey ∈ w.serviceKeysOf a
      (RequestReconcile.reconcile settings key.ns key.name)) :
    let ended := w.run a (RequestReconcile.reconcile settings key.ns key.name)
    ∃ r l rest, w.readRequest key = .ok r
      ∧ w.callsOf a (RequestReconcile.reconcile settings key.ns key.name) = calls rest
      ∧ RequestReconcile.Handed r (a.openSigner serviceKey w.authority).1 rest ended.1
      ∧ w.unlogged.AnswersAll a l ended.2.unlogged
      ∧ ∀ record, RequestReconcile.Recording rest record → RequestReconcile.Recording l record := by
  intro ended
  have path := Plan.path_run (handler a) (RequestReconcile.reconcile settings key.ns key.name) w
  have answers := w.answersAll_run a (RequestReconcile.reconcile settings key.ns key.name)
  unfold serviceKeysOf at used
  unfold callsOf
  rcases RequestReconcile.path_reconcile path with ⟨r, l, hl, outcome⟩ | ⟨e, hl, _⟩
  · rw [hl] at answers used ⊢
    obtain ⟨_, ⟨hread, rfl⟩, hrest⟩ := answers
    obtain ⟨issuerKey, issuer, secretKey, secret, opened, rest, rfl, handed⟩ :=
      RequestReconcile.handed_of_outcome outcome used
    obtain ⟨_, ⟨_, rfl⟩, _, ⟨_, rfl⟩, _, ⟨hopened, rfl⟩, _⟩ := id hrest
    refine ⟨r, _, rest, hread, rfl, ?_, hrest, fun record recording => ?_⟩
    · rw [show (a.openSigner serviceKey w.authority).1 = opened from hopened]
      exact handed
    · exact ((recording.cons rfl).cons rfl).cons rfl
  · rw [hl] at used
    cases used

/-! ### How a reconcile ends -/

variable {w : World Script} {url : String} {e : Endpoint}

theorem openSigner_of_endpoint (endpoint : w.authority.endpoint = some (url, e))
    (willing : w.authority.refusal = []) (serviceKey : Bytes) :
    (Script.authority.openSigner serviceKey w.authority).1
      = match Client.new url serviceKey with
        | .ok c => .ok (.client c)
        | .error fault => .error fault.chain := by
  simp only [Script.authority, Script.openSigner, endpoint, willing]
  rfl

section Used

variable (endpoint : w.authority.endpoint = some (url, e)) (willing : w.authority.refusal = [])
  (used : serviceKey ∈ w.serviceKeysOf Script.authority
    (RequestReconcile.reconcile settings key.ns key.name))

include endpoint willing used

/-- A service key that cannot be used as a text gives no client, and nothing is recorded. -/
theorem unrecorded_of_unusable (keyed : w.store.Keyed)
    (unusable : ∀ text, ¬ KeyText serviceKey text) :
    let ended := w.run Script.authority (RequestReconcile.reconcile settings key.ns key.name)
    (∃ fault, Client.new url serviceKey = .error fault
        ∧ ended.1 = .error (.signerFactory fault.chain))
      ∧ ended.2.store = w.store
      ∧ w.callsOf Script.authority (RequestReconcile.reconcile settings key.ns key.name) = [] := by
  intro ended
  obtain ⟨r, l, rest, read, hcalls, handed, answers, recording⟩ := handed_of_run used
  rw [openSigner_of_endpoint endpoint willing] at handed
  cases hnew : Client.new url serviceKey with
  | ok c => exact absurd (Client.new_eq_ok.mp hnew).1 (unusable _)
  | error fault =>
    rw [hnew] at handed
    obtain ⟨hresult, hnone, nothing⟩ := handed.of_refused
    refine ⟨⟨fault, rfl, hresult⟩, ?_, hcalls.trans hnone⟩
    rcases recorded_of_answers keyed read (recording none nothing) answers (fun _ h => by cases h)
      with ⟨hsame, _⟩ | ⟨_, hrecord, _⟩
    · exact hsame
    · cases hrecord

/-- The calls of a reconcile with a usable service key are those of its client. -/
theorem call_of_usable (usable : KeyText serviceKey text) :
    let ended := w.run Script.authority (RequestReconcile.reconcile settings key.ns key.name)
    ∃ r l rest issuer, w.readRequest key = .ok r
      ∧ w.callsOf Script.authority (RequestReconcile.reconcile settings key.ns key.name)
        = calls rest
      ∧ RequestReconcile.Call r issuer (.client ⟨url, text⟩) rest ended.1
      ∧ w.unlogged.AnswersAll Script.authority l ended.2.unlogged
      ∧ ∀ record, RequestReconcile.Recording rest record → RequestReconcile.Recording l record := by
  intro ended
  obtain ⟨r, l, rest, read, hcalls, handed, answers, recording⟩ := handed_of_run used
  rw [openSigner_of_endpoint endpoint willing,
    (Client.new_eq_ok (c := ⟨url, text⟩)).mpr ⟨usable, rfl⟩] at handed
  cases handed with
  | opened call => exact ⟨r, l, rest, _, read, hcalls, call, answers, recording⟩

/-- Where status writes are accepted, a request whose service key cannot be sent fails for good. -/
theorem refused_of_unsendable (keyed : w.store.Keyed) (accepting : w.Accepting)
    (usable : KeyText serviceKey text) (unsendable : Unsendable text) :
    (∀ call ∈ w.callsOf Script.authority (RequestReconcile.reconcile settings key.ns key.name),
        call.answer = .error (.transport .unsendableKey))
      ∧ CallEnd.refused.Reached w key
        (w.run Script.authority (RequestReconcile.reconcile settings key.ns key.name)) := by
  obtain ⟨r, l, rest, issuer, read, hcalls, call, answers, recording⟩ :=
    call_of_usable endpoint willing used usable
  have fails : ∀ call ∈ w.callsOf Script.authority
      (RequestReconcile.reconcile settings key.ns key.name),
      call.answer = .error (.transport .unsendableKey) := by
    intro made mem
    obtain ⟨c, hsigner, hanswer⟩ := answer_of_endpoint endpoint mem
    rw [hcalls] at mem
    obtain rfl : ⟨url, text⟩ = c := ScriptSigner.client.inj
      ((RequestReconcile.signer_of_call call mem).symm.trans hsigner)
    rw [hanswer, Client.exchange_of_unsendable unsendable]
  refine ⟨fails, ?_⟩
  rw [hcalls] at fails
  obtain ⟨fault, message, now, hresult, terminal, record⟩ :=
    RequestReconcile.failed_of_call call fun made mem => ⟨_, fails made mem, rfl⟩
  refine ⟨⟨fault, hresult, terminal⟩, ?_⟩
  rcases recorded_of_answers keyed read (recording _ record) answers (by rintro _ ⟨rfl⟩; rfl)
    with ⟨_, refused⟩ | ⟨r', ⟨rfl⟩, hstore⟩
  · cases refused accepting
  · rw [hstore]
    exact ⟨_, w.store.get?_withStatus _ (keyed key r (stored_of_readRequest read)),
      Conditions.hasWithReason_set⟩

end Used

/-- Suppose that signers are clients of an endpoint, that a request may be signed by a ready issuer,
and that the secret of the issuer holds this service key, whatever its bytes. A key that is no text
or blank gives no client: the reconcile fails for now, no call is made, and everything is left as it
was. Any other key gives a client. If its text can be sent, every call carries it byte for byte. If
its text holds a byte that no header field can hold, no call reaches the authority, and the request
fails for good. -/
theorem service_key_decides_end {changes : List Change} (reached : w.store = .afterChanges changes)
    (accepting : w.Accepting) (endpoint : w.authority.endpoint = some (url, e))
    (willing : w.authority.refusal = []) {r : CertificateRequest}
    (read : w.readRequest key = .ok r) (credential : Credential settings w r serviceKey) :
    let made := w.callsOf Script.authority (RequestReconcile.reconcile settings key.ns key.name)
    let ended := w.run Script.authority (RequestReconcile.reconcile settings key.ns key.name)
    ((∀ text, ¬ KeyText serviceKey text) →
        (∃ fault, Client.new url serviceKey = .error fault
            ∧ ended.1 = .error (.signerFactory fault.chain))
          ∧ made = [] ∧ CallEnd.postponed.Reached w key ended)
      ∧ ∀ text, KeyText serviceKey text →
        Client.new url serviceKey = .ok ⟨url, text⟩
          ∧ (¬ Unsendable text → ∀ call ∈ made, call.signer = .client ⟨url, text⟩
            ∧ ∃ wire, Client.request ⟨url, text⟩ call.request = .ok wire
              ∧ wire.serviceKey = Text.encodeUtf8 text)
          ∧ (Unsendable text →
            (∀ call ∈ made, call.answer = .error (.transport .unsendableKey))
              ∧ CallEnd.refused.Reached w key ended) := by
  intro made ended
  have keyed := MemoryStore.keyed_of_reached reached
  have used := credential.used (a := Script.authority) read
  constructor
  · intro unusable
    obtain ⟨⟨fault, hnew, hresult⟩, hstore, hcalls⟩ :=
      unrecorded_of_unusable endpoint willing used keyed unusable
    exact ⟨⟨fault, hnew, hresult⟩, hcalls, ⟨_, hresult, rfl⟩, hstore⟩
  · intro text usable
    refine ⟨Client.new_eq_ok.mpr ⟨usable, rfl⟩, fun sendable call mem => ?_,
      refused_of_unsendable endpoint willing used keyed accepting usable⟩
    obtain ⟨_, _, rest, _, _, hcalls, after, _⟩ := call_of_usable endpoint willing used usable
    have mem : call ∈ calls rest := hcalls ▸ mem
    exact ⟨RequestReconcile.signer_of_call after mem, Client.request_of_sendable sendable⟩

/-! ### Sample service keys -/

/-- The sample request with all that it takes to sign it, where the issuer has this service key. -/
def keyedChanges (serviceKey : Bytes) : List Change :=
  [.insertRequest (Sample.request [Sample.condition Condition.approved] [] none),
    .insertIssuer .origin Sample.issuer,
    .insertSecret (.single "default" "service-key" "key" serviceKey)]

/-- The sample world after these changes, where signers are clients of an endpoint. -/
def keyedWorld (serviceKey : Bytes) : World Script :=
  { sample (keyedChanges serviceKey) with
    authority := { Script.new with endpoint := some ("https://api.test/v4", Endpoint.new []) } }

/-- The text of a key with a line feed in it. -/
theorem keyText_lineFeed : KeyText [118, 49, 10, 107] "v1\nk" where
  trimmed := ⟨"v1\nk", by decide +kernel, by decide +kernel⟩
  nonblank := by decide

theorem unsendable_lineFeed : Unsendable "v1\nk" :=
  ⟨10, by decide +kernel, .inl ⟨by decide, by decide⟩⟩

/-- The key is used for the sample request. -/
def keyedCredential (serviceKey : Bytes) : Credential Sample.settings (keyedWorld serviceKey)
    ((Sample.request [Sample.condition Condition.approved] [] none).atVersion "1") serviceKey where
  issuerKey := .origin ⟨"default", "prod"⟩
  keyNs := "default"
  issuer := Sample.issuer.atVersion "2"
  secret := .single "default" "service-key" "key" serviceKey
  eligible :=
    ⟨.inl rfl, by decide, by decide, by decide, by decide, .inr (by decide), rfl, rfl⟩
  names := ⟨"default", rfl, .inl ⟨rfl, rfl, rfl⟩⟩
  found := rfl
  ready := rfl
  kept := rfl
  selected := rfl

theorem read_keyed (serviceKey : Bytes) : (keyedWorld serviceKey).readRequest Sample.key
    = .ok ((Sample.request [Sample.condition Condition.approved] [] none).atVersion "1") := rfl

/-- A key with a line feed in it fails the request for good, and one of white space does not. -/
theorem service_key_decides_end_samples :
    CallEnd.refused.Reached (keyedWorld [118, 49, 10, 107]) Sample.key
        ((keyedWorld [118, 49, 10, 107]).run Script.authority
          (RequestReconcile.reconcile Sample.settings "default" "web"))
      ∧ CallEnd.postponed.Reached (keyedWorld [32, 10]) Sample.key
        ((keyedWorld [32, 10]).run Script.authority
          (RequestReconcile.reconcile Sample.settings "default" "web")) := by
  have reached (serviceKey : Bytes) :
      (keyedWorld serviceKey).store = .afterChanges (keyedChanges serviceKey) := rfl
  have blank : ∀ text, ¬ KeyText [32, 10] text := by
    rintro text ⟨⟨s, hs, rfl⟩, nonblank⟩
    have hread := Text.decodeUtf8_eq_ok.mpr hs
    have hencoded : [32, 10] = Text.encodeUtf8 " \n" := by decide +kernel
    rw [Text.decodeUtf8_eq_ok.mpr hencoded] at hread
    cases hread
    exact nonblank (by decide +kernel)
  have lineFeed := service_key_decides_end (reached _) ⟨rfl, rfl⟩ rfl rfl (read_keyed _)
    (keyedCredential [118, 49, 10, 107])
  have spaces := service_key_decides_end (reached _) ⟨rfl, rfl⟩ rfl rfl (read_keyed _)
    (keyedCredential [32, 10])
  exact ⟨((lineFeed.2 _ keyText_lineFeed).2.2 unsendable_lineFeed).2, (spaces.1 blank).2.2⟩

/-- A key that cannot be sent has a client all the same, and fails the request for good. -/
theorem failed_by_line_feed :
    Unsendable "v1\nk" ∧ KeyText [118, 49, 10, 107] "v1\nk"
      ∧ Client.new "https://api.test/v4" [118, 49, 10, 107] = .ok ⟨"https://api.test/v4", "v1\nk"⟩
      ∧ CallEnd.refused.Reached (keyedWorld [118, 49, 10, 107]) Sample.key
        ((keyedWorld [118, 49, 10, 107]).run Script.authority
          (RequestReconcile.reconcile Sample.settings "default" "web")) := by
  have keyed := MemoryStore.keyed_of_reached
    (show (keyedWorld [118, 49, 10, 107]).store = .afterChanges (keyedChanges [118, 49, 10, 107])
      from rfl)
  have used := (keyedCredential [118, 49, 10, 107]).used (a := Script.authority) (read_keyed _)
  have refused := refused_of_unsendable rfl rfl used keyed ⟨rfl, rfl⟩ keyText_lineFeed
    unsendable_lineFeed
  exact ⟨unsendable_lineFeed, keyText_lineFeed, Client.new_eq_ok.mpr ⟨keyText_lineFeed, rfl⟩,
    refused.2⟩

end World
end CertIssuer
