import CertIssuer.Proofs.Interleaving
import CertIssuer.Proofs.Sources

/-!
Independence: reconciles of different requests that are in flight at the same time end as each of
them would alone, however their operations are interleaved.

A reconcile asks for its request, for sources that no reconcile of a request changes, and for the
time. So it keeps to one course, the one it takes in a world that answers everything as the world
did at the start. The invariant of an interleaving is that every flight is on its course: until it
has recorded something its request is as it was at the start, and afterwards it makes no access any
more.
-/

namespace CertIssuer

variable {σ ω α : Type}

/-- The object without its version. -/
def Object.unversioned {τ υ : Type} (o : Object τ υ) : Object τ υ :=
  { o with metadata := { o.metadata with resourceVersion := none } }

/-! ### Courses -/

namespace RequestReconcile

variable {r : CertificateRequest} {l l₁ l₂ : List (Access σ)} {x : Access σ}
  {record : Option CertificateRequest}

/-- The first access of a recording is no write, or it is the record and nothing follows. -/
theorem Recording.cons_cases (h : Recording (x :: l) record) :
    (x.isWrite = false ∧ Recording l record)
      ∨ (l = [] ∧ ∃ r' written, x = .writeRequest r' written ∧ record = some r') := by
  generalize hl : x :: l = accesses at h
  cases h with
  | nothing quiet =>
    subst hl
    exact .inl ⟨quiet x List.mem_cons_self,
      .nothing fun y hy => quiet y (List.mem_cons_of_mem x hy)⟩
  | @record before r' written quiet =>
    cases before with
    | nil =>
      cases hl
      exact .inr ⟨rfl, r', written, rfl, rfl⟩
    | cons y before =>
      cases hl
      exact .inl ⟨quiet x List.mem_cons_self,
        .record fun y hy => quiet y (List.mem_cons_of_mem x hy)⟩

theorem Recording.of_append (h : Recording (l₁ ++ l₂) record)
    (quiet : ∀ x ∈ l₁, x.isWrite = false) : Recording l₂ record := by
  induction l₁ with
  | nil => exact h
  | cons x l₁ ih =>
    rcases h.cons_cases with ⟨_, hrest⟩ | ⟨_, r', written, rfl, _⟩
    · exact ih hrest fun y hy => quiet y (List.mem_cons_of_mem x hy)
    · cases quiet _ List.mem_cons_self

/-- Nothing is recorded without an access. -/
theorem Recording.eq_none (h : Recording ([] : List (Access σ)) record) : record = none := by
  generalize hl : ([] : List (Access σ)) = accesses at h
  cases h with
  | nothing _ => rfl
  | record _ => simp at hl

/-- The accesses that a reconcile has still to make: of the requests it reads only its own, and all
that it writes is a record over its request at the end. -/
structure Course (key : ObjectKey) (r : CertificateRequest) (l : List (Access σ))
    (record : Option CertificateRequest) : Prop where
  recording : Recording l record
  own : ∀ other answer, .readRequest other answer ∈ l → other = key
  metadata : ∀ r', record = some r' → r'.metadata = r.metadata

theorem Course.of_append {key : ObjectKey} (h : Course key r (l₁ ++ l₂) record)
    (quiet : ∀ x ∈ l₁, x.isWrite = false) : Course key r l₂ record :=
  ⟨h.recording.of_append quiet, fun _ _ mem => h.own _ _ (List.mem_append_right _ mem), h.metadata⟩

/-- The request after this was recorded over it. -/
def recorded (r : CertificateRequest) : Option CertificateRequest → CertificateRequest
  | none => r
  | some r' => { r with status := r'.status }

/-- Once it was read, no request is read again. -/
theorem Outcome.not_mem_readRequest {settings : Settings} {b : Except ReconcileError Unit}
    (outcome : Outcome settings r l b) (key : ObjectKey)
    (answer : Except StoreError CertificateRequest) : .readRequest key answer ∉ l := by
  cases outcome with
  | left _ _ | denied _ _ _ _ | homeless _ | unknownKind _ _ _ _ => simp
  | signing kind ns _ _ _ signing =>
    cases signing with
    | unresolved _ _ _ _ _ | keyless _ _ _ _ _ _ _ _ | signerless _ _ _ _ _ _ _ => simp
    | opened _ _ _ _ _ _ _ _ _ call =>
      cases call with
      | malformed _ _ _ _ | issued _ _ _ _ _ | transient _ _ _ _ | rejected _ _ _ _ _ _ => simp

end RequestReconcile

namespace World

variable {a : Authority σ ω} {w v : World ω} {keys : List ObjectKey} {key : ObjectKey}
  {r : CertificateRequest}

/-- A world that goes on answering everything as `w` would answer it now. -/
def still (a : Authority σ ω) (w : World ω) : Plan.Handler σ Unit where
  handle op u := (((handler a).handle op w).1, u)

/-- A reconcile of a stored request has a course. -/
theorem exists_course (a : Authority σ ω) (settings : RequestReconcile.Settings)
    (stored : w.store.requests.get? key = some r) :
    ∃ record, RequestReconcile.Course key r
      ((RequestReconcile.reconcile settings key.ns key.name).accesses (w.still a) ()) record := by
  have path :=
    Plan.path_run (w.still a) (RequestReconcile.reconcile settings key.ns key.name) ()
  rcases RequestReconcile.path_reconcile path with ⟨o, rest, hl, outcome⟩ | ⟨e, hl, _⟩
  · obtain ⟨record, recording, ending⟩ := RequestReconcile.ending_of_outcome outcome
    have read : w.readRequest key = .ok o :=
      (Access.readRequest.inj (List.head_eq_of_cons_eq hl)).2
    obtain rfl := Option.some.inj (stored.symm.trans (stored_of_readRequest read))
    rw [hl]
    refine ⟨record, recording.cons rfl, fun other answer mem => ?_, ?_⟩
    · rcases List.mem_cons.mp mem with hread | hrest
      · cases hread
        rfl
      · exact absurd hrest (outcome.not_mem_readRequest other answer)
    · rintro r' rfl
      exact ending.metadata_eq
  · rw [hl]
    refine ⟨none, .nothing (by simp [Access.isWrite]), fun other answer mem => ?_,
      fun _ h => nomatch h⟩
    cases List.mem_singleton.mp mem
    rfl

/-! ### One operation -/

/-- A world beside `w` that holds the same request where one is read answers everything but writes
as `w` does, and keeps its store. -/
theorem Beside.handle_quiet (beside : Beside keys w v) (steady : a.Steady) (op : Op σ)
    (quiet : ∀ x ∈ op.accesses ((handler a).handle op w).1, x.isWrite = false)
    (own : ∀ key answer, .readRequest key answer ∈ op.accesses ((handler a).handle op w).1 →
      v.store.requests.get? key = w.store.requests.get? key) :
    ((handler a).handle op v).1 = ((handler a).handle op w).1
      ∧ ((handler a).handle op v).2.store = v.store := by
  have told := beside.sources_eq steady
  cases op with
  | readRequest key =>
    exact ⟨readRequest_congr (own key _ List.mem_cons_self) beside.faults, rfl⟩
  | readIssuer key => exact ⟨congrFun (congrArg Sources.issuer told) key, rfl⟩
  | readSecret key => exact ⟨congrFun (congrArg Sources.secret told) key, rfl⟩
  | openSigner serviceKey => exact ⟨congrFun (congrArg Sources.opened told) serviceKey, rfl⟩
  | sign signer request =>
    exact ⟨congrFun (congrFun (congrArg Sources.signed told) signer) request, rfl⟩
  | writeRequest _ | writeIssuer _ _ => cases quiet _ List.mem_cons_self
  | now => exact ⟨beside.now, rfl⟩
  | note _ | tally _ => exact ⟨rfl, rfl⟩

/-- A record over the stored request is accepted where status writes are. -/
theorem writeRequest_of_stored {r' : CertificateRequest} (accepting : w.Accepting)
    (stored : w.store.requests.get? r.key = some r) (hmeta : r'.metadata = r.metadata) :
    w.writeRequest r' = (.ok (), { w with store := w.store.withStatus r r'.status }) := by
  rw [writeRequest, guarded, accepting.faultless,
    MemoryStore.writeRequest_of_stored stored hmeta accepting.writable]
  rfl

/-! ### One reconcile on its course -/

/-- What a reconcile of the request with that key leads to: its result, and the request after it,
whose version is left out. -/
structure Aim where
  key : ObjectKey
  result : Except ReconcileError Unit
  request : CertificateRequest

/-- A reconcile that started in the world `w` goes on with `p` in the world `v`, and leads to its
aim. -/
inductive OnCourse (a : Authority σ ω) (w : World ω) (aim : Aim) (v : World ω)
    (p : Plan σ (Except ReconcileError Unit)) : Prop
  /-- Its request is as it was. -/
  | underway (r : CertificateRequest) (record : Option CertificateRequest)
      (before : w.store.requests.get? aim.key = some r)
      (stored : v.store.requests.get? aim.key = some r)
      (course : RequestReconcile.Course aim.key r (p.accesses (w.still a) ()) record)
      (result : (p.run (w.still a) ()).1 = aim.result)
      (request : (RequestReconcile.recorded r record).unversioned = aim.request)
  /-- Its record is stored, and there is nothing left to do. -/
  | finished (o : CertificateRequest) (stored : v.store.requests.get? aim.key = some o)
      (silent : p.accesses (w.still a) () = []) (result : (p.run (w.still a) ()).1 = aim.result)
      (request : o.unversioned = aim.request)

variable {aim : Aim} {p : Plan σ (Except ReconcileError Unit)} {op : Op σ}
  {next : op.Answer → Plan σ (Except ReconcileError Unit)} {v' : World ω}

/-- Only its own request matters to a reconcile on its course. -/
theorem OnCourse.congr (h : OnCourse a w aim v p)
    (same : v'.store.requests.get? aim.key = v.store.requests.get? aim.key) :
    OnCourse a w aim v' p := by
  cases h with
  | underway r record before stored course result request =>
    exact .underway r record before (same.trans stored) course result request
  | finished o stored silent result request =>
    exact .finished o (same.trans stored) silent result request

/-- A stored request has an aim. -/
theorem exists_aim (a : Authority σ ω) (settings : RequestReconcile.Settings)
    (stored : w.store.requests.get? key = some r) :
    ∃ aim : Aim, aim.key = key
      ∧ OnCourse a w aim w (RequestReconcile.reconcile settings key.ns key.name) := by
  obtain ⟨record, course⟩ := exists_course a settings stored
  exact ⟨⟨key, _, _⟩, rfl, .underway r record stored stored course rfl rfl⟩

/-- A reconcile that has ended has reached its aim. -/
theorem OnCourse.reached {b : Except ReconcileError Unit} (h : OnCourse a w aim v (.done b)) :
    b = aim.result
      ∧ (v.store.requests.get? aim.key).map Object.unversioned = some aim.request := by
  cases h with
  | underway r record before stored course result request =>
    obtain rfl := course.recording.eq_none
    rw [stored]
    exact ⟨result, congrArg some request⟩
  | finished o stored silent result request =>
    rw [stored]
    exact ⟨result, congrArg some request⟩

/-- What an operation of a reconcile on its course does to the world: it changes no request but its
own, and a write is accepted. -/
structure Proceeds (a : Authority σ ω) (aim : Aim) (w v : World ω) (op : Op σ)
    (next : op.Answer → Plan σ (Except ReconcileError Unit)) : Prop where
  onCourse : OnCourse a w aim ((handler a).handle op v).2 (next ((handler a).handle op v).1)
  accepted : ∀ x ∈ op.accesses ((handler a).handle op v).1, x.isFailedWrite = false
  store : ((handler a).handle op v).2.store = v.store
    ∨ ∃ r status, r.key = aim.key ∧ ((handler a).handle op v).2.store = v.store.withStatus r status

/-- An operation that is no write goes as it would in `w`. -/
theorem OnCourse.proceeds_quiet (h : OnCourse a w aim v (.ask op next)) (beside : Beside keys w v)
    (steady : a.Steady)
    (quiet : ∀ x ∈ op.accesses ((handler a).handle op w).1, x.isWrite = false) :
    Proceeds a aim w v op next := by
  have own : ∀ key answer, .readRequest key answer ∈ op.accesses ((handler a).handle op w).1 →
      v.store.requests.get? key = w.store.requests.get? key := by
    intro key answer mem
    cases h with
    | underway r record before stored course _ _ =>
      rw [course.own key answer (List.mem_append_left _ mem), stored, before]
    | finished o stored silent _ _ =>
      have hsilent : op.accesses ((handler a).handle op w).1 = [] :=
        (List.append_eq_nil_iff.mp silent).1
      rw [hsilent] at mem
      cases mem
  obtain ⟨hanswer, hstore⟩ := beside.handle_quiet steady op quiet own
  refine ⟨?_, fun x hx => ?_, .inl hstore⟩
  · rw [hanswer]
    cases h with
    | underway r record before stored course result request =>
      exact .underway r record before (hstore ▸ stored) (course.of_append quiet) result request
    | finished o stored silent result request =>
      exact .finished o (hstore ▸ stored) (List.append_eq_nil_iff.mp silent).2 result request
  · rw [hanswer] at hx
    cases failed : x.isFailedWrite with
    | false => rfl
    | true =>
      have written := Access.isWrite_of_isFailedWrite failed
      rw [quiet x hx] at written
      cases written

/-- The record of a reconcile is accepted, whatever was written before it. -/
theorem OnCourse.proceeds_write {r' : CertificateRequest}
    {next : Except StoreError Unit → Plan σ (Except ReconcileError Unit)}
    (h : OnCourse a w aim v (.ask (.writeRequest r') next)) (beside : Beside keys w v)
    (accepting : w.Accepting) (keyed : w.store.Keyed) :
    Proceeds a aim w v (.writeRequest r') next := by
  cases h with
  | finished o stored silent result request => cases silent
  | underway r record before stored course result request =>
    rcases course.recording.cons_cases with ⟨quiet, _⟩ | ⟨hrest, _, _, hwrite, hrecord⟩
    · cases quiet
    · obtain rfl := (Access.writeRequest.inj hwrite).1
      have hkey : r.key = aim.key := keyed _ r before
      have hmeta := course.metadata _ hrecord
      have answerThen : ((handler a).handle (.writeRequest r') w).1 = .ok () :=
        congrArg Prod.fst (writeRequest_of_stored accepting (hkey ▸ before) hmeta)
      have handled : (handler a).handle (.writeRequest r') v
          = (.ok (), { v with store := v.store.withStatus r r'.status }) :=
        writeRequest_of_stored (beside.accepting accepting) (hkey ▸ stored) hmeta
      have silent : (next (.ok ())).accesses (w.still a) () = [] := by
        rw [← answerThen]
        exact hrest
      have result : ((next (.ok ())).run (w.still a) ()).1 = aim.result := by
        rw [← answerThen]
        exact result
      refine ⟨?_, ?_, ?_⟩
      · rw [handled]
        rw [hrecord] at request
        exact .finished _ (v.store.get?_withStatus r'.status hkey) silent result request
      · rw [handled]
        intro x hx
        rw [List.mem_singleton.mp hx]
        rfl
      · rw [handled]
        exact .inr ⟨r, r'.status, hkey, rfl⟩

/-- A reconcile on its course writes no issuer. -/
theorem OnCourse.proceeds (h : OnCourse a w aim v (.ask op next)) (beside : Beside keys w v)
    (steady : a.Steady) (accepting : w.Accepting) (keyed : w.store.Keyed) :
    Proceeds a aim w v op next := by
  cases op with
  | writeRequest r' => exact h.proceeds_write beside accepting keyed
  | writeIssuer kind i =>
    cases h with
    | finished o stored silent result request => cases silent
    | underway r record before stored course result request =>
      exact absurd List.mem_cons_self
        (RequestReconcile.not_mem_writeIssuer course.recording kind i _)
  | readRequest _ | readIssuer _ | readSecret _ | openSigner _ | sign _ _ | now | note _
  | tally _ => exact h.proceeds_quiet beside steady (by simp [Op.accesses, Access.isWrite])

/-- After an operation the world is still beside the one at the start. -/
theorem Proceeds.beside (h : Proceeds a aim w v op next) (beside : Beside keys w v)
    (mem : aim.key ∈ keys) : Beside keys w ((handler a).handle op v).2 := by
  obtain ⟨hfaults, hnow⟩ := surroundings_handle a op v
  refine ⟨?_, hfaults.trans beside.faults, hnow.trans beside.now⟩
  rcases h.store with hsame | ⟨r, status, hkey, hstore⟩
  · rw [hsame]
    exact beside.store
  · rw [hstore]
    exact beside.store.withStatus (hkey ▸ mem)

/-- An operation leaves the requests of others as they are. -/
theorem Proceeds.get?_of_ne (h : Proceeds a aim w v op next) (hne : key ≠ aim.key) :
    ((handler a).handle op v).2.store.requests.get? key = v.store.requests.get? key := by
  rcases h.store with hsame | ⟨r, status, hkey, hstore⟩
  · rw [hsame]
  · rw [hstore]
    exact MemoryStore.get?_withStatus_of_ne (hkey ▸ hne)

end World

/-! ### Interleavings -/

/-- The result of a flight that has ended. -/
def Flight.result? (f : Flight σ) : Option (Except ReconcileError Unit) :=
  match f.rest with
  | .done b => some b
  | .ask _ _ => none

instance : DecidableEq (Except ReconcileError Unit)
  | .ok (), .ok () => isTrue rfl
  | .error e, .error e' => decidable_of_iff (e = e') ⟨congrArg Except.error, Except.error.inj⟩
  | .ok _, .error _ | .error _, .ok _ => isFalse nofun

theorem Flight.rest_of_result {f : Flight σ} {b : Except ReconcileError Unit}
    (h : f.result? = some b) : f.rest = .done b := by
  unfold result? at h
  split at h
  · next hrest =>
    cases h
    exact hrest
  · cases h

namespace Fleet

/-- Reconciles of the requests with these keys, all about to start. -/
def reconciling (settings : RequestReconcile.Settings) (w : World ω) (keys : List ObjectKey) :
    Fleet σ ω :=
  ⟨w, keys.map fun key => ⟨settings, RequestReconcile.reconcile settings key.ns key.name⟩, []⟩

/-- The fleet after its flights made their operations in the order of a schedule. -/
def follow (a : Authority σ ω) (S : Fleet σ ω) (schedule : List Nat) : Fleet σ ω :=
  S.run a (schedule.map .proceed)

/-- The access that a flight makes with its next operation, if it makes one. -/
def accessesAt (a : Authority σ ω) (S : Fleet σ ω) (i : Nat) : List (Access σ) :=
  match S.flights[i]?.map Flight.rest with
  | some (.ask op _) => op.accesses ((World.handler a).handle op S.world).1
  | _ => []

/-- The accesses that flights make on a schedule. -/
def accessesAlong (a : Authority σ ω) : Fleet σ ω → List Nat → List (Access σ)
  | _, [] => []
  | S, i :: schedule => S.accessesAt a i ++ (S.step a (.proceed i)).accessesAlong a schedule

/-- All flights have ended, with these results. -/
def Ended (S : Fleet σ ω) (results : List (Except ReconcileError Unit)) : Prop :=
  S.flights.map Flight.result? = results.map some

instance (S : Fleet σ ω) (results : List (Except ReconcileError Unit)) :
    Decidable (S.Ended results) :=
  inferInstanceAs (Decidable (S.flights.map Flight.result? = results.map some))

/-- Every flight is on its course to its aim. -/
structure Abreast (a : Authority σ ω) (w : World ω) (aims : List World.Aim) (S : Fleet σ ω) :
    Prop where
  beside : World.Beside (aims.map World.Aim.key) w S.world
  length : S.flights.length = aims.length
  onCourse : ∀ (i : Nat) (aim : World.Aim) (f : Flight σ), aims[i]? = some aim →
    S.flights[i]? = some f → World.OnCourse a w aim S.world f.rest

variable {a : Authority σ ω} {w : World ω} {S : Fleet σ ω} {aims : List World.Aim} {i : Nat}
  {f : Flight σ}

/-- An operation of one flight keeps all of them on their courses, and no write fails. -/
theorem Abreast.proceed (h : Abreast a w aims S) (distinct : (aims.map World.Aim.key).Nodup)
    (steady : a.Steady) (accepting : w.Accepting) (keyed : w.store.Keyed) (i : Nat) :
    Abreast a w aims (S.step a (.proceed i)) ∧ ∀ x ∈ S.accessesAt a i, x.isFailedWrite = false := by
  cases hf : S.flights[i]? with
  | none => simp [Fleet.step, accessesAt, hf, h]
  | some f =>
    obtain ⟨hi, _⟩ := List.getElem?_eq_some_iff.mp hf
    obtain ⟨aim, haim⟩ : ∃ aim, aims[i]? = some aim :=
      ⟨_, List.getElem?_eq_getElem (h.length ▸ hi)⟩
    have onCourse := h.onCourse i aim f haim hf
    cases hrest : f.rest with
    | done b => simp [Fleet.step, accessesAt, hf, Fleet.advance, hrest, h]
    | ask op next =>
      rw [hrest] at onCourse
      have proceeds := onCourse.proceeds h.beside steady accepting keyed
      have mem : aim.key ∈ aims.map World.Aim.key := List.mem_map_of_mem (List.mem_of_getElem? haim)
      have hstep : S.step a (.proceed i) = S.advance a i f := by simp only [Fleet.step, hf]
      have haccesses : S.accessesAt a i = op.accesses ((World.handler a).handle op S.world).1 := by
        simp only [accessesAt, hf, Option.map_some, hrest]
      rw [hstep, haccesses, Fleet.advance, hrest]
      refine ⟨⟨proceeds.beside h.beside mem, ?_, fun j other g hother hg => ?_⟩, proceeds.accepted⟩
      · exact List.length_set.trans h.length
      · by_cases hj : i = j
        · subst hj
          rw [List.getElem?_set_self hi] at hg
          cases hg
          cases haim.symm.trans hother
          exact proceeds.onCourse
        · -- other flights do not notice
          rw [List.getElem?_set_ne hj] at hg
          refine (h.onCourse j other g hother hg).congr (proceeds.get?_of_ne fun hkey => hj ?_)
          refine (List.getElem?_inj ?_ distinct).mp ?_
          · rw [List.length_map, ← h.length]
            exact hi
          · rw [List.getElem?_map, List.getElem?_map, haim, hother, Option.map_some,
              Option.map_some, hkey]

/-- A schedule keeps all flights on their courses, and no write fails on the way. -/
theorem Abreast.follow (h : Abreast a w aims S) (distinct : (aims.map World.Aim.key).Nodup)
    (steady : a.Steady) (accepting : w.Accepting) (keyed : w.store.Keyed) (schedule : List Nat) :
    Abreast a w aims (S.follow a schedule)
      ∧ ∀ x ∈ S.accessesAlong a schedule, x.isFailedWrite = false := by
  induction schedule generalizing S with
  | nil => exact ⟨h, fun x hx => nomatch hx⟩
  | cons i schedule ih =>
    obtain ⟨hstep, hnow⟩ := h.proceed distinct steady accepting keyed i
    obtain ⟨hend, hlater⟩ := ih hstep
    refine ⟨hend, fun x hx => ?_⟩
    rcases List.mem_append.mp hx with hx | hx
    · exact hnow x hx
    · exact hlater x hx

/-- When all flights have ended, all aims are reached. -/
theorem Abreast.reached {results : List (Except ReconcileError Unit)} (h : Abreast a w aims S)
    (ended : S.Ended results) : results = aims.map World.Aim.result
      ∧ ∀ aim ∈ aims, (S.world.store.requests.get? aim.key).map Object.unversioned
        = some aim.request := by
  have hlength : S.flights.length = results.length := by simpa using congrArg List.length ended
  have flight : ∀ (i : Nat) (aim : World.Aim), aims[i]? = some aim →
      results[i]? = some aim.result
        ∧ (S.world.store.requests.get? aim.key).map Object.unversioned = some aim.request := by
    intro i aim haim
    obtain ⟨hi, _⟩ := List.getElem?_eq_some_iff.mp haim
    have hf := List.getElem?_eq_getElem (h.length ▸ hi)
    have hb := List.getElem?_eq_getElem (hlength ▸ h.length ▸ hi)
    have hresult := congrArg (fun l => l[i]?) ended
    simp only [List.getElem?_map, hf, hb, Option.map_some, Option.some.injEq] at hresult
    have onCourse := h.onCourse i aim _ haim hf
    rw [Flight.rest_of_result hresult] at onCourse
    rw [hb, onCourse.reached.1]
    exact ⟨rfl, onCourse.reached.2⟩
  refine ⟨List.ext_getElem? fun i => ?_, fun aim mem => ?_⟩
  · cases haim : aims[i]? with
    | some aim => rw [(flight i aim haim).1, List.getElem?_map, haim, Option.map_some]
    | none =>
      have hi := List.getElem?_eq_none_iff.mp haim
      rw [List.getElem?_map, haim, Option.map_none, List.getElem?_eq_none_iff, ← hlength, h.length]
      exact hi
  · obtain ⟨i, haim⟩ := List.getElem?_of_mem mem
    exact (flight i aim haim).2

/-! ### One flight after the other -/

/-- A flight that makes all of its operations in a row does what its plan does when it is run. -/
theorem exists_schedule_alone (a : Authority σ ω) (S : Fleet σ ω)
    {settings : RequestReconcile.Settings} {p : Plan σ (Except ReconcileError Unit)}
    (hf : S.flights[i]? = some ⟨settings, p⟩) :
    ∃ schedule, S.follow a schedule = { S with
      world := (S.world.run a p).2
      flights := S.flights.set i ⟨settings, .done (S.world.run a p).1⟩ } := by
  induction p generalizing S with
  | done b =>
    obtain ⟨hi, hget⟩ := List.getElem?_eq_some_iff.mp hf
    refine ⟨[], ?_⟩
    have hset : S.flights.set i ⟨settings, .done b⟩ = S.flights := by
      rw [← hget]
      exact List.set_getElem_self hi
    change S = { S with world := S.world, flights := S.flights.set i ⟨settings, .done b⟩ }
    rw [hset]
  | ask op next ih =>
    obtain ⟨hi, _⟩ := List.getElem?_eq_some_iff.mp hf
    let answered := (World.handler a).handle op S.world
    have hstep : S.step a (.proceed i) = { S with
        world := answered.2, flights := S.flights.set i ⟨settings, next answered.1⟩ } := by
      simp only [Fleet.step, hf, Fleet.advance]
      rfl
    obtain ⟨schedule, hschedule⟩ := ih answered.1 (S.step a (.proceed i)) (by
      rw [hstep]
      exact List.getElem?_set_self hi)
    refine ⟨i :: schedule, ?_⟩
    change (S.step a (.proceed i)).follow a schedule = _
    rw [hschedule, hstep]
    simp only [List.set_set]
    rfl

/-! ### Ends -/

variable {settings : RequestReconcile.Settings} {keys : List ObjectKey}

/-- What reconciles of the requests with these keys lead to, each of them alone: these are their
results, every request is as its own reconcile leaves it, versions apart, and nothing else has
changed. -/
structure EndsAlone (a : Authority σ ω) (settings : RequestReconcile.Settings) (w : World ω)
    (keys : List ObjectKey) (results : List (Except ReconcileError Unit)) (store : MemoryStore) :
    Prop where
  results : results
    = keys.map fun key => (w.run a (RequestReconcile.reconcile settings key.ns key.name)).1
  requests : ∀ key ∈ keys, (store.requests.get? key).map Object.unversioned
    = ((w.run a (RequestReconcile.reconcile settings key.ns key.name)).2.store.requests.get?
      key).map Object.unversioned
  others : w.store.SameBut keys store

/-- The aims of reconciles that start in a world. -/
def Start (a : Authority σ ω) (settings : RequestReconcile.Settings) (w : World ω)
    (aims : List World.Aim) : Prop :=
  ∀ aim ∈ aims, World.OnCourse a w aim w
    (RequestReconcile.reconcile settings aim.key.ns aim.key.name)

theorem exists_start (a : Authority σ ω) (settings : RequestReconcile.Settings)
    (keys : List ObjectKey) (stored : ∀ key ∈ keys, ∃ r, w.store.requests.get? key = some r) :
    ∃ aims, aims.map World.Aim.key = keys ∧ Start a settings w aims := by
  induction keys with
  | nil => exact ⟨[], rfl, fun aim mem => nomatch mem⟩
  | cons key keys ih =>
    obtain ⟨aims, rfl, starts⟩ := ih fun other mem => stored other (List.mem_cons_of_mem key mem)
    obtain ⟨r, hr⟩ := stored key List.mem_cons_self
    obtain ⟨aim, rfl, onCourse⟩ := World.exists_aim a settings hr
    refine ⟨aim :: aims, rfl, fun other mem => ?_⟩
    rcases List.mem_cons.mp mem with rfl | mem
    · exact onCourse
    · exact starts other mem

theorem Start.abreast (starts : Start a settings w aims) :
    Abreast a w aims (reconciling settings w (aims.map World.Aim.key)) := by
  refine ⟨.refl _ w, by simp [reconciling], fun i aim f haim hf => ?_⟩
  simp only [reconciling, List.getElem?_map, haim, Option.map_some, Option.some.injEq] at hf
  subst hf
  exact starts aim (List.mem_of_getElem? haim)

/-- A reconcile that runs alone reaches its aim. -/
theorem reached_alone {aim : World.Aim} (steady : a.Steady) (accepting : w.Accepting)
    (keyed : w.store.Keyed)
    (start : World.OnCourse a w aim w
      (RequestReconcile.reconcile settings aim.key.ns aim.key.name)) :
    let alone := w.run a (RequestReconcile.reconcile settings aim.key.ns aim.key.name)
    alone.1 = aim.result
      ∧ (alone.2.store.requests.get? aim.key).map Object.unversioned = some aim.request := by
  have starts : Start a settings w [aim] := by
    intro other mem
    rw [List.mem_singleton.mp mem]
    exact start
  obtain ⟨schedule, hschedule⟩ := exists_schedule_alone a
    (reconciling settings w [aim.key]) (i := 0) rfl
  have abreast := (starts.abreast.follow (by simp) steady accepting keyed schedule).1
  rw [List.map_singleton, hschedule] at abreast
  exact (abreast.onCourse 0 aim _ rfl rfl).reached

theorem Abreast.endsAlone {results : List (Except ReconcileError Unit)} (h : Abreast a w aims S)
    (ended : S.Ended results) (starts : Start a settings w aims) (steady : a.Steady)
    (accepting : w.Accepting) (keyed : w.store.Keyed) :
    EndsAlone a settings w (aims.map World.Aim.key) results S.world.store := by
  obtain ⟨hresults, hrequests⟩ := h.reached ended
  refine ⟨?_, fun key mem => ?_, h.beside.store⟩
  · rw [hresults, List.map_map]
    refine List.map_congr_left fun aim mem => ?_
    exact (reached_alone steady accepting keyed (starts aim mem)).1.symm
  · obtain ⟨aim, hmem, rfl⟩ := List.mem_map.mp mem
    rw [hrequests aim hmem]
    exact (reached_alone steady accepting keyed (starts aim hmem)).2.symm

/-- However their operations are interleaved, no status write of reconciles of different requests
fails, and each of them ends as it would alone. -/
theorem follow_reconciling (steady : a.Steady) (settings : RequestReconcile.Settings)
    (accepting : w.Accepting) (keyed : w.store.Keyed) (keys : List ObjectKey)
    (distinct : keys.Nodup) (stored : ∀ key ∈ keys, ∃ r, w.store.requests.get? key = some r)
    (schedule : List Nat) :
    let fleet : Fleet σ ω := reconciling settings w keys
    (fleet.follow a schedule).flights.length = keys.length
      ∧ (∀ x ∈ fleet.accessesAlong a schedule, x.isFailedWrite = false)
      ∧ ∀ results, (fleet.follow a schedule).Ended results →
        EndsAlone a settings w keys results (fleet.follow a schedule).world.store := by
  obtain ⟨aims, rfl, starts⟩ := exists_start a settings keys stored
  obtain ⟨abreast, accepted⟩ := starts.abreast.follow distinct steady accepting keyed schedule
  refine ⟨?_, accepted, fun results ended => ?_⟩
  · rw [abreast.length, List.length_map]
  · exact abreast.endsAlone ended starts steady accepting keyed

/-! ### Two flights -/

theorem follow_append (a : Authority σ ω) (S : Fleet σ ω) (l₁ l₂ : List Nat) :
    S.follow a (l₁ ++ l₂) = (S.follow a l₁).follow a l₂ := by
  rw [follow, List.map_append]
  exact List.foldl_append

/-- Two flights can make all of their operations one after the other. -/
theorem exists_schedule_in_turn (a : Authority σ ω) (S : Fleet σ ω) {i j : Nat} {f g : Flight σ}
    (hf : S.flights[i]? = some f) (hg : S.flights[j]? = some g) (hne : i ≠ j) :
    let first := S.world.run a f.rest
    let second := first.2.run a g.rest
    ∃ schedule, S.follow a schedule = { S with
      world := second.2
      flights := (S.flights.set i ⟨f.settings, .done first.1⟩).set j
        ⟨g.settings, .done second.1⟩ } := by
  intro first second
  obtain ⟨l₁, h₁⟩ := exists_schedule_alone a S hf
  have hg₁ : (S.follow a l₁).flights[j]? = some g := by
    rw [h₁]
    exact (List.getElem?_set_ne hne).trans hg
  obtain ⟨l₂, h₂⟩ := exists_schedule_alone a (S.follow a l₁) hg₁
  refine ⟨l₁ ++ l₂, ?_⟩
  rw [follow_append, h₂, h₁]

/-- Two flights can be carried to their ends. -/
theorem exists_ended (a : Authority σ ω) (h : S.flights.length = 2) :
    ∃ rest results, (S.follow a rest).Ended results := by
  obtain ⟨f, g, hflights⟩ : ∃ f g, S.flights = [f, g] := by
    match S.flights, h with
    | [f, g], _ => exact ⟨f, g, rfl⟩
  obtain ⟨rest, hrest⟩ := exists_schedule_in_turn a S (i := 0) (j := 1) (by rw [hflights]; rfl)
    (by rw [hflights]; rfl) (by decide)
  let last := S.world.run a f.rest
  refine ⟨rest, [last.1, (last.2.run a g.rest).1], ?_⟩
  rw [hrest, hflights]
  rfl

/-- Where status writes are accepted and the answers of the authority are functions of what it is
asked, two reconciles of different requests end as each of them would alone: however their
operations are interleaved, and in both orders in which one follows the other. No status write fails
on the way, and every interleaving can be carried to its end. -/
theorem reconciles_independent (steady : a.Steady) (settings : RequestReconcile.Settings)
    {changes : List Change} (reached : w.store = .afterChanges changes) (accepting : w.Accepting)
    {key other : ObjectKey} (hne : key ≠ other) {r o : CertificateRequest}
    (stored : w.store.requests.get? key = some r)
    (storedOther : w.store.requests.get? other = some o) :
    let fleet : Fleet σ ω := reconciling settings w [key, other]
    let first := w.run a (RequestReconcile.reconcile settings key.ns key.name)
    let otherSecond := first.2.run a (RequestReconcile.reconcile settings other.ns other.name)
    let otherFirst := w.run a (RequestReconcile.reconcile settings other.ns other.name)
    let second := otherFirst.2.run a (RequestReconcile.reconcile settings key.ns key.name)
    (∀ schedule, (∀ x ∈ fleet.accessesAlong a schedule, x.isFailedWrite = false)
        ∧ (∀ results, (fleet.follow a schedule).Ended results →
          EndsAlone a settings w [key, other] results (fleet.follow a schedule).world.store)
        ∧ ∃ rest results, (fleet.follow a (schedule ++ rest)).Ended results)
      ∧ EndsAlone a settings w [key, other] [first.1, otherSecond.1] otherSecond.2.store
      ∧ EndsAlone a settings w [key, other] [second.1, otherFirst.1] second.2.store := by
  intro fleet first otherSecond otherFirst second
  have keyed := MemoryStore.keyed_of_reached reached
  have both : ∀ k ∈ [key, other], ∃ r, w.store.requests.get? k = some r := by
    intro k mem
    rcases List.mem_cons.mp mem with rfl | mem
    · exact ⟨r, stored⟩
    · rw [List.mem_singleton.mp mem]
      exact ⟨o, storedOther⟩
  have followed :=
    follow_reconciling steady settings accepting keyed [key, other] (by simpa using hne) both
  refine ⟨fun schedule => ?_, ?_, ?_⟩
  · obtain ⟨hlength, accepted, ends⟩ := followed schedule
    obtain ⟨rest, results, ended⟩ := exists_ended a hlength
    rw [← follow_append] at ended
    exact ⟨accepted, ends, rest, results, ended⟩
  · obtain ⟨schedule, h⟩ := exists_schedule_in_turn a fleet (i := 0) (j := 1) rfl rfl (by decide)
    have ends := (followed schedule).2.2 [first.1, otherSecond.1] (by rw [h]; rfl)
    rw [h] at ends
    exact ends
  · obtain ⟨schedule, h⟩ := exists_schedule_in_turn a fleet (i := 1) (j := 0) rfl rfl (by decide)
    have ends := (followed schedule).2.2 [second.1, otherFirst.1] (by rw [h]; rfl)
    rw [h] at ends
    exact ends

/-- A request that can be signed, and beside it one that was denied. -/
def neighbours : List Change :=
  let denied : CertificateRequest := Sample.request [Sample.condition Condition.denied] [] none
  World.signable ++ [.insertRequest { denied with
    metadata := { denied.metadata with name := some "api" } }]

/-- A certificate and a denial are recorded in turns. -/
theorem reconciles_independent_in_turns :
    let authority := Sample.authority (.ok (.ofCertificate "signed"))
    let keys : List ObjectKey := [⟨"default", "web"⟩, ⟨"default", "api"⟩]
    let fleet := reconciling Sample.settings (Sample.world neighbours) keys
    let after := fleet.follow authority (List.replicate 20 [0, 1]).flatten
    after.world.store.writes = 2
      ∧ EndsAlone authority Sample.settings (Sample.world neighbours) keys [.ok (), .ok ()]
        after.world.store := by
  have reached : (Sample.world neighbours).store = .afterChanges neighbours := rfl
  have accepting : (Sample.world neighbours).Accepting := ⟨rfl, rfl⟩
  have hne : (⟨"default", "web"⟩ : ObjectKey) ≠ ⟨"default", "api"⟩ := by decide
  obtain ⟨r, stored⟩ := Option.isSome_iff_exists.mp (by decide +kernel :
    ((Sample.world neighbours).store.requests.get? ⟨"default", "web"⟩).isSome = true)
  obtain ⟨o, storedOther⟩ := Option.isSome_iff_exists.mp (by decide +kernel :
    ((Sample.world neighbours).store.requests.get? ⟨"default", "api"⟩).isSome = true)
  have independent := reconciles_independent
    (Sample.steady_authority (.ok (.ofCertificate "signed"))) Sample.settings reached accepting hne
    stored storedOther
  dsimp only at independent ⊢
  refine ⟨by decide +kernel, ?_⟩
  refine (independent.1 (List.replicate 20 [0, 1]).flatten).2.1 [.ok (), .ok ()] ?_
  decide +kernel

end Fleet
end CertIssuer
