import CertIssuer.Proofs.CanonicalBase64
import CertIssuer.Proofs.StatusPatch

/-!
Resources are read back as they were written. A member that is left out on writing is one whose
default, on reading, is what it had: no text, no list elements, no bytes. Every other member is
found again by its name, since no name is written twice.

A byte string is a member of its own kind: it may be missing, null or a text, and of all texts just
those are read that encoding gives, so that writing it again gives the same text.
-/

namespace CertIssuer

open Json (occurrences record?)

namespace Json

variable {α : Type} {fields : List (String × Json)} {name n : String}

/-! ### Members that were written -/

theorem lookup_cons_member (n name : String) (value : Json) (fields : List (String × Json)) :
    ((name, value) :: fields).lookup n = if n = name then some value else fields.lookup n := by
  by_cases h : n = name
  · rw [if_pos h, h, List.lookup_cons_self]
  · rw [if_neg h, List.lookup_cons, beq_false_of_ne h]

theorem lookup_member? (n name : String) (write : α → Json) (a : Option α) :
    (member? name write a).lookup n = if n = name then a.map write else none := by
  cases a with
  | none => simp [member?]
  | some a => exact lookup_cons_member n name (write a) []

theorem lookup_memberUnlessEmpty (n name : String) (write : List α → Json) (items : List α) :
    (memberUnlessEmpty name write items).lookup n
      = if n = name then (if items = [] then none else some (write items)) else none := by
  cases items with
  | nil => simp [memberUnlessEmpty]
  | cons a items => exact lookup_cons_member n name (write (a :: items)) []

/-- A member that may be left out has no name but its own. -/
theorem names_member? (name : String) (write : α → Json) (a : Option α) :
    ((member? name write a).map Prod.fst).Sublist [name] := by
  cases a with
  | none => exact List.nil_sublist _
  | some a => exact List.Sublist.refl _

theorem names_memberUnlessEmpty (name : String) (write : List α → Json) (items : List α) :
    ((memberUnlessEmpty name write items).map Prod.fst).Sublist [name] := by
  cases items with
  | nil => exact List.nil_sublist _
  | cons a items => exact List.Sublist.refl _

theorem occurrences_eq_count (fields : List (String × Json)) (name : String) :
    occurrences fields name = (fields.map Prod.fst).count name := by
  rw [occurrences, List.count, List.countP_map, List.countP_eq_length_filter]
  rfl

/-- Members in the order of different names can be read by their names. -/
theorem record?_of_sublist {names : List String} (different : names.Nodup)
    (h : (fields.map Prod.fst).Sublist names) :
    record? names (.obj fields) = some fun n => fields.lookup n := by
  refine record?_obj.mpr ⟨fun n _ => ?_, rfl⟩
  rw [occurrences_eq_count]
  exact List.nodup_iff_count.mp (h.nodup different) n

theorem required_some (read : Json → Option α) (j : Json) : required read (some j) = read j := rfl

theorem withDefault_some (default : α) (read : Json → Option α) (j : Json) :
    withDefault default read (some j) = read j := rfl

/-- A text is read back, and so is none. -/
theorem optional_text?_map (text : Option String) :
    optional text? (text.map .str) = some text := by
  cases text <;> rfl

/-- A list is read back where its default is the empty list. -/
theorem withDefault_unlessEmpty {read : Json → Option (List α)} {write : List α → Json}
    (h : ∀ items, read (write items) = some items) (items : List α) :
    withDefault [] read (if items = [] then none else some (write items)) = some items := by
  cases items with
  | nil => rfl
  | cons a items => exact h (a :: items)

theorem list?_strings (items : List String) : list? text? (strings items) = some items := by
  have hread : ∀ item, text? (.str item) = some item := fun _ => rfl
  exact list?_map hread items

/-! ### Byte strings -/

/-- What a byte string can be written as: nothing, null or its base64 text. -/
inductive Spells : Option Json → Bytes → Prop
  | missing : Spells none []
  | null : Spells (some .null) []
  | text (bytes : Bytes) : Spells (some (.str (Base64.encode bytes))) bytes

/-- A member is read as the bytes that it spells, and refused if it spells none. -/
theorem withDefault_bytes?_eq_some {m : Option Json} {bytes : Bytes} :
    withDefault [] bytes? m = some bytes ↔ Spells m bytes := by
  constructor
  · intro h
    match m with
    | none =>
      cases h
      exact .missing
    | some .null =>
      cases h
      exact .null
    | some (.str text) =>
      rw [withDefault, bytes?] at h
      split at h
      · next hdecode =>
        cases h
        rw [Base64.decode_eq_ok_iff.mp hdecode]
        exact .text bytes
      · cases h
    | some (.bool _) | some (.int _) | some (.real _) | some (.arr _) | some (.obj _)
    | some .unpaired => cases h
  · rintro (_ | _ | _)
    · rfl
    · rfl
    · exact bytes?_ofBytes bytes

/-- A member of a record holds a byte string: with all others as they are in a record that is read,
it is read as the bytes that it spells, and refused if it spells none. -/
def ReadsBytes (read : Json → Option α) (names : List String) (name : String)
    (put : α → Bytes → α) : Prop :=
  ∀ ⦃j j' : Json⦄ ⦃m m' : String → Option Json⦄ ⦃a a' : α⦄, record? names j = some m →
    record? names j' = some m' → (∀ n, n ≠ name → m' n = m n) → read j = some a →
    (read j' = some a' ↔ ∃ bytes, Spells (m' name) bytes ∧ a' = put a bytes)

end Json

/-! ### Requests -/

namespace IssuerReference

theorem ofJson?_toJson (r : IssuerReference) : ofJson? r.toJson = some r := by
  have names : (([("name", Json.str r.name)] ++ Json.member? "kind" .str r.kind
      ++ Json.member? "group" .str r.group).map Prod.fst).Sublist ["name", "kind", "group"] := by
    simp only [List.map_append]
    exact ((List.Sublist.refl ["name"]).append (Json.names_member? "kind" ..)).append
      (Json.names_member? "group" ..)
  rw [ofJson?, toJson, Json.record?_of_sublist (by decide) names]
  simp [List.lookup_append, Json.lookup_cons_member, Json.lookup_member?, Json.required_some,
    Json.text?, Json.optional_text?_map]

end IssuerReference

namespace RequestSpec

/-- The members of a specification, which may not repeat. -/
def names : List String := ["request", "duration", "issuerRef", "isCA", "usages"]

theorem ofJson?_toJson (s : RequestSpec) : ofJson? s.toJson = some s := by
  have written : (([("request", Json.ofBytes s.request)] ++ Json.member? "duration" .str s.duration
      ++ [("issuerRef", s.issuerRef.toJson), ("isCA", .bool s.isCA)]
      ++ Json.memberUnlessEmpty "usages" Json.strings s.usages).map Prod.fst).Sublist names := by
    simp only [List.map_append]
    exact (((List.Sublist.refl ["request"]).append (Json.names_member? "duration" ..)).append
      (List.Sublist.refl ["issuerRef", "isCA"])).append (Json.names_memberUnlessEmpty "usages" ..)
  rw [ofJson?, toJson, ← names, Json.record?_of_sublist (by decide) written]
  simp [List.lookup_append, Json.lookup_cons_member, Json.lookup_member?,
    Json.lookup_memberUnlessEmpty, Json.withDefault_some, Json.required_some, Json.bytes?_ofBytes,
    Json.optional_text?_map, IssuerReference.ofJson?_toJson, Json.bool?,
    Json.withDefault_unlessEmpty Json.list?_strings]

theorem readsBytes : Json.ReadsBytes ofJson? names "request"
    fun s bytes => { s with request := bytes } := by
  intro j j' m m' s s' hm hm' others read
  have hnames : names = ["request", "duration", "issuerRef", "isCA", "usages"] := rfl
  rw [hnames] at hm hm'
  simp only [ofJson?, hm, Option.bind_eq_bind, Option.bind_some, Option.bind_eq_some_iff] at read
  obtain ⟨request, -, duration, hduration, issuerRef, hissuerRef, isCA, hisCA, usages, husages,
    hs⟩ := read
  cases hs
  simp only [ofJson?, hm', others "duration" (by decide), others "issuerRef" (by decide),
    others "isCA" (by decide), others "usages" (by decide), hduration, hissuerRef, hisCA, husages,
    Option.bind_eq_bind, Option.bind_some, Option.bind_eq_some_iff, Json.withDefault_bytes?_eq_some,
    Option.some.injEq]
  exact exists_congr fun _ => and_congr_right fun _ => eq_comm

end RequestSpec

namespace RequestStatus

theorem ofJson?_toJson (s : RequestStatus) : ofJson? s.toJson = some s := by
  have written : (([("conditions", Conditions.toJson s.conditions)]
      ++ Json.memberUnlessEmpty "certificate" Json.ofBytes s.certificate
      ++ Json.memberUnlessEmpty "ca" Json.ofBytes s.ca
      ++ Json.member? "failureTime" .str s.failureTime).map Prod.fst).Sublist names := by
    simp only [List.map_append]
    exact (((List.Sublist.refl ["conditions"]).append
      (Json.names_memberUnlessEmpty "certificate" ..)).append
      (Json.names_memberUnlessEmpty "ca" ..)).append (Json.names_member? "failureTime" ..)
  rw [ofJson?, toJson, ← names, Json.record?_of_sublist (by decide) written]
  simp [List.lookup_append, Json.lookup_cons_member, Json.lookup_member?,
    Json.lookup_memberUnlessEmpty, Json.withDefault_some, Conditions.ofJson?_toJson,
    Json.withDefault_unlessEmpty Json.bytes?_ofBytes, Json.optional_text?_map]

variable {j j' : Json} {m m' : String → Option Json} {s s' : RequestStatus}

/-- A status is read member by member, from an object or from an array. -/
theorem ofJson?_of_record? (hm : record? names j = some m) : ofJson? j = some s
    ↔ Json.withDefault [] Conditions.ofJson? (m "conditions") = some s.conditions
      ∧ Json.withDefault [] Json.bytes? (m "certificate") = some s.certificate
      ∧ Json.withDefault [] Json.bytes? (m "ca") = some s.ca
      ∧ Json.optional Json.text? (m "failureTime") = some s.failureTime := by
  have hnames : names = ["conditions", "certificate", "ca", "failureTime"] := rfl
  rw [hnames] at hm
  simp only [ofJson?, hm, Option.bind_eq_bind, Option.bind_some, Option.bind_eq_some_iff]
  constructor
  · rintro ⟨conditions, hconditions, certificate, hcertificate, ca, hca, time, htime, hs⟩
    cases hs
    exact ⟨hconditions, hcertificate, hca, htime⟩
  · rintro ⟨hconditions, hcertificate, hca, htime⟩
    exact ⟨_, hconditions, _, hcertificate, _, hca, _, htime, rfl⟩

theorem readsBytes_certificate : Json.ReadsBytes ofJson? names "certificate"
    fun s bytes => { s with certificate := bytes } := by
  intro j j' m m' s s' hm hm' others read
  obtain ⟨hconditions, -, hca, htime⟩ := (ofJson?_of_record? hm).mp read
  rw [ofJson?_of_record? hm', others "conditions" (by decide), others "ca" (by decide),
    others "failureTime" (by decide), hconditions, hca, htime, Json.withDefault_bytes?_eq_some]
  constructor
  · rintro ⟨hconditions, hcertificate, hca, htime⟩
    refine ⟨s'.certificate, hcertificate, ?_⟩
    dsimp only
    rw [Option.some.inj hconditions, Option.some.inj hca, Option.some.inj htime]
  · rintro ⟨bytes, hcertificate, rfl⟩
    exact ⟨rfl, hcertificate, rfl, rfl⟩

theorem readsBytes_ca : Json.ReadsBytes ofJson? names "ca"
    fun s bytes => { s with ca := bytes } := by
  intro j j' m m' s s' hm hm' others read
  obtain ⟨hconditions, hcertificate, -, htime⟩ := (ofJson?_of_record? hm).mp read
  rw [ofJson?_of_record? hm', others "conditions" (by decide), others "certificate" (by decide),
    others "failureTime" (by decide), hconditions, hcertificate, htime,
    Json.withDefault_bytes?_eq_some]
  constructor
  · rintro ⟨hconditions, hcertificate, hca, htime⟩
    refine ⟨s'.ca, hca, ?_⟩
    dsimp only
    rw [Option.some.inj hconditions, Option.some.inj hcertificate, Option.some.inj htime]
  · rintro ⟨bytes, hca, rfl⟩
    exact ⟨rfl, rfl, hca, rfl⟩

end RequestStatus

/-! ### Issuers -/

theorem RequestType.ofJson?_toJson (t : RequestType) : ofJson? t.toJson = some t := by
  cases t <;> rfl

theorem SecretKeySelector.ofJson?_toJson (s : SecretKeySelector) : ofJson? s.toJson = some s := rfl

theorem IssuerSpec.ofJson?_toJson (s : IssuerSpec) : ofJson? s.toJson = some s := by
  obtain ⟨requestType, serviceKeyRef⟩ := s
  cases requestType <;> rfl

theorem IssuerStatus.ofJson?_toJson (s : IssuerStatus) : ofJson? s.toJson = some s := by
  have written : ([("conditions", Conditions.toJson s.conditions)].map Prod.fst).Sublist
      ["conditions"] := List.Sublist.refl _
  rw [ofJson?, toJson, Json.record?_of_sublist (by decide) written]
  simp [Json.lookup_cons_member, Json.withDefault_some, Conditions.ofJson?_toJson]

/-! ### All of them -/

/-- Values are read as they were written, and writing a value that was read, from whatever it was
read, loses nothing of it. -/
structure Json.ReadsBack {α : Type} (read : Json → Option α) (write : α → Json) : Prop where
  written : ∀ a, read (write a) = some a
  rewritten : ∀ j a, read j = some a → read (write a) = read j

theorem Json.readsBack_of_written {α : Type} {read : Json → Option α} {write : α → Json}
    (written : ∀ a, read (write a) = some a) : ReadsBack read write :=
  ⟨written, fun _ a h => (written a).trans h.symm⟩

/-- Specifications, statuses and conditions survive writing and reading, whatever they hold; an
issuer of either kind has the same specification. A member that holds bytes is read just if it is
missing, null or the text that the bytes are encoded to, and is then those bytes; only no bytes are
encoded to the empty text. -/
theorem resources_read_back :
    Json.ReadsBack RequestSpec.ofJson? RequestSpec.toJson
      ∧ Json.ReadsBack RequestStatus.ofJson? RequestStatus.toJson
      ∧ Json.ReadsBack IssuerSpec.ofJson? IssuerSpec.toJson
      ∧ Json.ReadsBack IssuerStatus.ofJson? IssuerStatus.toJson
      ∧ Json.ReadsBack Condition.ofJson? Condition.toJson
      ∧ Json.ReadsBytes RequestSpec.ofJson? RequestSpec.names "request"
        (fun s bytes => { s with request := bytes })
      ∧ Json.ReadsBytes RequestStatus.ofJson? RequestStatus.names "certificate"
        (fun s bytes => { s with certificate := bytes })
      ∧ Json.ReadsBytes RequestStatus.ofJson? RequestStatus.names "ca"
        (fun s bytes => { s with ca := bytes })
      ∧ ∀ bytes, Base64.encode bytes = "" ↔ bytes = [] :=
  ⟨Json.readsBack_of_written RequestSpec.ofJson?_toJson,
    Json.readsBack_of_written RequestStatus.ofJson?_toJson,
    Json.readsBack_of_written IssuerSpec.ofJson?_toJson,
    Json.readsBack_of_written IssuerStatus.ofJson?_toJson,
    Json.readsBack_of_written Condition.ofJson?_toJson,
    RequestSpec.readsBytes, RequestStatus.readsBytes_certificate, RequestStatus.readsBytes_ca,
    fun _ => Base64.encode_eq_empty⟩

/-- A request with these members, and one issuer that it refers to. -/
def Sample.specMembers (members : List (String × Json)) : Json :=
  .obj (members ++ [("issuerRef", .obj [("name", .str "prod")])])

/-- A signing request whose last symbol has bits left over is refused, and one that is missing is no
bytes. -/
theorem resources_read_back_leftover :
    RequestSpec.ofJson? (Sample.specMembers []) = some ⟨[], none, ⟨"prod", none, none⟩, false, []⟩
      ∧ RequestSpec.ofJson? (Sample.specMembers [("request", .str "QR==")]) = none := by
  have read : RequestSpec.ofJson? (Sample.specMembers [])
      = some ⟨[], none, ⟨"prod", none, none⟩, false, []⟩ := rfl
  have hm : record? RequestSpec.names (Sample.specMembers []) = some _ :=
    Json.record?_of_sublist (by decide) (by decide)
  have hm' : record? RequestSpec.names (Sample.specMembers [("request", .str "QR==")]) = some _ :=
    Json.record?_of_sublist (by decide) (by decide)
  refine ⟨read, Option.eq_none_iff_forall_ne_some.mpr fun s hs => ?_⟩
  obtain ⟨-, -, -, -, -, request, -⟩ := resources_read_back
  obtain ⟨bytes, spells, -⟩ := (request hm hm' (fun n hn =>
    (Json.lookup_cons_member n "request" (.str "QR==") _).trans (if_neg hn)) read).mp hs
  cases Json.withDefault_bytes?_eq_some.mpr spells

end CertIssuer
