import CertIssuer.Proofs.Settlement
import CertIssuer.Proofs.SigningGate
import CertIssuer.Proofs.Utf8

/-!
What is sent to the authority for a request. The authority is sent the text of the signing request,
and a request may be any byte string with a PEM block in it. The block is sent byte for byte, for it
is text. What stands around it is not looked at before, so it is sent byte for byte if it is text,
and with U+FFFD for whatever is not.

Which bytes are the block is said by `Reads`, which follows the decoder through a byte string: what
it skips, what it reads from the BEGIN marker to the end of the END marker, and what it leaves.
-/

namespace CertIssuer

variable {σ : Type}

namespace Pem

open Text

/-! ### Markers -/

theorem seek_nil (marker : Bytes) (consumed : Nat) (rest : Bytes) :
    seek marker [] consumed rest = some (consumed, rest) := by
  cases rest <;> rfl

/-- A search that succeeds has read up to the end of a marker, and sees nothing of what follows. -/
theorem seek_eq_some {marker seen ms input after : Bytes} {consumed n : Nat}
    (hmarker : marker = seen ++ ms) (h : seek marker ms consumed input = some (n, after)) :
    ∃ read before, input = read ++ after ∧ n = consumed + read.length
      ∧ seen ++ read = before ++ marker
      ∧ ∀ other, seek marker ms consumed (read ++ other) = some (n, other) := by
  fun_induction seek marker ms consumed input generalizing seen with
  | case1 consumed rest =>
    cases h
    exact ⟨[], [], rfl, rfl, by simp [hmarker], seek_nil marker n⟩
  | case2 => cases h
  | case3 m ms consumed b rest ih =>
    by_cases hb : b = m
    · subst hb
      rw [if_pos rfl] at ih h
      have hseen : marker = (seen ++ [b]) ++ ms := by simp [hmarker]
      obtain ⟨read, before, rfl, rfl, hread, hother⟩ := ih hseen h
      refine ⟨b :: read, before, rfl, by simp; omega, by simpa using hread, fun other => ?_⟩
      rw [List.cons_append, seek, if_pos rfl]
      exact hother other
    · -- the search starts anew behind this byte
      rw [if_neg hb] at ih h
      obtain ⟨read, before, rfl, rfl, hread, hother⟩ := ih (List.nil_append marker).symm h
      refine ⟨b :: read, seen ++ b :: before, rfl, by simp; omega, ?_, fun other => ?_⟩
      · rw [List.nil_append] at hread
        simp [hread]
      · rw [List.cons_append, seek, if_neg hb]
        exact hother other

/-- A byte string is split around a marker, whatever follows the marker. -/
theorem splitAt?_eq_some {marker input before after : Bytes}
    (h : splitAt? marker input = some (before, after)) :
    input = before ++ marker ++ after
      ∧ ∀ other, splitAt? marker (before ++ marker ++ other) = some (before, other) := by
  obtain ⟨⟨n, rest⟩, hseek, hparts⟩ := Option.map_eq_some_iff.mp h
  obtain ⟨read, start, rfl, rfl, hread, hother⟩ := seek_eq_some (List.nil_append marker).symm hseek
  rw [List.nil_append] at hread
  have hbefore : ∀ other, (start ++ marker ++ other).take (0 + read.length - marker.length)
      = start := by
    intro other
    rw [hread, List.length_append, Nat.zero_add, Nat.add_sub_cancel, List.append_assoc,
      List.take_left]
  rw [hread] at hparts
  obtain ⟨rfl, rfl⟩ : start = before ∧ rest = after := by
    simpa [hbefore] using hparts
  refine ⟨by rw [hread], fun other => ?_⟩
  rw [splitAt?, ← hread, hother]
  simp [hread]

/-- A marker is found where the byte string starts with it. -/
theorem splitAt?_marker_append (marker rest : Bytes) :
    splitAt? marker (marker ++ rest) = some ([], rest) := by
  have hseek : ∀ ms consumed, seek marker ms consumed (ms ++ rest)
      = some (consumed + ms.length, rest) := by
    intro ms
    induction ms with
    | nil => exact fun consumed => seek_nil marker consumed rest
    | cons m ms ih =>
      intro consumed
      rw [List.cons_append, seek, if_pos rfl, ih, List.length_cons]
      congr 2
      omega
  simp [splitAt?, hseek]

/-! ### Blocks -/

/-- The bytes of a block, from its BEGIN marker to the end of its END marker. -/
def Frame.bytes (f : Frame) (gap payload : Bytes) : Bytes :=
  beginMarker ++ (f.begun ++ closing ++ (gap ++ (payload ++ endMarker ++ (f.ended ++ closing))))

/-- The steps in which a block is read from a byte string. What stands before its BEGIN marker is
skipped, and what stands behind its END marker is left. -/
inductive Reads (input : Bytes) (f : Frame) (before : Bytes) : (block after : Bytes) → Prop
  | steps {opened inner payload closed after : Bytes}
      (opens : splitAt? beginMarker input = some (before, opened))
      (begins : splitAt? closing opened = some (f.begun, inner))
      (ends : splitAt? endMarker (inner.dropWhile isGap) = some (payload, closed))
      (closes : splitAt? closing closed = some (f.ended, after))
      (parts : splitHeaders payload = (f.headers, f.data)) :
      Reads input f before (f.bytes (inner.takeWhile isGap) payload) after

/-- The parts of a block are found in these steps. -/
theorem frame?_eq_some_iff {input : Bytes} {f : Frame} :
    frame? input = some f ↔ ∃ before block after, Reads input f before block after := by
  obtain ⟨begun, headers, data, ended⟩ := f
  simp only [frame?, Option.bind_eq_bind, Option.bind_eq_some_iff, Prod.exists]
  constructor
  · rintro ⟨before, opened, opens, begun', inner, begins, payload, closed, ends, ended', after,
      closes, hf⟩
    cases hf
    exact ⟨before, _, after, .steps opens begins ends closes rfl⟩
  · rintro ⟨before, _, after, ⟨opens, begins, ends, closes, parts⟩⟩
    refine ⟨before, _, opens, begun, _, begins, _, _, ends, ended, after, closes, ?_⟩
    rw [parts]

/-- A gap ends at the same byte, whatever follows that one. -/
theorem span_gap {input marker payload rest : Bytes} (hmarker : marker ≠ [])
    (h : input.dropWhile isGap = payload ++ marker ++ rest) (other : Bytes) :
    (input.takeWhile isGap ++ (payload ++ marker ++ other)).takeWhile isGap
        = input.takeWhile isGap
      ∧ (input.takeWhile isGap ++ (payload ++ marker ++ other)).dropWhile isGap
        = payload ++ marker ++ other := by
  have hgap := List.all_eq_true.mp (List.all_takeWhile (p := isGap) (l := input))
  rw [List.takeWhile_append_of_pos hgap, List.dropWhile_append_of_pos hgap]
  obtain ⟨b, start, hstart⟩ := List.exists_cons_of_ne_nil
    (List.append_ne_nil_of_right_ne_nil payload hmarker)
  rw [hstart] at h ⊢
  have hb : isGap b = false := by
    have hhead := List.head?_dropWhile_not isGap input
    rw [h] at hhead
    simpa using hhead
  rw [List.cons_append, List.takeWhile_cons_of_neg (by simp [hb]),
    List.dropWhile_cons_of_neg (by simp [hb]), List.append_nil]
  exact ⟨rfl, rfl⟩

namespace Reads

variable {input before block after : Bytes} {f : Frame}

/-- What is skipped, the block and what is left make up the byte string. -/
theorem eq_append (h : Reads input f before block after) : input = before ++ block ++ after := by
  cases h with
  | @steps opened inner payload closed _ opens begins ends closes parts =>
    have hinner : inner = inner.takeWhile isGap ++ (payload ++ endMarker ++ closed) := by
      rw [← (splitAt?_eq_some ends).1, List.takeWhile_append_dropWhile]
    calc input = before ++ beginMarker ++ opened := (splitAt?_eq_some opens).1
      _ = before ++ beginMarker ++ (f.begun ++ closing ++ inner) := by
        rw [← (splitAt?_eq_some begins).1]
      _ = before ++ beginMarker ++ (f.begun ++ closing ++ (inner.takeWhile isGap
          ++ (payload ++ endMarker ++ (f.ended ++ closing ++ after)))) := by
        rw [← (splitAt?_eq_some closes).1, ← hinner]
      _ = before ++ f.bytes (inner.takeWhile isGap) payload ++ after := by simp [Frame.bytes]

/-- A block is read in the same way with nothing before it, and whatever stands behind it. -/
theorem alone (h : Reads input f before block after) (rest : Bytes) :
    Reads (block ++ rest) f [] block rest := by
  cases h with
  | @steps opened inner payload closed _ opens begins ends closes parts =>
    -- the gap ends at the payload, or at the END marker if that is empty, as it did before
    obtain ⟨hpayload, hends⟩ := splitAt?_eq_some ends
    obtain ⟨htake, hdrop⟩ := span_gap (by decide) hpayload (f.ended ++ closing ++ rest)
    have hbytes : f.bytes (inner.takeWhile isGap) payload ++ rest
        = beginMarker ++ (f.begun ++ closing ++ (inner.takeWhile isGap
          ++ (payload ++ endMarker ++ (f.ended ++ closing ++ rest)))) := by
      simp [Frame.bytes]
    have hreads := Reads.steps (splitAt?_marker_append beginMarker _)
      ((splitAt?_eq_some begins).2 _) (hdrop ▸ hends _) ((splitAt?_eq_some closes).2 rest) parts
    rwa [← hbytes, htake] at hreads

end Reads

/-- The parts of a payload make it up. -/
theorem splitHeaders_eq {payload headers data : Bytes}
    (h : splitHeaders payload = (headers, data)) :
    ∃ between, payload = headers ++ between ++ data ∧ ∀ b ∈ between, isGap b = true := by
  unfold splitHeaders at h
  split at h
  · next parts hparts =>
    cases h
    exact ⟨_, (splitAt?_eq_some hparts).1, by simp [isGap]⟩
  · split at h
    · next parts hparts =>
      cases h
      exact ⟨_, (splitAt?_eq_some hparts).1, by simp [isGap]⟩
    · cases h
      exact ⟨[], rfl, nofun⟩

/-! ### Blocks are texts -/

theorem isText_of_text {bytes : Bytes} {s : String} (h : text bytes = .ok s) : IsText bytes := by
  rw [text] at h
  split at h
  · next hs => exact isText_iff.mpr ⟨_, hs⟩
  · cases h

theorem isText_of_gap {bytes : Bytes} (h : ∀ b ∈ bytes, isGap b = true) : IsText bytes := by
  refine isText_of_ascii fun b hb => ?_
  have hgap := h b hb
  simp only [isGap, Bool.or_eq_true, decide_eq_true_eq] at hgap
  rcases hgap with ((rfl | rfl) | rfl) | rfl <;> decide

theorem ok_of_bind {ε α β : Type} {x : Except ε α} {next : α → Except ε β} {b : β}
    (h : (x >>= next) = .ok b) : ∃ a, x = .ok a ∧ next a = .ok b := by
  cases x with
  | error e => cases h
  | ok a => exact ⟨a, rfl, h⟩

theorem ok_of_check {ε β : Type} {c : Prop} [Decidable c] {e : ε} {next : PUnit → Except ε β}
    {b : β} (h : (if c then throw e >>= next else next ⟨⟩) = .ok b) : next ⟨⟩ = .ok b := by
  by_cases hc : c
  · rw [if_pos hc] at h
    cases h
  · rwa [if_neg hc] at h

/-- The parts of a block with contents are texts. -/
theorem isText_of_contents {f : Frame} {contents : Bytes} (h : f.contents = .ok contents) :
    IsText f.begun ∧ IsText f.headers ∧ IsText f.data ∧ IsText f.ended := by
  obtain ⟨begun, hbegun, h⟩ := ok_of_bind h
  obtain ⟨ended, hended, h⟩ := ok_of_bind (ok_of_check h)
  obtain ⟨data, hdata, h⟩ := ok_of_bind (ok_of_check (ok_of_check h))
  split at h
  · cases h
  obtain ⟨headers, hheaders, _⟩ := ok_of_bind h
  exact ⟨isText_of_text hbegun, isText_of_text hheaders, isText_of_text hdata,
    isText_of_text hended⟩

/-- The contents of a byte string are those of its block. -/
theorem parse_eq_ok {input contents : Bytes} :
    parse input = .ok contents ↔ ∃ f, frame? input = some f ∧ f.contents = .ok contents := by
  rw [parse]
  cases frame? input with
  | none => simp
  | some f => simp

namespace Reads

variable {input before block after contents : Bytes} {f : Frame}

/-- A block starts with an ASCII byte. -/
theorem head (h : Reads input f before block after) :
    ∃ b rest, block = b :: rest ∧ b.toNat < 0x80 := by
  cases h
  exact ⟨_, _, rfl, by decide⟩

/-- A block with contents is a text. -/
theorem isText (h : Reads input f before block after) (hc : f.contents = .ok contents) :
    IsText block := by
  obtain ⟨begun, headers, data, ended⟩ := isText_of_contents hc
  have marker : ∀ s, IsText (encodeUtf8 s) := fun s => ⟨s, rfl⟩
  cases h with
  | @steps _ inner _ _ _ _ _ _ _ parts =>
    have hgap := List.all_eq_true.mp (List.all_takeWhile (p := isGap) (l := inner))
    obtain ⟨between, rfl, hbetween⟩ := splitHeaders_eq parts
    exact (marker _).append ((begun.append (marker _)).append ((isText_of_gap hgap).append
      ((((headers.append (isText_of_gap hbetween)).append data).append (marker _)).append
        (ended.append (marker _)))))

end Reads

end Pem

namespace Provision

variable {signer : σ} {type : RequestType} {spec : RequestSpec} {l : List (Access σ)}
  {b : Except ProvisionError Bytes} {call : SignCall σ}

/-- A call sends what the request asks for. -/
theorem signRequest_of_call (path : (sign signer type spec).Path l b) (mem : call ∈ calls l) :
    signRequest type spec = .ok call.request := by
  unfold sign at path
  split at path
  · obtain ⟨rfl, _⟩ := path
    cases mem
  · next r hr =>
    obtain ⟨l₁, answer, l₂, rfl, h₁, rfl, _⟩ := Plan.path_bind.mp (Plan.path_note_bind path)
    rw [Plan.path_perform.mp h₁] at mem
    obtain rfl : call = _ := List.mem_singleton.mp mem
    exact hr

/-- What a call sends for a request, whatever the world answers. It is the request byte for byte
exactly if the request is UTF-8. In every case the block that was read, from its BEGIN marker to the
end of its END marker, is sent byte for byte, and has the same contents on its own and with anything
behind it. What stands before and after it is sent as its lossy conversion. -/
theorem sent_csr (path : (sign signer type spec).Path l b) (mem : call ∈ calls l) :
    (Text.encodeUtf8 call.request.csr = spec.request ↔ ∃ s, Text.decodeUtf8 spec.request = .ok s)
      ∧ ∃ f before block after contents, Pem.frame? spec.request = some f
        ∧ Pem.Reads spec.request f before block after ∧ spec.request = before ++ block ++ after
        ∧ Pem.parse spec.request = .ok contents
        ∧ (∀ rest, Pem.parse (block ++ rest) = .ok contents)
        ∧ Text.encodeUtf8 call.request.csr = Text.encodeUtf8 (Text.decodeLossy before) ++ block
          ++ Text.encodeUtf8 (Text.decodeLossy after) := by
  have payload := RequestReconcile.signRequest_eq_ok.mp (signRequest_of_call path mem)
  obtain ⟨contents, _, _, hparse, _⟩ := payload.hostnames
  obtain ⟨f, hframe, hcontents⟩ := Pem.parse_eq_ok.mp hparse
  obtain ⟨before, block, after, reads⟩ := Pem.frame?_eq_some_iff.mp hframe
  have halone : ∀ rest, Pem.parse (block ++ rest) = .ok contents := fun rest =>
    Pem.parse_eq_ok.mpr ⟨f, Pem.frame?_eq_some_iff.mpr ⟨_, _, _, reads.alone rest⟩, hcontents⟩
  rw [payload.csr, Text.encodeUtf8_decodeLossy_iff, Text.isText_iff]
  refine ⟨Iff.rfl, f, before, block, after, contents, hframe, reads, reads.eq_append, hparse,
    halone, ?_⟩
  have isText := reads.isText hcontents
  obtain ⟨first, rest, rfl, ascii⟩ := reads.head
  rw [reads.eq_append, Text.encodeUtf8_decodeLossy_around isText ascii]

/-- The sample specification with these bytes before its signing request. -/
def specAfter (before : Bytes) : RequestSpec :=
  let spec := (Sample.request [] [] none).spec
  { spec with request := before ++ spec.request }

/-- The accesses when it is signed in a sample world. -/
def accessesAfter (before : Bytes) : List (Access ScriptSigner) :=
  (sign .scripted .rsa (specAfter before)).accesses (World.handler Script.authority)
    (World.sample [])

/-- A line of text before the signing request, with a character of two bytes, is sent as it is. -/
theorem sent_csr_after_line : ∃ call ∈ calls (accessesAfter [0xC3, 0xA9, 10]),
    Text.encodeUtf8 call.request.csr = (specAfter [0xC3, 0xA9, 10]).request := by
  have path := Plan.path_run (World.handler Script.authority)
    (sign .scripted .rsa (specAfter [0xC3, 0xA9, 10])) (World.sample [])
  have made : (calls (accessesAfter [0xC3, 0xA9, 10])).length = 1 := by decide +kernel
  obtain ⟨call, hcall⟩ := List.length_eq_one_iff.mp made
  have mem : call ∈ calls (accessesAfter [0xC3, 0xA9, 10]) := by
    rw [hcall]
    exact List.mem_singleton_self call
  have isText : Text.IsText (specAfter [0xC3, 0xA9, 10]).request := by
    have line : Text.IsText [0xC3, 0xA9, 10] := ⟨"é\n", by decide⟩
    exact line.append ⟨_, rfl⟩
  exact ⟨call, mem, (sent_csr path mem).1.mpr (Text.isText_iff.mp isText)⟩

/-- A byte before the signing request that is part of no character is not sent. -/
theorem sent_csr_after_stray_byte : ∃ call ∈ calls (accessesAfter [0xFF]),
    Text.encodeUtf8 call.request.csr ≠ (specAfter [0xFF]).request := by
  decide +kernel

end Provision
end CertIssuer
