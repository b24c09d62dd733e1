import CertIssuer.Proofs.Base64

/-!
UTF-8 against its grammar. A byte string has a text exactly if it is the concatenation of sequences
that the grammar derives, and these are the encodings of characters, so strict decoding inverts
encoding on all it accepts.

Lenient decoding loses nothing exactly on what strict decoding accepts. Whatever stands around a
well-formed part that starts with an ASCII byte, the part itself comes through unchanged.
-/

namespace CertIssuer.Text

/-! ### Bytes -/

theorem isContinuation_iff {b : UInt8} :
    isContinuation b = true ↔ 0x80 ≤ b.toNat ∧ b.toNat ≤ 0xBF := by
  simp [isContinuation, UInt8.le_iff_toNat_le]

theorem sequenceWidth_eq (a : UInt8) : sequenceWidth a =
    if a.toNat < 0x80 then 1
    else if 0xC2 ≤ a.toNat ∧ a.toNat ≤ 0xDF then 2
    else if 0xE0 ≤ a.toNat ∧ a.toNat ≤ 0xEF then 3
    else if 0xF0 ≤ a.toNat ∧ a.toNat ≤ 0xF4 then 4
    else 0 := by
  simp only [sequenceWidth, UInt8.lt_iff_toNat_lt, UInt8.le_iff_toNat_le, Bool.and_eq_true,
    decide_eq_true_eq, UInt8.reduceToNat]

/-- The bounds of the second byte of a sequence. -/
theorem isSecond_iff {a b : UInt8} : isSecond a b = true ↔
    (if a.toNat = 0xE0 then 0xA0 else if a.toNat = 0xF0 then 0x90 else 0x80) ≤ b.toNat
      ∧ b.toNat ≤ (if a.toNat = 0xED then 0x9F else if a.toNat = 0xF4 then 0x8F else 0xBF) := by
  simp only [isSecond, isContinuation, UInt8.le_iff_toNat_le, ← UInt8.toNat_inj, UInt8.reduceToNat]
  grind

/-! ### Sequences -/

/-- The byte strings that the grammar derives for a single character. -/
inductive IsSequence : Bytes → Prop
  | one {a : UInt8} (first : sequenceWidth a = 1) : IsSequence [a]
  | two {a b : UInt8} (first : sequenceWidth a = 2) (second : isSecond a b = true) :
      IsSequence [a, b]
  | three {a b c : UInt8} (first : sequenceWidth a = 3) (second : isSecond a b = true)
      (third : isContinuation c = true) : IsSequence [a, b, c]
  | four {a b c d : UInt8} (first : sequenceWidth a = 4) (second : isSecond a b = true)
      (third : isContinuation c = true) (fourth : isContinuation d = true) :
      IsSequence [a, b, c, d]

theorem val_ofNat {n : Nat} (h : n.isValidChar) : (Char.ofNat n).val.toNat = n := by
  rw [Char.ofNat, dif_pos h]
  rfl

theorem ofNat_eq_of_toNat {n : Nat} {b : UInt8} (h : n = b.toNat) : UInt8.ofNat n = b := by
  rw [h, UInt8.ofNat_toNat]

theorem isContinuation_of_isSecond {a b : UInt8} (h : isSecond a b = true) :
    isContinuation b = true := by
  rw [isSecond_iff] at h
  rw [isContinuation_iff]
  grind

theorem utf8EncodeChar_two {a b : UInt8} (first : sequenceWidth a = 2)
    (second : isSecond a b = true) : String.utf8EncodeChar (scalarOf [a, b]) = [a, b] := by
  have ha : 0xC2 ≤ a.toNat ∧ a.toNat ≤ 0xDF := by grind [sequenceWidth_eq]
  have hb := isContinuation_iff.mp (isContinuation_of_isSecond second)
  have hv : (scalarOf [a, b]).val.toNat = (a.toNat - 0xC0) * 64 + (b.toNat - 0x80) := by
    rw [scalarOf, payload, val_ofNat (.inl (by omega))]
    omega
  rw [String.utf8EncodeChar, hv, if_neg (by omega), if_pos (by omega),
    ofNat_eq_of_toNat (b := a) (by omega), ofNat_eq_of_toNat (b := b) (by omega)]

theorem utf8EncodeChar_three {a b c : UInt8} (first : sequenceWidth a = 3)
    (second : isSecond a b = true) (third : isContinuation c = true) :
    String.utf8EncodeChar (scalarOf [a, b, c]) = [a, b, c] := by
  have ha : 0xE0 ≤ a.toNat ∧ a.toNat ≤ 0xEF := by grind [sequenceWidth_eq]
  have hb := isContinuation_iff.mp (isContinuation_of_isSecond second)
  have hc := isContinuation_iff.mp third
  -- no overlong form and no surrogate
  have hE0 : a.toNat = 0xE0 → 0xA0 ≤ b.toNat := by grind [isSecond_iff]
  have hED : a.toNat = 0xED → b.toNat ≤ 0x9F := by grind [isSecond_iff]
  have valid : (a.toNat % 16 * 4096 + payload b * 64 + payload c).isValidChar := by
    unfold Nat.isValidChar payload
    omega
  have hv : (scalarOf [a, b, c]).val.toNat
      = (a.toNat - 0xE0) * 4096 + (b.toNat - 0x80) * 64 + (c.toNat - 0x80) := by
    rw [scalarOf, val_ofNat valid, payload, payload]
    omega
  rw [String.utf8EncodeChar, hv, if_neg (by omega), if_neg (by omega), if_pos (by omega),
    ofNat_eq_of_toNat (b := a) (by omega), ofNat_eq_of_toNat (b := b) (by omega),
    ofNat_eq_of_toNat (b := c) (by omega)]

theorem utf8EncodeChar_four {a b c d : UInt8} (first : sequenceWidth a = 4)
    (second : isSecond a b = true) (third : isContinuation c = true)
    (fourth : isContinuation d = true) :
    String.utf8EncodeChar (scalarOf [a, b, c, d]) = [a, b, c, d] := by
  have ha : 0xF0 ≤ a.toNat ∧ a.toNat ≤ 0xF4 := by grind [sequenceWidth_eq]
  have hb := isContinuation_iff.mp (isContinuation_of_isSecond second)
  have hc := isContinuation_iff.mp third
  have hd := isContinuation_iff.mp fourth
  -- no overlong form, and nothing above the last character
  have hF0 : a.toNat = 0xF0 → 0x90 ≤ b.toNat := by grind [isSecond_iff]
  have hF4 : a.toNat = 0xF4 → b.toNat ≤ 0x8F := by grind [isSecond_iff]
  have valid : (a.toNat % 8 * 262144 + payload b * 4096 + payload c * 64
      + payload d).isValidChar := by
    unfold Nat.isValidChar payload
    omega
  have hv : (scalarOf [a, b, c, d]).val.toNat = (a.toNat - 0xF0) * 262144
      + (b.toNat - 0x80) * 4096 + (c.toNat - 0x80) * 64 + (d.toNat - 0x80) := by
    rw [scalarOf, val_ofNat valid, payload, payload, payload]
    omega
  rw [String.utf8EncodeChar, hv, if_neg (by omega), if_neg (by omega), if_neg (by omega),
    ofNat_eq_of_toNat (b := a) (by omega), ofNat_eq_of_toNat (b := b) (by omega),
    ofNat_eq_of_toNat (b := c) (by omega), ofNat_eq_of_toNat (b := d) (by omega)]

/-- A sequence is the encoding of its character. -/
theorem utf8EncodeChar_scalarOf {s : Bytes} (h : IsSequence s) :
    String.utf8EncodeChar (scalarOf s) = s := by
  cases h with
  | one first => exact Base64.utf8EncodeChar_ofNat (by grind [sequenceWidth_eq])
  | two first second => exact utf8EncodeChar_two first second
  | three first second third => exact utf8EncodeChar_three first second third
  | four first second third fourth => exact utf8EncodeChar_four first second third fourth

/-- The encoding of a character is a sequence. -/
theorem isSequence_utf8EncodeChar (c : Char) : IsSequence (String.utf8EncodeChar c) := by
  have valid : c.val.toNat < 0xD800 ∨ 0xDFFF < c.val.toNat ∧ c.val.toNat < 0x110000 := c.valid
  have toNat (n : Nat) : (UInt8.ofNat n).toNat = n % 256 := UInt8.toNat_ofNat'
  -- one case for each width
  rw [String.utf8EncodeChar]
  split
  · refine .one ?_
    rw [sequenceWidth_eq, toNat]
    grind
  · split
    · refine .two ?_ ?_
      · rw [sequenceWidth_eq, toNat]
        grind
      · rw [isSecond_iff, toNat, toNat]
        grind
    · split
      · refine .three ?_ ?_ ?_
        · rw [sequenceWidth_eq, toNat]
          grind
        · rw [isSecond_iff, toNat, toNat]
          grind
        · rw [isContinuation_iff, toNat]
          omega
      · refine .four ?_ ?_ ?_ ?_
        · rw [sequenceWidth_eq, toNat]
          grind
        · rw [isSecond_iff, toNat, toNat]
          grind
        · rw [isContinuation_iff, toNat]
          omega
        · rw [isContinuation_iff, toNat]
          omega

/-- The character of the encoding of a character. -/
theorem scalarOf_utf8EncodeChar (c : Char) : scalarOf (String.utf8EncodeChar c) = c := by
  have hencode := utf8EncodeChar_scalarOf (isSequence_utf8EncodeChar c)
  have hinj := encodeUtf8_inj (s := String.ofList [scalarOf (String.utf8EncodeChar c)])
    (t := String.ofList [c])
  simp only [encodeUtf8, String.toList_ofList, List.flatMap_cons, List.flatMap_nil,
    List.append_nil] at hinj
  simpa using hinj.mp hencode

/-! ### Scans -/

/-- A sequence that has begun and needs another byte. -/
inductive Begun : Bytes → Prop
  | nothing : Begun []
  | one {a : UInt8} (first : 2 ≤ sequenceWidth a) : Begun [a]
  | two {a b : UInt8} (first : 3 ≤ sequenceWidth a) (second : isSecond a b = true) : Begun [a, b]
  | three {a b c : UInt8} (first : 4 ≤ sequenceWidth a) (second : isSecond a b = true)
      (third : isContinuation c = true) : Begun [a, b, c]

/-- A first byte is all of its sequence, or begins one, or starts none. -/
theorem begun_first (a : UInt8) :
    if isComplete [a] then IsSequence [a] else sequenceWidth a = 0 ∨ Begun [a] := by
  split
  · next complete =>
    have width : 1 = sequenceWidth a := by simpa [isComplete] using complete
    exact .one width.symm
  · next incomplete =>
    have width : 1 ≠ sequenceWidth a := by simpa [isComplete] using incomplete
    by_cases none : sequenceWidth a = 0
    · exact .inl none
    · exact .inr (.one (by omega))

theorem sequenceWidth_le (a : UInt8) : sequenceWidth a ≤ 4 := by
  rw [sequenceWidth_eq]
  grind

/-- A byte that continues a sequence completes it or leaves it begun. -/
theorem Begun.next {pending : Bytes} {b : UInt8} (begun : Begun pending)
    (h : continues pending b = true) :
    if isComplete (pending ++ [b]) then IsSequence (pending ++ [b])
    else Begun (pending ++ [b]) := by
  cases begun with
  | nothing => cases h
  | @one a first =>
    split
    · next complete =>
      have width : 2 = sequenceWidth a := by simpa [isComplete] using complete
      exact .two width.symm h
    · next incomplete =>
      have width : 2 ≠ sequenceWidth a := by simpa [isComplete] using incomplete
      exact .two (by omega) h
  | @two a x first second =>
    split
    · next complete =>
      have width : 3 = sequenceWidth a := by simpa [isComplete] using complete
      exact .three width.symm second h
    · next incomplete =>
      have width : 3 ≠ sequenceWidth a := by simpa [isComplete] using incomplete
      exact .three (by omega) second h
  | @three a x y first second third =>
    -- no sequence is longer than four bytes
    have width : sequenceWidth a = 4 := Nat.le_antisymm (sequenceWidth_le a) first
    have complete : isComplete ([a, x, y] ++ [b]) = true := by simp [isComplete, width]
    rw [if_pos complete]
    exact .four width second third h

/-- A sequence is read as its character. -/
theorem IsSequence.scan {s : Bytes} (h : IsSequence s) (rest : Bytes) :
    utf8Scan [] (s ++ rest) = .scalar (scalarOf s) :: utf8Scan [] rest := by
  cases h with
  | one first => simp [utf8Scan, continues, isComplete, first]
  | two first second => simp [utf8Scan, continues, isComplete, first, second]
  | three first second third => simp [utf8Scan, continues, isComplete, first, second, third]
  | four first second third fourth =>
    simp [utf8Scan, continues, isComplete, first, second, third, fourth]

/-- An encoding is read as what was encoded. -/
theorem scan_encoded (cs : List Char) (rest : Bytes) :
    utf8Scan [] (cs.flatMap String.utf8EncodeChar ++ rest)
      = cs.map .scalar ++ utf8Scan [] rest := by
  induction cs with
  | nil => rfl
  | cons c cs ih =>
    rw [List.flatMap_cons, List.append_assoc, (isSequence_utf8EncodeChar c).scan,
      scalarOf_utf8EncodeChar, ih]
    rfl

/-- Nothing is pending where no fault is found. -/
theorem nothing_pending {pending : Bytes} {units : List Utf8Unit} {cs : List Char}
    (h : (if pending.isEmpty then [] else [.broken pending.length]) ++ units = cs.map .scalar) :
    pending = [] ∧ units = cs.map .scalar := by
  cases pending with
  | nil => exact ⟨rfl, h⟩
  | cons _ _ => cases cs <;> cases h

/-- What is read without a fault is the encoding of what was read. -/
theorem bytes_of_scan {pending bytes : Bytes} {cs : List Char} (begun : Begun pending)
    (h : utf8Scan pending bytes = cs.map .scalar) :
    pending ++ bytes = cs.flatMap String.utf8EncodeChar := by
  fun_induction utf8Scan pending bytes generalizing cs with
  | case1 =>
    obtain rfl := List.map_eq_nil_iff.mp h.symm
    rfl
  | case2 => cases cs <;> cases h
  | case3 pending b rest continued complete ih =>
    obtain ⟨c, cs, rfl, hc, hrest⟩ := List.map_eq_cons_iff.mp h.symm
    cases hc
    have hsequence := begun.next continued
    rw [if_pos complete] at hsequence
    rw [List.flatMap_cons, utf8EncodeChar_scalarOf hsequence, ← ih .nothing hrest.symm]
    simp
  | case4 pending b rest continued incomplete ih =>
    have hbegun := begun.next continued
    rw [if_neg incomplete] at hbegun
    rw [← ih hbegun h]
    simp
  | case5 pending b rest _ _ complete =>
    rename_i ih
    obtain ⟨rfl, h⟩ := nothing_pending h
    obtain ⟨c, cs, rfl, hc, hrest⟩ := List.map_eq_cons_iff.mp h.symm
    cases hc
    have hsequence := begun_first b
    rw [if_pos complete] at hsequence
    rw [List.flatMap_cons, utf8EncodeChar_scalarOf hsequence, ← ih .nothing hrest.symm]
    rfl
  | case6 pending b rest _ _ _ _ =>
    obtain ⟨_, h⟩ := nothing_pending h
    cases cs <;> cases h
  | case7 pending b rest _ _ incomplete started =>
    rename_i ih
    obtain ⟨rfl, h⟩ := nothing_pending h
    have hbegun := begun_first b
    rw [if_neg incomplete] at hbegun
    exact ih (hbegun.resolve_left started) h

/-- A byte string is read without a fault exactly if it is an encoding. -/
theorem utf8Units_eq_scalars {bytes : Bytes} {cs : List Char} :
    utf8Units bytes = cs.map .scalar ↔ bytes = cs.flatMap String.utf8EncodeChar := by
  constructor
  · exact bytes_of_scan .nothing
  · rintro rfl
    have h := scan_encoded cs []
    rw [List.append_nil] at h
    exact h.trans (List.append_nil _)

/-! ### Texts -/

/-- Only what is read without a fault is collected. -/
theorem collectUnits_eq_ok {index : Nat} {units : List Utf8Unit} {cs : List Char} :
    collectUnits index units = .ok cs ↔ units = cs.map .scalar := by
  induction units generalizing index cs with
  | nil => simp [collectUnits, eq_comm]
  | cons u units ih =>
    cases u with
    | broken _ | cut _ => cases cs <;> simp [collectUnits]
    | scalar c =>
      rw [collectUnits]
      cases hrest : collectUnits (index + c.utf8Size) units with
      | ok cs' =>
        obtain rfl := ih.mp hrest
        change Except.ok (c :: cs') = Except.ok cs ↔ (c :: cs').map Utf8Unit.scalar = cs.map .scalar
        rw [Except.ok.injEq, List.map_inj_right fun _ _ => Utf8Unit.scalar.inj]
      | error fault =>
        refine ⟨nofun, fun h => ?_⟩
        obtain ⟨_, cs', rfl, _, hcs'⟩ := List.map_eq_cons_iff.mp h.symm
        rw [ih.mpr hcs'.symm] at hrest
        cases hrest

/-- Strict decoding accepts encodings, and decodes them to what was encoded. -/
theorem decodeUtf8_eq_ok {bytes : Bytes} {s : String} :
    decodeUtf8 bytes = .ok s ↔ bytes = encodeUtf8 s := by
  have hunits : decodeUtf8 bytes = .ok s ↔ collectUnits 0 (utf8Units bytes) = .ok s.toList := by
    rw [decodeUtf8]
    cases collectUnits 0 (utf8Units bytes) with
    | error fault => exact ⟨nofun, nofun⟩
    | ok cs =>
      change Except.ok (String.ofList cs) = Except.ok s ↔ _
      rw [Except.ok.injEq, Except.ok.injEq, ← String.ofList_inj, String.ofList_toList]
  rw [hunits, collectUnits_eq_ok, utf8Units_eq_scalars, encodeUtf8]

/-- An encoding comes through lenient decoding, whatever follows. -/
theorem decodeLossy_encodeUtf8_append (s : String) (rest : Bytes) :
    decodeLossy (encodeUtf8 s ++ rest) = s ++ decodeLossy rest := by
  have hshown : Utf8Unit.shown ∘ Utf8Unit.scalar = id := rfl
  rw [decodeLossy, utf8Units, encodeUtf8, scan_encoded, List.map_append, List.map_map, hshown,
    List.map_id, String.ofList_append, String.ofList_toList]
  rfl

theorem decodeLossy_encodeUtf8 (s : String) : decodeLossy (encodeUtf8 s) = s := by
  have h := decodeLossy_encodeUtf8_append s []
  rw [List.append_nil] at h
  exact h.trans (String.append_empty)

/-- The byte string is the encoding of a text. -/
def IsText (bytes : Bytes) : Prop := ∃ s, bytes = encodeUtf8 s

theorem IsText.append {x y : Bytes} (hx : IsText x) (hy : IsText y) : IsText (x ++ y) := by
  obtain ⟨s, rfl⟩ := hx
  obtain ⟨t, rfl⟩ := hy
  exact ⟨s ++ t, by simp [encodeUtf8]⟩

theorem isText_of_ascii {bytes : Bytes} (ascii : ∀ b ∈ bytes, b.toNat < 0x80) : IsText bytes :=
  ⟨_, (Base64.encodeUtf8_ofBytes ascii).symm⟩

theorem isText_iff {bytes : Bytes} : IsText bytes ↔ ∃ s, decodeUtf8 bytes = .ok s := by
  simp only [IsText, decodeUtf8_eq_ok]

/-- Lenient decoding loses nothing exactly where strict decoding accepts. -/
theorem encodeUtf8_decodeLossy_iff {bytes : Bytes} :
    encodeUtf8 (decodeLossy bytes) = bytes ↔ IsText bytes := by
  constructor
  · intro h
    exact ⟨_, h.symm⟩
  · rintro ⟨s, rfl⟩
    rw [decodeLossy_encodeUtf8]

/-! ### Parts of a byte string -/

theorem not_continues_of_ascii {b : UInt8} (ascii : b.toNat < 0x80) (pending : Bytes) :
    continues pending b = false := by
  rw [← Bool.not_eq_true]
  intro h
  match pending with
  | [] => cases h
  | [a] =>
    have h := isSecond_iff.mp h
    grind
  | _ :: _ :: _ =>
    have h := isContinuation_iff.mp h
    omega

/-- An ASCII byte ends whatever is pending, and is read on its own. -/
theorem shown_scan_ascii {b : UInt8} (ascii : b.toNat < 0x80) (pending rest : Bytes) :
    (utf8Scan pending (b :: rest)).map Utf8Unit.shown
      = (utf8Scan pending []).map Utf8Unit.shown
        ++ (utf8Scan [] (b :: rest)).map Utf8Unit.shown := by
  have complete : isComplete [b] = true := by
    simp [isComplete, sequenceWidth_eq, ascii]
  cases pending with
  | nil => simp [utf8Scan]
  | cons a pending =>
    simp [utf8Scan, not_continues_of_ascii ascii, complete, Utf8Unit.shown]

/-- What stands before an ASCII byte is shown as if nothing followed. -/
theorem shown_scan_append {b : UInt8} (ascii : b.toNat < 0x80) (pending bytes rest : Bytes) :
    (utf8Scan pending (bytes ++ b :: rest)).map Utf8Unit.shown
      = (utf8Scan pending bytes).map Utf8Unit.shown
        ++ (utf8Scan [] (b :: rest)).map Utf8Unit.shown := by
  induction bytes generalizing pending with
  | nil => exact shown_scan_ascii ascii pending rest
  | cons x bytes ih =>
    rw [List.cons_append, utf8Scan, utf8Scan]
    split
    · split
      · simp [ih]
      · exact ih _
    · dsimp only
      split
      · simp [ih]
      · split
        · simp [ih]
        · simp [ih]

/-- What stands before an ASCII byte is decoded on its own. -/
theorem decodeLossy_append {b : UInt8} (ascii : b.toNat < 0x80) (before rest : Bytes) :
    decodeLossy (before ++ b :: rest) = decodeLossy before ++ decodeLossy (b :: rest) := by
  rw [decodeLossy, utf8Units, shown_scan_append ascii, String.ofList_append]
  rfl

/-- A text that starts with an ASCII byte comes through lenient decoding byte for byte, whatever
stands around it. -/
theorem encodeUtf8_decodeLossy_around {b : UInt8} {block : Bytes} (isText : IsText (b :: block))
    (ascii : b.toNat < 0x80) (before after : Bytes) :
    encodeUtf8 (decodeLossy (before ++ b :: block ++ after))
      = encodeUtf8 (decodeLossy before) ++ b :: block ++ encodeUtf8 (decodeLossy after) := by
  obtain ⟨t, ht⟩ := isText
  have hblock : decodeLossy (b :: (block ++ after)) = t ++ decodeLossy after := by
    rw [← List.cons_append, ht, decodeLossy_encodeUtf8_append]
  rw [List.append_assoc, List.cons_append, decodeLossy_append ascii, hblock, ht]
  simp [encodeUtf8]

end CertIssuer.Text
