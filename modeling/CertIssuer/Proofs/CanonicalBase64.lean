import CertIssuer.Proofs.Base64

/-!
Only what was encoded is decoded: a text that the decoder accepts is the encoding of the bytes it
gives. A symbol stands for one byte only, and the last group is full once it is padded, so nothing
but the bits left over could tell two texts of the same bytes apart, and those must be zero.
-/

namespace CertIssuer.Base64

/-! ### Symbols -/

/-- A byte with bits is the symbol of these bits. -/
theorem symbol_of_bits? {b : UInt8} {n : Nat} (h : bits? b = some n) : n < 64 ∧ symbol n = b := by
  have all : ∀ m : Fin 256, ∀ n ∈ bits? (UInt8.ofNat m), n < 64 ∧ symbol n = UInt8.ofNat m := by
    decide +kernel
  have hb := all ⟨b.toNat, b.toNat_lt⟩ n
  rw [UInt8.ofNat_toNat] at hb
  exact hb h

theorem symbol_of_bitsAt {offset : Nat} {b : UInt8} {n : Nat} (h : bitsAt offset b = .ok n) :
    n < 64 ∧ symbol n = b := by
  unfold bitsAt at h
  split at h
  · next m hm =>
    cases h
    exact symbol_of_bits? hm
  · cases h

/-! ### The last group -/

/-- What a scan of `group` from `tail` to `tail'` has read: the symbols of `read`, then `count`
bytes of padding. -/
structure Scanned (index : Nat) (tail tail' : Tail) (group : Bytes) (read : List Nat)
    (count : Nat) : Prop where
  group_eq : group = read.map symbol ++ List.replicate count pad
  lt : ∀ n ∈ read, n < 64
  bits : tail'.bits = tail.bits ++ read
  padding : tail'.padding = tail.padding + count
  /-- Nothing but padding follows padding. -/
  closed : 0 < tail.padding → read = []

theorem scanned_of_scanTail {start index : Nat} {tail tail' : Tail} {group : Bytes}
    (h : scanTail start index tail group = .ok tail') :
    ∃ read count, Scanned index tail tail' group read count := by
  induction group generalizing index tail with
  | nil =>
    cases h
    exact ⟨[], 0, ⟨rfl, nofun, by simp, rfl, fun _ => rfl⟩⟩
  | cons b rest ih =>
    rw [scanTail] at h
    split at h
    · next hpad =>
      -- padding: what follows it is padding too
      split at h
      · cases h
      · obtain ⟨read, count, scanned⟩ := ih h
        obtain rfl := scanned.closed (Nat.succ_pos _)
        refine ⟨[], count + 1, ⟨?_, nofun, by simpa using scanned.bits, ?_, fun _ => rfl⟩⟩
        · rw [hpad, scanned.group_eq, List.replicate_succ]
          rfl
        · have := scanned.padding
          simp only at this
          omega
    · split at h
      · cases h
      · next hopen =>
        split at h
        · cases h
        · next n hn =>
          obtain ⟨hlt, hsymbol⟩ := symbol_of_bitsAt hn
          obtain ⟨read, count, scanned⟩ := ih h
          refine ⟨n :: read, count, ⟨?_, ?_, ?_, scanned.padding, fun h => absurd h hopen⟩⟩
          · rw [scanned.group_eq, ← hsymbol]
            rfl
          · exact List.forall_mem_cons.mpr ⟨hlt, scanned.lt⟩
          · simpa using scanned.bits

theorem toNat_toUInt8 {n : Nat} (h : n < 256) : n.toUInt8.toNat = n := by
  rw [Nat.toUInt8_eq, UInt8.toNat_ofNat_of_lt' h]

/-- The two symbols of a byte whose last four bits are zero are those it is encoded with. -/
theorem encodeBytes_tailBytes_two {p q : Nat} (hp : p < 64) (hq : q < 64)
    (hleft : (tailBytes [p, q]).2 = 0) :
    encodeBytes (tailBytes [p, q]).1 = [symbol p, symbol q, pad, pad] := by
  simp only [tailBytes] at hleft
  have ha : (p * 4 + q / 16).toUInt8.toNat = p * 4 + q / 16 := toNat_toUInt8 (by omega)
  have h₁ : (p * 4 + q / 16) / 4 = p := by omega
  have h₂ : (p * 4 + q / 16) % 4 * 16 = q := by omega
  simp only [tailBytes, encodeBytes, ha, h₁, h₂]

theorem encodeBytes_tailBytes_three {p q r : Nat} (hp : p < 64) (hq : q < 64) (hr : r < 64)
    (hleft : (tailBytes [p, q, r]).2 = 0) :
    encodeBytes (tailBytes [p, q, r]).1 = [symbol p, symbol q, symbol r, pad] := by
  simp only [tailBytes] at hleft
  have ha : (p * 4 + q / 16).toUInt8.toNat = p * 4 + q / 16 := toNat_toUInt8 (by omega)
  have hb : (q % 16 * 16 + r / 4).toUInt8.toNat = q % 16 * 16 + r / 4 := toNat_toUInt8 (by omega)
  have h₁ : (p * 4 + q / 16) / 4 = p := by omega
  have h₂ : (p * 4 + q / 16) % 4 * 16 + (q % 16 * 16 + r / 4) / 16 = q := by omega
  have h₃ : (q % 16 * 16 + r / 4) % 16 * 4 = r := by omega
  simp only [tailBytes, encodeBytes, ha, hb, h₁, h₂, h₃]

/-- Four symbols are the first four of what their three bytes and any others are encoded with. -/
theorem encodeBytes_tailBytes_four {p q r s : Nat} (hp : p < 64) (hq : q < 64) (hr : r < 64)
    (hs : s < 64) (bytes : Bytes) :
    encodeBytes ((tailBytes [p, q, r, s]).1 ++ bytes)
      = symbol p :: symbol q :: symbol r :: symbol s :: encodeBytes bytes := by
  have ha : (p * 4 + q / 16).toUInt8.toNat = p * 4 + q / 16 := toNat_toUInt8 (by omega)
  have hb : (q % 16 * 16 + r / 4).toUInt8.toNat = q % 16 * 16 + r / 4 := toNat_toUInt8 (by omega)
  have hc : (r % 4 * 64 + s).toUInt8.toNat = r % 4 * 64 + s := toNat_toUInt8 (by omega)
  have h₁ : (p * 4 + q / 16) / 4 = p := by omega
  have h₂ : (p * 4 + q / 16) % 4 * 16 + (q % 16 * 16 + r / 4) / 16 = q := by omega
  have h₃ : (q % 16 * 16 + r / 4) % 16 * 4 + (r % 4 * 64 + s) / 64 = r := by omega
  have h₄ : (r % 4 * 64 + s) % 64 = s := by omega
  simp only [tailBytes, List.cons_append, List.nil_append, encodeBytes, ha, hb, hc, h₁, h₂, h₃, h₄]

/-- What the decoder has checked of a last group that it decodes. -/
structure Decoded (group bytes : Bytes) (read : List Nat) (count : Nat) : Prop where
  group_eq : group = read.map symbol ++ List.replicate count pad
  lt : ∀ n ∈ read, n < 64
  enough : group = [] ∨ 2 ≤ read.length
  full : (count + read.length) % 4 = 0
  carried : (tailBytes read).1 = bytes
  leftover : (tailBytes read).2 = 0

theorem decoded_of_decodeTail {start : Nat} {group bytes : Bytes}
    (h : decodeTail start group = .ok bytes) : ∃ read count, Decoded group bytes read count := by
  unfold decodeTail at h
  split at h
  · cases h
  · next tail htail =>
    obtain ⟨read, count, scanned⟩ := scanned_of_scanTail htail
    have hbits : tail.bits = read := scanned.bits
    have hpadding : tail.padding = count := by simpa using scanned.padding
    simp only [hbits, hpadding] at h
    split at h
    · cases h
    · next henough =>
      split at h
      · cases h
      · next hfull =>
        split at h
        · cases h
        · next hleft =>
          refine ⟨read, count, scanned.group_eq, scanned.lt, ?_, Decidable.not_not.mp hfull, ?_,
            Decidable.not_not.mp hleft⟩
          · simp only [Bool.and_eq_true, decide_eq_true_eq, not_and, Nat.not_lt] at henough
            cases group with
            | nil => exact .inl rfl
            | cons b rest => exact .inr (henough rfl)
          · injection h

/-- A last group that is decoded is that of its bytes. -/
theorem eq_encodeBytes_of_decodeTail {start : Nat} {group bytes : Bytes}
    (short : group.length ≤ 4) (h : decodeTail start group = .ok bytes) :
    group = encodeBytes bytes := by
  obtain ⟨read, count, decoded⟩ := decoded_of_decodeTail h
  obtain ⟨hgroup, hlt, henough, hfull, rfl, hleft⟩ := decoded
  obtain rfl | henough := henough
  · -- no symbol at all
    obtain ⟨hread, -⟩ := List.append_eq_nil_iff.mp hgroup.symm
    rw [List.map_eq_nil_iff.mp hread]
    rfl
  · have hlength : read.length + count ≤ 4 := by simpa [hgroup] using short
    have hcount : count = 4 - read.length := by omega
    -- as many symbols as were read decide how many bytes they carry
    match read, hlt, henough, hlength with
    | [p, q], hlt, _, _ =>
      simp only [List.forall_mem_cons] at hlt
      rw [encodeBytes_tailBytes_two hlt.1 hlt.2.1 hleft, hgroup, hcount]
      rfl
    | [p, q, r], hlt, _, _ =>
      simp only [List.forall_mem_cons] at hlt
      rw [encodeBytes_tailBytes_three hlt.1 hlt.2.1 hlt.2.2.1 hleft, hgroup, hcount]
      rfl
    | [p, q, r, s], hlt, _, _ =>
      simp only [List.forall_mem_cons] at hlt
      have hfour := encodeBytes_tailBytes_four hlt.1 hlt.2.1 hlt.2.2.1 hlt.2.2.2.1 []
      rw [List.append_nil] at hfour
      rw [hfour, hgroup, hcount]
      rfl
    | _ :: _ :: _ :: _ :: _ :: _, _, _, hlength =>
      simp only [List.length_cons] at hlength
      omega

/-! ### All groups -/

theorem eq_encodeBytes_of_decodeGroups {start : Nat} {symbols bytes : Bytes}
    (h : decodeGroups start symbols = .ok bytes) : symbols = encodeBytes bytes := by
  fun_induction decodeGroups start symbols generalizing bytes with
  | case1 start a b c d e rest p q r s hs hr hq hp ih =>
    obtain ⟨hplt, rfl⟩ := symbol_of_bitsAt hp
    obtain ⟨hqlt, rfl⟩ := symbol_of_bitsAt hq
    obtain ⟨hrlt, rfl⟩ := symbol_of_bitsAt hr
    obtain ⟨hslt, rfl⟩ := symbol_of_bitsAt hs
    cases hrest : decodeGroups (start + 4) (e :: rest) with
    | error fault =>
      rw [hrest] at h
      cases h
    | ok others =>
      rw [hrest] at h
      cases h
      rw [encodeBytes_tailBytes_four hplt hqlt hrlt hslt, ← ih hrest]
  | case2 | case3 | case4 | case5 => cases h
  | case6 start group hshort =>
    refine eq_encodeBytes_of_decodeTail ?_ h
    match group, hshort with
    | [], _ | [_], _ | [_, _], _ | [_, _, _], _ | [_, _, _, _], _ => simp
    | a :: b :: c :: d :: e :: rest, hshort => exact (hshort a b c d e rest rfl).elim

theorem eq_encodeBytes_of_decodeBytes {symbols bytes : Bytes}
    (h : decodeBytes symbols = .ok bytes) : symbols = encodeBytes bytes := by
  unfold decodeBytes at h
  split at h
  · cases h
  · exact eq_encodeBytes_of_decodeGroups h

/-! ### Texts -/

/-- A text is decoded exactly if it is the encoding of some bytes, and then to these bytes. -/
theorem decode_eq_ok_iff {text : String} {bytes : Bytes} :
    decode text = .ok bytes ↔ text = encode bytes := by
  constructor
  · intro h
    apply Text.encodeUtf8_inj.mp
    rw [encode, encodeUtf8_ofBytes (toNat_lt_of_mem_encodeBytes bytes)]
    exact eq_encodeBytes_of_decodeBytes h
  · rintro rfl
    exact decode_encode bytes

/-- Only no bytes are encoded to the empty text. -/
theorem encode_eq_empty {bytes : Bytes} : encode bytes = "" ↔ bytes = [] := by
  have hempty : decode "" = .ok [] := rfl
  rw [eq_comm, ← decode_eq_ok_iff, hempty, Except.ok.injEq, eq_comm]

/-- Bits left over in the last symbol are refused. -/
example : decode "QR==" = .error (.invalidLastSymbol 1 82) := rfl

end CertIssuer.Base64
