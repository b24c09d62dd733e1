import CertIssuer.Text.Base64

/-!
What was encoded in base64 is decoded to what it was. The symbols come in groups of four for every
three bytes, and only the last group can be padded, so the decoder is followed group by group.
-/

namespace CertIssuer.Base64

/-! ### Symbols -/

/-- A symbol stands for the bits that it was chosen for. -/
theorem bits?_symbol {n : Nat} (h : n < 64) : bits? (symbol n) = some n := by
  have all : ∀ n : Fin 64, bits? (symbol n) = some n.val := by decide
  exact all ⟨n, h⟩

/-- No symbol is padding. -/
theorem symbol_ne_pad {n : Nat} (h : n < 64) : symbol n ≠ pad := by
  have all : ∀ n : Fin 64, symbol n ≠ pad := by decide
  exact all ⟨n, h⟩

theorem symbol_lt {n : Nat} (h : n < 64) : (symbol n).toNat < 128 := by
  have all : ∀ n : Fin 64, (symbol n).toNat < 128 := by decide
  exact all ⟨n, h⟩

theorem bitsAt_symbol (offset : Nat) {n : Nat} (h : n < 64) : bitsAt offset (symbol n) = .ok n := by
  rw [bitsAt, bits?_symbol h]

/-! ### The bytes of a group -/

theorem tailBytes_three (a b c : UInt8) :
    tailBytes [a.toNat / 4, a.toNat % 4 * 16 + b.toNat / 16, b.toNat % 16 * 4 + c.toNat / 64,
      c.toNat % 64] = ([a, b, c], 0) := by
  have hb := b.toNat_lt
  have hc := c.toNat_lt
  have h₁ : a.toNat / 4 * 4 + (a.toNat % 4 * 16 + b.toNat / 16) / 16 = a.toNat := by omega
  have h₂ : (a.toNat % 4 * 16 + b.toNat / 16) % 16 * 16 + (b.toNat % 16 * 4 + c.toNat / 64) / 4
      = b.toNat := by omega
  have h₃ : (b.toNat % 16 * 4 + c.toNat / 64) % 4 * 64 + c.toNat % 64 = c.toNat := by omega
  simp only [tailBytes, h₁, h₂, h₃, Nat.toUInt8_eq, UInt8.ofNat_toNat]

theorem tailBytes_two (a b : UInt8) :
    tailBytes [a.toNat / 4, a.toNat % 4 * 16 + b.toNat / 16, b.toNat % 16 * 4] = ([a, b], 0) := by
  have hb := b.toNat_lt
  have h₁ : a.toNat / 4 * 4 + (a.toNat % 4 * 16 + b.toNat / 16) / 16 = a.toNat := by omega
  have h₂ : (a.toNat % 4 * 16 + b.toNat / 16) % 16 * 16 + b.toNat % 16 * 4 / 4 = b.toNat := by omega
  have h₃ : b.toNat % 16 * 4 % 4 = 0 := by omega
  simp only [tailBytes, h₁, h₂, h₃, Nat.toUInt8_eq, UInt8.ofNat_toNat]

theorem tailBytes_one (a : UInt8) :
    tailBytes [a.toNat / 4, a.toNat % 4 * 16] = ([a], 0) := by
  have h₁ : a.toNat / 4 * 4 + a.toNat % 4 * 16 / 16 = a.toNat := by omega
  have h₂ : a.toNat % 4 * 16 % 16 = 0 := by omega
  simp only [tailBytes, h₁, h₂, Nat.toUInt8_eq, UInt8.ofNat_toNat]

/-! ### The last group -/

/-- A symbol adds its bits, as long as there was no padding. -/
theorem scanTail_symbol (start index : Nat) {n : Nat} (h : n < 64) (bits : List Nat) (first : Nat)
    (last : UInt8) (rest : Bytes) : scanTail start index ⟨bits, 0, first, last⟩ (symbol n :: rest)
      = scanTail start (index + 1) ⟨bits ++ [n], 0, first, symbol n⟩ rest := by
  simp [scanTail, symbol_ne_pad h, bitsAt_symbol _ h]

/-- Padding from the third place on is counted. -/
theorem scanTail_pad (start index : Nat) (h : 2 ≤ index) (tail : Tail) (rest : Bytes) :
    ∃ first, scanTail start index tail (pad :: rest)
      = scanTail start (index + 1) { tail with padding := tail.padding + 1, firstPadding := first }
        rest := by
  refine ⟨if tail.padding = 0 then index else tail.firstPadding, ?_⟩
  rw [scanTail, if_pos rfl, if_neg (by omega)]

/-- The last group is decoded if its bytes leave nothing over. -/
theorem decodeTail_of_scanTail {start : Nat} {group bytes : Bytes} {tail : Tail}
    (scanned : scanTail start 0 ⟨[], 0, 0, 0⟩ group = .ok tail) (enough : 2 ≤ tail.bits.length)
    (full : (tail.padding + tail.bits.length) % 4 = 0)
    (carried : tailBytes tail.bits = (bytes, 0)) : decodeTail start group = .ok bytes := by
  have hlong : ¬ tail.bits.length < 2 := by omega
  simp [decodeTail, scanned, hlong, full, carried]

theorem decodeTail_nil (start : Nat) : decodeTail start [] = .ok [] := rfl

theorem decodeTail_one (start : Nat) (a : UInt8) :
    decodeTail start [symbol (a.toNat / 4), symbol (a.toNat % 4 * 16), pad, pad] = .ok [a] := by
  have ha := a.toNat_lt
  obtain ⟨first, hfirst⟩ := scanTail_pad start 2 (by omega)
    ⟨[a.toNat / 4, a.toNat % 4 * 16], 0, 0, symbol (a.toNat % 4 * 16)⟩ [pad]
  obtain ⟨second, hsecond⟩ := scanTail_pad start 3 (by omega)
    ⟨[a.toNat / 4, a.toNat % 4 * 16], 1, first, symbol (a.toNat % 4 * 16)⟩ []
  have scanned := (scanTail_symbol start 0 (n := a.toNat / 4) (by omega) [] 0 0 _).trans
    ((scanTail_symbol start 1 (n := a.toNat % 4 * 16) (by omega) _ 0 _ _).trans
      (hfirst.trans hsecond))
  exact decodeTail_of_scanTail scanned (by simp) (by simp) (tailBytes_one a)

theorem decodeTail_two (start : Nat) (a b : UInt8) :
    decodeTail start [symbol (a.toNat / 4), symbol (a.toNat % 4 * 16 + b.toNat / 16),
      symbol (b.toNat % 16 * 4), pad] = .ok [a, b] := by
  have ha := a.toNat_lt
  have hb := b.toNat_lt
  obtain ⟨first, hfirst⟩ := scanTail_pad start 3 (by omega)
    ⟨[a.toNat / 4, a.toNat % 4 * 16 + b.toNat / 16, b.toNat % 16 * 4], 0, 0,
      symbol (b.toNat % 16 * 4)⟩ []
  have scanned := (scanTail_symbol start 0 (n := a.toNat / 4) (by omega) [] 0 0 _).trans
    ((scanTail_symbol start 1 (n := a.toNat % 4 * 16 + b.toNat / 16) (by omega) _ 0 _ _).trans
      ((scanTail_symbol start 2 (n := b.toNat % 16 * 4) (by omega) _ 0 _ _).trans hfirst))
  exact decodeTail_of_scanTail scanned (by simp) (by simp) (tailBytes_two a b)

theorem decodeTail_three (start : Nat) (a b c : UInt8) :
    decodeTail start [symbol (a.toNat / 4), symbol (a.toNat % 4 * 16 + b.toNat / 16),
      symbol (b.toNat % 16 * 4 + c.toNat / 64), symbol (c.toNat % 64)] = .ok [a, b, c] := by
  have ha := a.toNat_lt
  have hb := b.toNat_lt
  have hc := c.toNat_lt
  have scanned := (scanTail_symbol start 0 (n := a.toNat / 4) (by omega) [] 0 0 _).trans
    ((scanTail_symbol start 1 (n := a.toNat % 4 * 16 + b.toNat / 16) (by omega) _ 0 _ _).trans
      ((scanTail_symbol start 2 (n := b.toNat % 16 * 4 + c.toNat / 64) (by omega) _ 0 _ _).trans
        (scanTail_symbol start 3 (n := c.toNat % 64) (by omega) _ 0 _ [])))
  exact decodeTail_of_scanTail scanned (by simp) (by simp) (tailBytes_three a b c)

/-! ### All groups -/

/-- A group that is not the last one is decoded before those that follow. -/
theorem decodeGroups_three (start : Nat) (a b c d : UInt8) (rest : Bytes) :
    decodeGroups start (symbol (a.toNat / 4) :: symbol (a.toNat % 4 * 16 + b.toNat / 16)
        :: symbol (b.toNat % 16 * 4 + c.toNat / 64) :: symbol (c.toNat % 64) :: d :: rest)
      = (decodeGroups (start + 4) (d :: rest)).map ([a, b, c] ++ ·) := by
  have ha := a.toNat_lt
  have hb := b.toNat_lt
  have hc := c.toNat_lt
  rw [decodeGroups, bitsAt_symbol _ (by omega), bitsAt_symbol _ (by omega),
    bitsAt_symbol _ (by omega), bitsAt_symbol _ (by omega)]
  simp only [tailBytes_three]

/-- There are groups for any bytes but none. -/
theorem encodeBytes_eq_nil {bytes : Bytes} (h : encodeBytes bytes = []) : bytes = [] := by
  revert h
  fun_cases encodeBytes bytes with
  | case1 => exact fun _ => rfl
  | case2 | case3 | case4 => exact nofun

theorem decodeGroups_encodeBytes (start : Nat) (bytes : Bytes) :
    decodeGroups start (encodeBytes bytes) = .ok bytes := by
  fun_induction encodeBytes bytes generalizing start with
  | case1 => exact decodeTail_nil start
  | case2 a => exact decodeTail_one start a
  | case3 a b => exact decodeTail_two start a b
  | case4 a b c rest ih =>
    cases hrest : encodeBytes rest with
    | nil =>
      obtain rfl := encodeBytes_eq_nil hrest
      exact decodeTail_three start a b c
    | cons d symbols =>
      rw [decodeGroups_three, ← hrest, ih]
      rfl

/-! ### Texts -/

theorem length_encodeBytes (bytes : Bytes) : (encodeBytes bytes).length % 4 = 0 := by
  fun_induction encodeBytes bytes with
  | case1 => rfl
  | case2 | case3 => simp
  | case4 a b c rest ih =>
    simp only [List.length_cons]
    omega

theorem decodeBytes_encodeBytes (bytes : Bytes) : decodeBytes (encodeBytes bytes) = .ok bytes := by
  have hstray : strayLast? (encodeBytes bytes) = none := by
    rw [strayLast?, length_encodeBytes]
    rfl
  rw [decodeBytes, hstray]
  exact decodeGroups_encodeBytes 0 bytes

/-- Symbols and padding are ASCII. -/
theorem toNat_lt_of_mem_encodeBytes (bytes : Bytes) : ∀ b ∈ encodeBytes bytes, b.toNat < 128 := by
  have hpad : pad.toNat < 128 := by decide
  fun_induction encodeBytes bytes with
  | case1 => exact nofun
  | case2 a =>
    have ha := a.toNat_lt
    simp only [List.forall_mem_cons]
    exact ⟨symbol_lt (by omega), symbol_lt (by omega), hpad, hpad, nofun⟩
  | case3 a b =>
    have ha := a.toNat_lt
    have hb := b.toNat_lt
    simp only [List.forall_mem_cons]
    exact ⟨symbol_lt (by omega), symbol_lt (by omega), symbol_lt (by omega), hpad, nofun⟩
  | case4 a b c rest ih =>
    have ha := a.toNat_lt
    have hb := b.toNat_lt
    have hc := c.toNat_lt
    simp only [List.forall_mem_cons]
    exact ⟨symbol_lt (by omega), symbol_lt (by omega), symbol_lt (by omega), symbol_lt (by omega),
      ih⟩

/-- The character of an ASCII byte is encoded as that byte. -/
theorem utf8EncodeChar_ofNat {b : UInt8} (h : b.toNat < 128) :
    String.utf8EncodeChar (Char.ofNat b.toNat) = [b] := by
  have all : ∀ n : Fin 128, String.utf8EncodeChar (Char.ofNat n) = [n.val.toUInt8] := by
    decide +kernel
  rw [all ⟨b.toNat, h⟩, Nat.toUInt8_eq, UInt8.ofNat_toNat]

/-- Characters for ASCII bytes are encoded as these bytes. -/
theorem encodeUtf8_ofBytes {bytes : Bytes} (h : ∀ b ∈ bytes, b.toNat < 128) :
    Text.encodeUtf8 (String.ofList (bytes.map fun b => Char.ofNat b.toNat)) = bytes := by
  rw [Text.encodeUtf8, String.toList_ofList]
  induction bytes with
  | nil => rfl
  | cons b bytes ih =>
    obtain ⟨hb, hrest⟩ := List.forall_mem_cons.mp h
    rw [List.map_cons, List.flatMap_cons, utf8EncodeChar_ofNat hb, ih hrest]
    rfl

/-- What was encoded is decoded to what it was. -/
theorem decode_encode (bytes : Bytes) : decode (encode bytes) = .ok bytes := by
  rw [decode, encode, encodeUtf8_ofBytes (toNat_lt_of_mem_encodeBytes bytes)]
  exact decodeBytes_encodeBytes bytes

end CertIssuer.Base64
