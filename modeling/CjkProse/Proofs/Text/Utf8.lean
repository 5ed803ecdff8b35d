import CjkProse.Text.Utf8

/-!
# Reading back what has been written

The bytes of a text are as many as `Text.byteLength` counts, and reading them gives the text again.
No other bytes are read as that text.

## Main results

* `Utf8.length_encode` — the number of bytes of a text.
* `Utf8.decode_encode` — **the bytes of a text are read as that text.**
* `Utf8.encode_of_decode` — **bytes that are read as a text are the bytes of that text.**
-/

namespace CjkProse.Utf8

@[simp] theorem encode_nil : encode [] = [] := rfl

@[simp] theorem encode_cons (c : Char) (t : Text) :
    encode (c :: t) = String.utf8EncodeChar c ++ encode t := rfl

@[simp] theorem encode_append (s t : Text) : encode (s ++ t) = encode s ++ encode t := by
  simp [encode]

@[simp] theorem length_encode (t : Text) : (encode t).length = Text.byteLength t := by
  induction t with
  | nil => rfl
  | cons c t ih => simp [ih]

/-! ### One character -/

theorem isContinuation_iff {b : UInt8} :
    isContinuation b = true ↔ 0x80 ≤ b.toNat ∧ b.toNat < 0xC0 := by
  simp [isContinuation, UInt8.le_iff_toNat_le, UInt8.lt_iff_toNat_lt]

theorem isSecond_iff {a b : UInt8} :
    isSecond a b = true ↔ (0x80 ≤ b.toNat ∧ b.toNat < 0xC0) ∧
      (a.toNat = 0xE0 → 0xA0 ≤ b.toNat) ∧ (a.toNat = 0xED → b.toNat < 0xA0) ∧
      (a.toNat = 0xF0 → 0x90 ≤ b.toNat) ∧ (a.toNat = 0xF4 → b.toNat < 0x90) := by
  simp only [isSecond, Bool.and_eq_true, isContinuation_iff, Bool.not_eq_true',
    Bool.and_eq_false_imp, beq_iff_eq, decide_eq_false_iff_not, UInt8.le_iff_toNat_le,
    UInt8.lt_iff_toNat_lt, ← UInt8.toNat_inj, UInt8.reduceToNat, and_assoc]
  omega

/-- A number below 256 is the value of its byte. -/
theorem toNat_ofNat {k n : Nat} (hk : k < 256) (h : k = n) : (UInt8.ofNat k).toNat = n := by
  rw [← h]
  exact UInt8.toNat_ofNat_of_lt' hk

/-- A character of one byte. -/
theorem decodeFrom_one {n : Nat} (hn : n ≤ 0x7F) (pos : Nat) (rest : List UInt8) :
    decodeFrom pos (UInt8.ofNat n :: rest) = (Char.ofNat n :: ·) <$> decodeFrom (pos + 1) rest := by
  have ha : (UInt8.ofNat n).toNat = n :=
    toNat_ofNat (by omega) (by omega)
  generalize UInt8.ofNat n = a at ha
  have hone : a < 0x80 := by
    simp only [UInt8.lt_iff_toNat_lt, ha, UInt8.reduceToNat]
    omega
  rw [decodeFrom.eq_def]
  simp only [hone, if_true, ha]

/-- A character of two bytes. -/
theorem decodeFrom_two {n : Nat} (hmin : 0x7F < n) (hmax : n ≤ 0x7FF) (pos : Nat)
    (rest : List UInt8) :
    decodeFrom pos (UInt8.ofNat (n / 64 % 32 + 0xC0) :: UInt8.ofNat (n % 64 + 0x80) :: rest) =
      (Char.ofNat n :: ·) <$> decodeFrom (pos + 2) rest := by
  have ha : (UInt8.ofNat (n / 64 % 32 + 0xC0)).toNat = n / 64 + 0xC0 :=
    toNat_ofNat (by omega) (by omega)
  have hb : (UInt8.ofNat (n % 64 + 0x80)).toNat = n % 64 + 0x80 :=
    toNat_ofNat (by omega) (by omega)
  generalize UInt8.ofNat (n / 64 % 32 + 0xC0) = a at ha
  generalize UInt8.ofNat (n % 64 + 0x80) = b at hb
  have hone : ¬ a < 0x80 := by
    simp only [UInt8.lt_iff_toNat_lt, ha, UInt8.reduceToNat]
    omega
  have hstart : ¬ (a < 0xC2 || 0xF4 < a) = true := by
    simp only [Bool.or_eq_true, decide_eq_true_eq, UInt8.lt_iff_toNat_lt, ha, UInt8.reduceToNat]
    omega
  have hsecond : isSecond a b = true := by rw [isSecond_iff]; omega
  have htwo : a < 0xE0 := by
    simp only [UInt8.lt_iff_toNat_lt, ha, UInt8.reduceToNat]
    omega
  have hvalue : a.toNat % 32 * 64 + low b = n := by rw [low]; omega
  rw [decodeFrom.eq_def]
  simp only [hone, hstart, hsecond, Bool.not_true, Bool.false_eq_true, if_false, htwo, if_true,
    hvalue]

/-- A character of three bytes. -/
theorem decodeFrom_three {n : Nat} (hmin : 0x7FF < n) (hmax : n ≤ 0xFFFF)
    (hsurrogate : n < 0xD800 ∨ 0xDFFF < n) (pos : Nat) (rest : List UInt8) :
    decodeFrom pos (UInt8.ofNat (n / 4096 % 16 + 0xE0) :: UInt8.ofNat (n / 64 % 64 + 0x80) ::
        UInt8.ofNat (n % 64 + 0x80) :: rest) =
      (Char.ofNat n :: ·) <$> decodeFrom (pos + 3) rest := by
  have ha : (UInt8.ofNat (n / 4096 % 16 + 0xE0)).toNat = n / 4096 + 0xE0 :=
    toNat_ofNat (by omega) (by omega)
  have hb : (UInt8.ofNat (n / 64 % 64 + 0x80)).toNat = n / 64 % 64 + 0x80 :=
    toNat_ofNat (by omega) (by omega)
  have hc : (UInt8.ofNat (n % 64 + 0x80)).toNat = n % 64 + 0x80 :=
    toNat_ofNat (by omega) (by omega)
  generalize UInt8.ofNat (n / 4096 % 16 + 0xE0) = a at ha
  generalize UInt8.ofNat (n / 64 % 64 + 0x80) = b at hb
  generalize UInt8.ofNat (n % 64 + 0x80) = c at hc
  have hone : ¬ a < 0x80 := by
    simp only [UInt8.lt_iff_toNat_lt, ha, UInt8.reduceToNat]
    omega
  have hstart : ¬ (a < 0xC2 || 0xF4 < a) = true := by
    simp only [Bool.or_eq_true, decide_eq_true_eq, UInt8.lt_iff_toNat_lt, ha, UInt8.reduceToNat]
    omega
  have hsecond : isSecond a b = true := by rw [isSecond_iff]; omega
  have htwo : ¬ a < 0xE0 := by
    simp only [UInt8.lt_iff_toNat_lt, ha, UInt8.reduceToNat]
    omega
  have hthird : isContinuation c = true := by rw [isContinuation_iff]; omega
  have hthree : a < 0xF0 := by
    simp only [UInt8.lt_iff_toNat_lt, ha, UInt8.reduceToNat]
    omega
  have hvalue : (a.toNat % 16 * 64 + low b) * 64 + low c = n := by rw [low, low]; omega
  rw [decodeFrom.eq_def]
  simp only [hone, hstart, hsecond, hthird, Bool.not_true, Bool.false_eq_true, if_false, htwo,
    hthree, if_true, hvalue]

/-- A character of four bytes. -/
theorem decodeFrom_four {n : Nat} (hmin : 0xFFFF < n) (hmax : n < 0x110000) (pos : Nat)
    (rest : List UInt8) :
    decodeFrom pos (UInt8.ofNat (n / 262144 % 8 + 0xF0) :: UInt8.ofNat (n / 4096 % 64 + 0x80) ::
        UInt8.ofNat (n / 64 % 64 + 0x80) :: UInt8.ofNat (n % 64 + 0x80) :: rest) =
      (Char.ofNat n :: ·) <$> decodeFrom (pos + 4) rest := by
  have ha : (UInt8.ofNat (n / 262144 % 8 + 0xF0)).toNat = n / 262144 + 0xF0 :=
    toNat_ofNat (by omega) (by omega)
  have hb : (UInt8.ofNat (n / 4096 % 64 + 0x80)).toNat = n / 4096 % 64 + 0x80 :=
    toNat_ofNat (by omega) (by omega)
  have hc : (UInt8.ofNat (n / 64 % 64 + 0x80)).toNat = n / 64 % 64 + 0x80 :=
    toNat_ofNat (by omega) (by omega)
  have hd : (UInt8.ofNat (n % 64 + 0x80)).toNat = n % 64 + 0x80 :=
    toNat_ofNat (by omega) (by omega)
  generalize UInt8.ofNat (n / 262144 % 8 + 0xF0) = a at ha
  generalize UInt8.ofNat (n / 4096 % 64 + 0x80) = b at hb
  generalize UInt8.ofNat (n / 64 % 64 + 0x80) = c at hc
  generalize UInt8.ofNat (n % 64 + 0x80) = d at hd
  have hone : ¬ a < 0x80 := by
    simp only [UInt8.lt_iff_toNat_lt, ha, UInt8.reduceToNat]
    omega
  have hstart : ¬ (a < 0xC2 || 0xF4 < a) = true := by
    simp only [Bool.or_eq_true, decide_eq_true_eq, UInt8.lt_iff_toNat_lt, ha, UInt8.reduceToNat]
    omega
  have hsecond : isSecond a b = true := by rw [isSecond_iff]; omega
  have htwo : ¬ a < 0xE0 := by
    simp only [UInt8.lt_iff_toNat_lt, ha, UInt8.reduceToNat]
    omega
  have hthird : isContinuation c = true := by rw [isContinuation_iff]; omega
  have hthree : ¬ a < 0xF0 := by
    simp only [UInt8.lt_iff_toNat_lt, ha, UInt8.reduceToNat]
    omega
  have hfourth : isContinuation d = true := by rw [isContinuation_iff]; omega
  have hvalue : ((a.toNat % 8 * 64 + low b) * 64 + low c) * 64 + low d = n := by
    rw [low, low, low]; omega
  rw [decodeFrom.eq_def]
  simp only [hone, hstart, hsecond, hthird, hfourth, Bool.not_true, Bool.false_eq_true, if_false,
    htwo, hthree, hvalue]

/-- The bytes of a character are read as that character, whatever comes after them. -/
theorem decodeFrom_utf8EncodeChar (c : Char) (pos : Nat) (rest : List UInt8) :
    decodeFrom pos (String.utf8EncodeChar c ++ rest) =
      (c :: ·) <$> decodeFrom (pos + c.utf8Size) rest := by
  have hchar : Char.ofNat c.val.toNat = c := Char.ofNat_toNat c
  have hvalid : c.val.toNat < 0xD800 ∨ 0xDFFF < c.val.toNat ∧ c.val.toNat < 0x110000 := c.valid
  rw [← String.length_utf8EncodeChar, String.utf8EncodeChar]
  -- one case for each number of bytes
  split
  · next hone =>
    have h := decodeFrom_one hone pos rest
    rwa [hchar] at h
  · next hone =>
    split
    · next htwo =>
      have h := decodeFrom_two (by omega) htwo pos rest
      rwa [hchar] at h
    · next htwo =>
      split
      · next hthree =>
        have h := decodeFrom_three (by omega) hthree (by omega) pos rest
        rwa [hchar] at h
      · next hthree =>
        have h := decodeFrom_four (n := c.val.toNat) (by omega) (by omega) pos rest
        rwa [hchar] at h

theorem decodeFrom_encode (t : Text) : ∀ pos : Nat, decodeFrom pos (encode t) = .ok t := by
  induction t with
  | nil => intro pos; rw [encode_nil, decodeFrom.eq_def]
  | cons c t ih =>
    intro pos
    rw [encode_cons, decodeFrom_utf8EncodeChar, ih]
    rfl

/-- **The bytes of a text are read as that text.** -/
theorem decode_encode (t : Text) : decode (encode t) = .ok t := decodeFrom_encode t 0

/-! ### Writing back -/

/-- A number that is that of a character. -/
theorem val_ofNat {n : Nat} (h : n.isValidChar) : (Char.ofNat n).val.toNat = n := by
  rw [Char.ofNat, dif_pos h]
  rfl

/-- A byte is told by its value. -/
theorem ofNat_eq {n : Nat} {b : UInt8} (h : n = b.toNat) : UInt8.ofNat n = b := by
  rw [h, UInt8.ofNat_toNat]

/-- What has been read starts with a character, and the rest has been read after it. -/
theorem exists_of_cons_map {c : Char} {rest : Except Fault Text} {t : Text}
    (h : (c :: ·) <$> rest = .ok t) : ∃ s, rest = .ok s ∧ t = c :: s := by
  cases rest with
  | error fault => cases h
  | ok s =>
    cases h
    exact ⟨s, rfl, rfl⟩

/-- A byte that is read as a character by itself. -/
theorem utf8EncodeChar_one {a : UInt8} (ha : a < 0x80) :
    String.utf8EncodeChar (Char.ofNat a.toNat) = [a] := by
  simp only [UInt8.lt_iff_toNat_lt, UInt8.reduceToNat] at ha
  have hval : (Char.ofNat a.toNat).val.toNat = a.toNat :=
    val_ofNat (by unfold Nat.isValidChar; omega)
  unfold String.utf8EncodeChar
  simp only [hval]
  rw [if_pos (by omega), UInt8.ofNat_toNat]

/-- Two bytes that are read as a character. -/
theorem utf8EncodeChar_two {a b : UInt8} (hstart : ¬ (a < 0xC2 || 0xF4 < a) = true)
    (hsecond : isSecond a b = true) (htwo : a < 0xE0) :
    String.utf8EncodeChar (Char.ofNat (a.toNat % 32 * 64 + low b)) = [a, b] := by
  simp only [Bool.or_eq_true, decide_eq_true_eq, UInt8.lt_iff_toNat_lt, UInt8.reduceToNat]
    at hstart htwo
  rw [isSecond_iff] at hsecond
  unfold low
  have hval : (Char.ofNat (a.toNat % 32 * 64 + b.toNat % 64)).val.toNat =
      a.toNat % 32 * 64 + b.toNat % 64 :=
    val_ofNat (by unfold Nat.isValidChar; omega)
  unfold String.utf8EncodeChar
  simp only [hval]
  rw [if_neg (by omega), if_pos (by omega), ofNat_eq (b := a) (by omega),
    ofNat_eq (b := b) (by omega)]

/-- Three bytes that are read as a character. -/
theorem utf8EncodeChar_three {a b c : UInt8} (hstart : ¬ (a < 0xC2 || 0xF4 < a) = true)
    (hsecond : isSecond a b = true) (htwo : ¬ a < 0xE0) (hthird : isContinuation c = true)
    (hthree : a < 0xF0) :
    String.utf8EncodeChar (Char.ofNat ((a.toNat % 16 * 64 + low b) * 64 + low c)) = [a, b, c] := by
  simp only [Bool.or_eq_true, decide_eq_true_eq, UInt8.lt_iff_toNat_lt, UInt8.reduceToNat]
    at hstart htwo hthree
  rw [isSecond_iff] at hsecond
  rw [isContinuation_iff] at hthird
  unfold low
  have hval : (Char.ofNat ((a.toNat % 16 * 64 + b.toNat % 64) * 64 + c.toNat % 64)).val.toNat =
      (a.toNat % 16 * 64 + b.toNat % 64) * 64 + c.toNat % 64 :=
    val_ofNat (by unfold Nat.isValidChar; omega)
  unfold String.utf8EncodeChar
  simp only [hval]
  rw [if_neg (by omega), if_neg (by omega), if_pos (by omega), ofNat_eq (b := a) (by omega),
    ofNat_eq (b := b) (by omega), ofNat_eq (b := c) (by omega)]

/-- Four bytes that are read as a character. -/
theorem utf8EncodeChar_four {a b c d : UInt8} (hstart : ¬ (a < 0xC2 || 0xF4 < a) = true)
    (hsecond : isSecond a b = true) (hthird : isContinuation c = true)
    (hthree : ¬ a < 0xF0) (hfourth : isContinuation d = true) :
    String.utf8EncodeChar
      (Char.ofNat (((a.toNat % 8 * 64 + low b) * 64 + low c) * 64 + low d)) = [a, b, c, d] := by
  simp only [Bool.or_eq_true, decide_eq_true_eq, UInt8.lt_iff_toNat_lt, UInt8.reduceToNat]
    at hstart hthree
  rw [isSecond_iff] at hsecond
  rw [isContinuation_iff] at hthird hfourth
  unfold low
  have hval : (Char.ofNat
      (((a.toNat % 8 * 64 + b.toNat % 64) * 64 + c.toNat % 64) * 64 + d.toNat % 64)).val.toNat =
      ((a.toNat % 8 * 64 + b.toNat % 64) * 64 + c.toNat % 64) * 64 + d.toNat % 64 :=
    val_ofNat (by unfold Nat.isValidChar; omega)
  unfold String.utf8EncodeChar
  simp only [hval]
  rw [if_neg (by omega), if_neg (by omega), if_neg (by omega), ofNat_eq (b := a) (by omega),
    ofNat_eq (b := b) (by omega), ofNat_eq (b := c) (by omega), ofNat_eq (b := d) (by omega)]

theorem encode_of_decodeFrom {bytes : List UInt8} {pos : Nat} {t : Text}
    (h : decodeFrom pos bytes = .ok t) : encode t = bytes := by
  -- one case for each number of bytes; the reader fails in the others
  fun_induction decodeFrom pos bytes generalizing t with
  | case1 =>
    cases h
    rfl
  | case2 pos a as hone ih =>
    obtain ⟨s, hs, rfl⟩ := exists_of_cons_map h
    rw [encode_cons, utf8EncodeChar_one hone, ih hs]
    rfl
  | case6 pos a _ hstart b bs hsecond htwo ih =>
    obtain ⟨s, hs, rfl⟩ := exists_of_cons_map h
    rw [encode_cons, utf8EncodeChar_two hstart (by simpa using hsecond) htwo, ih hs]
    rfl
  | case9 pos a _ hstart b hsecond htwo c cs hthird hthree ih =>
    obtain ⟨s, hs, rfl⟩ := exists_of_cons_map h
    rw [encode_cons, utf8EncodeChar_three hstart (by simpa using hsecond) htwo
      (by simpa using hthird) hthree, ih hs]
    rfl
  | case12 pos a _ hstart b hsecond htwo c hthird hthree d ds hfourth ih =>
    obtain ⟨s, hs, rfl⟩ := exists_of_cons_map h
    rw [encode_cons, utf8EncodeChar_four hstart (by simpa using hsecond)
      (by simpa using hthird) hthree (by simpa using hfourth), ih hs]
    rfl
  | case3 => cases h
  | case4 => cases h
  | case5 => cases h
  | case7 => cases h
  | case8 => cases h
  | case10 => cases h
  | case11 => cases h

/-- **Bytes that are read as a text are the bytes of that text.** -/
theorem encode_of_decode {bytes : List UInt8} {t : Text} (h : decode bytes = .ok t) :
    encode t = bytes :=
  encode_of_decodeFrom h

end CjkProse.Utf8
