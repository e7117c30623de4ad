import DocPress.Text.Utf8

/-!
# Reading back what was written

A text is written as the forms of its characters, one after the other.  A form is what
reading takes for one character, and every character has just one, so reading gives back
every text that was written and takes nothing else: no overlong form, no surrogate, nothing
that stops within a form.

Main results:

- `form_iff`: the form of a character is how the character is written.
- `decodeFrom_form_append`: reading takes one form for one character.
- `decode_eq_ok_iff`: bytes are read as a text exactly if the text is written in them.
- `decode_eq_error_iff`: bytes are refused exactly if no text is written in them.
-/

namespace DocPress.Text

/-! ## Forms -/

/-- The forms of one to four bytes that are read as a character. -/
inductive Form : List UInt8 → Char → Prop where
  | one {a : UInt8} (ha : a.toNat < 0x80) : Form [a] (Char.ofNat a.toNat)
  | two {a b : UInt8} (ha : byteIn 0xC2 0xDF a = true) (hb : byteIn 0x80 0xBF b = true) :
      Form [a, b] (Char.ofNat (a.toNat % 32 * 64 + lowBits b))
  | three {a b c : UInt8} (ha : byteIn 0xE0 0xEF a = true) (hb : secondOfThree a b = true)
      (hc : byteIn 0x80 0xBF c = true) :
      Form [a, b, c] (Char.ofNat ((a.toNat % 16 * 64 + lowBits b) * 64 + lowBits c))
  | four {a b c d : UInt8} (ha : byteIn 0xF0 0xF4 a = true) (hb : secondOfFour a b = true)
      (hc : byteIn 0x80 0xBF c = true) (hd : byteIn 0x80 0xBF d = true) :
      Form [a, b, c, d]
        (Char.ofNat (((a.toNat % 8 * 64 + lowBits b) * 64 + lowBits c) * 64 + lowBits d))

theorem byteIn_iff {low high : Nat} {b : UInt8} :
    byteIn low high b = true ↔ low ≤ b.toNat ∧ b.toNat ≤ high := by
  simp [byteIn]

/-- A second byte continues, but starts later behind the first byte of the overlong forms and
ends earlier behind the first byte of the surrogates. -/
theorem secondOfThree_iff {a b : UInt8} :
    secondOfThree a b = true ↔ (0x80 ≤ b.toNat ∧ b.toNat ≤ 0xBF) ∧
      (a.toNat = 0xE0 → 0xA0 ≤ b.toNat) ∧ (a.toNat = 0xED → b.toNat ≤ 0x9F) := by
  have hlow : a = 0xE0 ↔ a.toNat = 0xE0 := UInt8.toNat_inj.symm
  have hhigh : a = 0xED ↔ a.toNat = 0xED := UInt8.toNat_inj.symm
  rw [secondOfThree, byteIn_iff]
  simp only [hlow, hhigh]
  split <;> split <;> omega

/-- A second byte continues, but starts later behind the first byte of the overlong forms and
ends earlier behind the first byte of what is above the last code point. -/
theorem secondOfFour_iff {a b : UInt8} :
    secondOfFour a b = true ↔ (0x80 ≤ b.toNat ∧ b.toNat ≤ 0xBF) ∧
      (a.toNat = 0xF0 → 0x90 ≤ b.toNat) ∧ (a.toNat = 0xF4 → b.toNat ≤ 0x8F) := by
  have hlow : a = 0xF0 ↔ a.toNat = 0xF0 := UInt8.toNat_inj.symm
  have hhigh : a = 0xF4 ↔ a.toNat = 0xF4 := UInt8.toNat_inj.symm
  rw [secondOfFour, byteIn_iff]
  simp only [hlow, hhigh]
  split <;> split <;> omega

/-! ## How characters are written -/

section Writing

variable {c : Char}

/-- The number of a character that is made of a number which characters have. -/
theorem toNat_ofNat {n : Nat} (h : n.isValidChar) : (Char.ofNat n).toNat = n := by
  rw [Char.ofNat, dif_pos h]
  rfl

theorem utf8EncodeChar_one (h : c.toNat < 0x80) :
    String.utf8EncodeChar c = [UInt8.ofNat c.toNat] := by
  have hc : c.val.toNat ≤ 0x7F := Nat.le_of_lt_succ h
  simp only [String.utf8EncodeChar, hc, if_true]
  rfl

theorem utf8EncodeChar_two (hlow : 0x80 ≤ c.toNat) (hhigh : c.toNat < 0x800) :
    String.utf8EncodeChar c =
      [UInt8.ofNat (c.toNat / 64 % 32 + 0xC0), UInt8.ofNat (c.toNat % 64 + 0x80)] := by
  have hone : ¬ c.val.toNat ≤ 0x7F := Nat.not_le_of_lt hlow
  have htwo : c.val.toNat ≤ 0x7FF := Nat.le_of_lt_succ hhigh
  simp only [String.utf8EncodeChar, hone, htwo, if_true, if_false]
  rfl

theorem utf8EncodeChar_three (hlow : 0x800 ≤ c.toNat) (hhigh : c.toNat < 0x10000) :
    String.utf8EncodeChar c =
      [UInt8.ofNat (c.toNat / 4096 % 16 + 0xE0), UInt8.ofNat (c.toNat / 64 % 64 + 0x80),
        UInt8.ofNat (c.toNat % 64 + 0x80)] := by
  have hone : ¬ c.val.toNat ≤ 0x7F := Nat.not_le_of_lt (Nat.lt_of_lt_of_le (by decide) hlow)
  have htwo : ¬ c.val.toNat ≤ 0x7FF := Nat.not_le_of_lt hlow
  have hthree : c.val.toNat ≤ 0xFFFF := Nat.le_of_lt_succ hhigh
  simp only [String.utf8EncodeChar, hone, htwo, hthree, if_true, if_false]
  rfl

theorem utf8EncodeChar_four (hlow : 0x10000 ≤ c.toNat) :
    String.utf8EncodeChar c =
      [UInt8.ofNat (c.toNat / 262144 % 8 + 0xF0), UInt8.ofNat (c.toNat / 4096 % 64 + 0x80),
        UInt8.ofNat (c.toNat / 64 % 64 + 0x80), UInt8.ofNat (c.toNat % 64 + 0x80)] := by
  have hone : ¬ c.val.toNat ≤ 0x7F := Nat.not_le_of_lt (Nat.lt_of_lt_of_le (by decide) hlow)
  have htwo : ¬ c.val.toNat ≤ 0x7FF := Nat.not_le_of_lt (Nat.lt_of_lt_of_le (by decide) hlow)
  have hthree : ¬ c.val.toNat ≤ 0xFFFF := Nat.not_le_of_lt hlow
  simp only [String.utf8EncodeChar, hone, htwo, hthree, if_false]
  rfl

end Writing

/-- The byte with a number. -/
theorem byte_ofNat {n : Nat} {b : UInt8} (h : n = b.toNat) : UInt8.ofNat n = b := by
  rw [h, UInt8.ofNat_toNat]

/-- A form is how its character is written. -/
theorem Form.eq_utf8EncodeChar {form : List UInt8} {c : Char} (h : Form form c) :
    form = String.utf8EncodeChar c := by
  cases h with
  | @one a ha =>
    have hvalue := toNat_ofNat (n := a.toNat) (.inl (by omega))
    rw [utf8EncodeChar_one (by omega), hvalue, UInt8.ofNat_toNat]
  | @two a b ha hb =>
    rw [byteIn_iff] at ha hb
    have hvalue := toNat_ofNat (n := a.toNat % 32 * 64 + lowBits b)
      (.inl (by unfold lowBits; omega))
    unfold lowBits at hvalue ⊢
    rw [utf8EncodeChar_two (by omega) (by omega), hvalue, byte_ofNat (b := a) (by omega),
      byte_ofNat (b := b) (by omega)]
  | @three a b c ha hb hc =>
    rw [byteIn_iff] at ha hc
    rw [secondOfThree_iff] at hb
    have hvalue := toNat_ofNat (n := (a.toNat % 16 * 64 + lowBits b) * 64 + lowBits c)
      (by unfold lowBits Nat.isValidChar; omega)
    unfold lowBits at hvalue ⊢
    rw [utf8EncodeChar_three (by omega) (by omega), hvalue, byte_ofNat (b := a) (by omega),
      byte_ofNat (b := b) (by omega), byte_ofNat (b := c) (by omega)]
  | @four a b c d ha hb hc hd =>
    rw [byteIn_iff] at ha hc hd
    rw [secondOfFour_iff] at hb
    have hvalue := toNat_ofNat
      (n := ((a.toNat % 8 * 64 + lowBits b) * 64 + lowBits c) * 64 + lowBits d)
      (by unfold lowBits Nat.isValidChar; omega)
    unfold lowBits at hvalue ⊢
    rw [utf8EncodeChar_four (by omega), hvalue, byte_ofNat (b := a) (by omega),
      byte_ofNat (b := b) (by omega), byte_ofNat (b := c) (by omega),
      byte_ofNat (b := d) (by omega)]

/-- A form of a number is one of the character with that number. -/
theorem Form.of_toNat {form : List UInt8} {n : Nat} {c : Char} (h : Form form (Char.ofNat n))
    (hn : n = c.toNat) : Form form c := by
  rwa [hn, Char.ofNat_toNat] at h

/-- Every character is written in its form. -/
theorem form_utf8EncodeChar (c : Char) : Form (String.utf8EncodeChar c) c := by
  have hvalid : c.toNat.isValidChar := c.valid
  have hbyte {n : Nat} (h : n < 256) : (UInt8.ofNat n).toNat = n := UInt8.toNat_ofNat_of_lt h
  have htail (n : Nat) : (UInt8.ofNat (n % 64 + 0x80)).toNat = n % 64 + 0x80 := hbyte (by omega)
  unfold Nat.isValidChar at hvalid
  by_cases hone : c.toNat < 0x80
  · have ha := hbyte (n := c.toNat) (by omega)
    rw [utf8EncodeChar_one hone]
    exact (Form.one (by omega)).of_toNat ha
  by_cases htwo : c.toNat < 0x800
  · have ha := hbyte (n := c.toNat / 64 % 32 + 0xC0) (by omega)
    have hb := htail c.toNat
    rw [utf8EncodeChar_two (by omega) htwo]
    refine (Form.two (byteIn_iff.2 ?_) (byteIn_iff.2 ?_)).of_toNat ?_
    · omega
    · omega
    · unfold lowBits
      omega
  by_cases hthree : c.toNat < 0x10000
  · have ha := hbyte (n := c.toNat / 4096 % 16 + 0xE0) (by omega)
    have hb := htail (c.toNat / 64)
    have hc := htail c.toNat
    rw [utf8EncodeChar_three (by omega) hthree]
    refine (Form.three (byteIn_iff.2 ?_) (secondOfThree_iff.2 ?_) (byteIn_iff.2 ?_)).of_toNat ?_
    · omega
    · omega
    · omega
    · unfold lowBits
      omega
  · have ha := hbyte (n := c.toNat / 262144 % 8 + 0xF0) (by omega)
    have hb := htail (c.toNat / 4096)
    have hc := htail (c.toNat / 64)
    have hd := htail c.toNat
    rw [utf8EncodeChar_four (by omega)]
    refine (Form.four (byteIn_iff.2 ?_) (secondOfFour_iff.2 ?_) (byteIn_iff.2 ?_)
      (byteIn_iff.2 ?_)).of_toNat ?_
    · omega
    · omega
    · omega
    · omega
    · unfold lowBits
      omega

/-- The form of a character is how the character is written. -/
theorem form_iff {form : List UInt8} {c : Char} : Form form c ↔ form = String.utf8EncodeChar c :=
  ⟨Form.eq_utf8EncodeChar, fun h => h ▸ form_utf8EncodeChar c⟩

/-! ## Reading forms -/

/-- Reading takes a form for its character. -/
theorem decodeFrom_form_append {form : List UInt8} {c : Char} (h : Form form c) (position : Nat)
    (rest : List UInt8) :
    decodeFrom position (form ++ rest) =
      (decodeFrom (position + form.length) rest).map (c :: ·) := by
  cases h with
  | one ha =>
    rw [List.singleton_append, decodeFrom.eq_def]
    exact if_pos ha
  | @two a b ha hb =>
    have hfirst := byteIn_iff.1 ha
    have hone : ¬ a.toNat < 0x80 := by omega
    rw [List.cons_append, List.singleton_append, decodeFrom.eq_def]
    simp only [hone, ha, hb, if_true, if_false]
    rfl
  | @three a b c ha hb hc =>
    have hfirst := byteIn_iff.1 ha
    have hone : ¬ a.toNat < 0x80 := by omega
    have htwo : ¬ byteIn 0xC2 0xDF a = true := fun h => by
      have hother := byteIn_iff.1 h
      omega
    rw [List.cons_append, List.cons_append, List.singleton_append, decodeFrom.eq_def]
    simp only [hone, htwo, ha, hb, hc, if_true, if_false]
    rfl
  | @four a b c d ha hb hc hd =>
    have hfirst := byteIn_iff.1 ha
    have hone : ¬ a.toNat < 0x80 := by omega
    have htwo : ¬ byteIn 0xC2 0xDF a = true := fun h => by
      have hother := byteIn_iff.1 h
      omega
    have hthree : ¬ byteIn 0xE0 0xEF a = true := fun h => by
      have hother := byteIn_iff.1 h
      omega
    rw [List.cons_append, List.cons_append, List.cons_append, List.singleton_append,
      decodeFrom.eq_def]
    simp only [hone, htwo, hthree, ha, hb, hc, hd, if_true, if_false]
    rfl

/-- Bytes that do not start with a form are refused. -/
theorem exists_form_or_error (position : Nat) {bytes : List UInt8} (hne : bytes ≠ []) :
    (∃ form c rest, Form form c ∧ bytes = form ++ rest) ∨
      ∃ fault, decodeFrom position bytes = .error fault := by
  fun_cases decodeFrom position bytes
  case case1 => exact absurd rfl hne
  case case2 a rest ha => exact .inl ⟨[a], _, rest, .one ha, rfl⟩
  case case4 a _ ha b rest hb => exact .inl ⟨[a, b], _, rest, .two ha hb, rfl⟩
  case case8 a _ _ ha b hb c rest hc => exact .inl ⟨[a, b, c], _, rest, .three ha hb hc, rfl⟩
  case case14 a _ _ _ ha b hb c hc d rest hd =>
    exact .inl ⟨[a, b, c, d], _, rest, .four ha hb hc hd, rfl⟩
  all_goals exact .inr ⟨_, rfl⟩

/-! ## Reading texts -/

/-- What was written is read back, wherever it stands. -/
theorem decodeFrom_encode (position : Nat) (text : List Char) :
    decodeFrom position (encode text) = .ok text := by
  induction text generalizing position with
  | nil => rfl
  | cons c rest ih =>
    rw [encode_cons, decodeFrom_form_append (form_utf8EncodeChar c), ih]
    rfl

/-- What is read has its first character from a form. -/
theorem exists_form_of_decodeFrom {position : Nat} {bytes : List UInt8} {text : List Char}
    (hne : bytes ≠ []) (h : decodeFrom position bytes = .ok text) :
    ∃ form c rest tail, Form form c ∧ bytes = form ++ rest ∧
      decodeFrom (position + form.length) rest = .ok tail ∧ text = c :: tail := by
  rcases exists_form_or_error position hne with ⟨form, c, rest, hform, rfl⟩ | ⟨fault, hfault⟩
  · rw [decodeFrom_form_append hform] at h
    cases htail : decodeFrom (position + form.length) rest with
    | error fault =>
      rw [htail] at h
      cases h
    | ok tail =>
      rw [htail] at h
      cases h
      exact ⟨form, c, rest, tail, hform, rfl, htail, rfl⟩
  · rw [hfault] at h
    cases h

/-- What is read was written. -/
theorem encode_of_decodeFrom {position : Nat} {bytes : List UInt8} {text : List Char}
    (h : decodeFrom position bytes = .ok text) : bytes = encode text := by
  induction text generalizing position bytes with
  | nil =>
    by_cases hempty : bytes = []
    · exact hempty
    · obtain ⟨_, _, _, _, -, -, -, htext⟩ := exists_form_of_decodeFrom hempty h
      cases htext
  | cons c rest ih =>
    have hne : bytes ≠ [] := by
      rintro rfl
      cases h
    obtain ⟨form, first, behind, tail, hform, rfl, htail, htext⟩ := exists_form_of_decodeFrom hne h
    cases htext
    rw [encode_cons, hform.eq_utf8EncodeChar, ih htail]

/-- Bytes are read as a text exactly if the text is written in them. -/
theorem decode_eq_ok_iff {bytes : List UInt8} {text : List Char} :
    decode bytes = .ok text ↔ bytes = encode text := by
  constructor
  · exact encode_of_decodeFrom
  · rintro rfl
    exact decodeFrom_encode 0 text

/-- Bytes are refused exactly if no text is written in them. -/
theorem decode_eq_error_iff {bytes : List UInt8} :
    (∃ fault, decode bytes = .error fault) ↔ ∀ text, bytes ≠ encode text := by
  constructor
  · rintro ⟨fault, hfault⟩ text htext
    rw [decode_eq_ok_iff.2 htext] at hfault
    cases hfault
  · intro h
    cases hd : decode bytes with
    | error fault => exact ⟨fault, rfl⟩
    | ok text => exact absurd (decode_eq_ok_iff.1 hd) (h text)

end DocPress.Text
