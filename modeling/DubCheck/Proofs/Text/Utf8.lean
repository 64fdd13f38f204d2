import DubCheck.Text.Utf8
import Mathlib
/-!
# Reading what was written in UTF-8

The bytes that encode a string are read as its characters: `decode_encode`.  Reading that puts a
replacement character in the place of each fault gives the same, as there are no faults:
`decodeLossy_encode`.  No other bytes are read without a fault: `decode_eq_ok_iff`.
-/

namespace DubCheck.Text.Utf8

lemma toList_eq_data (b : ByteArray) : b.toList = b.data.toList := by
  have hloop : ∀ i r, ByteArray.toList.loop b i r = r.reverse ++ b.data.toList.drop i := by
    intro i r
    induction i, r using ByteArray.toList.loop.induct b with
    | case1 i r hi ih =>
      have hi' : i < b.data.toList.length := hi
      have hget : b.get! i = b.data.toList[i] := getElem!_pos b.data i hi
      rw [ByteArray.toList.loop, if_pos hi, ih, List.drop_eq_getElem_cons hi', hget,
        List.reverse_cons, List.append_assoc, List.singleton_append]
    | case2 i r hi =>
      have hi' : b.data.toList.length ≤ i := Nat.le_of_not_lt hi
      rw [ByteArray.toList.loop, if_neg hi, List.drop_eq_nil_of_le hi', List.append_nil]
  rw [ByteArray.toList, hloop]
  rfl

lemma encode_eq (s : String) : encode s = s.toList.flatMap String.utf8EncodeChar := by
  rw [encode, toList_eq_data, String.toUTF8, ← String.utf8Encode_toList, List.utf8Encode,
    List.toList_data_toByteArray]

lemma toNat_ofNat_of_lt {n : Nat} (h : n < 256) : (UInt8.ofNat n).toNat = n := by
  rw [UInt8.toNat_ofNat']
  exact Nat.mod_eq_of_lt h

/-- A character of several bytes is read if its continuation bytes are there. -/
lemma readTail_eq (high : Nat) (first : UInt8 → Bool) (tail rest : List UInt8)
    (hfirst : tail.head?.all first = true) (htail : tail.all isContinuation = true) :
    readTail high first tail.length (tail ++ rest) = .char (charOf high tail) tail.length := by
  simp [readTail, hfirst, htail]

lemma isContinuation_iff (b : UInt8) :
    isContinuation b = true ↔ 0x80 ≤ b.toNat ∧ b.toNat < 0xC0 := by
  simp [isContinuation]

section

variable {b x y z : UInt8}

lemma readChar_one (hb : b.toNat < 0x80) (rest : List UInt8) :
    readChar b rest = .char (Char.ofNat b.toNat) 0 := by
  simp only [readChar]
  rw [if_pos hb]

lemma readChar_two (hb : 0xC2 ≤ b.toNat ∧ b.toNat < 0xE0)
    (hx : 0x80 ≤ x.toNat ∧ x.toNat < 0xC0) (rest : List UInt8) :
    readChar b (x :: rest) = .char (charOf (b.toNat - 0xC0) [x]) 1 := by
  have hx' : isContinuation x = true := (isContinuation_iff x).mpr hx
  simp only [readChar]
  rw [if_neg (by omega), if_neg (by omega), if_pos (by omega)]
  exact readTail_eq _ isContinuation [x] rest hx' (by simp [hx'])

lemma readChar_three (hb : 0xE0 ≤ b.toNat ∧ b.toNat < 0xF0)
    (hx : 0x80 ≤ x.toNat ∧ x.toNat < 0xC0) (hy : 0x80 ≤ y.toNat ∧ y.toNat < 0xC0)
    (hlow : b.toNat = 0xE0 → 0xA0 ≤ x.toNat) (hhigh : b.toNat = 0xED → x.toNat < 0xA0)
    (rest : List UInt8) :
    readChar b (x :: y :: rest) = .char (charOf (b.toNat - 0xE0) [x, y]) 2 := by
  have hx' : isContinuation x = true := (isContinuation_iff x).mpr hx
  have hy' : isContinuation y = true := (isContinuation_iff y).mpr hy
  simp only [readChar]
  rw [if_neg (by omega), if_neg (by omega), if_neg (by omega), if_pos (by omega)]
  refine readTail_eq _ _ [x, y] rest ?_ (by simp [hx', hy'])
  simp only [List.head?_cons, Option.all_some, hx', Bool.true_and]
  split_ifs with h₁ h₂
  · exact decide_eq_true (hlow h₁)
  · exact decide_eq_true (hhigh h₂)
  · rfl

lemma readChar_four (hb : 0xF0 ≤ b.toNat ∧ b.toNat < 0xF5)
    (hx : 0x80 ≤ x.toNat ∧ x.toNat < 0xC0) (hy : 0x80 ≤ y.toNat ∧ y.toNat < 0xC0)
    (hz : 0x80 ≤ z.toNat ∧ z.toNat < 0xC0) (hlow : b.toNat = 0xF0 → 0x90 ≤ x.toNat)
    (hhigh : b.toNat = 0xF4 → x.toNat < 0x90) (rest : List UInt8) :
    readChar b (x :: y :: z :: rest) = .char (charOf (b.toNat - 0xF0) [x, y, z]) 3 := by
  have hx' : isContinuation x = true := (isContinuation_iff x).mpr hx
  have hy' : isContinuation y = true := (isContinuation_iff y).mpr hy
  have hz' : isContinuation z = true := (isContinuation_iff z).mpr hz
  simp only [readChar]
  rw [if_neg (by omega), if_neg (by omega), if_neg (by omega), if_neg (by omega),
    if_pos (by omega)]
  refine readTail_eq _ _ [x, y, z] rest ?_ (by simp [hx', hy', hz'])
  simp only [List.head?_cons, Option.all_some, hx', Bool.true_and]
  split_ifs with h₁ h₂
  · exact decide_eq_true (hlow h₁)
  · exact decide_eq_true (hhigh h₂)
  · rfl

end

/-- A character is read from the bytes that encode it, whatever follows them. -/
lemma readChar_encodeChar (c : Char) (rest : List UInt8) :
    ∃ b tail, String.utf8EncodeChar c = b :: tail ∧
      readChar b (tail ++ rest) = .char c tail.length := by
  have hvalid := c.valid
  have hchar : Char.ofNat c.val.toNat = c := Char.ofNat_toNat c
  simp only [UInt32.isValidChar, Nat.isValidChar] at hvalid
  unfold String.utf8EncodeChar
  dsimp only
  generalize c.val.toNat = v at hvalid hchar ⊢
  -- The last three bytes are always made in the same way.
  have hlast : (UInt8.ofNat (v % 64 + 128)).toNat = v % 64 + 128 := toNat_ofNat_of_lt (by omega)
  have hmiddle : (UInt8.ofNat (v / 64 % 64 + 128)).toNat = v / 64 % 64 + 128 :=
    toNat_ofNat_of_lt (by omega)
  have hsecond : (UInt8.ofNat (v / 4096 % 64 + 128)).toNat = v / 4096 % 64 + 128 :=
    toNat_ofNat_of_lt (by omega)
  have hcharOf : ∀ {high : Nat} {tail : List UInt8},
      tail.foldl (fun n b => n * 64 + (b.toNat - 0x80)) high = v → charOf high tail = c := by
    intro high tail hvalue
    rw [charOf, hvalue, hchar]
  split_ifs with h₁ h₂ h₃
  · have hfirst : (UInt8.ofNat v).toNat = v := toNat_ofNat_of_lt (by omega)
    refine ⟨_, [], rfl, (readChar_one (by omega) rest).trans ?_⟩
    rw [hfirst, hchar]
    rfl
  · have hfirst : (UInt8.ofNat (v / 64 % 32 + 192)).toNat = v / 64 % 32 + 192 :=
      toNat_ofNat_of_lt (by omega)
    refine ⟨_, [_], rfl, (readChar_two (by omega) (by omega) rest).trans ?_⟩
    rw [hcharOf (by simp only [List.foldl_cons, List.foldl_nil]; omega)]
    rfl
  · have hfirst : (UInt8.ofNat (v / 4096 % 16 + 224)).toNat = v / 4096 % 16 + 224 :=
      toNat_ofNat_of_lt (by omega)
    refine ⟨_, [_, _], rfl, (readChar_three (by omega) (by omega) (by omega) (by omega)
      (by omega) rest).trans ?_⟩
    rw [hcharOf (by simp only [List.foldl_cons, List.foldl_nil]; omega)]
    rfl
  · have hfirst : (UInt8.ofNat (v / 262144 % 8 + 240)).toNat = v / 262144 % 8 + 240 :=
      toNat_ofNat_of_lt (by omega)
    refine ⟨_, [_, _, _], rfl, (readChar_four (by omega) (by omega) (by omega) (by omega)
      (by omega) (by omega) rest).trans ?_⟩
    rw [hcharOf (by simp only [List.foldl_cons, List.foldl_nil]; omega)]
    rfl

lemma decodeFrom_encodeChars (cs : List Char) (position : Nat) :
    decodeFrom position (cs.flatMap String.utf8EncodeChar) = .ok cs := by
  induction cs generalizing position with
  | nil => rw [List.flatMap_nil, decodeFrom]
  | cons c cs ih =>
    obtain ⟨b, tail, hbytes, hread⟩ := readChar_encodeChar c (cs.flatMap String.utf8EncodeChar)
    rw [List.flatMap_cons, hbytes, List.cons_append, decodeFrom, hread]
    simp only [List.drop_left, ih]
    rfl

/-- The bytes that encode a string are read as its characters. -/
theorem decode_encode (s : String) : decode (encode s) = .ok s.toList := by
  rw [decode, encode_eq, decodeFrom_encodeChars]

lemma decodeLossy_encodeChars (cs : List Char) :
    decodeLossy (cs.flatMap String.utf8EncodeChar) = cs := by
  induction cs with
  | nil => rw [List.flatMap_nil, decodeLossy]
  | cons c cs ih =>
    obtain ⟨b, tail, hbytes, hread⟩ := readChar_encodeChar c (cs.flatMap String.utf8EncodeChar)
    rw [List.flatMap_cons, hbytes, List.cons_append, decodeLossy, hread]
    simp only [List.drop_left, ih]

/-- There is nothing to replace in the bytes that encode a string. -/
theorem decodeLossy_encode (s : String) : decodeLossy (encode s) = s.toList := by
  rw [encode_eq, decodeLossy_encodeChars]

/-! ## Bytes that are read -/

lemma val_toNat_ofNat {n : Nat} (h : n.isValidChar) : (Char.ofNat n).val.toNat = n := by
  rw [Char.ofNat, dif_pos h]
  rfl

lemma ofNat_eq {b : UInt8} {n : Nat} (h : n = b.toNat) : UInt8.ofNat n = b := by
  subst h
  exact UInt8.ofNat_toNat

lemma faultAfter_ne_char {first : UInt8 → Bool} {need size : Nat} {rest : List UInt8} {c : Char} :
    faultAfter first need rest ≠ .char c size := by
  intro h
  cases rest with
  | nil => cases h
  | cons b more =>
    simp only [faultAfter] at h
    split_ifs at h

/-- A character of several bytes is only found if its continuation bytes are there. -/
lemma readTail_eq_char {high need size : Nat} {first : UInt8 → Bool} {rest : List UInt8} {c : Char}
    (h : readTail high first need rest = .char c size) :
    ∃ tail more, rest = tail ++ more ∧ tail.length = need ∧ size = need ∧
      tail.head?.all first = true ∧ tail.all isContinuation = true ∧ c = charOf high tail := by
  rw [readTail] at h
  split at h
  · rename_i hcond
    simp only [Bool.and_eq_true, decide_eq_true_eq] at hcond
    cases h
    exact ⟨rest.take need, rest.drop need, (List.take_append_drop _ _).symm, hcond.1.1, rfl,
      hcond.1.2, hcond.2, rfl⟩
  · exact (faultAfter_ne_char h).elim

section

variable {b x y z : UInt8}

lemma encodeChar_charOf_one (hb : 0xC2 ≤ b.toNat ∧ b.toNat < 0xE0)
    (hx : 0x80 ≤ x.toNat ∧ x.toNat < 0xC0) :
    String.utf8EncodeChar (charOf (b.toNat - 0xC0) [x]) = [b, x] := by
  simp only [charOf, List.foldl_cons, List.foldl_nil]
  unfold String.utf8EncodeChar
  dsimp only
  rw [val_toNat_ofNat (Or.inl (by omega)), if_neg (by omega), if_pos (by omega),
    ofNat_eq (b := b) (by omega), ofNat_eq (b := x) (by omega)]

/-- The bounds for the second byte leave out the shorter forms and the halves of characters. -/
lemma encodeChar_charOf_two (hb : 0xE0 ≤ b.toNat ∧ b.toNat < 0xF0)
    (hx : 0x80 ≤ x.toNat ∧ x.toNat < 0xC0) (hy : 0x80 ≤ y.toNat ∧ y.toNat < 0xC0)
    (hlow : b.toNat = 0xE0 → 0xA0 ≤ x.toNat) (hhigh : b.toNat = 0xED → x.toNat < 0xA0) :
    String.utf8EncodeChar (charOf (b.toNat - 0xE0) [x, y]) = [b, x, y] := by
  have hvalid : Nat.isValidChar
      (((b.toNat - 0xE0) * 64 + (x.toNat - 0x80)) * 64 + (y.toNat - 0x80)) := by
    unfold Nat.isValidChar
    omega
  simp only [charOf, List.foldl_cons, List.foldl_nil]
  unfold String.utf8EncodeChar
  dsimp only
  rw [val_toNat_ofNat hvalid, if_neg (by omega), if_neg (by omega), if_pos (by omega),
    ofNat_eq (b := b) (by omega), ofNat_eq (b := x) (by omega), ofNat_eq (b := y) (by omega)]

lemma encodeChar_charOf_three (hb : 0xF0 ≤ b.toNat ∧ b.toNat < 0xF5)
    (hx : 0x80 ≤ x.toNat ∧ x.toNat < 0xC0) (hy : 0x80 ≤ y.toNat ∧ y.toNat < 0xC0)
    (hz : 0x80 ≤ z.toNat ∧ z.toNat < 0xC0) (hlow : b.toNat = 0xF0 → 0x90 ≤ x.toNat)
    (hhigh : b.toNat = 0xF4 → x.toNat < 0x90) :
    String.utf8EncodeChar (charOf (b.toNat - 0xF0) [x, y, z]) = [b, x, y, z] := by
  have hvalid : Nat.isValidChar ((((b.toNat - 0xF0) * 64 + (x.toNat - 0x80)) * 64 +
      (y.toNat - 0x80)) * 64 + (z.toNat - 0x80)) := by
    unfold Nat.isValidChar
    omega
  simp only [charOf, List.foldl_cons, List.foldl_nil]
  unfold String.utf8EncodeChar
  dsimp only
  rw [val_toNat_ofNat hvalid, if_neg (by omega), if_neg (by omega), if_neg (by omega),
    ofNat_eq (b := b) (by omega), ofNat_eq (b := x) (by omega), ofNat_eq (b := y) (by omega),
    ofNat_eq (b := z) (by omega)]

end

/-- The bytes in which a character is found are those that encode it. -/
lemma encodeChar_of_readChar {b : UInt8} {rest : List UInt8} {c : Char} {size : Nat}
    (h : readChar b rest = .char c size) :
    ∃ tail more, rest = tail ++ more ∧ size = tail.length ∧
      String.utf8EncodeChar c = b :: tail := by
  simp only [readChar] at h
  have hb := b.toNat_lt
  -- The first byte tells how many bytes go on with it.
  by_cases h₁ : b.toNat < 0x80
  · rw [if_pos h₁] at h
    cases h
    refine ⟨[], rest, rfl, rfl, ?_⟩
    unfold String.utf8EncodeChar
    dsimp only
    rw [val_toNat_ofNat (Or.inl (by omega)), if_pos (by omega), ofNat_eq rfl]
  rw [if_neg h₁] at h
  by_cases h₂ : b.toNat < 0xC2
  · rw [if_pos h₂] at h
    cases h
  rw [if_neg h₂] at h
  by_cases h₃ : b.toNat < 0xE0
  · rw [if_pos h₃] at h
    obtain ⟨tail, more, rfl, hlength, rfl, -, hall, rfl⟩ := readTail_eq_char h
    refine ⟨tail, more, rfl, hlength.symm, ?_⟩
    obtain ⟨x, rfl⟩ := List.length_eq_one_iff.mp hlength
    simp only [List.all_cons, List.all_nil, Bool.and_true, isContinuation_iff] at hall
    exact encodeChar_charOf_one (by omega) hall
  rw [if_neg h₃] at h
  by_cases h₄ : b.toNat < 0xF0
  · rw [if_pos h₄] at h
    obtain ⟨tail, more, rfl, hlength, rfl, hfirst, hall, rfl⟩ := readTail_eq_char h
    refine ⟨tail, more, rfl, hlength.symm, ?_⟩
    obtain ⟨x, y, rfl⟩ := List.length_eq_two.mp hlength
    simp only [List.all_cons, List.all_nil, Bool.and_true, Bool.and_eq_true,
      isContinuation_iff] at hall
    simp only [List.head?_cons, Option.all_some, Bool.and_eq_true] at hfirst
    have hbound := hfirst.2
    exact encodeChar_charOf_two (by omega) hall.1 hall.2 (fun heq => by simpa [heq] using hbound)
      fun heq => by simpa [heq] using hbound
  rw [if_neg h₄] at h
  by_cases h₅ : b.toNat < 0xF5
  · rw [if_pos h₅] at h
    obtain ⟨tail, more, rfl, hlength, rfl, hfirst, hall, rfl⟩ := readTail_eq_char h
    refine ⟨tail, more, rfl, hlength.symm, ?_⟩
    obtain ⟨x, y, z, rfl⟩ := List.length_eq_three.mp hlength
    simp only [List.all_cons, List.all_nil, Bool.and_true, Bool.and_eq_true,
      isContinuation_iff] at hall
    simp only [List.head?_cons, Option.all_some, Bool.and_eq_true] at hfirst
    have hbound := hfirst.2
    exact encodeChar_charOf_three (by omega) hall.1 hall.2.1 hall.2.2
      (fun heq => by simpa [heq] using hbound) fun heq => by simpa [heq] using hbound
  rw [if_neg h₅] at h
  cases h

lemma eq_encodeChars_of_decodeFrom {bytes : List UInt8} {cs : List Char} {position : Nat}
    (h : decodeFrom position bytes = .ok cs) : bytes = cs.flatMap String.utf8EncodeChar := by
  induction position, bytes using decodeFrom.induct generalizing cs with
  | case1 position =>
    rw [decodeFrom] at h
    cases h
    rfl
  | case2 position b rest c tail hread ih =>
    obtain ⟨found, more, rfl, rfl, hencode⟩ := encodeChar_of_readChar hread
    rw [List.drop_left] at ih
    rw [decodeFrom, hread] at h
    simp only [List.drop_left] at h
    cases hmore : decodeFrom (position + found.length + 1) more with
    | error f =>
      rw [hmore] at h
      cases h
    | ok cs' =>
      rw [hmore] at h
      cases h
      rw [List.flatMap_cons, hencode, ← ih hmore]
      rfl
  | case3 position b rest reason tail hread =>
    rw [decodeFrom, hread] at h
    cases h

/-- Bytes are read as a text just if they are those that encode it. -/
theorem decode_eq_ok_iff {bytes : List UInt8} {cs : List Char} :
    decode bytes = .ok cs ↔ bytes = encode (String.ofList cs) := by
  constructor
  · intro h
    rw [encode_eq, String.toList_ofList]
    exact eq_encodeChars_of_decodeFrom h
  · rintro rfl
    rw [decode_encode, String.toList_ofList]

lemma encode_injective : Function.Injective encode := by
  intro s t h
  have hdecode := congrArg decode h
  rw [decode_encode, decode_encode] at hdecode
  exact String.toList_inj.mp (Except.ok.inj hdecode)

/-- The bytes are those of a text. -/
def IsText (bytes : List UInt8) : Prop :=
  ∃ s, bytes = encode s

/-- Bytes are decoded just if they are those of a text. -/
lemma decode_cases (bytes : List UInt8) :
    (∃ s, bytes = encode s ∧ decode bytes = .ok s.toList) ∨
      ¬ IsText bytes ∧ ∃ f, decode bytes = .error f := by
  cases h : decode bytes with
  | ok cs => exact Or.inl ⟨String.ofList cs, decode_eq_ok_iff.mp h, by rw [String.toList_ofList]⟩
  | error f =>
    refine Or.inr ⟨?_, f, rfl⟩
    rintro ⟨s, rfl⟩
    rw [decode_encode] at h
    cases h

end DubCheck.Text.Utf8
