import DubCheck.Document.Reader
import DubCheck.Document.Writer
import DubCheck.Proofs.Document.Members
import DubCheck.Proofs.Text.Line
/-!
# Reading what has been written

A document that is made of texts, sequences and objects is read back when it is written.

* `readQuoted_flatMap`: what is written for a text is read as this text, whatever follows it.
* `readValue_write`: the same for a document in which containers are not nested too deep.
* `read_write`: such a document is read back.
* `Plain.oneLine`: it is written on one line.
-/

namespace DubCheck.Document

/-! ## Texts -/

lemma hexValue?_digitChar {d : Nat} (h : d < 16) : hexValue? (Nat.digitChar d) = some d := by
  have hall : ∀ d < 16, hexValue? (Nat.digitChar d) = some d := by decide
  exact hall d h

/-- Four hexadecimal digits are read as the number they were made from. -/
lemma codeUnit?_hexDigits {n : Nat} (h : n < 0x10000) (rest : List Char) :
    codeUnit? (Text.hexDigits 4 n ++ rest) = some n := by
  have hdigit : ∀ m, hexValue? (Nat.digitChar (m % 16)) = some (m % 16) :=
    fun m => hexValue?_digitChar (Nat.mod_lt m (by decide))
  simp [codeUnit?, Text.hexDigits, hdigit]
  omega

variable {start cs rest : List Char} {c : Char}

lemma readText_skip (ds : List Char) :
    readText start ds.length (ds ++ cs) = readText start 0 cs := by
  induction ds with
  | nil => rfl
  | cons d ds ih => rw [List.length_cons, List.cons_append, readText, ih]

lemma isValidChar_toNat (c : Char) :
    c.toNat < 0xD800 ∨ 0xDFFF < c.toNat ∧ c.toNat < 0x110000 :=
  c.valid

lemma ofUnit_of_char (c : Char) : ofUnit c.toNat = c := by
  have hvalid := isValidChar_toNat c
  have hhigh : isHighSurrogate c.toNat = false := by
    simp [isHighSurrogate]
    omega
  have hlow : isLowSurrogate c.toNat = false := by
    simp [isLowSurrogate]
    omega
  simp [ofUnit, hhigh, hlow]

lemma length_hexDigits (width n : Nat) : (Text.hexDigits width n).length = width := by
  induction width generalizing n with
  | zero => rfl
  | succ width ih => rw [Text.hexDigits, List.length_append, ih, List.length_singleton]

lemma drop_hexDigits (n : Nat) (cs : List Char) : (Text.hexDigits 4 n ++ cs).drop 4 = cs :=
  List.drop_left' (length_hexDigits 4 n)

/-- The digits of a character of the basic plane, after the mark of the escape. -/
lemma readUnit_basic (hc : c.toNat < 0x10000) (hcs : cs ≠ []) :
    readUnit (Text.hexDigits 4 c.toNat ++ cs) = .ok (c, 4) := by
  have hvalid := isValidChar_toNat c
  have hhigh : isHighSurrogate c.toNat = false := by
    simp [isHighSurrogate]
    omega
  have hempty : cs.isEmpty = false := by simpa using hcs
  rw [readUnit, codeUnit?_hexDigits hc]
  simp only [drop_hexDigits, hempty, hhigh, ofUnit_of_char, Bool.false_and, if_false,
    Bool.false_eq_true]

/-- The digits of the two halves of a character, with the mark of the second escape between them. -/
lemma readUnit_pair {high low : Nat} (hhigh : isHighSurrogate high = true)
    (hlow : isLowSurrogate low = true) (hcs : cs ≠ []) :
    readUnit (Text.hexDigits 4 high ++ (escapeUnit low ++ cs)) =
      .ok (Char.ofNat (0x10000 + (high - 0xD800) * 0x400 + (low - 0xDC00)), 10) := by
  have hhigh' : high < 0x10000 := by
    simp [isHighSurrogate] at hhigh
    omega
  have hlow' : low < 0x10000 := by
    simp [isLowSurrogate] at hlow
    omega
  have hlength : 6 < (escapeUnit low ++ cs).length := by
    have hpos := List.length_pos_of_ne_nil hcs
    simp [escapeUnit, length_hexDigits]
    omega
  have hdrop : (escapeUnit low ++ cs).drop 2 = Text.hexDigits 4 low ++ cs := rfl
  have htake : (escapeUnit low ++ cs).take 2 = ['\\', 'u'] := rfl
  have hempty : (escapeUnit low ++ cs).isEmpty = false := rfl
  rw [readUnit, codeUnit?_hexDigits hhigh', drop_hexDigits]
  simp only [hdrop, htake, hempty, codeUnit?_hexDigits hlow', hhigh, hlow, hlength, decide_true,
    beq_self_eq_true, Bool.and_self, if_true, if_false, Bool.false_eq_true]

lemma readText_unit {ds : List Char} {text : List Char}
    (hunit : readUnit (ds ++ cs) = .ok (c, ds.length))
    (h : readText start 0 cs = .ok (text, rest)) :
    readText start 0 ('\\' :: 'u' :: (ds ++ cs)) = .ok (c :: text, rest) := by
  have hskip : readText start (ds.length + 1) ('u' :: (ds ++ cs)) = .ok (text, rest) := by
    rw [readText, readText_skip, h]
  rw [readText, hunit]
  change (readText start (ds.length + 1) ('u' :: (ds ++ cs)) >>= fun r =>
    Except.ok (c :: r.1, r.2)) = _
  rw [hskip]
  rfl

lemma readText_letter {e : Char} {text : List Char} (he : escaped? e = some c)
    (h : readText start 0 cs = .ok (text, rest)) :
    readText start 0 ('\\' :: e :: cs) = .ok (c :: text, rest) := by
  have hne : e ≠ 'u' := by
    rintro rfl
    cases he
  have hskip : readText start 1 (e :: cs) = .ok (text, rest) := by rw [readText, h]
  rw [readText]
  · simp only [he]
    change (readText start 1 (e :: cs) >>= fun r => Except.ok (c :: r.1, r.2)) = _
    rw [hskip]
    rfl
  · exact hne

/-- A character is read from what is written for it. -/
lemma readText_writeChar {text : List Char} (h : readText start 0 cs = .ok (text, rest)) :
    readText start 0 (writeChar c ++ cs) = .ok (c :: text, rest) := by
  have hcs : cs ≠ [] := by
    rintro rfl
    cases h
  unfold writeChar
  split
  · exact readText_letter rfl h
  · exact readText_letter rfl h
  · exact readText_letter rfl h
  · exact readText_letter rfl h
  · exact readText_letter rfl h
  · exact readText_letter rfl h
  · exact readText_letter rfl h
  · rename_i hquote hslash _ _ _ _ _
    dsimp only
    split_ifs with hplain hbasic
    · have hlow : ¬ c.toNat < 0x20 := by
        simp only [Bool.and_eq_true, decide_eq_true_eq] at hplain
        omega
      rw [List.singleton_append, readText, if_neg hlow, h]
      · rfl
      · exact hquote
      · exact fun _ hc _ => hslash hc
      · exact fun _ _ hc _ => hslash hc
      · exact fun hc _ => hslash hc
    · exact readText_unit (by rw [length_hexDigits]; exact readUnit_basic hbasic hcs) h
    · have hvalid := isValidChar_toNat c
      have hhigh : isHighSurrogate (0xD800 + (c.toNat - 0x10000) / 0x400) = true := by
        simp [isHighSurrogate]
        omega
      have hlow : isLowSurrogate (0xDC00 + (c.toNat - 0x10000) % 0x400) = true := by
        simp [isLowSurrogate]
        omega
      have hvalue : 0x10000 + (0xD800 + (c.toNat - 0x10000) / 0x400 - 0xD800) * 0x400 +
          (0xDC00 + (c.toNat - 0x10000) % 0x400 - 0xDC00) = c.toNat := by omega
      have hunit := readUnit_pair hhigh hlow hcs
      rw [hvalue, Char.ofNat_toNat, ← List.append_assoc] at hunit
      have hread := readText_unit hunit h
      simpa [escapeUnit] using hread

lemma readText_flatMap (cs rest : List Char) :
    readText start 0 (cs.flatMap writeChar ++ '"' :: rest) = .ok (cs, rest) := by
  induction cs with
  | nil => rfl
  | cons c cs ih =>
    rw [List.flatMap_cons, List.append_assoc]
    exact readText_writeChar ih

lemma toList_writeText (s : String) :
    (writeText s).toList = '"' :: (s.toList.flatMap writeChar ++ ['"']) := by
  simp [writeText]

/-- A text is read from what is written for it, whatever follows. -/
lemma readQuoted_flatMap (s : String) (rest : List Char) :
    readQuoted (s.toList.flatMap writeChar ++ '"' :: rest) = .ok (s, rest) := by
  unfold readQuoted
  rw [readText_flatMap]
  change Except.ok (String.ofList s.toList, rest) = _
  rw [String.ofList_toList]

/-! ## Sequences and objects -/

/-- A document of texts, sequences and objects, nested at most `n` deep. -/
inductive Plain : Nat → Document → Prop where
  | text {n : Nat} {s : String} : Plain n (.string s)
  | array {n : Nat} {items : List Document} (h : ∀ d ∈ items, Plain n d) :
    Plain (n + 1) (.array items)
  | object {n : Nat} {members : List (String × Document)} (hkeys : (members.map (·.1)).Nodup)
    (h : ∀ m ∈ members, Plain n m.2) : Plain (n + 1) (.object members)

lemma Plain.mono {n m : Nat} {d : Document} (h : Plain n d) (hle : n ≤ m) : Plain m d := by
  induction h generalizing m with
  | text => exact .text
  | array _ ih =>
    obtain ⟨m, rfl⟩ : ∃ k, m = k + 1 := ⟨m - 1, by omega⟩
    exact .array fun d hd => ih d hd (by omega)
  | object hkeys _ ih =>
    obtain ⟨m, rfl⟩ : ∃ k, m = k + 1 := ⟨m - 1, by omega⟩
    exact .object hkeys fun d hd => ih d hd (by omega)

lemma writeItems_eq (items : List Document) : writeItems items = items.map write := by
  induction items with
  | nil => rfl
  | cons d items ih => rw [writeItems, ih, List.map_cons]

lemma writeMembers_eq (members : List (String × Document)) :
    writeMembers members = members.map fun m => writeText m.1 ++ ": " ++ write m.2 := by
  induction members with
  | nil => rfl
  | cons m members ih => rw [writeMembers, ih, List.map_cons]

/-- What is written for a member of an object. -/
def writtenMember (m : String × Document) : List Char :=
  (writeText m.1).toList ++ ':' :: ' ' :: (write m.2).toList

lemma toList_write_array (items : List Document) :
    (write (.array items)).toList =
      '[' :: ([',', ' '].intercalate (items.map fun d => (write d).toList) ++ [']']) := by
  simp [write, writeItems_eq, String.toList_intercalate, Function.comp_def]

lemma toList_write_object (members : List (String × Document)) :
    (write (.object members)).toList =
      '\x7b' :: ([',', ' '].intercalate (members.map writtenMember) ++ ['\x7d']) := by
  have hmember : ∀ m : String × Document,
      (writeText m.1 ++ ": " ++ write m.2).toList = writtenMember m := by
    intro m
    simp [writtenMember]
  simp only [write, writeMembers_eq, String.toList_append, String.toList_intercalate, List.map_map,
    Function.comp_def, hmember]
  simp

lemma skipBlanks_of_not_blank (h : isBlank c = false) : skipBlanks (c :: cs) = c :: cs :=
  List.dropWhile_cons_of_neg (by simp [h])

lemma skipBlanks_space (cs : List Char) : skipBlanks (' ' :: cs) = skipBlanks cs := rfl

/-- A written document begins with a quote, a bracket or a brace. -/
lemma Plain.exists_head {n : Nat} {d : Document} (h : Plain n d) :
    ∃ c cs, (write d).toList = c :: cs ∧ c ∈ ['"', '[', '\x7b'] := by
  cases h with
  | text => exact ⟨_, _, toList_writeText _, by decide⟩
  | array _ => exact ⟨_, _, toList_write_array _, by decide⟩
  | object _ _ => exact ⟨_, _, toList_write_object _, by decide⟩

lemma Plain.skipBlanks {n : Nat} {d : Document} (h : Plain n d) (rest : List Char) :
    skipBlanks ((write d).toList ++ rest) = (write d).toList ++ rest := by
  obtain ⟨c, cs, hwrite, hc⟩ := h.exists_head
  rw [hwrite, List.cons_append]
  apply skipBlanks_of_not_blank
  simp only [List.mem_cons, List.not_mem_nil, or_false] at hc
  rcases hc with rfl | rfl | rfl <;> rfl

lemma exists_intercalate_cons (separator first : List Char) (others : List (List Char)) :
    ∃ tail, separator.intercalate (first :: others) = first ++ tail := by
  cases others with
  | nil => exact ⟨[], by simp⟩
  | cons second others => exact ⟨_, by rw [List.intercalate_cons_cons, List.append_assoc]⟩

section Containers

variable {n : Nat} (item : List Char → Except Fault (Document × List Char))

/-- The items of a sequence are read one after the other, each as it is written. -/
lemma readItems_written {items : List Document} (hne : items ≠ []) {fuel : Nat}
    (hfuel : items.length ≤ fuel) (hplain : ∀ d ∈ items, Plain n d)
    (hitem : ∀ d ∈ items, ∀ rest, item ((write d).toList ++ rest) = .ok (d, rest))
    (rest : List Char) :
    readItems item fuel
      ([',', ' '].intercalate (items.map fun d => (write d).toList) ++ ']' :: rest) =
        .ok (items, rest) := by
  induction items generalizing fuel with
  | nil => exact absurd rfl hne
  | cons d items ih =>
    obtain ⟨fuel, rfl⟩ : ∃ k, fuel = k + 1 := ⟨fuel - 1, by simp at hfuel; omega⟩
    rw [List.forall_mem_cons] at hplain hitem
    cases items with
    | nil =>
      rw [List.map_singleton, List.intercalate_singleton, readItems, hitem.1]
      rfl
    | cons d' items =>
      have hrest := ih (List.cons_ne_nil _ _) (by simp at hfuel ⊢; omega) hplain.2 hitem.2
      have hsplit : [',', ' '].intercalate ((d :: d' :: items).map fun d => (write d).toList) ++
          ']' :: rest = (write d).toList ++ (',' :: ' ' :: ([',', ' '].intercalate
            ((d' :: items).map fun d => (write d).toList) ++ ']' :: rest)) := by
        simp [List.intercalate_cons_cons]
      have hblank : skipBlanks ([',', ' '].intercalate
          ((d' :: items).map fun d => (write d).toList) ++ ']' :: rest) =
            [',', ' '].intercalate ((d' :: items).map fun d => (write d).toList) ++
              ']' :: rest := by
        obtain ⟨tail, htail⟩ := exists_intercalate_cons [',', ' '] (write d').toList
          (items.map fun d => (write d).toList)
        rw [List.map_cons, htail, List.append_assoc]
        exact (hplain.2 d' List.mem_cons_self).skipBlanks _
      rw [hsplit, readItems, hitem.1]
      change (readItems item fuel (skipBlanks (' ' :: _)) >>= fun r =>
        Except.ok (d :: r.1, r.2)) = _
      rw [skipBlanks_space, hblank, hrest]
      rfl

/-- The first member of an object is read, and then what follows it. -/
lemma readMembers_member {fuel : Nat} {found : List (String × Document)}
    {m : String × Document} (hplain : Plain n m.2)
    (hitem : ∀ rest, item ((write m.2).toList ++ rest) = .ok (m.2, rest)) (rest : List Char) :
    readMembers item (fuel + 1) found (writtenMember m ++ rest) =
      match skipBlanks rest with
      | '\x7d' :: rest => .ok (insertPair m.1 m.2 found, rest)
      | ',' :: rest => readMembers item fuel (insertPair m.1 m.2 found) (skipBlanks rest)
      | rest => expected .comma rest := by
  have hsplit : writtenMember m ++ rest = '"' :: (m.1.toList.flatMap writeChar ++ '"' ::
      (':' :: ' ' :: ((write m.2).toList ++ rest))) := by
    simp [writtenMember, toList_writeText]
  have hvalue : skipBlanks (' ' :: ((write m.2).toList ++ rest)) = (write m.2).toList ++ rest := by
    rw [skipBlanks_space, hplain.skipBlanks]
  have hcolon : skipBlanks (':' :: ' ' :: ((write m.2).toList ++ rest)) =
      ':' :: ' ' :: ((write m.2).toList ++ rest) := rfl
  rw [hsplit, readMembers]
  simp only [readQuoted_flatMap, hcolon, hvalue, hitem, bind, Except.bind]
  rfl

/-- The members of an object are read one after the other, each as it is written. -/
lemma readMembers_written {members found : List (String × Document)} (hne : members ≠ [])
    {fuel : Nat} (hfuel : members.length ≤ fuel)
    (hkeys : ((found ++ members).map (·.1)).Nodup) (hplain : ∀ m ∈ members, Plain n m.2)
    (hitem : ∀ m ∈ members, ∀ rest, item ((write m.2).toList ++ rest) = .ok (m.2, rest))
    (rest : List Char) :
    readMembers item fuel found
      ([',', ' '].intercalate (members.map writtenMember) ++ '\x7d' :: rest) =
        .ok (found ++ members, rest) := by
  induction members generalizing fuel found with
  | nil => exact absurd rfl hne
  | cons m members ih =>
    obtain ⟨fuel, rfl⟩ : ∃ k, fuel = k + 1 := ⟨fuel - 1, by simp at hfuel; omega⟩
    rw [List.forall_mem_cons] at hplain hitem
    have hnew : m.1 ∉ found.map (·.1) := by
      intro hmem
      rw [List.map_append, List.nodup_append] at hkeys
      exact hkeys.2.2 m.1 hmem m.1 List.mem_cons_self rfl
    cases members with
    | nil =>
      rw [List.map_singleton, List.intercalate_singleton, readMembers_member item hplain.1 hitem.1,
        insertPair_of_not_mem hnew]
      rfl
    | cons m' members =>
      have hrest := ih (List.cons_ne_nil _ _) (by simp at hfuel ⊢; omega)
        (show ((found ++ [m] ++ (m' :: members)).map (·.1)).Nodup by simpa using hkeys)
        hplain.2 hitem.2
      have hsplit : [',', ' '].intercalate ((m :: m' :: members).map writtenMember) ++
          '\x7d' :: rest = writtenMember m ++ (',' :: ' ' :: ([',', ' '].intercalate
            ((m' :: members).map writtenMember) ++ '\x7d' :: rest)) := by
        simp [List.intercalate_cons_cons]
      have hblank : skipBlanks ([',', ' '].intercalate ((m' :: members).map writtenMember) ++
          '\x7d' :: rest) = [',', ' '].intercalate ((m' :: members).map writtenMember) ++
            '\x7d' :: rest := by
        obtain ⟨tail, htail⟩ := exists_intercalate_cons [',', ' '] (writtenMember m')
          (members.map writtenMember)
        rw [List.map_cons, htail, writtenMember, toList_writeText]
        rfl
      rw [hsplit, readMembers_member item hplain.1 hitem.1, insertPair_of_not_mem hnew]
      change readMembers item fuel (found ++ [m]) (skipBlanks (' ' :: _)) = _
      rw [skipBlanks_space, hblank, hrest, List.append_assoc, List.singleton_append]

end Containers

/-! ## Documents -/

lemma length_le_intercalate {α : Type} (separator : List α) {parts : List (List α)}
    (h : ∀ part ∈ parts, part ≠ []) : parts.length ≤ (separator.intercalate parts).length := by
  induction parts with
  | nil => simp
  | cons part parts ih =>
    rw [List.forall_mem_cons] at h
    have hpos := List.length_pos_of_ne_nil h.1
    have hrest := ih h.2
    cases parts with
    | nil =>
      rw [List.intercalate_singleton]
      exact hpos
    | cons part' parts =>
      rw [List.intercalate_cons_cons]
      simp only [List.length_append, List.length_cons] at hrest ⊢
      omega

lemma length_le_of_mem {α : Type} (separator : List α) {part : List α} {parts : List (List α)}
    (h : part ∈ parts) : part.length ≤ (separator.intercalate parts).length := by
  induction parts with
  | nil => cases h
  | cons first parts ih =>
    cases parts with
    | nil =>
      rw [List.mem_singleton.mp h, List.intercalate_singleton]
    | cons second parts =>
      rw [List.intercalate_cons_cons]
      simp only [List.length_append]
      rcases List.mem_cons.mp h with rfl | h
      · omega
      · have := ih h
        omega

lemma readValue_array {size n : Nat} {items : List Document}
    (h : readItems (readValue size n) size (c :: cs) = .ok (items, rest))
    (hblank : isBlank c = false) (hc : c ≠ ']') :
    readValue size (n + 1) ('[' :: c :: cs) = .ok (.array items, rest) := by
  rw [readValue, skipBlanks_of_not_blank hblank]
  split
  · rename_i heq
    cases heq
    exact absurd rfl hc
  · rw [h]
    rfl

lemma readValue_object {size n : Nat} {members : List (String × Document)}
    (h : readMembers (readValue size n) size [] (c :: cs) = .ok (members, rest))
    (hblank : isBlank c = false) (hc : c ≠ '\x7d') :
    readValue size (n + 1) ('\x7b' :: c :: cs) = .ok (.object members, rest) := by
  rw [readValue, skipBlanks_of_not_blank hblank]
  split
  · rename_i heq
    cases heq
    exact absurd rfl hc
  · rw [h]
    rfl

/-- A sequence is read from what is written for it if its items are. -/
lemma readValue_write_array {n size : Nat} {items : List Document}
    (hplain : ∀ d ∈ items, Plain n d) (hsize : (write (.array items)).toList.length ≤ size)
    (hread : ∀ d ∈ items, (write d).toList.length ≤ size → ∀ rest,
      readValue size n ((write d).toList ++ rest) = .ok (d, rest)) (rest : List Char) :
    readValue size (n + 1) ((write (.array items)).toList ++ rest) = .ok (.array items, rest) := by
  have hsplit : (write (.array items)).toList ++ rest = '[' :: ([',', ' '].intercalate
      (items.map fun d => (write d).toList) ++ ']' :: rest) := by
    rw [toList_write_array]
    simp
  rw [hsplit]
  rw [toList_write_array, List.length_cons, List.length_append] at hsize
  cases items with
  | nil => rfl
  | cons d items =>
    -- No item is written as nothing, so that the size of the text bounds the number of items.
    have hparts : ∀ part ∈ (d :: items).map fun d => (write d).toList, part ≠ [] := by
      intro part hpart
      obtain ⟨d', hd', rfl⟩ := List.mem_map.mp hpart
      obtain ⟨c, cs, hwrite, -⟩ := (hplain d' hd').exists_head
      simp [hwrite]
    have hcount := length_le_intercalate [',', ' '] hparts
    rw [List.length_map] at hcount
    have hitem : ∀ d' ∈ d :: items, ∀ rest,
        readValue size n ((write d').toList ++ rest) = .ok (d', rest) := by
      intro d' hd' rest
      have hlength := length_le_of_mem [',', ' '] (List.mem_map.mpr ⟨d', hd', rfl⟩ :
        (write d').toList ∈ (d :: items).map fun d => (write d).toList)
      exact hread d' hd' (by omega) rest
    have hitems := readItems_written (readValue size n) (List.cons_ne_nil d items)
      (by omega : (d :: items).length ≤ size) hplain hitem rest
    obtain ⟨tail, htail⟩ := exists_intercalate_cons [',', ' '] (write d).toList
      (items.map fun d => (write d).toList)
    obtain ⟨c, cs, hwrite, hc⟩ := (hplain d List.mem_cons_self).exists_head
    rw [List.map_cons, htail, hwrite, List.cons_append, List.cons_append] at hitems ⊢
    simp only [List.mem_cons, List.not_mem_nil, or_false] at hc
    refine readValue_array hitems ?_ ?_ <;> rcases hc with rfl | rfl | rfl <;> decide

/-- An object is read from what is written for it if the values of its members are. -/
lemma readValue_write_object {n size : Nat} {members : List (String × Document)}
    (hkeys : (members.map (·.1)).Nodup) (hplain : ∀ m ∈ members, Plain n m.2)
    (hsize : (write (.object members)).toList.length ≤ size)
    (hread : ∀ m ∈ members, (write m.2).toList.length ≤ size → ∀ rest,
      readValue size n ((write m.2).toList ++ rest) = .ok (m.2, rest)) (rest : List Char) :
    readValue size (n + 1) ((write (.object members)).toList ++ rest) =
      .ok (.object members, rest) := by
  have hsplit : (write (.object members)).toList ++ rest = '\x7b' :: ([',', ' '].intercalate
      (members.map writtenMember) ++ '\x7d' :: rest) := by
    rw [toList_write_object]
    simp
  rw [hsplit]
  rw [toList_write_object, List.length_cons, List.length_append] at hsize
  cases members with
  | nil => rfl
  | cons m members =>
    have hparts : ∀ part ∈ (m :: members).map writtenMember, part ≠ [] := by
      intro part hpart
      obtain ⟨m', -, rfl⟩ := List.mem_map.mp hpart
      simp [writtenMember]
    have hcount := length_le_intercalate [',', ' '] hparts
    rw [List.length_map] at hcount
    have hitem : ∀ m' ∈ m :: members, ∀ rest,
        readValue size n ((write m'.2).toList ++ rest) = .ok (m'.2, rest) := by
      intro m' hm' rest
      have hlength := length_le_of_mem [',', ' '] (List.mem_map.mpr ⟨m', hm', rfl⟩ :
        writtenMember m' ∈ (m :: members).map writtenMember)
      have hvalue : (write m'.2).toList.length ≤ (writtenMember m').length := by
        simp [writtenMember]
        omega
      exact hread m' hm' (by omega) rest
    have hmembers := readMembers_written (readValue size n) (List.cons_ne_nil m members)
      (by omega : (m :: members).length ≤ size)
      (show ((([] : List (String × Document)) ++ m :: members).map (·.1)).Nodup from hkeys)
      hplain hitem rest
    obtain ⟨tail, htail⟩ := exists_intercalate_cons [',', ' '] (writtenMember m)
      (members.map writtenMember)
    rw [List.map_cons, htail, writtenMember, toList_writeText] at hmembers ⊢
    exact readValue_object hmembers rfl (by decide)

/-- A document is read from what is written for it, whatever follows. -/
theorem readValue_write {n : Nat} {d : Document} (h : Plain n d) {size : Nat}
    (hsize : (write d).toList.length ≤ size) (rest : List Char) :
    readValue size n ((write d).toList ++ rest) = .ok (d, rest) := by
  induction h generalizing size rest with
  | @text n s =>
    have hsplit : (write (.string s)).toList ++ rest =
        '"' :: (s.toList.flatMap writeChar ++ '"' :: rest) := by
      rw [write, toList_writeText]
      simp
    rw [hsplit, readValue, readQuoted_flatMap]
    rfl
  | array hplain ih =>
    exact readValue_write_array hplain hsize (fun d hd hle rest => ih d hd hle rest) rest
  | object hkeys hplain ih =>
    exact readValue_write_object hkeys hplain hsize (fun m hm hle rest => ih m hm hle rest) rest

/-- Blanks may follow what has been written. -/
theorem read_write_append {d : Document} (h : Plain maxNesting d) (hrest : skipBlanks rest = []) :
    read ((write d).toList ++ rest) = .ok d := by
  obtain ⟨c, cs, hwrite, hc⟩ := h.exists_head
  have hmark : ((write d).toList ++ rest).head? ≠ some (Char.ofNat 0xFEFF) := by
    rw [hwrite]
    rintro ⟨⟩
    revert hc
    decide
  have hlength : (write d).toList.length ≤ ((write d).toList ++ rest).length := by
    rw [List.length_append]
    exact Nat.le_add_right _ _
  have hvalue := readValue_write h hlength rest
  unfold read
  rw [if_neg hmark, h.skipBlanks rest]
  simp only [hvalue, bind, Except.bind, hrest]
  rfl

/-- **Reading what has been written.**  A document of texts, sequences and objects in which the
nesting is not too deep is read back when it is written. -/
theorem read_write {d : Document} (h : Plain maxNesting d) : read (write d).toList = .ok d := by
  have hread : read ((write d).toList ++ []) = .ok d := read_write_append h rfl
  rwa [List.append_nil] at hread

/-! ## One line -/

lemma oneLine_hexDigits (width n : Nat) : Text.OneLine (Text.hexDigits width n) := by
  have hdigit : ∀ d < 16, Text.isLineBoundary (Nat.digitChar d) = false := by decide
  induction width generalizing n with
  | zero => simp [Text.OneLine, Text.hexDigits]
  | succ width ih =>
    rw [Text.hexDigits]
    exact (ih (n / 16)).append (.cons (hdigit _ (Nat.mod_lt n (by decide))) (by decide))

lemma oneLine_escapeUnit (n : Nat) : Text.OneLine (escapeUnit n) :=
  .cons (by decide) (.cons (by decide) (oneLine_hexDigits 4 n))

lemma oneLine_writeChar (c : Char) : Text.OneLine (writeChar c) := by
  unfold writeChar
  split
  · decide
  · decide
  · decide
  · decide
  · decide
  · decide
  · decide
  · dsimp only
    split_ifs with hplain
    · simp only [Bool.and_eq_true, decide_eq_true_eq] at hplain
      refine .cons ?_ (by decide)
      simp only [Text.isLineBoundary, Bool.or_eq_false_iff, Bool.and_eq_false_iff,
        decide_eq_false_iff_not, beq_eq_false_iff_ne]
      omega
    · exact oneLine_escapeUnit _
    · exact (oneLine_escapeUnit _).append (oneLine_escapeUnit _)

lemma oneLine_writeText (s : String) : Text.OneLine (writeText s).toList := by
  rw [toList_writeText]
  refine .cons (by decide) (.append ?_ (by decide))
  intro d hd
  obtain ⟨c, -, hd⟩ := List.mem_flatMap.mp hd
  exact oneLine_writeChar c d hd

lemma oneLine_intercalate {parts : List (List Char)} (h : ∀ part ∈ parts, Text.OneLine part) :
    Text.OneLine ([',', ' '].intercalate parts) := by
  induction parts with
  | nil => simp [Text.OneLine]
  | cons first others ih =>
    rw [List.forall_mem_cons] at h
    cases others with
    | nil => simpa using h.1
    | cons second others =>
      rw [List.intercalate_cons_cons]
      exact (h.1.append (by decide)).append (ih h.2)

lemma Plain.oneLine {n : Nat} {d : Document} (h : Plain n d) : Text.OneLine (write d).toList := by
  induction h with
  | text => rw [write]; exact oneLine_writeText _
  | @array n items _ ih =>
    rw [toList_write_array]
    refine .cons (by decide) (.append (oneLine_intercalate ?_) (by decide))
    intro part hpart
    obtain ⟨d, hd, rfl⟩ := List.mem_map.mp hpart
    exact ih d hd
  | @object n members _ _ ih =>
    rw [toList_write_object]
    refine .cons (by decide) (.append (oneLine_intercalate ?_) (by decide))
    intro part hpart
    obtain ⟨m, hm, rfl⟩ := List.mem_map.mp hpart
    exact (oneLine_writeText m.1).append (.cons (by decide) (.cons (by decide) (ih m hm)))

end DubCheck.Document
