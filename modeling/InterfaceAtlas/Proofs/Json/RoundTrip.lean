import InterfaceAtlas.Json.Reader
import Mathlib.Data.List.Basic

/-!
# Reading back what was written

The text of a JSON value determines the value. Everything rests on reading one value in front of
any text that may follow it:

* `readText_escape`: one character of a string is read back whatever comes behind it, so the escapes
  never run into each other;
* `readNumber_ofInt`: an integer is read back if nothing behind it could belong to a number;
* `readValue_write`: a value is read back, by induction over the value and its items and members;
* `decode?_encode`: so decoding undoes encoding.

Floating-point numbers are left out, since no answer holds one. Keys need not be distinct: members
are written one by one, in their order.
-/

namespace InterfaceAtlas

namespace Decimal

/-- Digits are read as the number that was written. -/
lemma ofDigits_natDigits (n : Nat) : ofDigits (natDigits n) = n := by
  have hfold : ofDigits (natDigits n) = Nat.ofDigitChars 10 (Nat.toDigits 10 n) 0 := by
    simp only [ofDigits, natDigits, Nat.ofDigitChars_eq_foldl, Nat.mul_comm 10]
    rfl
  rw [hfold, Nat.ofDigitChars_ten_toDigits]

lemma isDigit_of_mem_natDigits {n : Nat} {c : Char} (h : c ∈ natDigits n) : c.isDigit :=
  Nat.isDigit_of_mem_toDigits (by decide) (by decide) h

/-- A number has a digit at least. -/
lemma exists_natDigits_eq_cons (n : Nat) : ∃ d ds, natDigits n = d :: ds ∧ d.isDigit := by
  obtain ⟨d, ds, hds⟩ := List.exists_cons_of_ne_nil (Nat.toDigits_ne_nil (n := n) (b := 10))
  exact ⟨d, ds, hds, isDigit_of_mem_natDigits (n := n) (by rw [natDigits, hds]; exact .head _)⟩

end Decimal

namespace Json

/-! ## Values without floating-point numbers -/

mutual

/-- Whether there is no floating-point number in a value. -/
def isFloatFree : Json → Bool
  | float _ => false
  | list items => areFloatFree items
  | object members => membersFloatFree members
  | _ => true

/-- Whether there is no floating-point number in some values. -/
def areFloatFree : List Json → Bool
  | [] => true
  | v :: more => v.isFloatFree && areFloatFree more

/-- Whether there is no floating-point number in the values of some members. -/
def membersFloatFree : List (String × Json) → Bool
  | [] => true
  | (_, v) :: more => v.isFloatFree && membersFloatFree more

end

/-! ## The shape of written values -/

lemma writeText_append (s : String) (rest : List Char) :
    writeText s ++ rest = '\x22' :: (s.toList.flatMap escape ++ '\x22' :: rest) := by
  simp [writeText]

lemma write_list_append (items : List Json) (rest : List Char) :
    (list items).write ++ rest = '[' :: (writeItems items ++ ']' :: rest) := by
  simp [write]

lemma write_object_append (members : List (String × Json)) (rest : List Char) :
    (object members).write ++ rest = '\x7b' :: (writeMembers members ++ '\x7d' :: rest) := by
  simp [write]

/-! ## Strings -/

lemma hexValue?_digitChar : ∀ d < 16, hexValue? (Nat.digitChar d) = some d := by decide

/-- Four hexadecimal digits are enough for a code unit, and are read back as it. -/
lemma exists_hexDigits_eq {n : Nat} (h : n < 0x10000) :
    ∃ a b c d, Text.Quoted.hexDigits 4 n = [a, b, c, d] ∧ hex4? a b c d = some n := by
  refine ⟨_, _, _, _, rfl, ?_⟩
  have hvalue : ∀ m, hexValue? (Nat.digitChar (m % 16)) = some (m % 16) :=
    fun m => hexValue?_digitChar _ (Nat.mod_lt _ (by decide))
  simp only [hex4?, hvalue, Nat.pow_eq, Option.pure_def, Option.bind_eq_bind, Option.bind_some,
    Option.some.injEq]
  omega

/-- A backslash with a letter is read as the character it stands for. -/
lemma readText_letter {letter c : Char} (hu : letter ≠ 'u') (h : unescape? letter = some c)
    (rest : List Char) :
    readText ('\x5c' :: letter :: rest)
      = (readText rest).map fun (cs, left) => (c :: cs, left) := by
  rw [readText.eq_5 letter rest (fun _ _ _ _ _ _ _ _ _ hc _ => hu hc)
    (fun _ _ _ _ _ hc _ => hu hc), h]
  rfl

/-- Where four hexadecimal digits should stand and do not, nothing is read. -/
lemma readText_of_hex4?_eq_none {a b c d : Char} (h : hex4? a b c d = none) (rest : List Char) :
    readText ('\x5c' :: 'u' :: a :: b :: c :: d :: rest) = none := by
  by_cases hnext : ∃ e f g k more, rest = '\x5c' :: 'u' :: e :: f :: g :: k :: more
  · obtain ⟨e, f, g, k, more, rfl⟩ := hnext
    rw [readText.eq_3, h]
    rfl
  · rw [readText.eq_4 a b c d rest (fun e f g k more hrest => hnext ⟨e, f, g, k, more, hrest⟩), h]
    rfl

/-- A code unit that is no half of a pair is read as a character of its own, even where another
code unit follows. -/
lemma readText_unit {a b c d : Char} {n : Nat} (h : hex4? a b c d = some n)
    (hhigh : isHigh n = false) (hlow : isLow n = false) (rest : List Char) :
    readText ('\x5c' :: 'u' :: a :: b :: c :: d :: rest)
      = (readText rest).map fun (cs, left) => (Char.ofNat n :: cs, left) := by
  have hunit : ofUnit? n = some (Char.ofNat n) := by simp [ofUnit?, hhigh, hlow]
  by_cases hnext : ∃ e f g k more, rest = '\x5c' :: 'u' :: e :: f :: g :: k :: more
  · obtain ⟨e, f, g, k, more, rfl⟩ := hnext
    rw [readText.eq_3, h]
    cases hsecond : hex4? e f g k with
    | some m => simp [hhigh, hunit]
    | none =>
      -- what follows is no code unit, so it cannot be read by itself either
      rw [readText_of_hex4?_eq_none hsecond more]
      rfl
  · rw [readText.eq_4 a b c d rest (fun e f g k more hrest => hnext ⟨e, f, g, k, more, hrest⟩), h]
    simp [hunit]

/-- A character that needs no escape is read as it is. -/
lemma readText_plain {c : Char} (hquote : c ≠ '\x22') (hslash : c ≠ '\x5c')
    (hcontrol : ¬ c.toNat < 0x20) (rest : List Char) :
    readText (c :: rest) = (readText rest).map fun (cs, left) => (c :: cs, left) := by
  rw [readText.eq_6 c rest hquote (fun _ _ _ _ _ _ _ _ _ hc _ => hslash hc)
    (fun _ _ _ _ _ hc _ => hslash hc) (fun _ _ hc _ => hslash hc), if_neg hcontrol]

/-- The character of a string at the front is read back, whatever comes behind it. -/
theorem readText_escape (c : Char) (rest : List Char) :
    readText (escape c ++ rest) = (readText rest).map fun (cs, left) => (c :: cs, left) := by
  unfold escape
  split_ifs with hquote hslash hn hr ht hb hf hcontrol
  · subst hquote; exact readText_letter (by decide) (by decide) rest
  · subst hslash; exact readText_letter (by decide) (by decide) rest
  · subst hn; exact readText_letter (by decide) (by decide) rest
  · subst hr; exact readText_letter (by decide) (by decide) rest
  · subst ht; exact readText_letter (by decide) (by decide) rest
  · subst hb; exact readText_letter (by decide) (by decide) rest
  · subst hf; exact readText_letter (by decide) (by decide) rest
  · -- the code unit of a control character is no half of a pair, so nothing behind it joins it
    obtain ⟨a, b, d, e, hdigits, hvalue⟩ := exists_hexDigits_eq (n := c.toNat) (by omega)
    have hhigh : isHigh c.toNat = false := by
      simp only [isHigh, Bool.and_eq_false_iff, decide_eq_false_iff_not]
      omega
    have hlow : isLow c.toNat = false := by
      simp only [isLow, Bool.and_eq_false_iff, decide_eq_false_iff_not]
      omega
    rw [hdigits]
    simpa using readText_unit hvalue hhigh hlow rest
  · exact readText_plain hquote hslash hcontrol rest

/-- The characters of a string are read back up to its closing quote. -/
theorem readText_flatMap_escape (cs rest : List Char) :
    readText (cs.flatMap escape ++ '\x22' :: rest) = some (cs, rest) := by
  induction cs with
  | nil => exact readText.eq_2 rest
  | cons c cs ih =>
    rw [List.flatMap_cons, List.append_assoc, readText_escape, ih]
    rfl

/-! ## Numbers -/

/-- What may stand behind a value: nothing, a comma or a closing bracket or brace. -/
def EndsValue (rest : List Char) : Prop :=
  ∀ c ∈ rest.head?, c = ',' ∨ c = ']' ∨ c = '\x7d'

lemma endsValue_nil : EndsValue [] := by
  intro c hc
  simp at hc

lemma endsValue_comma (rest : List Char) : EndsValue (',' :: rest) := by simp [EndsValue]

lemma endsValue_bracket (rest : List Char) : EndsValue (']' :: rest) := by simp [EndsValue]

lemma endsValue_brace (rest : List Char) : EndsValue ('\x7d' :: rest) := by simp [EndsValue]

/-- Digits go as far as they can, and what may stand behind a value is none. -/
lemma EndsValue.span_isDigit {rest : List Char} (h : EndsValue rest) {ds : List Char}
    (hds : ∀ d ∈ ds, d.isDigit) :
    (ds ++ rest).takeWhile Char.isDigit = ds ∧ (ds ++ rest).dropWhile Char.isDigit = rest := by
  rw [List.takeWhile_append_of_pos hds, List.dropWhile_append_of_pos hds]
  cases rest with
  | nil => simp
  | cons c rest =>
    obtain rfl | rfl | rfl := h c (by simp) <;> simp

lemma EndsValue.readFraction {rest : List Char} (h : EndsValue rest) :
    readFraction rest = some ([], false, rest) := by
  cases rest with
  | nil => rfl
  | cons c rest => obtain rfl | rfl | rfl := h c (by simp) <;> rfl

lemma EndsValue.readExponent {rest : List Char} (h : EndsValue rest) :
    readExponent rest = some (0, false, rest) := by
  cases rest with
  | nil => rfl
  | cons c rest => obtain rfl | rfl | rfl := h c (by simp) <;> rfl

/-- The digits of a number are read back, whatever value ends there. -/
lemma readUnsigned_natDigits {rest : List Char} (h : EndsValue rest) (negative : Bool) (n : Nat) :
    readUnsigned negative (Decimal.natDigits n ++ rest)
      = some (int (if negative then -(n : Int) else n), rest) := by
  have hdigits : ∀ d ∈ Decimal.natDigits n, d.isDigit := fun d hd =>
    Decimal.isDigit_of_mem_natDigits hd
  obtain ⟨htake, hdrop⟩ := h.span_isDigit hdigits
  have hne : (Decimal.natDigits n).isEmpty = false := by
    obtain ⟨d, ds, hds, -⟩ := Decimal.exists_natDigits_eq_cons n
    rw [hds]
    rfl
  simp [readUnsigned, htake, hdrop, hne, h.readFraction, h.readExponent,
    Decimal.ofDigits_natDigits]

/-- No name of a number begins like an integer. -/
lemma find?_namedNumbers_eq_none {c : Char} {cs : List Char}
    (h : c.isDigit ∨ c = '-' ∧ ∃ d ds, cs = d :: ds ∧ d.isDigit) :
    (namedNumbers.find? fun (name, _) => name.isPrefixOf (c :: cs)) = none := by
  have hletter : ∀ d : Char, d.isDigit → d ≠ 'N' ∧ d ≠ 'I' ∧ d ≠ '-' := by
    intro d hd
    refine ⟨?_, ?_, ?_⟩ <;> (rintro rfl; revert hd; decide)
  obtain hc | ⟨rfl, d, ds, rfl, hd⟩ := h
  · obtain ⟨hN, hI, hm⟩ := hletter c hc
    simp [namedNumbers, List.isPrefixOf, hN.symm, hI.symm, hm.symm]
  · obtain ⟨-, hI, -⟩ := hletter d hd
    simp [namedNumbers, List.isPrefixOf, hI.symm]

/-- An integer is read back in front of what may stand behind a value. -/
theorem readNumber_ofInt {rest : List Char} (h : EndsValue rest) (n : Int) :
    readNumber ((Decimal.ofInt n).toList ++ rest) = some (int n, rest) := by
  cases n with
  | ofNat n =>
    obtain ⟨d, ds, hds, hd⟩ := Decimal.exists_natDigits_eq_cons n
    have hminus : d ≠ '-' := by
      rintro rfl
      revert hd
      decide
    have hread := readUnsigned_natDigits h false n
    rw [Decimal.ofInt, String.toList_ofList, readNumber.eq_def]
    rw [hds, List.cons_append] at hread ⊢
    rw [find?_namedNumbers_eq_none (Or.inl hd)]
    dsimp only
    split
    · simp_all
    · exact hread
  | negSucc n =>
    obtain ⟨d, ds, hds, hd⟩ := Decimal.exists_natDigits_eq_cons (n + 1)
    have hread := readUnsigned_natDigits h true (n + 1)
    rw [Decimal.ofInt, String.toList_ofList, readNumber.eq_def, List.cons_append,
      find?_namedNumbers_eq_none (Or.inr ⟨rfl, d, ds ++ rest, by rw [hds]; rfl, hd⟩)]
    exact hread

/-! ## Values -/

/-- Everything above the space is no blank. -/
lemma skipBlanks_cons {c : Char} (h : 0x20 < c.toNat) (cs : List Char) :
    skipBlanks (c :: cs) = c :: cs := by
  refine List.dropWhile_cons_of_neg ?_
  simp only [Bool.or_eq_true, decide_eq_true_eq, not_or]
  refine ⟨⟨⟨?_, ?_⟩, ?_⟩, ?_⟩ <;> (rintro rfl; revert h; decide)

lemma lt_toNat_of_isDigit {c : Char} (h : c.isDigit) : 0x20 < c.toNat ∧ c ≠ ']' := by
  refine ⟨?_, by rintro rfl; revert h; decide⟩
  have hzero : '0'.toNat ≤ c.toNat := (Char.isDigit_iff_toNat.mp h).1
  exact Nat.lt_of_lt_of_le (by decide) hzero

/-- A value begins neither with a blank nor with a closing bracket. -/
lemma exists_write_eq_cons {v : Json} (h : v.isFloatFree) :
    ∃ c cs, v.write = c :: cs ∧ 0x20 < c.toNat ∧ c ≠ ']' := by
  cases v with
  | float x => simp [isFloatFree] at h
  | int n =>
    cases n with
    | ofNat n =>
      obtain ⟨d, ds, hds, hd⟩ := Decimal.exists_natDigits_eq_cons n
      exact ⟨d, ds, by rw [write, Decimal.ofInt, String.toList_ofList, hds], lt_toNat_of_isDigit hd⟩
    | negSucc n =>
      exact ⟨'-', _, by rw [write, Decimal.ofInt, String.toList_ofList], by decide, by decide⟩
  | null => exact ⟨'n', _, rfl, by decide, by decide⟩
  | bool b => cases b <;> exact ⟨_, _, rfl, by decide, by decide⟩
  | text s => exact ⟨'\x22', _, rfl, by decide, by decide⟩
  | list items => exact ⟨'[', _, rfl, by decide, by decide⟩
  | object members => exact ⟨'\x7b', _, rfl, by decide, by decide⟩

lemma exists_writeItems_eq_cons {v : Json} {more : List Json} (h : areFloatFree (v :: more)) :
    ∃ c cs, writeItems (v :: more) = c :: cs ∧ 0x20 < c.toNat ∧ c ≠ ']' := by
  rw [areFloatFree, Bool.and_eq_true] at h
  obtain ⟨c, cs, hcs, hopens⟩ := exists_write_eq_cons h.1
  cases more with
  | nil => exact ⟨c, cs, by rw [writeItems, hcs], hopens⟩
  | cons w more => exact ⟨c, _, by rw [writeItems, hcs, List.cons_append]; simp, hopens⟩

lemma exists_writeMembers_eq_cons (m : String × Json) (more : List (String × Json)) :
    ∃ cs, writeMembers (m :: more) = '\x22' :: cs := by
  cases more with
  | nil => exact ⟨_, by rw [writeMembers, writeText]; rfl⟩
  | cons n more => exact ⟨_, by rw [writeMembers, writeText]; rfl; simp⟩

/-- What begins like an integer is read as a number. -/
lemma readValue_eq_readNumber {c : Char} (h : c.isDigit ∨ c = '-') (depth : Nat) (cs : List Char) :
    readValue (depth + 1) (c :: cs) = readNumber (c :: cs) := by
  have hne : c ≠ 'n' ∧ c ≠ 't' ∧ c ≠ 'f' ∧ c ≠ '\x22' ∧ c ≠ '[' ∧ c ≠ '\x7b' := by
    refine ⟨?_, ?_, ?_, ?_, ?_, ?_⟩ <;> (rintro rfl; revert h; decide)
  have hblank : 0x20 < c.toNat := by
    obtain hc | rfl := h
    · exact (lt_toNat_of_isDigit hc).1
    · decide
  rw [readValue, skipBlanks_cons hblank]
  split <;> simp_all

/-- Integers are read back. -/
lemma readValue_int {rest : List Char} (h : EndsValue rest) (n : Int) (depth : Nat) :
    readValue (depth + 1) ((Decimal.ofInt n).toList ++ rest) = some (int n, rest) := by
  have hread := readNumber_ofInt h n
  cases n with
  | ofNat n =>
    obtain ⟨d, ds, hds, hd⟩ := Decimal.exists_natDigits_eq_cons n
    rw [Decimal.ofInt, String.toList_ofList, hds, List.cons_append] at hread ⊢
    rw [readValue_eq_readNumber (Or.inl hd), hread]
  | negSucc n =>
    rw [Decimal.ofInt, String.toList_ofList, List.cons_append] at hread ⊢
    rw [readValue_eq_readNumber (Or.inr rfl), hread]

/-- Behind an opening bracket the items are read, if there are any. -/
lemma readValue_bracket {c : Char} (hblank : 0x20 < c.toNat) (hclose : c ≠ ']') (depth : Nat)
    (cs : List Char) :
    readValue (depth + 1) ('[' :: c :: cs)
      = (readItems depth (c :: cs)).map fun (items, left) => (list items, left) := by
  have hmore : skipBlanks (c :: cs) = c :: cs := skipBlanks_cons hblank cs
  rw [readValue, skipBlanks_cons (by decide)]
  simp [hmore, hclose]

/-- Behind an opening brace the members are read, if there are any. -/
lemma readValue_brace (depth : Nat) (cs : List Char) :
    readValue (depth + 1) ('\x7b' :: '\x22' :: cs)
      = (readMembers depth ('\x22' :: cs)).map fun (members, left) => (object members, left) := by
  have hmore : skipBlanks ('\x22' :: cs) = '\x22' :: cs := skipBlanks_cons (by decide) cs
  rw [readValue, skipBlanks_cons (by decide)]
  simp [hmore]

/-- An item with a comma behind it is followed by more items. -/
lemma readItems_comma {depth : Nat} {cs more : List Char} {v : Json}
    (h : readValue depth cs = some (v, ',' :: more)) :
    readItems (depth + 1) cs
      = (readItems depth more).map fun (items, left) => (v :: items, left) := by
  rw [readItems, h]
  rfl

/-- An item with a bracket behind it is the last one. -/
lemma readItems_bracket {depth : Nat} {cs rest : List Char} {v : Json}
    (h : readValue depth cs = some (v, ']' :: rest)) :
    readItems (depth + 1) cs = some ([v], rest) := by
  rw [readItems, h]
  rfl

/-- A member is read up to the end of its value. -/
lemma readMembers_of_readValue {depth : Nat} {cs rest : List Char} {v : Json}
    (h : readValue depth cs = some (v, rest)) (key : String) :
    readMembers (depth + 1) (writeText key ++ ':' :: cs)
      = match skipBlanks rest with
        | ',' :: more =>
          (readMembers depth more).map fun (members, left) => ((key, v) :: members, left)
        | '\x7d' :: left => some ([(key, v)], left)
        | _ => none := by
  have hkey : readText (key.toList.flatMap escape ++ '\x22' :: ':' :: cs)
      = some (key.toList, ':' :: cs) := readText_flatMap_escape _ _
  have hcolon : skipBlanks (':' :: cs) = ':' :: cs := skipBlanks_cons (by decide) cs
  rw [writeText_append, readMembers, skipBlanks_cons (by decide)]
  simp only [hkey, hcolon, Option.bind_eq_bind, Option.bind_some, String.ofList_toList]
  rw [h]
  rfl

/-- A member with a comma behind it is followed by more members. -/
lemma readMembers_comma {depth : Nat} {cs more : List Char} {v : Json}
    (h : readValue depth cs = some (v, ',' :: more)) (key : String) :
    readMembers (depth + 1) (writeText key ++ ':' :: cs)
      = (readMembers depth more).map fun (members, left) => ((key, v) :: members, left) := by
  rw [readMembers_of_readValue h]
  rfl

/-- A member with a brace behind it is the last one. -/
lemma readMembers_brace {depth : Nat} {cs rest : List Char} {v : Json}
    (h : readValue depth cs = some (v, '\x7d' :: rest)) (key : String) :
    readMembers (depth + 1) (writeText key ++ ':' :: cs) = some ([(key, v)], rest) := by
  rw [readMembers_of_readValue h]
  rfl

mutual

/-- A value is read back in front of what may stand behind it. The depth allowed for is the number
of characters, since each level of nesting writes one. -/
theorem readValue_write : ∀ (v : Json) (depth : Nat) (rest : List Char), v.isFloatFree →
    v.write.length < depth → EndsValue rest → readValue depth (v.write ++ rest) = some (v, rest)
  | _, 0, _, _, hdepth, _ => by omega
  | .null, depth + 1, rest, _, _, _ => by
    rw [readValue]
    rfl
  | .bool true, depth + 1, rest, _, _, _ => by
    rw [readValue]
    rfl
  | .bool false, depth + 1, rest, _, _, _ => by
    rw [readValue]
    rfl
  | .int n, depth + 1, rest, _, _, hrest => by
    rw [write]
    exact readValue_int hrest n depth
  | .float x, _ + 1, _, hfree, _, _ => by simp [isFloatFree] at hfree
  | .text s, depth + 1, rest, _, _, _ => by
    have hread := readText_flatMap_escape s.toList rest
    rw [write, writeText_append, readValue, skipBlanks_cons (by decide)]
    simp [hread]
  | .list [], depth + 1, rest, _, _, _ => by
    rw [readValue]
    rfl
  | .list (v :: more), depth + 1, rest, hfree, hdepth, _ => by
    rw [isFloatFree] at hfree
    simp only [write, List.cons_append, List.length_cons, List.length_append, List.length_nil]
      at hdepth
    have hitems := readItems_write (v :: more) depth rest (List.cons_ne_nil v more) hfree (by omega)
    obtain ⟨c, cs, hcs, hblank, hclose⟩ := exists_writeItems_eq_cons hfree
    rw [hcs, List.cons_append] at hitems
    rw [write_list_append, hcs, List.cons_append, readValue_bracket hblank hclose, hitems]
    rfl
  | .object [], depth + 1, rest, _, _, _ => by
    rw [readValue]
    rfl
  | .object (m :: more), depth + 1, rest, hfree, hdepth, _ => by
    rw [isFloatFree] at hfree
    simp only [write, List.cons_append, List.length_cons, List.length_append, List.length_nil]
      at hdepth
    have hmembers :=
      readMembers_write (m :: more) depth rest (List.cons_ne_nil m more) hfree (by omega)
    obtain ⟨cs, hcs⟩ := exists_writeMembers_eq_cons m more
    rw [hcs, List.cons_append] at hmembers
    rw [write_object_append, hcs, List.cons_append, readValue_brace, hmembers]
    rfl

/-- Items are read back up to the closing bracket. -/
theorem readItems_write : ∀ (items : List Json) (depth : Nat) (rest : List Char), items ≠ [] →
    areFloatFree items → (writeItems items).length + 1 < depth →
    readItems depth (writeItems items ++ ']' :: rest) = some (items, rest)
  | _, 0, _, _, _, hdepth => by omega
  | [], _, _, hne, _, _ => absurd rfl hne
  | [v], depth + 1, rest, _, hfree, hdepth => by
    rw [areFloatFree, areFloatFree, Bool.and_true] at hfree
    rw [writeItems] at hdepth ⊢
    have hv := readValue_write v depth (']' :: rest) hfree (by omega) (endsValue_bracket rest)
    exact readItems_bracket hv
  | v :: w :: more, depth + 1, rest, _, hfree, hdepth => by
    rw [areFloatFree, Bool.and_eq_true] at hfree
    simp only [writeItems, List.length_append, List.length_cons] at hdepth
    have hv := readValue_write v depth (',' :: (writeItems (w :: more) ++ ']' :: rest)) hfree.1
      (by omega) (endsValue_comma _)
    have hmore := readItems_write (w :: more) depth rest (List.cons_ne_nil w more) hfree.2
      (by omega)
    rw [writeItems, List.append_assoc, List.cons_append, readItems_comma hv, hmore]
    · rfl
    · simp

/-- Members are read back up to the closing brace. -/
theorem readMembers_write : ∀ (members : List (String × Json)) (depth : Nat) (rest : List Char),
    members ≠ [] → membersFloatFree members → (writeMembers members).length + 1 < depth →
    readMembers depth (writeMembers members ++ '\x7d' :: rest) = some (members, rest)
  | _, 0, _, _, _, hdepth => by omega
  | [], _, _, hne, _, _ => absurd rfl hne
  | [(key, v)], depth + 1, rest, _, hfree, hdepth => by
    rw [membersFloatFree, membersFloatFree, Bool.and_true] at hfree
    simp only [writeMembers, List.length_append, List.length_cons] at hdepth
    have hv := readValue_write v depth ('\x7d' :: rest) hfree (by omega) (endsValue_brace rest)
    rw [writeMembers, List.append_assoc, List.cons_append, readMembers_brace hv]
  | (key, v) :: m :: more, depth + 1, rest, _, hfree, hdepth => by
    rw [membersFloatFree, Bool.and_eq_true] at hfree
    simp only [writeMembers, List.length_append, List.length_cons] at hdepth
    have hv := readValue_write v depth (',' :: (writeMembers (m :: more) ++ '\x7d' :: rest)) hfree.1
      (by omega) (endsValue_comma _)
    have hmore := readMembers_write (m :: more) depth rest (List.cons_ne_nil m more) hfree.2
      (by omega)
    rw [writeMembers, List.append_assoc, List.append_assoc, List.cons_append, List.cons_append,
      readMembers_comma hv, hmore]
    · rfl
    · simp

end

/-- Decoding undoes encoding. -/
theorem decode?_encode {v : Json} (h : v.isFloatFree) : decode? v.encode = some v := by
  have hread := readValue_write v (v.write.length + 1) [] h (Nat.lt_succ_self _) endsValue_nil
  rw [List.append_nil] at hread
  rw [decode?, encode, String.toList_ofList, hread]
  rfl

/-- So the text of a value determines it. -/
theorem eq_of_encode_eq {v w : Json} (hv : v.isFloatFree) (hw : w.isFloatFree)
    (h : v.encode = w.encode) : v = w := by
  have hread : some v = some w := by
    rw [← decode?_encode hv, h, decode?_encode hw]
  exact Option.some_inj.mp hread

/-! ## Texts of one line -/

lemma le_toNat_digitChar : ∀ d < 16, 0x20 ≤ (Nat.digitChar d).toNat := by decide

lemma forall_mem_escape (c : Char) : ∀ d ∈ escape c, 0x20 ≤ d.toNat := by
  unfold escape
  split_ifs with hquote hslash hn hr ht hb hf hcontrol
  iterate 7 · simp
  · intro d hd
    simp only [Text.Quoted.hexDigits, List.mem_cons, List.mem_map] at hd
    obtain rfl | rfl | ⟨i, -, rfl⟩ := hd
    · decide
    · decide
    · exact le_toNat_digitChar _ (Nat.mod_lt _ (by decide))
  · intro d hd
    rw [List.mem_singleton.mp hd]
    exact Nat.le_of_not_lt hcontrol

/-- No character of a written text is a control character. -/
lemma forall_mem_writeText (s : String) : ∀ c ∈ writeText s, 0x20 ≤ c.toNat := by
  intro c hc
  simp only [writeText, List.cons_append, List.mem_cons, List.mem_append, List.mem_flatMap,
    List.not_mem_nil, or_false] at hc
  obtain rfl | ⟨d, -, hd⟩ | rfl := hc
  · decide
  · exact forall_mem_escape d c hd
  · decide

lemma forall_mem_ofInt (n : Int) : ∀ c ∈ (Decimal.ofInt n).toList, 0x20 ≤ c.toNat := by
  intro c h
  have hdigit : ∀ {m : Nat}, c ∈ Decimal.natDigits m → 0x20 ≤ c.toNat := fun hc =>
    Nat.le_of_lt (lt_toNat_of_isDigit (Decimal.isDigit_of_mem_natDigits hc)).1
  cases n with
  | ofNat n =>
    rw [Decimal.ofInt, String.toList_ofList] at h
    exact hdigit h
  | negSucc n =>
    rw [Decimal.ofInt, String.toList_ofList, List.mem_cons] at h
    obtain rfl | hc := h
    · decide
    · exact hdigit hc

mutual

/-- No character of a value is below the space. -/
theorem forall_mem_write : ∀ (v : Json), v.isFloatFree → ∀ c ∈ v.write, 0x20 ≤ c.toNat
  | .null, _ => by simp [write]
  | .bool true, _ => by simp [write]
  | .bool false, _ => by simp [write]
  | .int n, _ => by
    rw [write]
    exact forall_mem_ofInt n
  | .float x, hfree => by simp [isFloatFree] at hfree
  | .text s, _ => by
    rw [write]
    exact forall_mem_writeText s
  | .list items, hfree => by
    rw [isFloatFree] at hfree
    simp only [write, List.cons_append, List.forall_mem_cons, List.forall_mem_append]
    exact ⟨by decide, forall_mem_writeItems items hfree, by decide, List.forall_mem_nil _⟩
  | .object members, hfree => by
    rw [isFloatFree] at hfree
    simp only [write, List.cons_append, List.forall_mem_cons, List.forall_mem_append]
    exact ⟨by decide, forall_mem_writeMembers members hfree, by decide, List.forall_mem_nil _⟩

theorem forall_mem_writeItems : ∀ (items : List Json), areFloatFree items →
    ∀ c ∈ writeItems items, 0x20 ≤ c.toNat
  | [], _ => by simp [writeItems]
  | [v], hfree => by
    rw [areFloatFree, areFloatFree, Bool.and_true] at hfree
    rw [writeItems]
    exact forall_mem_write v hfree
  | v :: w :: more, hfree => by
    rw [areFloatFree, Bool.and_eq_true] at hfree
    simp only [writeItems, List.forall_mem_append, List.forall_mem_cons]
    exact ⟨forall_mem_write v hfree.1, by decide, forall_mem_writeItems (w :: more) hfree.2⟩

theorem forall_mem_writeMembers : ∀ (members : List (String × Json)), membersFloatFree members →
    ∀ c ∈ writeMembers members, 0x20 ≤ c.toNat
  | [], _ => by simp [writeMembers]
  | [(key, v)], hfree => by
    rw [membersFloatFree, membersFloatFree, Bool.and_true] at hfree
    simp only [writeMembers, List.forall_mem_append, List.forall_mem_cons]
    exact ⟨forall_mem_writeText key, by decide, forall_mem_write v hfree⟩
  | (key, v) :: m :: more, hfree => by
    rw [membersFloatFree, Bool.and_eq_true] at hfree
    simp only [writeMembers, List.forall_mem_append, List.forall_mem_cons]
    exact ⟨⟨forall_mem_writeText key, by decide, forall_mem_write v hfree.1⟩, by decide,
      forall_mem_writeMembers (m :: more) hfree.2⟩

end

/-- **One line for each value.** Of values without floating-point numbers, nested to any depth, two
with the same text are the same, decoding recovers each of them from its text, and no character of
the text is below the space, so that it has no line break. -/
theorem encode_oneLine_injective {v w : Json} (hv : v.isFloatFree) (hw : w.isFloatFree) :
    (v.encode = w.encode → v = w)
      ∧ decode? v.encode = some v
      ∧ ∀ c ∈ v.encode.toList, 0x20 ≤ c.toNat := by
  refine ⟨eq_of_encode_eq hv hw, decode?_encode hv, ?_⟩
  rw [encode, String.toList_ofList]
  exact forall_mem_write v hv

/-- A large integer, neighbouring control characters and a line break in a key; the other value has
the same members in another order. -/
theorem encode_oneLine_injective_nested :
    let v := object
      [("a\nb", list [int (-100000000000000000000), text "\x01\x02\x22\x5c"]), ("", object [])]
    let w := object
      [("", object []), ("a\nb", list [int (-100000000000000000000), text "\x01\x02\x22\x5c"])]
    v.isFloatFree ∧ w.isFloatFree ∧ v.encode ≠ w.encode ∧ decode? v.encode = some v
      ∧ ∀ c ∈ v.encode.toList, 0x20 ≤ c.toNat := by
  intro v w
  have hv : v.isFloatFree := by decide
  have hw : w.isFloatFree := by decide
  obtain ⟨hinjective, hdecode, hline⟩ := encode_oneLine_injective hv hw
  refine ⟨hv, hw, fun heq => ?_, hdecode, hline⟩
  have hne : v ≠ w := by simp [v, w]
  exact hne (hinjective heq)

end Json

end InterfaceAtlas
