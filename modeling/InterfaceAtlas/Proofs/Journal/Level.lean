import InterfaceAtlas.Journal.Level
import Mathlib.Data.List.Basic

/-!
# Names of levels in capitals

A text may be put in capitals before the white space around it is taken off, or after, or twice: the
name of a level that it spells is the same. White space is its own capital form, and the capital
form of anything else has no white space in it.

* `Text.strip_capitals` and `Text.capitals_capitals` are these two facts;
* `Level.resolve?_capitals` is what they are for.
-/

namespace InterfaceAtlas

namespace Text

variable {c : Char}

/-! ## Capital forms -/

lemma isBlank_iff : isBlank c ↔ ∃ r ∈ blankRanges, r.1 ≤ c.toNat ∧ c.toNat ≤ r.2 := by
  simp [isBlank, inRanges]

/-- What is printed in ASCII is not white space. -/
lemma isBlank_eq_false (hlow : 0x20 < c.toNat) (hhigh : c.toNat < 0x7f) : isBlank c = false := by
  rw [Bool.eq_false_iff, ne_eq, isBlank_iff]
  simp only [blankRanges, List.mem_cons, List.not_mem_nil, or_false, exists_eq_or_imp,
    exists_eq_left]
  omega

lemma isUpper_iff : c.isUpper ↔ 65 ≤ c.toNat ∧ c.toNat ≤ 90 := by
  show decide (c.val ≥ 'A'.val ∧ c.val ≤ 'Z'.val) = true ↔ _
  rw [decide_eq_true_iff, ge_iff_le, UInt32.le_iff_toNat_le, UInt32.le_iff_toNat_le]
  rfl

lemma isBlank_of_isUpper (h : c.isUpper) : isBlank c = false := by
  have hrange := isUpper_iff.mp h
  exact isBlank_eq_false (by omega) (by omega)

/-- Only letters change, and into letters. -/
lemma toUpper_cases (c : Char) : c.toUpper = c ∨ (isBlank c = false ∧ c.toUpper.isUpper) := by
  by_cases h : 'a'.val ≤ c.val ∧ c.val ≤ 'z'.val
  · have hlow : 97 ≤ c.toNat := UInt32.le_iff_toNat_le.mp h.1
    have hhigh : c.toNat ≤ 122 := UInt32.le_iff_toNat_le.mp h.2
    have hval : c.toUpper.val = c.val + ('A'.val - 'a'.val) := by
      delta Char.toUpper
      rw [dif_pos h]
    have hupper : c.toUpper.toNat = c.toNat - 32 := by
      show c.toUpper.val.toNat = c.val.toNat - 32
      rw [hval, UInt32.toNat_add]
      show (c.toNat + 4294967264) % 2 ^ 32 = c.toNat - 32
      omega
    exact Or.inr ⟨isBlank_eq_false (by omega) (by omega), isUpper_iff.mpr (by omega)⟩
  · exact Or.inl (dif_neg h)

/-- The characters beyond ASCII whose capital form is made of ASCII letters. -/
def foreignLetters : List Char := ['ß', 'ı', 'ſ', 'ﬀ', 'ﬁ', 'ﬂ', 'ﬃ', 'ﬄ', 'ﬅ', 'ﬆ']

/-- The letters whose capitals are ASCII have capitals that are no blanks. -/
lemma capital_of_mem (h : c ∈ foreignLetters) :
    isBlank c = false ∧ capital c ≠ [] ∧ ∀ d ∈ capital c, d.isUpper := by
  have hall : foreignLetters.all fun c =>
      !isBlank c && !(capital c).isEmpty && (capital c).all Char.isUpper := by
    decide +kernel
  simpa [and_assoc] using List.all_eq_true.mp hall c h

/-- All other letters are capitalized as ASCII has it. -/
lemma capital_of_not_mem (h : c ∉ foreignLetters) : capital c = [c.toUpper] := by
  simp only [foreignLetters, List.mem_cons, List.not_mem_nil, or_false, not_or] at h
  simp only [capital, h, if_false]

/-- A character is its own capital form, or that form is made of capital letters. -/
lemma capital_cases (c : Char) :
    capital c = [c] ∨ (isBlank c = false ∧ capital c ≠ [] ∧ ∀ d ∈ capital c, d.isUpper) := by
  by_cases h : c ∈ foreignLetters
  · exact Or.inr (capital_of_mem h)
  · rw [capital_of_not_mem h]
    obtain hsame | ⟨hblank, hupper⟩ := toUpper_cases c
    · exact Or.inl (by rw [hsame])
    · exact Or.inr ⟨hblank, by simp, by simpa using hupper⟩

lemma capital_of_isUpper (h : c.isUpper) : capital c = [c] := by
  have hforeign : foreignLetters.all fun d => !d.isUpper := by decide +kernel
  have hhigh : c.toNat ≤ 90 := (isUpper_iff.mp h).2
  have hsmall : ¬ ('a'.val ≤ c.val ∧ c.val ≤ 'z'.val) := by
    rintro ⟨hlow, -⟩
    have : 97 ≤ c.toNat := UInt32.le_iff_toNat_le.mp hlow
    omega
  have hmem : c ∉ foreignLetters := by
    intro hmem
    simpa [h] using List.all_eq_true.mp hforeign c hmem
  have hsame : c.toUpper = c := dif_neg hsmall
  rw [capital_of_not_mem hmem, hsame]

/-! ## Texts -/

/-- Characters may be replaced before or after those in front are dropped, if the ones to drop are
kept as they are and the others do not become one to drop. -/
lemma dropWhile_flatMap {p : Char → Bool} {f : Char → List Char}
    (hkeep : ∀ c, p c = true → f c = [c])
    (hother : ∀ c, p c = false → f c ≠ [] ∧ ∀ d ∈ f c, p d = false) (cs : List Char) :
    (cs.flatMap f).dropWhile p = (cs.dropWhile p).flatMap f := by
  induction cs with
  | nil => rfl
  | cons c cs ih =>
    cases hc : p c with
    | true => simp [hkeep c hc, hc, ih]
    | false =>
      obtain ⟨hne, hall⟩ := hother c hc
      obtain ⟨d, ds, hf⟩ := List.exists_cons_of_ne_nil hne
      have hd : p d = false := hall d (by simp [hf])
      simp [hf, hd, hc]

/-- Capitals do not turn blanks into other characters, or others into blanks. -/
lemma trim_flatMap_capital (cs : List Char) :
    trim (cs.flatMap capital) = (trim cs).flatMap capital := by
  have hkeep : ∀ c, isBlank c = true → capital c = [c] := by
    intro c hc
    obtain h | ⟨hblank, -⟩ := capital_cases c
    · exact h
    · simp [hblank] at hc
  have hother : ∀ c, isBlank c = false → capital c ≠ [] ∧ ∀ d ∈ capital c, isBlank d = false := by
    intro c hc
    obtain h | ⟨-, hne, hupper⟩ := capital_cases c
    · simp [h, hc]
    · exact ⟨hne, fun d hd => isBlank_of_isUpper (hupper d hd)⟩
  -- at the end the characters stand in reverse, and so does each capital form
  have hend := dropWhile_flatMap (p := isBlank) (f := List.reverse ∘ capital)
    (fun c hc => by simp [hkeep c hc]) (fun c hc => by simpa using hother c hc)
  rw [trim, dropWhile_flatMap hkeep hother, List.reverse_flatMap, hend, List.reverse_flatMap]
  simp [trim, Function.comp_def]

lemma strip_capitals (s : String) : strip (capitals s) = capitals (strip s) := by
  simp [strip, capitals, trim_flatMap_capital]

/-- Capitals stay as they are. -/
lemma capitals_capitals (s : String) : capitals (capitals s) = capitals s := by
  have hown : ∀ c, (capital c).flatMap capital = capital c := by
    intro c
    obtain h | ⟨-, -, hupper⟩ := capital_cases c
    · rw [h, List.flatMap_singleton, h]
    · have hsame : (capital c).flatMap capital = (capital c).flatMap fun d => [d] :=
        List.flatMap_congr fun d hd => capital_of_isUpper (hupper d hd)
      rw [hsame, List.flatMap_singleton']
  simp only [capitals, String.toList_ofList, List.flatMap_assoc, hown]

end Text

namespace Level

/-! ## Levels -/

/-- Lower and upper case make no difference to the name of a level. -/
lemma normalName_capitals (s : String) : normalName (Text.capitals s) = normalName s := by
  rw [normalName, Text.strip_capitals, Text.capitals_capitals, normalName]

/-- A text stands for the level that its normal name is the name of. -/
lemma resolve?_text (s : String) : resolve? (.text s) = (ofName? (normalName s)).map number := rfl

/-- A text and its capitals stand for the same level. -/
lemma resolve?_capitals (s : String) :
    resolve? (.text (Text.capitals s)) = resolve? (.text s) := by
  rw [resolve?_text, normalName_capitals, resolve?_text]

/-- A name is spelled as it is looked up. -/
lemma normalName_of_isName {name : String} (h : isName name) : normalName name = name := by
  have hnormal : ∀ entry ∈ names, normalName entry.1 = entry.1 := by decide
  obtain ⟨entry, hmem, heq⟩ := List.lookup_isSome_iff.mp h
  obtain rfl : name = entry.1 := by simpa using heq
  exact hnormal entry hmem

/-- A name stands for its level as it is. -/
lemma resolve?_of_isName {name : String} (h : isName name) :
    resolve? (.text name) = (ofName? name).map number := by
  rw [resolve?_text, normalName_of_isName h]

end Level

end InterfaceAtlas
