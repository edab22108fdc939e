import InterfaceAtlas.Proofs.Journal.Level
import InterfaceAtlas.Proofs.Text.Blank
import Mathlib.Logic.Function.Basic

/-!
# Capital forms beyond ASCII

`Text.capital` knows the capital forms that are made of ASCII letters and leaves every other
character alone. Most of those have a capital form too, but for level names it does not matter which
one. `Text.CompletesCapital` says what is left open: any mapping that has the same forms in ASCII,
and forms that are not all ASCII for the rest. Under every such mapping

* the same names are found (`Level.ofName?_formsOf`);
* a text that is the name of a level becomes the same text (`Level.formsOf_of_isName`).
-/

namespace InterfaceAtlas

namespace Text

variable {upper : Char → List Char} {c : Char} {cs : List Char}

/-! ## White space in a text -/

/-- What is taken off at the ends is white space. -/
lemma mem_trim_or_isBlank (h : c ∈ cs) : c ∈ trim cs ∨ isBlank c := by
  rw [← List.takeWhile_append_dropWhile (p := isBlank) (l := cs), List.mem_append] at h
  obtain hfront | hrest := h
  · exact Or.inr (List.mem_takeWhile_imp hfront)
  · rw [← List.rdropWhile_append_rtakeWhile (p := isBlank) (l := cs.dropWhile isBlank),
      List.mem_append] at hrest
    obtain hkept | hend := hrest
    · exact Or.inl hkept
    · exact Or.inr (List.mem_rtakeWhile_imp hend)

/-! ## All capital forms -/

/-- A text in capitals, by the capital forms of its characters. -/
def formsOf (upper : Char → List Char) (s : String) : String :=
  String.ofList (s.toList.flatMap upper)

/-- Capital forms of all characters, of which `capital` is the part in ASCII. -/
structure CompletesCapital (upper : Char → List Char) : Prop where
  /-- A form in ASCII is the one that `capital` has. -/
  same : ∀ c, (∀ d ∈ upper c, d.toNat < 0x80) → upper c = capital c
  /-- Another form belongs to a character beyond ASCII that `capital` leaves alone. -/
  other : ∀ c, (∃ d ∈ upper c, 0x80 ≤ d.toNat) → 0x80 ≤ c.toNat ∧ capital c = [c]
  /-- White space is its own capital form. -/
  blank : ∀ c, isBlank c → upper c = [c]

/-- A capital form is the known one, or it begins and ends beyond ASCII. -/
lemma CompletesCapital.eq_capital_or (h : CompletesCapital upper) (c : Char) :
    upper c = capital c
      ∨ (∃ d ∈ upper c, 0x80 ≤ d.toNat) ∧ 0x80 ≤ c.toNat ∧ capital c = [c] := by
  by_cases hforeign : ∃ d ∈ upper c, 0x80 ≤ d.toNat
  · exact Or.inr ⟨hforeign, h.other c hforeign⟩
  · apply Or.inl
    apply h.same
    intro d hd
    by_contra hlarge
    exact hforeign ⟨d, hd, Nat.le_of_not_lt hlarge⟩

/-- Upper case letters are ASCII. -/
lemma toNat_lt_of_isUpper (h : c.isUpper) : c.toNat < 0x80 := by
  have hrange := isUpper_iff.mp h
  omega

/-- The forms in ASCII alone are a choice, in which the rest is left alone. -/
lemma completesCapital_capital : CompletesCapital capital where
  same _ _ := rfl
  other c hforeign := by
    obtain ⟨d, hd, hlarge⟩ := hforeign
    obtain hsame | ⟨-, -, hupper⟩ := capital_cases c
    · rw [hsame, List.mem_singleton] at hd
      rw [← hd]
      exact ⟨hlarge, by rw [hd, hsame]⟩
    · have hsmall := toNat_lt_of_isUpper (hupper d hd)
      omega
  blank c hblank := by
    obtain hsame | ⟨hfilled, -⟩ := capital_cases c
    · exact hsame
    · rw [hfilled] at hblank
      cases hblank

/-- A character that is left alone can have any form that is not all ASCII. -/
lemma CompletesCapital.update (h : CompletesCapital upper) {form : List Char}
    (hlarge : 0x80 ≤ c.toNat) (hsame : capital c = [c]) (hblank : isBlank c = false)
    (hform : ∃ d ∈ form, 0x80 ≤ d.toNat) : CompletesCapital (Function.update upper c form) where
  same b hascii := by
    by_cases hb : b = c
    · subst hb
      rw [Function.update_self] at hascii
      obtain ⟨d, hd, hd'⟩ := hform
      have := hascii d hd
      omega
    · rw [Function.update_of_ne hb] at hascii ⊢
      exact h.same b hascii
  other b hforeign := by
    by_cases hb : b = c
    · subst hb
      exact ⟨hlarge, hsame⟩
    · rw [Function.update_of_ne hb] at hforeign
      exact h.other b hforeign
  blank b hb := by
    have hne : b ≠ c := by
      rintro rfl
      rw [hblank] at hb
      cases hb
    rw [Function.update_of_ne hne]
    exact h.blank b hb

end Text

namespace Level

open Text

variable {upper : Char → List Char} {text : String}

/-! ## Names of levels -/

/-- The names of levels are spelled in ASCII. -/
lemma ofName?_eq_none {name : String} (h : ∃ d ∈ name.toList, 0x80 ≤ d.toNat) :
    ofName? name = none := by
  have hascii : names.all fun entry => entry.1.toList.all fun d => decide (d.toNat < 0x80) := rfl
  simp only [List.all_eq_true, decide_eq_true_eq] at hascii
  obtain ⟨d, hd, hlarge⟩ := h
  apply List.lookup_eq_none_iff.mpr
  intro entry hentry
  rw [bne_iff_ne]
  rintro rfl
  have hsmall := hascii entry hentry d hd
  omega

/-- Whatever the other capital forms are, the same names are found. -/
lemma ofName?_formsOf (h : CompletesCapital upper) (text : String) :
    ofName? (formsOf upper text) = ofName? (capitals text) := by
  by_cases hsame : ∀ c ∈ text.toList, upper c = capital c
  · rw [formsOf, capitals, List.flatMap_congr hsame]
  · -- a character that makes a difference is beyond ASCII before and after
    obtain ⟨c, hc, hne⟩ : ∃ c ∈ text.toList, upper c ≠ capital c := by simpa using hsame
    obtain heq | ⟨⟨d, hd, hlarge⟩, hc', hleft⟩ := h.eq_capital_or c
    · exact absurd heq hne
    · rw [ofName?_eq_none ⟨d, by simpa [formsOf] using ⟨c, hc, hd⟩, hlarge⟩,
        ofName?_eq_none ⟨c, by simpa [capitals] using ⟨c, hc, by simp [hleft]⟩, hc'⟩]

/-- Whatever the other capital forms are, the name of a level becomes the same text. -/
lemma formsOf_of_isName (h : CompletesCapital upper) (hname : isName (normalName text)) :
    formsOf upper text = capitals text ∧ formsOf upper (strip text) = normalName text := by
  have hkept : ∀ c ∈ (strip text).toList, upper c = capital c := by
    intro c hc
    obtain heq | ⟨-, hlarge, hleft⟩ := h.eq_capital_or c
    · exact heq
    · -- the character is still there in capitals, and no name has it
      have hnone : ofName? (normalName text) = none :=
        ofName?_eq_none ⟨c, by simpa [normalName, capitals] using ⟨c, hc, by simp [hleft]⟩, hlarge⟩
      rw [isName, hnone] at hname
      cases hname
  -- around the name there is only white space, which stays as it is
  have hall : ∀ c ∈ text.toList, upper c = capital c := by
    intro c hc
    obtain hkeep | hblank := mem_trim_or_isBlank hc
    · exact hkept c (by simpa [strip] using hkeep)
    · rw [h.blank c hblank, completesCapital_capital.blank c hblank]
  constructor
  · rw [formsOf, capitals, List.flatMap_congr hall]
  · rw [formsOf, normalName, capitals, List.flatMap_congr hkept]

end Level

end InterfaceAtlas
