import InterfaceAtlas.Text.Blank
import Mathlib.Data.List.DropRight

/-!
# Texts without white space around them

White space is taken off a text once and for all: what is left does not begin or end with any. A
text is clean if there is something in it and nothing to take off. Tokens and suffixes are made
clean, and `isClean_strip` says that this leaves a clean text or none.
-/

namespace InterfaceAtlas.Text

variable {c : Char} {cs rest : List Char} {s : String}

lemma trim_eq (cs : List Char) : trim cs = (cs.dropWhile isBlank).rdropWhile isBlank := rfl

lemma trim_subset (cs : List Char) : trim cs ⊆ cs := by
  intro c hc
  have hfront : c ∈ cs.dropWhile isBlank := (List.rdropWhile_prefix isBlank _).subset hc
  exact (List.dropWhile_suffix isBlank).subset hfront

/-- What is left does not begin with white space. -/
lemma isBlank_of_trim_eq_cons (h : trim cs = c :: rest) : isBlank c = false := by
  -- taking white space off the end leaves the beginning
  obtain ⟨ending, hending⟩ := List.rdropWhile_prefix isBlank (cs.dropWhile isBlank)
  rw [← trim_eq, h] at hending
  have hhead := List.head?_dropWhile_not isBlank cs
  rw [← hending] at hhead
  simpa using hhead

/-- What was trimmed has no blanks left at its ends. -/
@[simp] lemma trim_trim (cs : List Char) : trim (trim cs) = trim cs := by
  cases h : trim cs with
  | nil => rfl
  | cons c rest =>
    have hfront : (c :: rest).dropWhile isBlank = c :: rest :=
      List.dropWhile_cons_of_neg (by simp [isBlank_of_trim_eq_cons h])
    rw [trim_eq, hfront, ← h, trim_eq, List.rdropWhile_idempotent]

@[simp] lemma strip_strip (s : String) : strip (strip s) = strip s := by
  simp [strip]

/-- A text with something in it and no white space around it. -/
structure IsClean (s : String) : Prop where
  filled : isBlankText s = false
  stripped : strip s = s

lemma IsClean.trim_toList (h : IsClean s) : trim s.toList = s.toList := by
  have hstripped := congrArg String.toList h.stripped
  rwa [strip, String.toList_ofList] at hstripped

lemma IsClean.ne_empty (h : IsClean s) : s ≠ "" := by
  rintro rfl
  exact absurd h.filled (by decide)

/-- What is left of a text with more than blanks is clean. -/
lemma isClean_ofList_trim (h : trim cs ≠ []) : IsClean (String.ofList (trim cs)) where
  filled := by
    obtain ⟨c, rest, hcons⟩ := List.exists_cons_of_ne_nil h
    simp [isBlankText, hcons, isBlank_of_trim_eq_cons hcons]
  stripped := by simp [strip]

/-- Without the white space around it a text is clean or empty. -/
lemma isClean_strip (h : strip s ≠ "") : IsClean (strip s) := by
  apply isClean_ofList_trim
  intro hnil
  apply h
  rw [strip, hnil]

end InterfaceAtlas.Text
