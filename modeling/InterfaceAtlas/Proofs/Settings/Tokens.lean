import InterfaceAtlas.Proofs.Settings.Normal
import InterfaceAtlas.Proofs.Text.Pieces

/-!
# Lists of tokens

A text lists tokens with commas between them, and white space around a token does not belong to it.
Two texts with a comma between them list what each of them lists (`tokensOfText_append_comma`), and
tokens that are listed are found again (`tokensOfText_intercalate`).
-/

namespace InterfaceAtlas.Settings

variable {s token : String} {tokens : List String}

/-- A text that can stand in a list: it is not empty, and it has neither a comma in it nor white
space around it. -/
structure IsToken (token : String) : Prop where
  ne_empty : token ≠ ""
  no_comma : ',' ∉ token.toList
  stripped : Text.strip token = token

lemma IsToken.isClean (h : IsToken token) : Text.IsClean token := by
  have hne : Text.strip token ≠ "" := by
    rw [h.stripped]
    exact h.ne_empty
  have hclean := Text.isClean_strip hne
  rwa [h.stripped] at hclean

/-! ## Tokens of a text -/

lemma cleaned_append (xs ys : List (List Char)) :
    cleaned (xs ++ ys) = cleaned xs ++ cleaned ys := by
  rw [cleaned, List.map_append, List.filterMap_append]
  rfl

/-- Two texts with a comma between them list what each of them lists. -/
theorem tokensOfText_append_comma (a b : String) :
    tokensOfText (a ++ "," ++ b) = tokensOfText a ++ tokensOfText b := by
  have hlist : (a ++ "," ++ b).toList = a.toList ++ ',' :: b.toList := by simp
  rw [tokensOfText, hlist, Text.splitAt_append_sep, cleaned_append]
  rfl

lemma isToken_of_mem_tokensOfText (h : token ∈ tokensOfText s) : IsToken token := by
  have hclean := isClean_of_mem_cleaned h
  obtain ⟨piece, hpiece, -, htoken⟩ := exists_of_mem_cleaned h
  refine ⟨hclean.ne_empty, ?_, hclean.stripped⟩
  rw [htoken, String.toList_ofList]
  intro hcomma
  exact (Text.mem_splitAt hpiece).1 (Text.trim_subset piece hcomma)

/-- Tokens that were listed are found again. -/
theorem tokensOfText_intercalate (h : ∀ token ∈ tokens, IsToken token) :
    tokensOfText (",".intercalate tokens) = tokens := by
  have hcomma : ",".toList = [','] := by decide
  rw [tokensOfText, String.toList_intercalate, hcomma]
  by_cases hnil : tokens = []
  · -- the empty text has a piece, but a blank one
    subst hnil
    rfl
  · have hpieces : ∀ piece ∈ tokens.map String.toList, ',' ∉ piece := by
      rw [List.forall_mem_map]
      exact fun token htoken => (h token htoken).no_comma
    rw [Text.splitAt_intercalate (by simpa using hnil) hpieces]
    exact cleaned_map_toList fun token htoken => (h token htoken).isClean

/-- **Lists of tokens.** Every text lists some tokens, and listed anew these are found again. Any
tokens are found again, whether they stand in one text or are given one by one. And of two texts
with a comma between them, first come the tokens of the one and then those of the other. -/
theorem tokens_listed :
    (∀ s, ∃ tokens, splitTokens? (.text s) = some tokens ∧ (∀ token ∈ tokens, IsToken token)
        ∧ splitTokens? (.text (",".intercalate tokens)) = some tokens)
      ∧ (∀ tokens : List String, (∀ token ∈ tokens, IsToken token) →
        splitTokens? (.text (",".intercalate tokens)) = some tokens
          ∧ splitTokens? (.list (tokens.map .text)) = some tokens)
      ∧ ∀ a b, ∃ front back,
        splitTokens? (.text a) = some front ∧ splitTokens? (.text b) = some back
          ∧ splitTokens? (.text (a ++ "," ++ b)) = some (front ++ back) := by
  refine ⟨fun s => ?_, fun tokens htokens => ?_, fun a b => ?_⟩
  · have htokens : ∀ token ∈ tokensOfText s, IsToken token := fun _ => isToken_of_mem_tokensOfText
    exact ⟨tokensOfText s, rfl, htokens, congrArg some (tokensOfText_intercalate htokens)⟩
  · exact ⟨congrArg some (tokensOfText_intercalate htokens),
      splitTokens?_list fun token htoken => (htokens token htoken).isClean⟩
  · exact ⟨tokensOfText a, tokensOfText b, rfl, rfl,
      congrArg some (tokensOfText_append_comma a b)⟩

/-- A token may have white space in it, if it has none around it. -/
theorem tokens_listed_spaced :
    (∀ token ∈ ["a b", "c"], IsToken token)
      ∧ splitTokens? (.text "a b,c") = some ["a b", "c"]
      ∧ splitTokens? (.list [.text "a b", .text "c"]) = some ["a b", "c"]
      ∧ splitTokens? (.text " a b ,,\tc, ,") = some ["a b", "c"] := by
  have htokens : ∀ token ∈ ["a b", "c"], IsToken token := by
    simp only [List.forall_mem_cons]
    exact ⟨⟨by decide, by decide, by decide⟩, ⟨by decide, by decide, by decide⟩, by simp⟩
  obtain ⟨htext, hlist⟩ := tokens_listed.2.1 ["a b", "c"] htokens
  exact ⟨htokens, htext, hlist, by decide⟩

end InterfaceAtlas.Settings
