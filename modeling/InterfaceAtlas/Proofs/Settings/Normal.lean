import InterfaceAtlas.Proofs.Journal.Level
import InterfaceAtlas.Proofs.Settings.Layers
import InterfaceAtlas.Proofs.Text.Blank

/-!
# Settings in normal form

Whatever files and variables say, the settings that come of it are in a normal form: tokens and
suffixes are clean, and the level is the name of one. Written down as a mapping, settings in normal
form pass strict validation and come back as they were.

* `Field.isNormal_of_read` and `Field.isNormal_of_override` say that what is read is normal;
* `Field.read_write` says that what is normal is read back;
* `load_normal` follows from both.
-/

namespace InterfaceAtlas.Settings

open Logged

variable {loader : Loader} {fs : FileSystem} {env : Environment} {payload : Payload}
  {s t : Settings}

/-! ## Tokens -/

lemma exists_of_mem_cleaned {items : List (List Char)} {token : String}
    (h : token ∈ cleaned items) :
    ∃ item ∈ items, Text.trim item ≠ [] ∧ token = String.ofList (Text.trim item) := by
  obtain ⟨cs, hcs, htoken⟩ := List.mem_filterMap.mp h
  obtain ⟨item, hitem, rfl⟩ := List.mem_map.mp hcs
  split at htoken
  · simp at htoken
  · next hempty => exact ⟨item, hitem, by simpa using hempty, (Option.some.inj htoken).symm⟩

lemma isClean_of_mem_cleaned {items : List (List Char)} {token : String}
    (h : token ∈ cleaned items) : Text.IsClean token := by
  obtain ⟨item, -, hne, rfl⟩ := exists_of_mem_cleaned h
  exact Text.isClean_ofList_trim hne

/-- Clean tokens are kept as they are. -/
lemma cleaned_map_toList {tokens : List String} (h : ∀ token ∈ tokens, Text.IsClean token) :
    cleaned (tokens.map String.toList) = tokens := by
  unfold cleaned
  rw [List.map_map, List.filterMap_map]
  have hkeep : ∀ token ∈ tokens,
      ((fun cs => if cs.isEmpty then none else some (String.ofList cs))
        ∘ (Text.trim ∘ String.toList)) token = some token := by
    intro token htoken
    have hclean := h token htoken
    simp [hclean.trim_toList, hclean.ne_empty]
  rw [List.filterMap_congr hkeep, List.filterMap_some]

/-- Clean tokens that are given one by one are kept as they are. -/
lemma splitTokens?_list {tokens : List String} (h : ∀ token ∈ tokens, Text.IsClean token) :
    splitTokens? (.list (tokens.map .text)) = some tokens := by
  rw [splitTokens?, List.map_map]
  exact congrArg some (cleaned_map_toList h)

/-! ## Fields in normal form -/

namespace Field

/-- A content as it comes out of validation. -/
def IsNormal : (field : Field) → field.Content → Prop
  | excludedTokens, tokens => ∀ token ∈ tokens, Text.IsClean token
  | sourceSuffix, text | testSuffix, text => Text.IsClean text
  | skipFaulty, _ => True
  | logLevel, name => Level.isName name

lemma isClean_of_readSuffix {key text : String} {v : Value} (h : readSuffix key v = .ok text) :
    Text.IsClean text := by
  unfold readSuffix givenText at h
  split_ifs at h with hgiven hempty hempty
  · obtain rfl := Except.ok.inj h
    exact Text.isClean_strip (by simpa using hempty)
  · simp at hempty

lemma isClean_of_readTokens {tokens : List String} {v : Value} (h : readTokens v = .ok tokens) :
    ∀ token ∈ tokens, Text.IsClean token := by
  unfold readTokens at h
  cases hsplit : splitTokens? v with
  | none => simp [hsplit] at h
  | some found =>
    rw [hsplit] at h
    obtain rfl := Except.ok.inj h
    -- a text, a list and a pair are all cleaned
    have hcleaned : ∃ items, found = cleaned items := by
      cases v <;> simp only [splitTokens?, tokensOfText, Option.some.injEq, reduceCtorEq] at hsplit
      all_goals exact ⟨_, hsplit.symm⟩
    obtain ⟨items, rfl⟩ := hcleaned
    intro token htoken
    exact isClean_of_mem_cleaned htoken

/-- What can be used of a value is normal. -/
lemma isNormal_of_read {field : Field} {v : Value} {a : field.Content} (h : field.read v = .ok a) :
    field.IsNormal a := by
  cases field with
  | excludedTokens => exact isClean_of_readTokens h
  | sourceSuffix => exact isClean_of_readSuffix h
  | testSuffix => exact isClean_of_readSuffix h
  | skipFaulty => trivial
  | logLevel =>
    rw [Field.read] at h
    exact isName_of_readLevel h

/-- What a variable decides is normal. -/
lemma isNormal_of_override {field : Field} {raw : String} {a : field.Content}
    (h : field.override? raw = some a) : field.IsNormal a := by
  cases field with
  | excludedTokens =>
    obtain rfl := Option.some.inj h
    intro token htoken
    exact isClean_of_mem_cleaned htoken
  | skipFaulty => trivial
  | logLevel => exact Level.isName_of_named? h
  -- no variable belongs to a suffix
  | sourceSuffix => cases h
  | testSuffix => cases h

end Field

/-! ## Settings in normal form -/

/-- Settings as they come out of validation. -/
def IsNormal (s : Settings) : Prop := ∀ field : Field, field.IsNormal (field.of s)

lemma isNormal_default : IsNormal {} := by
  intro field
  cases field with
  | excludedTokens =>
    show ∀ token ∈ ["vendor"], Text.IsClean token
    intro token htoken
    obtain rfl := List.mem_singleton.mp htoken
    exact ⟨by decide, by decide⟩
  | sourceSuffix => exact ⟨by decide, by decide⟩
  | testSuffix => exact ⟨by decide, by decide⟩
  | skipFaulty => trivial
  | logLevel => show Level.isName "INFO" = true; decide

/-- A mapping keeps settings in normal form. -/
lemma isNormal_settled (h : IsNormal s) (payload : Payload) : IsNormal (settled s payload) := by
  intro field
  rw [of_settled]
  unfold contentOr
  split
  · next a hreading =>
    obtain ⟨v, -, hread⟩ := Option.map_eq_some_iff.mp hreading
    exact Field.isNormal_of_read hread
  · exact h field
  · exact h field

/-- The environment keeps settings in normal form. -/
lemma isNormal_environment (h : IsNormal s) (env : Environment) :
    IsNormal (env.apply s).value := by
  intro field
  rw [of_environment]
  cases hset : (field.environmentText? env).bind field.override? with
  | none => exact h field
  | some a =>
    obtain ⟨raw, -, hraw⟩ := Option.bind_eq_some_iff.mp hset
    exact Field.isNormal_of_override hraw

/-- Settings that validation has are the settled ones. -/
lemma eq_settled_of_apply {strict : Bool} (h : outcome (apply strict s payload) = .ok t) :
    t = settled s payload := by
  by_cases htexts : ∀ key ∈ payload.map Prod.fst, key.isText
  · cases strict with
    | false => exact (Except.ok.inj ((outcome_apply_lenient htexts s).symm.trans h)).symm
    | true =>
      have hrun : outcome (apply true s payload) = _ :=
        congrArg Logged.value (run_apply_strict htexts s)
      rw [h] at hrun
      cases hfaults : faults payload with
      | nil =>
        rw [hfaults] at hrun
        exact Except.ok.inj hrun
      | cons fault more =>
        rw [hfaults] at hrun
        cases hrun
  · -- a key that is no text ends everything
    have hodd : ∃ key ∈ payload.map Prod.fst, key.isText = false := by simpa using htexts
    unfold apply at h
    rw [outcome_bind_error (outcome_checkKeys_of_odd hodd)] at h
    cases h

lemma isNormal_of_load {path : Option String} {strict : Option Bool}
    (h : outcome (load loader fs env path strict) = .ok s) : IsNormal s := by
  rw [outcome_load] at h
  obtain ⟨fromFile, hfile, rfl⟩ := exists_of_map_ok h
  -- each layer keeps the normal form, and the defaults are in it
  apply isNormal_environment
  rw [applyFile_eq] at hfile
  cases hpath : path.filter (· != "") with
  | none =>
    rw [hpath] at hfile
    obtain rfl := Except.ok.inj hfile
    exact isNormal_default
  | some p =>
    rw [hpath] at hfile
    obtain ⟨payload, -, happly⟩ := exists_of_outcome_bind_ok hfile
    rw [eq_settled_of_apply happly]
    exact isNormal_settled isNormal_default payload

/-! ## Settings as a mapping -/

/-- The value that a content is written down as. -/
def Field.write : (field : Field) → field.Content → Value
  | excludedTokens, tokens => .list (tokens.map .text)
  | sourceSuffix, text | testSuffix, text | logLevel, text => .text text
  | skipFaulty, flag => .bool flag

/-- Settings written down as a mapping, with one entry for each field. -/
def asMapping (s : Settings) : Payload :=
  Field.all.map fun field => (.text field.key, field.write (field.of s))

lemma lookup?_asMapping (field : Field) (s : Settings) :
    lookup? field.key (asMapping s) = some (field.write (field.of s)) := by
  cases field <;> rfl

lemma unknownKeys_asMapping (s : Settings) : unknownKeys (asMapping s) = [] := rfl

lemma isText_asMapping (s : Settings) : ∀ key ∈ (asMapping s).map Prod.fst, key.isText := by
  simp [asMapping, Field.all, Value.isText]

/-- A text is taken without the white space around it, also where there is nothing else. -/
lemma givenText_text (text : String) : givenText (.text text) = Text.strip text := by
  unfold givenText
  by_cases hempty : text = ""
  · subst hempty
    rfl
  · rw [if_pos (by simpa [Value.isGiven] using hempty)]
    rfl

lemma readSuffix_text {text : String} (h : Text.IsClean text) (key : String) :
    readSuffix key (.text text) = .ok text := by
  rw [readSuffix, givenText_text, h.stripped, if_neg (by simpa using h.ne_empty)]

lemma readTokens_list {tokens : List String} (h : ∀ token ∈ tokens, Text.IsClean token) :
    readTokens (.list (tokens.map .text)) = .ok tokens := by
  rw [readTokens, splitTokens?_list h]

/-- A text is read as a level under the spelling in which names are looked up. -/
lemma readLevel_text (text : String) :
    readLevel (.text text)
      = if Level.isName (Level.normalName text) then .ok (Level.normalName text)
        else .error (.badLevel (.text text)) := by
  unfold readLevel
  rw [givenText_text]
  rfl

/-- What is normal is read back. -/
lemma Field.read_write {field : Field} {a : field.Content} (h : field.IsNormal a) :
    field.read (field.write a) = .ok a := by
  cases field with
  | excludedTokens => exact readTokens_list h
  | sourceSuffix => exact readSuffix_text h _
  | testSuffix => exact readSuffix_text h _
  | skipFaulty => rfl
  | logLevel =>
    have hname : Level.isName a := h
    show readLevel (.text a) = .ok a
    rw [readLevel_text, Level.normalName_of_isName hname, if_pos hname]

/-- Settings with the same fields are the same. -/
lemma eq_of_fields (h : ∀ field : Field, field.of s = field.of t) : s = t := by
  obtain ⟨tokens, source, test, skip, level⟩ := s
  obtain ⟨tokens', source', test', skip', level'⟩ := t
  obtain rfl : tokens = tokens' := h .excludedTokens
  obtain rfl : source = source' := h .sourceSuffix
  obtain rfl : test = test' := h .testSuffix
  obtain rfl : skip = skip' := h .skipFaulty
  obtain rfl : level = level' := h .logLevel
  rfl

/-- Settings in normal form pass strict validation and come back as they were. -/
lemma IsNormal.run_apply_asMapping (h : IsNormal s) (start : Settings) :
    (apply true start (asMapping s)).run = ⟨.ok s, []⟩ := by
  have hread : ∀ field : Field, field.read (field.write (field.of s)) = .ok (field.of s) :=
    fun field => Field.read_write (h field)
  have hfaults : faults (asMapping s) = [] := by
    rw [faults_eq_nil_iff (isText_asMapping s)]
    refine ⟨unknownKeys_asMapping s, ?_⟩
    rintro field ⟨v, fault, hlookup, hfault⟩
    rw [lookup?_asMapping] at hlookup
    obtain rfl := Option.some.inj hlookup
    rw [hread] at hfault
    cases hfault
  -- every key is there, so nothing of the start is left
  have hsettled : settled start (asMapping s) = s := by
    apply eq_of_fields
    intro field
    exact (settles_settled start (asMapping s)).taken field _ _ (lookup?_asMapping field s)
      (hread field)
  rw [run_apply_strict (isText_asMapping s), hfaults, hsettled]
  rfl

/-- **Loaded settings are in normal form.** Of settings that loading has, every token and both
suffixes are clean, and the level is the name of one. Written down as a mapping they pass strict
validation without a word, from whatever settings it starts, and come back as they were. -/
theorem load_normal {path : Option String} {strict : Option Bool}
    (h : outcome (load loader fs env path strict) = .ok s) :
    (∀ token ∈ s.excludedTokens, Text.isBlankText token = false ∧ Text.strip token = token)
      ∧ (Text.isBlankText s.sourceSuffix = false ∧ Text.strip s.sourceSuffix = s.sourceSuffix)
      ∧ (Text.isBlankText s.testSuffix = false ∧ Text.strip s.testSuffix = s.testSuffix)
      ∧ Level.isName s.logLevel
      ∧ ∀ start, (apply true start (asMapping s)).run = ⟨.ok s, []⟩ := by
  have hnormal := isNormal_of_load h
  have htokens : ∀ token ∈ s.excludedTokens, Text.IsClean token := hnormal .excludedTokens
  have hsource : Text.IsClean s.sourceSuffix := hnormal .sourceSuffix
  have htest : Text.IsClean s.testSuffix := hnormal .testSuffix
  refine ⟨?_, ⟨hsource.filled, hsource.stripped⟩, ⟨htest.filled, htest.stripped⟩,
    hnormal .logLevel, hnormal.run_apply_asMapping⟩
  intro token htoken
  exact ⟨(htokens token htoken).filled, (htokens token htoken).stripped⟩

/-- Variables among white space leave settings that are not: strict validation takes them as they
are. -/
theorem load_normal_spaced :
    outcome (load Yaml.loader {} { excludeDirs := some " a b ,, c", logLevel := some "warn\n" }
          none none)
        = .ok { excludedTokens := ["a b", "c"], logLevel := "WARN" }
      ∧ (apply true { logLevel := "DEBUG" }
          (asMapping { excludedTokens := ["a b", "c"], logLevel := "WARN" })).run
        = ⟨.ok { excludedTokens := ["a b", "c"], logLevel := "WARN" }, []⟩ := by
  have hload :
      outcome (load Yaml.loader {} { excludeDirs := some " a b ,, c", logLevel := some "warn\n" }
            none none)
          = .ok { excludedTokens := ["a b", "c"], logLevel := "WARN" } := rfl
  exact ⟨hload, (load_normal hload).2.2.2.2 _⟩

end InterfaceAtlas.Settings
