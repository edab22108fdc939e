import InterfaceAtlas.Proofs.Files.Fallback
import InterfaceAtlas.Proofs.Files.Harmless
import InterfaceAtlas.Proofs.Files.Normal
import InterfaceAtlas.Proofs.Files.Resumption

/-!
# Scans that are read in part

Whoever wants `n` sources of a scan makes it take the steps up to the one that yields the last of
them, and no more. `Suspended` says what the counters are worth then, in terms of the paths and the
sources of the whole scan and of what can be listed, and `loads_suspended` that they are worth it
after each number of sources.
-/

namespace InterfaceAtlas

open InterfaceAtlas.Path

/-! ## The files of a scan -/

/-- The suffix of a candidate's name is one of its whole path. -/
lemma Settings.isSource_of_isCandidate {settings : Settings} {path : String}
    (h : settings.isCandidate (baseName path) = true) : settings.isSource path = true := by
  rw [Settings.isCandidate, Bool.and_eq_true, Settings.endsWith, List.isSuffixOf_iff_suffix,
    baseName, String.toList_ofList] at h
  rw [Settings.isSource, Settings.endsWith, List.isSuffixOf_iff_suffix,
    ← beforeLast_append_lastPiece path.toList]
  exact h.1.trans (List.suffix_append _ _)

namespace FileSystem

variable {fs : FileSystem} {settings : Settings} {root : String} {recursive : Bool} {n : Nat}

/-- The paths of the files that a scan finds. -/
def paths (fs : FileSystem) (settings : Settings) (root : String) (recursive : Bool) :
    List String :=
  (fs.scan settings root recursive).filterMap ScanStep.path?

lemma nodup_sourceNames (hfs : fs.WellFormed) {entries : List (String × FileNode)}
    (hlist : fs.list root = .ok entries) :
    (sourceNames settings recursive (fs.denial root) entries).Nodup := by
  rw [sourceNames]
  split
  · rw [scanNames_eq]
    exact (yieldsUpToFailure_of_list hfs settings hlist).nodup
  · exact (pairwise_flatNames (proper_of_list hfs hlist)).imp ne_of_lt

/-- A scan finds the root itself, or files below it by different names. -/
lemma paths_cases (hfs : fs.WellFormed) (settings : Settings) (root : String) (recursive : Bool) :
    (settings.isCandidate (baseName root) = true ∧ fs.paths settings root recursive = [root])
      ∨ ∃ names : List (List String), names.Nodup ∧ (∀ ns ∈ names, IsFilePath settings ns)
        ∧ fs.paths settings root recursive = names.map (joinAll root) := by
  cases hfile : fs.isFile root with
  | true =>
    rw [paths, scan, if_pos hfile]
    split
    · next hcand => exact Or.inl ⟨hcand, rfl⟩
    · exact Or.inr ⟨[], List.nodup_nil, by simp, rfl⟩
  | false =>
    refine Or.inr ?_
    cases hlist : fs.list root with
    | error fault => exact ⟨[], List.nodup_nil, by simp, paths_eq_nil hfile hlist recursive⟩
    | ok entries =>
      refine ⟨_, nodup_sourceNames hfs hlist, fun ns hns => ?_, paths_eq hfs hlist recursive⟩
      exact isFilePath_of_mem_sourceNames (proper_of_list hfs hlist) hns

/-- No file is found twice. -/
lemma nodup_paths (hfs : fs.WellFormed) (settings : Settings) (root : String) (recursive : Bool) :
    (fs.paths settings root recursive).Nodup := by
  rcases paths_cases hfs settings root recursive with ⟨-, hpaths⟩ | ⟨names, hnodup, hfile, hpaths⟩
  · rw [hpaths]
    exact List.nodup_singleton root
  · rw [hpaths]
    refine List.Nodup.map_on (fun a ha b hb hab => ?_) hnodup
    exact joinAll_injective (hfile a ha).ne_nil (hfile b hb).ne_nil (hfile a ha).isName
      (hfile b hb).isName hab

/-- Each file that a scan finds has the name of a candidate. -/
lemma isCandidate_of_mem_paths (hfs : fs.WellFormed) {path : String}
    (h : path ∈ fs.paths settings root recursive) :
    settings.isCandidate (baseName path) = true := by
  rcases paths_cases hfs settings root recursive with ⟨hcand, hpaths⟩ | ⟨names, -, hfile, hpaths⟩
  · rw [hpaths] at h
    rwa [List.mem_singleton.mp h]
  · rw [hpaths] at h
    obtain ⟨ns, hns, rfl⟩ := List.mem_map.mp h
    obtain ⟨front, name, rfl, hcand⟩ := (hfile ns hns).last
    rwa [joinAll_concat, baseName_join ((hfile _ hns).isName name (by simp))]

/-- Each path that is found can be used if the root can. -/
lemma isUnusable_of_mem_paths (hfs : fs.WellFormed) (hnull : isUnusable root = false)
    {path : String} (h : path ∈ fs.paths settings root recursive) : isUnusable path = false := by
  rcases paths_cases hfs settings root recursive with ⟨-, hpaths⟩ | ⟨names, -, hfile, hpaths⟩
  · rw [hpaths] at h
    rwa [List.mem_singleton.mp h]
  · rw [hpaths] at h
    obtain ⟨ns, hns, rfl⟩ := List.mem_map.mp h
    rw [isUnusable_joinAll (hfile ns hns).isName, hnull]

end FileSystem

/-! ## The counters by paths -/

/-- The file that a step loads. -/
def LoadStep.path? : LoadStep → Option String
  | other _ => none
  | loaded path _ => some path

/-- A property of steps that is one of the files they load is counted among these. -/
lemma countP_eq_countP_paths {steps : List LoadStep} {test : LoadStep → Bool} {q : String → Bool}
    (h : ∀ step ∈ steps, test step = step.path?.any q) :
    steps.countP test = (steps.filterMap LoadStep.path?).countP q := by
  rw [List.countP_filterMap]
  refine List.countP_congr fun step hstep => ?_
  rw [h step hstep]
  cases step.path? with
  | none => rfl
  | some path => rfl

namespace FileSystem

variable {fs : FileSystem} {parser : Parser} {settings : Settings} {root : String}
  {recursive : Bool} {n : Nat}

/-- Whether a file cannot be read, or does not count for its syntax errors. -/
def leavesOut (fs : FileSystem) (parser : Parser) (settings : Settings) (path : String) : Bool :=
  match fs.read path with
  | .ok content => (parser content).label.hasError && settings.skipFaulty
  | .error _ => true

/-- A source file is loaded unless it is left out. -/
lemma load_of_isSource {path : String} (hsource : settings.isSource path)
    (hnull : isUnusable path = false) :
    ∃ source, (Source.load parser fs settings path).value = .ok source
      ∧ source.isSome = !fs.leavesOut parser settings path := by
  rw [Source.load, hsource, if_neg (by decide), leavesOut]
  cases hread : fs.read path with
  | error fault =>
    cases fault with
    | unusable => exact absurd hread (read_ne_unusable hnull)
    | refused reason => exact ⟨none, rfl, rfl⟩
  | ok content =>
    simp only [Logged.value_bind, Logged.value_pure, accept_value]
    refine ⟨_, rfl, ?_⟩
    cases hfaulty : (parser content).label.hasError && settings.skipFaulty with
    | true => rw [if_pos rfl]; rfl
    | false => rw [if_neg (by decide)]; rfl

/-- A source file is skipped exactly if it is left out. -/
lemma load_eq_none_iff {path : String} (hsource : settings.isSource path)
    (hnull : isUnusable path = false) :
    (Source.load parser fs settings path).value = .ok none
      ↔ fs.leavesOut parser settings path = true := by
  obtain ⟨source, hload, hsome⟩ := load_of_isSource hsource hnull
  rw [hload, Except.ok.injEq, ← Option.isNone_iff_eq_none, ← Option.not_isSome, hsome, Bool.not_not]

/-- A step that loads a source file, or loads none. -/
def IsRegular (fs : FileSystem) (parser : Parser) (settings : Settings) : LoadStep → Prop
  | .other _ => True
  | .loaded path outcome =>
    outcome = Source.load parser fs settings path ∧ settings.isSource path ∧ isUnusable path = false

namespace IsRegular

variable {step : LoadStep}

/-- A step yields a source if its file is not left out. -/
lemma isParsed_eq (h : IsRegular fs parser settings step) :
    step.isParsed = step.path?.any fun path => !fs.leavesOut parser settings path := by
  cases step with
  | other s => rfl
  | loaded path outcome =>
    obtain ⟨rfl, hsource, hnull⟩ := h
    obtain ⟨source, hload, hsome⟩ := load_of_isSource hsource hnull
    rw [LoadStep.isParsed, LoadStep.source?, hload]
    exact hsome

/-- A step skips its file if that is left out. -/
lemma isSkipped_eq (h : IsRegular fs parser settings step) :
    step.isSkipped = step.path?.any (fs.leavesOut parser settings) := by
  cases step with
  | other s => rfl
  | loaded path outcome =>
    obtain ⟨rfl, hsource, hnull⟩ := h
    obtain ⟨source, hload, hsome⟩ := load_of_isSource hsource hnull
    rw [LoadStep.isSkipped, hload]
    show _ = fs.leavesOut parser settings path
    rw [← Bool.not_not (fs.leavesOut parser settings path), ← hsome]
    cases source <;> rfl

/-- A source that a step yields has the path that the step loads. -/
lemma path?_eq_of_source? (h : IsRegular fs parser settings step) {s : Source}
    (hs : step.source? = some s) : step.path? = some s.path := by
  cases step with
  | other s => simp [LoadStep.source?] at hs
  | loaded path outcome =>
    obtain ⟨rfl, -, -⟩ := h
    have hload := load_of_loaded?_eq_some hs
    rw [LoadStep.path?, (of_load_eq_some hload).2.1]

end IsRegular

lemma seen_ofLoads (steps : List LoadStep) :
    (ScanCounts.ofLoads steps).seen = (steps.filterMap LoadStep.path?).length := by
  rw [← List.countP_true]
  refine countP_eq_countP_paths fun step _ => ?_
  cases step <;> rfl

lemma skipped_ofLoads {steps : List LoadStep}
    (h : ∀ step ∈ steps, IsRegular fs parser settings step) :
    (ScanCounts.ofLoads steps).skipped
      = (steps.filterMap LoadStep.path?).countP (fs.leavesOut parser settings) :=
  countP_eq_countP_paths fun step hstep => (h step hstep).isSkipped_eq

/-- Each file that is found is loaded or skipped, and not both. -/
lemma seen_eq_parsed_add_skipped {steps : List LoadStep}
    (h : ∀ step ∈ steps, IsRegular fs parser settings step) :
    (ScanCounts.ofLoads steps).seen
      = (ScanCounts.ofLoads steps).parsed + (ScanCounts.ofLoads steps).skipped := by
  have hparsed : (ScanCounts.ofLoads steps).parsed
      = (steps.filterMap LoadStep.path?).countP fun path => !fs.leavesOut parser settings path :=
    countP_eq_countP_paths fun step hstep => (h step hstep).isParsed_eq
  rw [seen_ofLoads, hparsed, skipped_ofLoads h,
    List.length_eq_countP_add_countP (fs.leavesOut parser settings), Nat.add_comm]
  refine congrArg (· + _) (congrArg (List.countP · _) (funext fun path => ?_))
  cases fs.leavesOut parser settings path <;> rfl

/-! ## The steps of a scan with loading -/

@[simp] lemma path?_loadStep (step : ScanStep) :
    (fs.loadStep parser settings step).path? = step.path? := by
  cases step <;> rfl

lemma filterMap_path?_loadStep (fs : FileSystem) (parser : Parser) (settings : Settings)
    (steps : List ScanStep) :
    (steps.map (fs.loadStep parser settings)).filterMap LoadStep.path?
      = steps.filterMap ScanStep.path? := by
  rw [List.filterMap_map]
  exact List.filterMap_congr fun step _ => path?_loadStep step

lemma any_isFallback_loadStep (fs : FileSystem) (parser : Parser) (settings : Settings)
    (steps : List ScanStep) :
    (steps.map (fs.loadStep parser settings)).any LoadStep.isFallback
      = steps.any ScanStep.isFallback := by
  rw [List.any_map]
  exact congrArg steps.any (funext isFallback_loadStep)

/-- Each step of a scan from a usable root is regular. -/
lemma isRegular_of_mem_loads (hfs : fs.WellFormed) (hnull : isUnusable root = false)
    {step : LoadStep} (h : step ∈ fs.loads parser settings root recursive) :
    IsRegular fs parser settings step := by
  rw [loads_eq] at h
  obtain ⟨s, hs, rfl⟩ := List.mem_map.mp h
  cases s with
  | found path =>
    have hpath : path ∈ fs.paths settings root recursive := List.mem_filterMap.mpr ⟨_, hs, rfl⟩
    exact ⟨rfl, Settings.isSource_of_isCandidate (isCandidate_of_mem_paths hfs hpath),
      isUnusable_of_mem_paths hfs hnull hpath⟩
  | passedOver path => trivial
  | fellBack root path reason => trivial
  | unlistable root reason => trivial
  | broken => trivial

/-! ## Steps before and after a failure -/

/-- A part of two lists in a row lies within the first of them, or ends in the second and holds the
first member of it. -/
lemma isPrefix_or_of_concat_isPrefix {α : Type} {front back xs : List α} {a : α}
    (h : xs ++ [a] <+: front ++ back) :
    xs ++ [a] <+: front ∨ a ∈ back ∧ ∃ b ∈ back.head?, b ∈ xs ++ [a] := by
  rcases List.prefix_or_prefix_of_prefix h (List.prefix_append front back) with h' | ⟨more, hmore⟩
  · exact Or.inl h'
  · rw [← hmore, List.prefix_append_right_inj] at h
    cases more with
    | nil =>
      rw [List.append_nil] at hmore
      exact Or.inl (hmore ▸ List.prefix_refl _)
    | cons b more =>
      have hlast : a ∈ b :: more := by
        have hgetLast : (front ++ b :: more).getLast? = some a := by
          rw [hmore, List.getLast?_concat]
        rw [List.getLast?_append_of_ne_nil _ (by simp)] at hgetLast
        exact List.mem_of_getLast? hgetLast
      obtain ⟨others, hback⟩ := h
      refine Or.inr ⟨hback ▸ List.mem_append_left _ hlast, b, ?_, ?_⟩
      · rw [← hback, List.cons_append, List.head?_cons]
        rfl
      · rw [← hmore]
        exact List.mem_append_right _ List.mem_cons_self

/-- A scan that has just found a file has fallen back if the file does not come before each
directory that fails. -/
lemma any_isFallback_iff (hfs : fs.WellFormed) (hnull : isUnusable root = false)
    (hfile : fs.isFile root = false) {steps : List LoadStep} {step : LoadStep} {path : String}
    (hpart : steps ++ [step] <+: fs.loads parser settings root true)
    (hpath : step.path? = some path) :
    (steps ++ [step]).any LoadStep.isFallback = true
      ↔ ∃ failed, FailsAt fs settings root failed ∧ ∃ names, IsSourceAt fs settings root names
        ∧ path = joinAll root names ∧ ¬ names < failed := by
  obtain ⟨walked, rest, front, back, hyields, hscan, hsplit⟩ :=
    exists_splitsAtFailure hfs settings hnull hfile
  have hfound : ∀ {part : List ScanStep}, step ∈ part.map (fs.loadStep parser settings) →
      path ∈ part.filterMap ScanStep.path? := by
    intro part hmem
    rw [← filterMap_path?_loadStep fs parser settings]
    exact List.mem_filterMap.mpr ⟨step, hmem, hpath⟩
  rw [loads_eq, hscan, List.map_append] at hpart
  rcases isPrefix_or_of_concat_isPrefix hpart with hwithin | ⟨hlast, b, hb, hmem⟩
  · -- the walk has not failed yet, so what was found comes before each failure
    constructor
    · intro hany
      have hclean := hsplit.not_fallback
      rw [← any_isFallback_loadStep fs parser settings] at hclean
      obtain ⟨s, hs, hfallback⟩ := List.any_eq_true.mp hany
      exact absurd hfallback (List.any_eq_false.mp hclean s (hwithin.subset hs))
    · rintro ⟨failed, hfail, names, hsource, hnames, hpast⟩
      have hmem := hfound (hwithin.subset (List.mem_append_right _ (List.mem_singleton_self step)))
      rw [hsplit.found_front] at hmem
      obtain ⟨others, hothers, heq⟩ := List.mem_map.mp hmem
      obtain ⟨hsource', hbefore⟩ := (hyields.mem_walked others).mp hothers
      rw [hsource.joinAll_injective hfs hsource' (hnames.symm.trans heq.symm)] at hpast
      exact absurd (hbefore failed hfail) hpast
  · -- the failure is among the steps, and only what the walk has missed is found after it
    have hfallback : b.isFallback = true := by
      rw [List.head?_map] at hb
      obtain ⟨s, hs, rfl⟩ := Option.map_eq_some_iff.mp hb
      rw [isFallback_loadStep]
      exact hsplit.head_back s hs
    refine iff_of_true (List.any_eq_true.mpr ⟨b, hmem, hfallback⟩) ?_
    have hrest := hfound hlast
    rw [hsplit.found_back] at hrest
    obtain ⟨names, hnames, heq⟩ := List.mem_map.mp hrest
    obtain ⟨-, -, hsource, hmissed⟩ := (hyields.mem_rest names).mp hnames
    rw [hyields.mem_walked, and_iff_right hsource] at hmissed
    push Not at hmissed
    obtain ⟨failed, hfail, hpast⟩ := hmissed
    exact ⟨failed, hfail, names, hsource, heq.symm, not_lt.mpr hpast⟩

/-! ## What the counters are worth -/

/-- To get `n` sources a scan of a root goes past a directory: it is read to the end, or the last of
them does not come before the directory. -/
def GoesPast (fs : FileSystem) (parser : Parser) (settings : Settings) (root : String) (n : Nat)
    (directory : List String) : Prop :=
  (fs.sources parser settings root true).length < n
    ∨ ∃ s ∈ ((fs.sources parser settings root true).take n).getLast?, ∃ names,
        IsSourceAt fs settings root names ∧ s.path = joinAll root names ∧ ¬ names < directory

/-- Who asks for nothing goes past nothing. -/
lemma not_goesPast_zero {directory : List String} :
    ¬ GoesPast fs parser settings root 0 directory := by
  rintro (hend | ⟨s, hs, -⟩)
  · exact Nat.not_lt_zero _ hend
  · simp at hs

/-- What the counters are worth when `n` sources of a scan were asked for. -/
structure Suspended (fs : FileSystem) (parser : Parser) (settings : Settings) (root : String)
    (recursive : Bool) (n : Nat) (counts : ScanCounts) : Prop where
  /-- Each source that was yielded has been counted, and no other. -/
  parsed_eq : counts.parsed = ((fs.sources parser settings root recursive).take n).length
  /-- A file that was found has been loaded or skipped. -/
  seen_eq : counts.seen = counts.parsed + counts.skipped
  unread : n = 0 → counts.seen = 0
  /-- No file behind the last source has been looked at. -/
  last : n ≤ (fs.sources parser settings root recursive).length →
    ∀ s ∈ ((fs.sources parser settings root recursive).take n).getLast?,
      s.path ∈ fs.paths settings root recursive
        ∧ counts.seen = (fs.paths settings root recursive).idxOf s.path + 1
  exhausted : (fs.sources parser settings root recursive).length < n →
    counts.seen = (fs.paths settings root recursive).length
  /-- A file was skipped because it cannot be read or has syntax errors. -/
  skipped_eq : counts.skipped
    = ((fs.paths settings root recursive).take counts.seen).countP (fs.leavesOut parser settings)
  fellBack_iff : counts.fellBack = true
    ↔ recursive = true ∧ fs.isFile root = false
      ∧ ∃ failed, FailsAt fs settings root failed ∧ GoesPast fs parser settings root n failed

lemma filterMap_path?_loads (fs : FileSystem) (parser : Parser) (settings : Settings)
    (root : String) (recursive : Bool) :
    (fs.loads parser settings root recursive).filterMap LoadStep.path?
      = fs.paths settings root recursive := by
  rw [loads_eq, filterMap_path?_loadStep, paths]

lemma countP_isParsed_loads (fs : FileSystem) (parser : Parser) (settings : Settings)
    (root : String) (recursive : Bool) :
    (fs.loads parser settings root recursive).countP LoadStep.isParsed
      = (fs.sources parser settings root recursive).length :=
  List.length_filterMap_eq_countP.symm

/-- Who asks for more than there is takes all steps. -/
lemma taken_of_length_lt (h : (fs.sources parser settings root recursive).length < n) :
    fs.taken parser settings root recursive n = fs.loads parser settings root recursive := by
  refine takeUntil_eq_self ?_
  rwa [countP_isParsed_loads]

lemma isRegular_taken (hfs : fs.WellFormed) (hnull : isUnusable root = false)
    (parser : Parser) (settings : Settings) (recursive : Bool) (n : Nat) :
    ∀ step ∈ fs.taken parser settings root recursive n, IsRegular fs parser settings step := by
  intro step hstep
  exact isRegular_of_mem_loads hfs hnull
    ((isPrefix_taken fs parser settings root recursive n).subset hstep)

/-- The last step that is taken is that of the last source. -/
lemma exists_taken_eq_concat (hfs : fs.WellFormed) (hnull : isUnusable root = false)
    (hle : n ≤ (fs.sources parser settings root recursive).length) {s : Source}
    (hlast : ((fs.sources parser settings root recursive).take n).getLast? = some s) :
    ∃ front step, fs.taken parser settings root recursive n = front ++ [step]
      ∧ step.path? = some s.path := by
  have hpos : 0 < n := by
    rcases Nat.eq_zero_or_pos n with rfl | hpos
    · simp at hlast
    · exact hpos
  rw [← countP_isParsed_loads] at hle
  obtain ⟨front, step, htaken, hparsed⟩ := exists_takeUntil_eq_concat hpos hle
  obtain ⟨source, hsource⟩ := Option.isSome_iff_exists.mp hparsed
  refine ⟨front, step, htaken, ?_⟩
  have hregular : IsRegular fs parser settings step := by
    refine isRegular_taken hfs hnull parser settings recursive n step ?_
    rw [taken, htaken]
    exact List.mem_append_right _ (List.mem_singleton_self step)
  rw [← filterMap_source?_taken, taken, htaken, List.filterMap_append,
    List.filterMap_cons_some hsource, List.filterMap_nil, List.getLast?_concat, Option.some_inj]
    at hlast
  rw [hregular.path?_eq_of_source? hsource, hlast]

/-- The files that were seen are the first that the scan finds. -/
lemma filterMap_path?_taken (fs : FileSystem) (parser : Parser) (settings : Settings)
    (root : String) (recursive : Bool) (n : Nat) :
    (fs.taken parser settings root recursive n).filterMap LoadStep.path?
      = (fs.paths settings root recursive).take
          (ScanCounts.ofLoads (fs.taken parser settings root recursive n)).seen := by
  have hpart := (isPrefix_taken fs parser settings root recursive n).filterMap LoadStep.path?
  rw [seen_ofLoads, ← filterMap_path?_loads]
  exact List.prefix_iff_eq_take.mp hpart

/-- A scan falls back if it goes past a directory that fails. -/
lemma fellBack_taken_iff (hfs : fs.WellFormed) (hnull : isUnusable root = false)
    (hfile : fs.isFile root = false) (parser : Parser) (settings : Settings) (n : Nat) :
    (ScanCounts.ofLoads (fs.taken parser settings root true n)).fellBack = true
      ↔ ∃ failed, FailsAt fs settings root failed ∧ GoesPast fs parser settings root n failed := by
  rw [ScanCounts.ofLoads]
  by_cases hend : (fs.sources parser settings root true).length < n
  · -- all steps are taken, so each failure has been met
    rw [taken_of_length_lt hend, loads_eq, any_isFallback_loadStep]
    refine (fellBack_scan_iff hfs hnull hfile).trans (exists_congr fun failed => ?_)
    exact (and_iff_left (Or.inl hend)).symm
  · cases hlast : ((fs.sources parser settings root true).take n).getLast? with
    | none =>
      have hzero : n = 0 := by
        rw [List.getLast?_eq_none_iff, List.take_eq_nil_iff] at hlast
        rcases hlast with hlast | hlast
        · exact hlast
        · rw [hlast, List.length_nil] at hend
          omega
      rw [hzero, taken, takeUntil, List.any_nil]
      refine iff_of_false (by decide) (not_exists.mpr fun failed hfailed => ?_)
      exact not_goesPast_zero hfailed.2
    | some s =>
      -- the steps end where a file was found, so where it lies tells what came before it
      obtain ⟨front, step, htaken, hpath⟩ :=
        exists_taken_eq_concat hfs hnull (not_lt.mp hend) hlast
      have hpart := isPrefix_taken fs parser settings root true n
      rw [htaken] at hpart ⊢
      rw [any_isFallback_iff hfs hnull hfile hpart hpath]
      refine exists_congr fun failed => and_congr_right fun _ => ?_
      rw [GoesPast, or_iff_right hend, hlast]
      simp

/-- A scan of a file, or of the root alone, does not fall back. -/
lemma any_isFallback_scan_eq_false (h : recursive = false ∨ fs.isFile root = true)
    (settings : Settings) : (fs.scan settings root recursive).any ScanStep.isFallback = false := by
  rw [scan]
  split
  · split <;> rfl
  · next hfile =>
    rw [h.resolve_right hfile, if_neg (by decide), flatScan]
    split
    · rw [List.any_map, List.any_eq_false]
      exact fun path _ => Bool.false_ne_true
    · rfl
    · rfl

/-- A scan that does not walk does not fall back. -/
lemma fellBack_taken_eq_false (h : recursive = false ∨ fs.isFile root = true) (parser : Parser)
    (settings : Settings) (n : Nat) :
    (ScanCounts.ofLoads (fs.taken parser settings root recursive n)).fellBack = false := by
  have hscan := any_isFallback_scan_eq_false h settings
  rw [← any_isFallback_loadStep fs parser settings, ← loads_eq, List.any_eq_false] at hscan
  refine List.any_eq_false.mpr fun step hstep => hscan step ?_
  exact (isPrefix_taken fs parser settings root recursive n).subset hstep

/-! ## Scans at each point -/

/-- The file of the last source is the last that was seen. -/
lemma seen_taken_eq (hfs : fs.WellFormed) (hnull : isUnusable root = false)
    (hle : n ≤ (fs.sources parser settings root recursive).length) {s : Source}
    (hlast : ((fs.sources parser settings root recursive).take n).getLast? = some s) :
    s.path ∈ fs.paths settings root recursive
      ∧ (ScanCounts.ofLoads (fs.taken parser settings root recursive n)).seen
        = (fs.paths settings root recursive).idxOf s.path + 1 := by
  obtain ⟨front, step, htaken, hpath⟩ := exists_taken_eq_concat hfs hnull hle hlast
  have hpart : (fs.taken parser settings root recursive n).filterMap LoadStep.path?
      = front.filterMap LoadStep.path? ++ [s.path] := by
    rw [htaken, List.filterMap_append, List.filterMap_cons_some hpath, List.filterMap_nil]
  have hsplit := List.take_append_drop
    (ScanCounts.ofLoads (fs.taken parser settings root recursive n)).seen
    (fs.paths settings root recursive)
  rw [← filterMap_path?_taken, hpart, List.append_assoc, List.singleton_append] at hsplit
  -- no file is found twice, so the path of the last source is not among those before it
  have hnew : s.path ∉ front.filterMap LoadStep.path? := by
    have hnodup := nodup_paths hfs settings root recursive
    rw [← hsplit, List.nodup_middle, List.nodup_cons] at hnodup
    exact fun hmem => hnodup.1 (List.mem_append_left _ hmem)
  constructor
  · rw [← hsplit]
    exact List.mem_append_cons_self
  · rw [seen_ofLoads, hpart, List.length_append, List.length_singleton, ← hsplit,
      List.idxOf_append_of_notMem hnew, List.idxOf_cons_self, Nat.add_zero]

/-- The counters of a scan that has yielded `n` sources. -/
lemma suspended_taken (hfs : fs.WellFormed) (hnull : isUnusable root = false)
    (parser : Parser) (settings : Settings) (recursive : Bool) (n : Nat) :
    Suspended fs parser settings root recursive n
      (.ofLoads (fs.taken parser settings root recursive n)) := by
  have hregular := isRegular_taken hfs hnull parser settings recursive n
  constructor
  case parsed_eq =>
    rw [← filterMap_source?_taken, List.length_filterMap_eq_countP]
    rfl
  case seen_eq => exact seen_eq_parsed_add_skipped hregular
  case unread =>
    intro hzero
    rw [hzero, taken, takeUntil]
    rfl
  case last => exact fun hle s hlast => seen_taken_eq hfs hnull hle hlast
  case exhausted =>
    intro hend
    rw [seen_ofLoads, taken_of_length_lt hend, filterMap_path?_loads]
  case skipped_eq => rw [skipped_ofLoads hregular, filterMap_path?_taken]
  case fellBack_iff =>
    by_cases hflat : recursive = false ∨ fs.isFile root = true
    · have hnone := fellBack_taken_eq_false hflat parser settings n
      refine iff_of_false (by rw [hnone]; decide) ?_
      intro hfell
      obtain ⟨hrecursive, hfile, -⟩ := hfell
      rcases hflat with h | h
      · exact absurd (hrecursive.symm.trans h) (by decide)
      · exact absurd (hfile.symm.trans h) (by decide)
    · rw [not_or, Bool.not_eq_false, Bool.not_eq_true] at hflat
      obtain ⟨rfl, hfile⟩ := hflat
      rw [and_iff_right rfl, and_iff_right hfile]
      exact fellBack_taken_iff hfs hnull hfile parser settings n

/-- **Scans with a reader.** The first `n` sources that a scan yields are the first `n` of all, and
its counters are worth then what `Suspended` says: a reader that asks `n` times, and a search that
goes on each time from where it stood, raise them to just that. A file with the name of a candidate
is a source file by its whole path, so nothing that a scan finds, each file once, is left out for
its name. -/
theorem loads_suspended (hfs : fs.WellFormed) (hnull : isUnusable root = false)
    (parser : Parser) (settings : Settings) (recursive : Bool) (n : Nat) :
    (eachSource pure (fs.loads parser settings root recursive)).value
        = .ok (fs.sources parser settings root recursive)
      ∧ (eachSource pure (fs.taken parser settings root recursive n)).value
        = .ok ((fs.sources parser settings root recursive).take n)
      ∧ Suspended fs parser settings root recursive n
          (.ofLoads (fs.taken parser settings root recursive n))
      ∧ (fs.paths settings root recursive).Nodup
      ∧ (∀ path, settings.isCandidate (baseName path) = true → settings.isSource path = true)
      ∧ (∀ path ∈ fs.paths settings root recursive, settings.isCandidate (baseName path) = true
          ∧ ((Source.load parser fs settings path).value = .ok none
            ↔ fs.leavesOut parser settings path = true))
      ∧ (Reading.after fs parser settings root recursive n).given
          = (fs.sources parser settings root recursive).take n
      ∧ (Reading.after fs parser settings root recursive n).search.counts
          = .ofLoads (fs.taken parser settings root recursive n) := by
  have hpart := isPrefix_taken fs parser settings root recursive n
  have hnofault : fs.scanFault? parser settings root recursive = none :=
    scanFault?_eq_none hfs hnull recursive
  refine ⟨?_, ?_, suspended_taken hfs hnull parser settings recursive n,
    nodup_paths hfs settings root recursive, fun path => Settings.isSource_of_isCandidate,
    fun path hpath => ?_, (Reading.after_run hnofault n).1, (Reading.after_run hnofault n).2.1⟩
  · rw [eachSource_value pure hnofault]
    exact congrArg _ (List.map_id' _)
  · have htaken : (fs.taken parser settings root recursive n).findSome? LoadStep.fault? = none := by
      rw [List.findSome?_eq_none_iff]
      exact fun step hstep => List.findSome?_eq_none_iff.mp hnofault step (hpart.subset hstep)
    rw [eachSource_value pure htaken, filterMap_source?_taken]
    exact congrArg _ (List.map_id' _)
  · have hcand := isCandidate_of_mem_paths hfs hpath
    refine ⟨hcand, load_eq_none_iff (Settings.isSource_of_isCandidate hcand) ?_⟩
    exact isUnusable_of_mem_paths hfs hnull hpath

/-- A parser that finds no declarations and no errors. -/
def blankParser : Parser := fun _ => .mk { kind := "source_file" } []

/-- Before a directory that cannot be listed has been met a scan has not fallen back, and when all
is read it has. -/
theorem loads_suspended_barred :
    barred.WellFormed ∧ isUnusable "." = false
      ∧ (ScanCounts.ofLoads (barred.taken blankParser {} "." true 0)).fellBack = false
      ∧ (ScanCounts.ofLoads (barred.taken blankParser {} "." true 0)).seen = 0
      ∧ ∀ n, (barred.sources blankParser {} "." true).length < n →
          (ScanCounts.ofLoads (barred.taken blankParser {} "." true n)).fellBack = true
            ∧ (ScanCounts.ofLoads (barred.taken blankParser {} "." true n)).seen
              = (barred.paths {} "." true).length := by
  have hnull : isUnusable "." = false := by decide
  have hfile : barred.isFile "." = false := isFile_eq_false_of_list list_barred
  obtain ⟨-, -, hnone, -⟩ := loads_suspended wellFormed_barred hnull blankParser {} true 0
  refine ⟨wellFormed_barred, hnull, ?_, hnone.unread rfl, fun n hend => ?_⟩
  · rw [← Bool.not_eq_true, hnone.fellBack_iff]
    exact fun ⟨_, _, failed, _, hpast⟩ => not_goesPast_zero hpast
  · obtain ⟨-, -, hall, -⟩ := loads_suspended wellFormed_barred hnull blankParser {} true n
    exact ⟨hall.fellBack_iff.mpr ⟨rfl, hfile, ["b"], failsAt_barred, Or.inl hend⟩,
      hall.exhausted hend⟩

end FileSystem

end InterfaceAtlas
