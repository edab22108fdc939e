import InterfaceAtlas.Proofs.Files.Place
import InterfaceAtlas.Proofs.Files.Scan
import Mathlib.Data.List.Nodup

/-!
# Scans that fall back

A walk ends at the first directory that cannot be listed, and the scan goes on with what lies in the
root itself. `YieldsUpToFailure` says what is found then without speaking of walks: the sources that
come before each directory that fails, and after them the others of the root.

`scan_up_to_failure` shows that this is what a scan finds whatever cannot be listed.
-/

namespace InterfaceAtlas

namespace FileSystem

open InterfaceAtlas.Path

variable {fs : FileSystem} {settings : Settings} {root : String}

/-! ## Up to the first failure -/

/-- In a list in order, what comes up to the first member that passes a test and does not pass it
itself lies before all that do. -/
lemma mem_takeThrough_iff {α : Type} {r : α → α → Prop} (hasymm : ∀ a b, r a b → ¬ r b a)
    {test : α → Bool} {xs : List α} (h : xs.Pairwise r) {a : α} (ha : test a = false) :
    a ∈ takeThrough test xs ↔ a ∈ xs ∧ ∀ b ∈ xs, test b → r a b := by
  induction xs with
  | nil => simp [takeThrough]
  | cons b more ih =>
    obtain ⟨hb, hmore⟩ := List.pairwise_cons.mp h
    rw [takeThrough]
    split
    · -- all the others come behind the first, so none lies before it
      next htest =>
      constructor
      · intro hmem
        rw [List.mem_singleton.mp hmem, htest] at ha
        exact absurd ha (by decide)
      · rintro ⟨hmem, hbefore⟩
        have hab : r a b := hbefore b List.mem_cons_self htest
        rcases List.mem_cons.mp hmem with rfl | hmem
        · exact absurd hab (hasymm _ _ hab)
        · exact absurd hab (hasymm _ _ (hb a hmem))
    · next htest =>
      rw [List.mem_cons, ih hmore, List.mem_cons]
      constructor
      · rintro (rfl | ⟨hmem, hbefore⟩)
        · refine ⟨Or.inl rfl, fun c hc hpass => ?_⟩
          rcases List.mem_cons.mp hc with rfl | hc
          · exact absurd hpass htest
          · exact hb c hc
        · refine ⟨Or.inr hmem, fun c hc hpass => ?_⟩
          rcases List.mem_cons.mp hc with rfl | hc
          · exact absurd hpass htest
          · exact hbefore c hc hpass
      · rintro ⟨rfl | hmem, hbefore⟩
        · exact Or.inl rfl
        · exact Or.inr ⟨hmem, fun c hc => hbefore c (List.mem_cons_of_mem _ hc)⟩

/-- The files that a walk over entries finds before it fails, by names. -/
def walkedNames (settings : Settings) (denied : List String → Bool)
    (entries : List (String × FileNode)) : List (List String) :=
  (walkedSteps settings denied entries).filterMap NamedStep.file?

/-- A walk finds the sources that come before each directory that cannot be listed. -/
lemma mem_walkedNames_iff (hfs : fs.WellFormed) {entries : List (String × FileNode)}
    (hlist : fs.list root = .ok entries) {names : List String} :
    names ∈ walkedNames settings (fs.denial root) entries
      ↔ IsSourceAt fs settings root names
        ∧ ∀ failed, FailsAt fs settings root failed → names < failed := by
  have hsorted := pairwise_namedSteps (proper_of_list hfs hlist) settings (fs.denial root)
  have hstep : names ∈ walkedNames settings (fs.denial root) entries
      ↔ .file names ∈ walkedSteps settings (fs.denial root) entries := by
    rw [walkedNames, List.mem_filterMap]
    constructor
    · rintro ⟨s, hs, hfile⟩
      rwa [NamedStep.eq_file_of_file?_eq_some hfile] at hs
    · exact fun h => ⟨_, h, rfl⟩
  have hfound : .file names ∈ namedSteps settings (fs.denial root) entries
      ↔ IsSourceAt fs settings root names := by
    rw [← mem_foundNames_iff hfs hlist, foundNames, List.mem_filterMap]
    constructor
    · exact fun h => ⟨_, h, rfl⟩
    · rintro ⟨s, hs, hfile⟩
      rwa [NamedStep.eq_file_of_file?_eq_some hfile] at hs
  rw [hstep, walkedSteps, mem_takeThrough_iff (fun s t hlt => lt_asymm hlt) hsorted rfl, hfound]
  refine and_congr_right fun _ => ⟨fun h failed hfail => ?_, fun h s hs hfail => ?_⟩
  · exact h (.failed failed) ((failed_mem_namedSteps_iff hfs hlist).mpr hfail) rfl
  · obtain ⟨failed, rfl⟩ := NamedStep.exists_eq_failed hfail
    exact h failed ((failed_mem_namedSteps_iff hfs hlist).mp hs)

/-- The candidates among the entries of the root are the sources with a single name. -/
lemma mem_flatNames_iff {entries : List (String × FileNode)} (hlist : fs.list root = .ok entries)
    {names : List String} :
    names ∈ flatNames settings entries
      ↔ (∃ name, names = [name]) ∧ IsSourceAt fs settings root names := by
  rw [isSourceAt_iff hlist, flatNames, List.mem_map]
  constructor
  · rintro ⟨⟨name, node⟩, he, rfl⟩
    obtain ⟨he, hkept⟩ := List.mem_filter.mp he
    rw [Bool.and_eq_true, Bool.not_eq_true'] at hkept
    exact ⟨⟨name, rfl⟩, Or.inl ⟨name, node, rfl, mem_byName.mp he, hkept⟩⟩
  · rintro ⟨⟨name, rfl⟩,
      ⟨other, node, heq, he, hdir, hcand⟩ | ⟨other, inner, more, heq, -, -, hmore⟩⟩
    · refine ⟨(other, node), List.mem_filter.mpr ⟨mem_byName.mpr he, ?_⟩, heq.symm⟩
      show (!node.isDirectory && settings.isCandidate other) = true
      rw [hdir, hcand]
      rfl
    · -- a source below a sub-directory has a name more
      obtain ⟨-, hnil⟩ := List.cons.inj heq
      obtain ⟨directories, last, -, -, hsplit, -⟩ := hmore
      rw [← hnil] at hsplit
      simp at hsplit

lemma pairwise_flatNames {entries : List (String × FileNode)} (h : Proper entries) :
    (flatNames settings entries).Pairwise (· < ·) := by
  refine List.pairwise_map.mpr ((pairwise_byName h.distinct).filter _ |>.imp fun hlt => ?_)
  exact List.cons_lt_cons_iff.mpr (Or.inl hlt)

/-! ## What a scan yields -/

/-- What is found where directories may fail, by names: in order the sources that come before each
directory that fails and then, if there is one, the others of the root in order. -/
structure YieldsUpToFailure (fs : FileSystem) (settings : Settings) (root : String)
    (walked rest : List (List String)) : Prop where
  walked_sorted : walked.Pairwise (· < ·)
  mem_walked : ∀ names, names ∈ walked ↔ IsSourceAt fs settings root names
    ∧ ∀ failed, FailsAt fs settings root failed → names < failed
  rest_sorted : rest.Pairwise (· < ·)
  mem_rest : ∀ names, names ∈ rest ↔ (∃ failed, FailsAt fs settings root failed)
    ∧ (∃ name, names = [name]) ∧ IsSourceAt fs settings root names ∧ names ∉ walked

/-- A root that cannot be listed has no sources, and is a failure itself. -/
lemma yieldsUpToFailure_nil (hlist : ∀ entries, fs.list root ≠ .ok entries) :
    YieldsUpToFailure fs settings root [] [] := by
  have hnone : ∀ names, ¬ IsSourceAt fs settings root names := by
    intro names hsource
    obtain ⟨entries, hok⟩ := hsource.exists_list
    exact hlist entries hok
  refine ⟨.nil, fun names => ?_, .nil, fun names => ?_⟩
  · exact ⟨fun h => absurd h List.not_mem_nil, fun h => absurd h.1 (hnone names)⟩
  · exact ⟨fun h => absurd h List.not_mem_nil, fun h => absurd h.2.2.1 (hnone names)⟩

/-- A walk that has tried every directory has failed if there is one that cannot be listed. -/
lemma any_isFailure_iff (hfs : fs.WellFormed) {entries : List (String × FileNode)}
    (hlist : fs.list root = .ok entries) :
    (namedSteps settings (fs.denial root) entries).any NamedStep.isFailure = true
      ↔ ∃ failed, FailsAt fs settings root failed := by
  rw [List.any_eq_true]
  constructor
  · rintro ⟨s, hs, hfail⟩
    obtain ⟨names, rfl⟩ := NamedStep.exists_eq_failed hfail
    exact ⟨names, (failed_mem_namedSteps_iff hfs hlist).mp hs⟩
  · rintro ⟨names, hfail⟩
    exact ⟨_, (failed_mem_namedSteps_iff hfs hlist).mpr hfail, rfl⟩

/-- The files that a scan finds after its walk has failed, by names: the others of the root. -/
def restNames (settings : Settings) (denied : List String → Bool)
    (entries : List (String × FileNode)) : List (List String) :=
  if (walkedSteps settings denied entries).any NamedStep.isFailure then
    (flatNames settings entries).filter fun names =>
      !(walkedNames settings denied entries).contains names
  else []

/-- What a scan finds is what its walk finds, and what is left in the root itself. -/
lemma scanNames_eq (settings : Settings) (denied : List String → Bool)
    (entries : List (String × FileNode)) :
    scanNames settings denied entries
      = walkedNames settings denied entries ++ restNames settings denied entries := by
  rw [scanNames, restNames]
  split
  · rfl
  · rw [List.append_nil]
    rfl

lemma pairwise_walkedNames {entries : List (String × FileNode)} (h : Proper entries)
    (settings : Settings) (denied : List String → Bool) :
    (walkedNames settings denied entries).Pairwise (· < ·) := by
  have hsub : (walkedNames settings denied entries).Sublist (foundNames settings denied entries) :=
    (isPrefix_takeThrough _ _).sublist.filterMap _
  exact (pairwise_foundNames h settings denied).sublist hsub

/-- The walk fails if a directory does. -/
lemma any_isFailure_walkedSteps_iff (hfs : fs.WellFormed) {entries : List (String × FileNode)}
    (hlist : fs.list root = .ok entries) :
    (walkedSteps settings (fs.denial root) entries).any NamedStep.isFailure = true
      ↔ ∃ failed, FailsAt fs settings root failed := by
  rw [walkedSteps, any_takeThrough, any_isFailure_iff hfs hlist]

/-- The scan of a directory that can be listed yields what it should. -/
lemma yieldsUpToFailure_of_list (hfs : fs.WellFormed) (settings : Settings)
    {entries : List (String × FileNode)} (hlist : fs.list root = .ok entries) :
    YieldsUpToFailure fs settings root (walkedNames settings (fs.denial root) entries)
      (restNames settings (fs.denial root) entries) := by
  have hproper := proper_of_list hfs hlist
  have hany : (walkedSteps settings (fs.denial root) entries).any NamedStep.isFailure = true
      ↔ ∃ failed, FailsAt fs settings root failed := any_isFailure_walkedSteps_iff hfs hlist
  have hsorted := pairwise_walkedNames hproper settings (fs.denial root)
  by_cases hfail : ∃ failed, FailsAt fs settings root failed
  · rw [restNames, if_pos (hany.mpr hfail)]
    refine ⟨hsorted, fun names => mem_walkedNames_iff hfs hlist,
      (pairwise_flatNames hproper).filter _, fun names => ?_⟩
    rw [List.mem_filter, mem_flatNames_iff hlist, Bool.not_eq_true', List.contains_eq_mem,
      decide_eq_false_iff_not]
    exact ⟨fun h => ⟨hfail, h.1.1, h.1.2, h.2⟩, fun h => ⟨⟨h.2.1, h.2.2.1⟩, h.2.2.2⟩⟩
  · rw [restNames, if_neg (fun h => hfail (hany.mp h))]
    refine ⟨hsorted, fun names => mem_walkedNames_iff hfs hlist, .nil, fun names => ?_⟩
    exact ⟨fun h => absurd h List.not_mem_nil, fun h => absurd h.1 hfail⟩

/-- A root that is no file and cannot be listed is refused by the system. -/
lemma exists_refused (hnull : isUnusable root = false)
    (hlist : ∀ entries, fs.list root ≠ .ok entries) :
    ∃ reason, fs.list root = .error (.refused reason) := by
  cases h : fs.list root with
  | ok entries => exact absurd h (hlist entries)
  | error fault =>
    cases fault with
    | refused reason => exact ⟨reason, rfl⟩
    | unusable => exact absurd h (list_ne_unusable hnull)

/-- The scan of a root that cannot be listed: it falls back and finds nothing there either. -/
lemma scan_of_refused (hfile : fs.isFile root = false) {reason : Refusal}
    (hlist : fs.list root = .error (.refused reason)) :
    fs.scan settings root true = [.fellBack root root reason, .unlistable root reason] := by
  have hwalk : fs.walk settings root = [.failed root (.refused reason)] := by
    rw [walk, hlist]
  have hflat : ∀ before, fs.flatScan settings root before = [.unlistable root reason] := by
    intro before
    rw [flatScan, flatFiles, hlist]
    rfl
  rw [scan, hfile, if_neg (by decide), if_pos rfl, hwalk]
  simp [scanStep, ScanStep.isFallback, hflat]

/-- The steps of a scan in two parts: its walk as long as it does not fail, and all from the failure
on. -/
structure SplitsAtFailure (root : String) (walked rest : List (List String))
    (front back : List ScanStep) : Prop where
  found_front : front.filterMap ScanStep.path? = walked.map (joinAll root)
  found_back : back.filterMap ScanStep.path? = rest.map (joinAll root)
  not_fallback : front.any ScanStep.isFallback = false
  head_back : ∀ step ∈ back.head?, step.isFallback = true

lemma filterMap_path?_found (names : List (List String)) :
    (names.map fun ns => ScanStep.found (joinAll root ns)).filterMap ScanStep.path?
      = names.map (joinAll root) := by
  rw [List.filterMap_map]
  exact congrFun List.filterMap_eq_map names

lemma exists_splitsAtFailure_of_list (hfs : fs.WellFormed) (settings : Settings)
    {entries : List (String × FileNode)} (hlist : fs.list root = .ok entries) :
    ∃ front back, fs.scan settings root true = front ++ back
      ∧ SplitsAtFailure root (walkedNames settings (fs.denial root) entries)
          (restNames settings (fs.denial root) entries) front back := by
  have hscan : fs.scan settings root true
      = (walkedSteps settings (fs.denial root) entries).map (fun s => scanStep root (s.under root))
        ++ (restNames settings (fs.denial root) entries).map
            fun names => .found (joinAll root names) := by
    rw [scan_eq_of_list hfs hlist, restNames]
    split
    · rfl
    · rfl
  by_cases hany : (walkedSteps settings (fs.denial root) entries).any NamedStep.isFailure = true
  · -- the failing step is the last of the walk, and the second part starts with it
    have hnamed :
        (namedSteps settings (fs.denial root) entries).any NamedStep.isFailure = true := by
      rwa [walkedSteps, any_takeThrough] at hany
    obtain ⟨front, failed, hsteps, hfailed, hfront⟩ := exists_takeThrough_eq hnamed
    obtain ⟨names, rfl⟩ := NamedStep.exists_eq_failed hfailed
    rw [walkedSteps, hsteps, List.map_append, List.append_assoc] at hscan
    refine ⟨_, _, hscan, ?_, ?_, ?_, ?_⟩
    · rw [filterMap_path?_under, walkedNames, walkedSteps, hsteps, List.filterMap_append]
      exact congrArg _ (List.append_nil _).symm
    · rw [List.filterMap_append, filterMap_path?_found]
      rfl
    · rw [any_isFallback_under, List.any_eq_false]
      exact fun s hs => by rw [hfront s hs]; decide
    · intro step hstep
      rw [← Option.some_inj.mp hstep]
      rfl
  · refine ⟨_, _, hscan, ?_, ?_, ?_, ?_⟩
    · rw [filterMap_path?_under, walkedNames]
    · rw [filterMap_path?_found]
    · rw [any_isFallback_under, Bool.eq_false_iff.mpr hany]
    · rw [restNames, if_neg hany]
      simp

/-- A scan finds what it should, part by part. -/
theorem exists_splitsAtFailure (hfs : fs.WellFormed) (settings : Settings)
    (hnull : isUnusable root = false) (hfile : fs.isFile root = false) :
    ∃ walked rest front back, YieldsUpToFailure fs settings root walked rest
      ∧ fs.scan settings root true = front ++ back
      ∧ SplitsAtFailure root walked rest front back := by
  by_cases hlist : ∃ entries, fs.list root = .ok entries
  · obtain ⟨entries, hlist⟩ := hlist
    obtain ⟨front, back, hsplit⟩ := exists_splitsAtFailure_of_list hfs settings hlist
    exact ⟨_, _, front, back, yieldsUpToFailure_of_list hfs settings hlist, hsplit⟩
  · push Not at hlist
    obtain ⟨reason, hrefused⟩ := exists_refused hnull hlist
    refine ⟨[], [], [], _, yieldsUpToFailure_nil hlist, scan_of_refused hfile hrefused, rfl, rfl,
      rfl, fun step hstep => ?_⟩
    rw [← Option.some_inj.mp hstep]
    rfl

/-- A scan yields the paths of what it should. -/
theorem exists_yieldsUpToFailure (hfs : fs.WellFormed) (hnull : isUnusable root = false)
    (hfile : fs.isFile root = false) :
    ∃ walked rest, YieldsUpToFailure fs settings root walked rest
      ∧ (fs.scan settings root true).filterMap ScanStep.path?
        = (walked ++ rest).map (joinAll root) := by
  obtain ⟨walked, rest, front, back, hyields, hscan, hsplit⟩ :=
    exists_splitsAtFailure hfs settings hnull hfile
  refine ⟨walked, rest, hyields, ?_⟩
  rw [hscan, List.filterMap_append, hsplit.found_front, hsplit.found_back, List.map_append]

/-- A scan falls back if there is a directory that fails. -/
theorem fellBack_scan_iff (hfs : fs.WellFormed) (hnull : isUnusable root = false)
    (hfile : fs.isFile root = false) :
    (ScanCounts.ofScan (fs.scan settings root true)).fellBack = true
      ↔ ∃ failed, FailsAt fs settings root failed := by
  by_cases hlist : ∃ entries, fs.list root = .ok entries
  · obtain ⟨entries, hlist⟩ := hlist
    rw [fellBack_scan hfs hlist, any_isFailure_iff hfs hlist]
  · push Not at hlist
    obtain ⟨reason, hrefused⟩ := exists_refused hnull hlist
    rw [scan_of_refused hfile hrefused]
    exact ⟨fun _ => ⟨[], (failsAt_iff_eq_nil hlist).mpr rfl⟩, fun _ => rfl⟩

/-! ## Consequences -/

/-- Names that lead to a directory are not excluded. -/
lemma LeadsTo.excludesDirectory {directory : String} {names : List String}
    (h : LeadsTo fs settings directory names) :
    ∀ n ∈ names, settings.excludesDirectory n = false := by
  induction h with
  | here directory => simp
  | @enter directory name entries inner names listed mem entered more ih =>
    exact List.forall_mem_cons.mpr ⟨entered, ih⟩

/-- A source does not lie in a directory that settings exclude. -/
lemma IsSourceAt.excludesDirectory {names : List String} (h : IsSourceAt fs settings root names) :
    ∀ n ∈ names.dropLast, settings.excludesDirectory n = false := by
  obtain ⟨directories, name, -, -, rfl, hleads, -⟩ := h
  rw [List.dropLast_concat]
  exact hleads.excludesDirectory

namespace YieldsUpToFailure

variable {walked rest : List (List String)}

/-- Whatever is found, before or after the failure, is a source. -/
lemma isSourceAt (h : YieldsUpToFailure fs settings root walked rest) {names : List String}
    (hnames : names ∈ walked ++ rest) : IsSourceAt fs settings root names := by
  rcases List.mem_append.mp hnames with hnames | hnames
  · exact ((h.mem_walked names).mp hnames).1
  · exact ((h.mem_rest names).mp hnames).2.2.1

/-- No names are found twice. -/
lemma nodup (h : YieldsUpToFailure fs settings root walked rest) : (walked ++ rest).Nodup := by
  refine List.nodup_append.mpr ⟨h.walked_sorted.imp ne_of_lt, h.rest_sorted.imp ne_of_lt, ?_⟩
  intro names hwalked others hrest heq
  exact ((h.mem_rest others).mp hrest).2.2.2 (heq ▸ hwalked)

/-- The sources of the root itself are all found. -/
lemma mem_of_singleton (h : YieldsUpToFailure fs settings root walked rest) {name : String}
    (hsource : IsSourceAt fs settings root [name]) : [name] ∈ walked ++ rest := by
  by_cases hwalked : [name] ∈ walked
  · exact List.mem_append_left _ hwalked
  · by_cases hfail : ∃ failed, FailsAt fs settings root failed
    · exact List.mem_append_right _ ((h.mem_rest _).mpr ⟨hfail, ⟨name, rfl⟩, hsource, hwalked⟩)
    · -- where no directory fails, all sources are found on the walk
      refine absurd ((h.mem_walked _).mpr ⟨hsource, fun failed hf => ?_⟩) hwalked
      exact absurd ⟨failed, hf⟩ hfail

end YieldsUpToFailure

/-- Different sources of a root have different paths. -/
lemma IsSourceAt.joinAll_injective (hfs : fs.WellFormed) {names others : List String}
    (h : IsSourceAt fs settings root names) (h' : IsSourceAt fs settings root others)
    (heq : joinAll root names = joinAll root others) : names = others := by
  obtain ⟨entries, hlist⟩ := h.exists_list
  have hproper := proper_of_list hfs hlist
  have hfile := isFilePath_of_mem_foundNames hproper ((mem_foundNames_iff hfs hlist).mpr h)
  have hfile' := isFilePath_of_mem_foundNames hproper ((mem_foundNames_iff hfs hlist).mpr h')
  exact Path.joinAll_injective hfile.ne_nil hfile'.ne_nil hfile.isName hfile'.isName heq

/-- What lies in the root itself is found as a source with a single name. -/
lemma exists_name_of_mem_flat (hfs : fs.WellFormed) (hfile : fs.isFile root = false) {path : String}
    (h : path ∈ (fs.scan settings root false).filterMap ScanStep.path?) :
    ∃ name, IsSourceAt fs settings root [name] ∧ path = joinAll root [name] := by
  cases hlist : fs.list root with
  | error fault =>
    rw [paths_eq_nil hfile hlist] at h
    exact absurd h List.not_mem_nil
  | ok entries =>
    rw [flat_paths hfs hlist] at h
    obtain ⟨names, hnames, rfl⟩ := List.mem_map.mp h
    obtain ⟨⟨name, rfl⟩, hsource⟩ := (mem_flatNames_iff hlist).mp hnames
    exact ⟨name, hsource, rfl⟩

/-! ## Denials that make no difference -/

/-- Where a path leads does not depend on what is denied. -/
lemma follow_deny (fs : FileSystem) (path : String) (links : Nat) (trail : Trail)
    (cs : List String) : (fs.deny path).follow links trail cs = fs.follow links trail cs := by
  fun_induction follow fs links trail cs with
  | case1 links trail => rw [follow]
  | case2 links trail c more hc ih => rw [follow, if_pos hc, ih]
  | case3 links trail c more hc hup ih => rw [follow, if_neg hc, if_pos hup, ih]
  | case4 links trail c more hc hup hnone => rw [follow, if_neg hc, if_neg hup, hnone]
  | case5 links trail c more hc hup inner hdir ih =>
    rw [follow, if_neg hc, if_neg hup, hdir]
    exact ih
  | case6 links trail c more hc hup content hfile hempty =>
    rw [follow, if_neg hc, if_neg hup, hfile]
    exact if_pos hempty
  | case7 links trail c more hc hup content hfile hempty =>
    rw [follow, if_neg hc, if_neg hup, hfile]
    exact if_neg hempty
  | case8 trail c more hc hup target hlink => rw [follow, if_neg hc, if_neg hup, hlink]
  | case9 trail c more hc hup target hlink links ih =>
    rw [follow, if_neg hc, if_neg hup, hlink]
    exact ih

/-- To deny a directory does not move anything. -/
lemma resolve_deny (fs : FileSystem) (denied path : String) :
    (fs.deny denied).resolve path = fs.resolve path := by
  rw [resolve, resolve, follow_deny]
  rfl

/-- Denying one path below a root denies no other. -/
lemma denies_deny_joinAll {names others : List String} (hnames : ∀ n ∈ names, IsName n)
    (hothers : ∀ n ∈ others, IsName n) (hne : names ≠ others) :
    (fs.deny (joinAll root others)).denies (joinAll root names)
      = fs.denies (joinAll root names) := by
  have hnormal : normal (joinAll root names) ≠ normal (joinAll root others) :=
    fun h => hne (normal_joinAll_injective hnames hothers h)
  rw [denies, denies, deny, List.contains_append]
  simp [hnormal]

/-- A directory inside an excluded one may be denied or not. -/
theorem scan_deny_excluded (hfs : fs.WellFormed) {names : List String}
    (hnames : ∀ n ∈ names, IsName n) (hex : ∃ n ∈ names, settings.excludesDirectory n = true) :
    (fs.deny (joinAll root names)).scan settings root true = fs.scan settings root true := by
  obtain ⟨ex, hmem, hex⟩ := hex
  have hkept : ∀ others : List String, (∀ n ∈ others, IsName n) →
      (∀ n ∈ others, settings.excludesDirectory n = false) →
      (fs.deny (joinAll root names)).denies (joinAll root others)
        = fs.denies (joinAll root others) := by
    intro others hothers hopen
    refine denies_deny_joinAll hothers hnames ?_
    rintro rfl
    exact absurd hex (by rw [hopen ex hmem]; decide)
  have hlist : (fs.deny (joinAll root names)).list root = fs.list root := by
    have hroot := hkept [] (by simp) (by simp)
    rw [joinAll_nil] at hroot
    rw [list, list, hroot, resolve_deny]
  have hfile : (fs.deny (joinAll root names)).isFile root = fs.isFile root := by
    rw [isFile, isFile, resolve_deny]
  have hwalk : (fs.deny (joinAll root names)).walk settings root = fs.walk settings root := by
    cases hroot : fs.list root with
    | error fault => rw [walk, walk, hlist, hroot]
    | ok entries =>
      rw [walk_eq (hlist.trans hroot), walk_eq hroot, walkedSteps, walkedSteps]
      refine congrArg _ (congrArg _ (namedSteps_congr (proper_of_list hfs hroot) ?_))
      exact fun others h => hkept others (fun n hn => (h n hn).1) (fun n hn => (h n hn).2)
  have hflat : ∀ before, (fs.deny (joinAll root names)).flatScan settings root before
      = fs.flatScan settings root before := by
    intro before
    rw [flatScan, flatScan, flatFiles, flatFiles, hlist]
  simp only [scan, hfile, hwalk, hflat]

/-! ## Scans in general -/

/-- **Scans with failures.** A scan of a root that is no file finds, whatever cannot be listed, the
sources before the first directory that fails and then the others of the root. So nothing is found
twice, what lies in the root itself is always found, nothing below an excluded directory is ever
found nor does it matter whether it can be listed, and a scan falls back exactly if it gets to a
directory that cannot be listed. -/
theorem scan_up_to_failure (hfs : fs.WellFormed) (hnull : isUnusable root = false)
    (hfile : fs.isFile root = false) :
    ∃ walked rest, YieldsUpToFailure fs settings root walked rest
      ∧ (fs.scan settings root true).filterMap ScanStep.path?
        = (walked ++ rest).map (joinAll root)
      ∧ ((fs.scan settings root true).filterMap ScanStep.path?).Nodup
      ∧ (∀ path ∈ (fs.scan settings root false).filterMap ScanStep.path?,
          path ∈ (fs.scan settings root true).filterMap ScanStep.path?)
      ∧ (∀ names ∈ walked ++ rest, ∀ n ∈ names.dropLast, settings.excludesDirectory n = false)
      ∧ (∀ names, (∀ n ∈ names, IsName n) → (∃ n ∈ names, settings.excludesDirectory n = true) →
          (fs.deny (joinAll root names)).scan settings root true = fs.scan settings root true)
      ∧ ((ScanCounts.ofScan (fs.scan settings root true)).fellBack = true
          ↔ ∃ failed, FailsAt fs settings root failed) := by
  obtain ⟨walked, rest, hyields, hpaths⟩ := exists_yieldsUpToFailure hfs hnull hfile
  refine ⟨walked, rest, hyields, hpaths, ?_, fun path hpath => ?_, fun names hnames => ?_,
    fun names hnames hex => scan_deny_excluded hfs hnames hex, fellBack_scan_iff hfs hnull hfile⟩
  · rw [hpaths]
    refine List.Nodup.map_on (fun names h others h' heq => ?_) hyields.nodup
    exact (hyields.isSourceAt h).joinAll_injective hfs (hyields.isSourceAt h') heq
  · obtain ⟨name, hsource, rfl⟩ := exists_name_of_mem_flat hfs hfile hpath
    rw [hpaths]
    exact List.mem_map.mpr ⟨[name], hyields.mem_of_singleton hsource, rfl⟩
  · exact (hyields.isSourceAt hnames).excludesDirectory

/-- A tree with a directory in the middle that cannot be listed. -/
def barred : FileSystem :=
  (((({} : FileSystem).put "c.go" (.file [])).put "b/x.go" (.file [])).put "a.go" (.file [])).deny
    "b"

lemma wellFormed_barred : barred.WellFormed := by
  have hempty : ({} : FileSystem).WellFormed := Proper.nil
  have hwork : ∀ n ∈ ([] : List String), IsName n := by simp
  have hfile : IsPlaceable (.file []) := fun inner h => by simp at h
  exact ((hempty.put hwork (by decide) hfile).put hwork (by decide) hfile).put hwork (by decide)
    hfile

lemma list_barred : barred.list "." = .ok barred.entries := list_dot (by decide)

/-- The walk of `barred` fails at the directory `b`. -/
lemma failsAt_barred : FailsAt barred {} "." ["b"] := by
  have hmem : ("b", FileNode.directory [("x.go", .file [])]) ∈ barred.entries :=
    List.mem_cons_of_mem _ List.mem_cons_self
  rw [failsAt_iff list_barred]
  exact ⟨"b", _, [], rfl, hmem, by decide,
    (failsAt_iff_eq_nil (list_ne_ok_of_denies (by decide))).mpr rfl⟩

/-- The files in the root itself are found although `b` between them cannot be listed. -/
theorem scan_up_to_failure_barred :
    barred.WellFormed ∧ isUnusable "." = false ∧ barred.isFile "." = false
      ∧ FailsAt barred {} "." ["b"]
      ∧ ∃ walked rest, YieldsUpToFailure barred {} "." walked rest
        ∧ (barred.scan {} "." true).filterMap ScanStep.path? = (walked ++ rest).map (joinAll ".")
        ∧ ((ScanCounts.ofScan (barred.scan {} "." true)).fellBack = true
            ↔ ∃ failed, FailsAt barred {} "." failed) := by
  have hfile : barred.isFile "." = false := isFile_eq_false_of_list list_barred
  obtain ⟨walked, rest, hyields, hpaths, -, -, -, -, hback⟩ :=
    scan_up_to_failure wellFormed_barred (by decide) hfile
  exact ⟨wellFormed_barred, by decide, hfile, failsAt_barred, walked, rest, hyields, hpaths, hback⟩

end FileSystem

end InterfaceAtlas
