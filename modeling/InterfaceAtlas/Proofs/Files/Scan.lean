import InterfaceAtlas.Proofs.Files.Walk
import InterfaceAtlas.Proofs.Query.Answer
import Mathlib.Data.List.Nodup

/-!
# What scans find

A scan is a walk and, where the walk fails, a look at what lies in the root itself. Two facts about
it carry all queries:

* `scan_finds_sources`: where each directory can be listed, a scan finds exactly the sources there
  are, in the order of the names that lead to them;
* `scanFault?_eq_none`: only a root that is no path at all ends a scan with a fault.
-/

namespace InterfaceAtlas

namespace FileSystem

open InterfaceAtlas.Path

variable {fs : FileSystem} {parser : Parser} {settings : Settings} {root : String}

/-! ## Scans by name -/

/-- The candidates among the entries of a directory, by name. -/
def flatNames (settings : Settings) (entries : List (String × FileNode)) : List (List String) :=
  ((byName entries).filter fun (name, node) =>
    !node.isDirectory && settings.isCandidate name).map fun (name, _) => [name]

/-- The names of the files that a scan finds from entries on: those of its walk up to the first
directory that cannot be listed and, if there is one, the others that lie in the root itself. -/
def scanNames (settings : Settings) (denied : List String → Bool)
    (entries : List (String × FileNode)) : List (List String) :=
  let walked := (walkedSteps settings denied entries).filterMap NamedStep.file?
  if (walkedSteps settings denied entries).any NamedStep.isFailure then
    walked ++ (flatNames settings entries).filter fun names => !walked.contains names
  else walked

/-- The names that a scan finds depend on which directories can be listed. -/
lemma scanNames_congr {entries : List (String × FileNode)} (h : Proper entries)
    {denied others : List String → Bool}
    (hdenied : ∀ names, (∀ n ∈ names, IsName n) → denied names = others names) :
    scanNames settings denied entries = scanNames settings others entries := by
  have hsteps : namedSteps settings denied entries = namedSteps settings others entries :=
    namedSteps_congr h fun names hnames => hdenied names fun n hn => (hnames n hn).1
  rw [scanNames, scanNames, walkedSteps, walkedSteps, hsteps]

/-- What comes before a failure is a part of all. -/
lemma isPrefix_takeThrough {α : Type} (test : α → Bool) (xs : List α) :
    takeThrough test xs <+: xs := by
  induction xs with
  | nil => exact List.prefix_refl _
  | cons a more ih =>
    rw [takeThrough]
    split
    · exact ⟨more, rfl⟩
    · exact (List.prefix_cons_inj a).mpr ih

lemma takeThrough_eq_self {α : Type} {test : α → Bool} {xs : List α}
    (h : ∀ a ∈ xs, test a = false) : takeThrough test xs = xs := by
  induction xs with
  | nil => rfl
  | cons a more ih =>
    rw [takeThrough, h a List.mem_cons_self, if_neg (by decide),
      ih fun b hb => h b (List.mem_cons_of_mem _ hb)]

/-- A failure is met also by a walk that ends with it. -/
lemma any_takeThrough {α : Type} (test : α → Bool) (xs : List α) :
    (takeThrough test xs).any test = xs.any test := by
  induction xs with
  | nil => rfl
  | cons a more ih =>
    rw [takeThrough]
    split
    · next h => rw [List.any_cons, List.any_cons, h, Bool.true_or, Bool.true_or]
    · rw [List.any_cons, List.any_cons, ih]

/-- A list in which a test is passed is cut behind the first member that does. -/
lemma exists_takeThrough_eq {α : Type} {test : α → Bool} {xs : List α} (h : xs.any test = true) :
    ∃ front a, takeThrough test xs = front ++ [a] ∧ test a = true
      ∧ ∀ b ∈ front, test b = false := by
  induction xs with
  | nil => simp at h
  | cons b more ih =>
    rw [takeThrough]
    split
    · next hb => exact ⟨[], b, rfl, hb, by simp⟩
    · next hb =>
      rw [List.any_cons, Bool.or_eq_true, or_iff_right hb] at h
      obtain ⟨front, a, heq, ha, hfront⟩ := ih h
      rw [heq]
      exact ⟨b :: front, a, rfl, ha,
        List.forall_mem_cons.mpr ⟨Bool.eq_false_iff.mpr hb, hfront⟩⟩

/-- What a walk finds before it fails is what a walk can find. -/
lemma isFilePath_of_mem_walked {entries : List (String × FileNode)} (h : Proper entries)
    {denied : List String → Bool} {names : List String}
    (hnames : names ∈ (walkedSteps settings denied entries).filterMap NamedStep.file?) :
    IsFilePath settings names := by
  obtain ⟨s, hs, hnames⟩ := List.mem_filterMap.mp hnames
  have hfound : names ∈ foundNames settings denied entries :=
    List.mem_filterMap.mpr ⟨s, (isPrefix_takeThrough _ _).subset hs, hnames⟩
  exact isFilePath_of_mem_foundNames h hfound

lemma isFilePath_of_mem_flatNames {entries : List (String × FileNode)} (h : Proper entries)
    {names : List String} (hnames : names ∈ flatNames settings entries) :
    IsFilePath settings names := by
  obtain ⟨⟨name, node⟩, he, rfl⟩ := List.mem_map.mp hnames
  obtain ⟨he, hkept⟩ := List.mem_filter.mp he
  rw [Bool.and_eq_true] at hkept
  exact isFilePath_singleton (h.isName (mem_byName.mp he)) hkept.2

/-- What a scan finds is a file that a scan may find. -/
lemma isFilePath_of_mem_scanNames {entries : List (String × FileNode)} (h : Proper entries)
    {denied : List String → Bool} {names : List String}
    (hnames : names ∈ scanNames settings denied entries) : IsFilePath settings names := by
  rw [scanNames] at hnames
  split at hnames
  · rcases List.mem_append.mp hnames with hnames | hnames
    · exact isFilePath_of_mem_walked h hnames
    · exact isFilePath_of_mem_flatNames h (List.mem_filter.mp hnames).1
  · exact isFilePath_of_mem_walked h hnames

/-- Below one root, names are among others if their paths are. -/
lemma contains_map_joinAll {before : List (List String)}
    (hbefore : ∀ b ∈ before, IsFilePath settings b) {names : List String}
    (hnames : IsFilePath settings names) :
    (before.map (joinAll root)).contains (joinAll root names) = before.contains names := by
  rw [Bool.eq_iff_iff, List.contains_iff_mem, List.contains_iff_mem]
  constructor
  · intro h
    obtain ⟨b, hb, heq⟩ := List.mem_map.mp h
    have hfile := hbefore b hb
    rwa [← joinAll_injective hfile.ne_nil hnames.ne_nil hfile.isName hnames.isName heq]
  · exact fun h => List.mem_map.mpr ⟨names, h, rfl⟩

/-- The scan of the files in the root itself, by names. -/
lemma flatScan_eq (hfs : fs.WellFormed) {entries : List (String × FileNode)}
    (hlist : fs.list root = .ok entries) {before : List (List String)}
    (hbefore : ∀ b ∈ before, IsFilePath settings b) :
    fs.flatScan settings root (before.map (joinAll root))
      = ((flatNames settings entries).filter fun names => !before.contains names).map
          fun names => .found (joinAll root names) := by
  have hflat : fs.flatFiles settings root
      = .ok ((flatNames settings entries).map (joinAll root)) := by
    rw [flatFiles, hlist, flatNames, List.map_map]
    rfl
  rw [flatScan, hflat]
  dsimp only
  rw [List.filter_map, List.map_map]
  -- whether a file was found before is a question about paths there and about names here
  refine congrArg (List.map _) (List.filter_congr fun names hnames => ?_)
  have hfile := isFilePath_of_mem_flatNames (proper_of_list hfs hlist) hnames
  rw [Function.comp_apply, contains_map_joinAll hbefore hfile]

/-- What can be listed is no file. -/
lemma isFile_eq_false_of_list {entries : List (String × FileNode)}
    (h : fs.list root = .ok entries) : fs.isFile root = false := by
  rw [isFile, (resolve_of_list h).2.2, Bool.and_false]

lemma filterMap_path?_under (steps : List NamedStep) :
    (steps.map fun s => scanStep root (s.under root)).filterMap ScanStep.path?
      = (steps.filterMap NamedStep.file?).map (joinAll root) := by
  rw [List.filterMap_map, List.map_filterMap]
  refine List.filterMap_congr fun s _ => ?_
  cases s <;> rfl

lemma any_isFallback_under (steps : List NamedStep) :
    (steps.map fun s => scanStep root (s.under root)).any ScanStep.isFallback
      = steps.any NamedStep.isFailure := by
  rw [List.any_map]
  refine congrArg steps.any (funext fun s => ?_)
  cases s <;> rfl

/-- The scan of a directory that can be listed: the steps of its walk and, if the walk fails, what
lies in the root itself. -/
lemma scan_eq_of_list (hfs : fs.WellFormed) {entries : List (String × FileNode)}
    (hlist : fs.list root = .ok entries) :
    let steps := walkedSteps settings (fs.denial root) entries
    fs.scan settings root true
      = steps.map (fun s => scanStep root (s.under root))
        ++ if steps.any NamedStep.isFailure then
            ((flatNames settings entries).filter fun names =>
              !(steps.filterMap NamedStep.file?).contains names).map
                fun names => .found (joinAll root names)
          else [] := by
  intro steps
  have hwalk : (fs.walk settings root).map (scanStep root)
      = steps.map fun s => scanStep root (s.under root) := by
    rw [walk_eq hlist, List.map_map]
    rfl
  have hwalked : ∀ names ∈ steps.filterMap NamedStep.file?, IsFilePath settings names :=
    fun names hnames => isFilePath_of_mem_walked (proper_of_list hfs hlist) hnames
  rw [scan, isFile_eq_false_of_list hlist, if_neg (by decide), if_pos rfl]
  simp only [hwalk, any_isFallback_under, filterMap_path?_under, flatScan_eq hfs hlist hwalked]
  split
  · rfl
  · rw [List.append_nil]

/-- A scan finds the files of its names. -/
theorem scan_paths (hfs : fs.WellFormed) {entries : List (String × FileNode)}
    (hlist : fs.list root = .ok entries) :
    (fs.scan settings root true).filterMap ScanStep.path?
      = (scanNames settings (fs.denial root) entries).map (joinAll root) := by
  rw [scan_eq_of_list hfs hlist, List.filterMap_append, filterMap_path?_under, scanNames]
  split
  · rw [List.map_append, List.filterMap_map]
    refine congrArg _ ?_
    exact congrFun List.filterMap_eq_map _
  · exact List.append_nil _

/-- A scan of the root alone finds the candidates among its entries. -/
theorem flat_paths (hfs : fs.WellFormed) {entries : List (String × FileNode)}
    (hlist : fs.list root = .ok entries) :
    (fs.scan settings root false).filterMap ScanStep.path?
      = (flatNames settings entries).map (joinAll root) := by
  have hflat : fs.flatScan settings root (([] : List (List String)).map (joinAll root)) = _ :=
    flatScan_eq hfs hlist (by simp)
  rw [List.map_nil] at hflat
  rw [scan, isFile_eq_false_of_list hlist, if_neg (by decide), if_neg (by decide), hflat,
    List.filterMap_map]
  refine (congrFun List.filterMap_eq_map _).trans (congrArg _ ?_)
  exact List.filter_eq_self.mpr fun names _ => rfl

/-- Where the root is no file and cannot be listed, nothing is found. -/
lemma paths_eq_nil (hfile : fs.isFile root = false) {fault : PathFault}
    (hlist : fs.list root = .error fault) (recursive : Bool) :
    (fs.scan settings root recursive).filterMap ScanStep.path? = [] := by
  have hwalk : fs.walk settings root = [.failed root fault] := by
    rw [walk, hlist]
  have hflat : ∀ before, (fs.flatScan settings root before).filterMap ScanStep.path? = [] := by
    intro before
    rw [flatScan, flatFiles, hlist]
    cases fault <;> rfl
  rw [scan, hfile, if_neg (by decide), hwalk]
  cases recursive with
  | false => exact hflat []
  | true =>
    rw [if_pos rfl]
    dsimp only
    split
    · rw [List.filterMap_append, hflat, List.append_nil]
      cases fault <;> rfl
    · cases fault <;> rfl

/-- A scan falls back if its walk fails. -/
lemma fellBack_scan (hfs : fs.WellFormed) {entries : List (String × FileNode)}
    (hlist : fs.list root = .ok entries) :
    (ScanCounts.ofScan (fs.scan settings root true)).fellBack
      = (namedSteps settings (fs.denial root) entries).any NamedStep.isFailure := by
  show (fs.scan settings root true).any ScanStep.isFallback = _
  rw [scan_eq_of_list hfs hlist, List.any_append, any_isFallback_under]
  have hwalked : (walkedSteps settings (fs.denial root) entries).any NamedStep.isFailure
      = (namedSteps settings (fs.denial root) entries).any NamedStep.isFailure :=
    any_takeThrough _ _
  split
  · next hfail => rw [← hwalked, hfail, Bool.true_or]
  · rw [hwalked, List.any_nil, Bool.or_false]

/-! ## Scans without a failure -/

/-- **Scans are exact.** If each directory that names lead to from the root can be listed, so that
the root itself is a directory, a scan finds the candidates below real directories that settings do
not exclude, each once and in the order of the names that lead to it, and does not fall back. In
which order directories list their entries does not matter. -/
theorem scan_finds_sources (hfs : fs.WellFormed) (h : Listable fs settings root) :
    ∃ found : List (List String),
      (fs.scan settings root true).filterMap ScanStep.path? = found.map (joinAll root)
        ∧ (∀ names, names ∈ found ↔ IsSourceAt fs settings root names)
        ∧ found.Pairwise (· < ·)
        ∧ ((fs.scan settings root true).filterMap ScanStep.path?).Nodup
        ∧ (ScanCounts.ofScan (fs.scan settings root true)).fellBack = false := by
  obtain ⟨entries, hlist⟩ := h [] (.here _)
  rw [joinAll_nil] at hlist
  have hproper := proper_of_list hfs hlist
  have hfail := isFailure_of_listable hfs hlist h
  have hany : (namedSteps settings (fs.denial root) entries).any NamedStep.isFailure = false := by
    rw [List.any_eq_false]
    exact fun s hs => by rw [hfail s hs]; decide
  have hpaths : (fs.scan settings root true).filterMap ScanStep.path?
      = (foundNames settings (fs.denial root) entries).map (joinAll root) := by
    rw [scan_paths hfs hlist, scanNames, walkedSteps, takeThrough_eq_self hfail, hany,
      if_neg (by decide), foundNames]
  have hsorted := pairwise_foundNames hproper settings (fs.denial root)
  refine ⟨_, hpaths, fun names => mem_foundNames_iff hfs hlist, hsorted, ?_, ?_⟩
  · -- names in strict order are different, and so are their paths below one root
    rw [hpaths]
    refine List.Nodup.map_on (fun a ha b hb hab => ?_) (hsorted.imp fun hlt => ne_of_lt hlt)
    have hfile := isFilePath_of_mem_foundNames hproper ha
    have hfile' := isFilePath_of_mem_foundNames hproper hb
    exact joinAll_injective hfile.ne_nil hfile'.ne_nil hfile.isName hfile'.isName hab
  · rw [fellBack_scan hfs hlist, hany]

/-- Where nothing is denied, all that lies below a directory can be listed. -/
lemma listable_of_denied_eq_nil (hfs : fs.WellFormed) (hdenied : fs.denied = [])
    {entries : List (String × FileNode)} (hlist : fs.list root = .ok entries) :
    Listable fs settings root := by
  intro names hnames
  induction hnames generalizing entries with
  | here directory => exact ⟨entries, hlist⟩
  | @enter directory name listed inner names hl he hex hmore ih =>
    refine ih (list_join hfs hl he ?_)
    rw [denies, hdenied]
    rfl

/-- The working directory can be listed where it is not denied. -/
lemma list_dot (hdenied : fs.denies "." = false) : fs.list "." = .ok (here fs.startTrail) := by
  have hcomponents : components "." = ["."] := components_of_noSlash (by decide)
  refine list_eq_of_resolve (by decide) hdenied ?_
  rw [resolve_eq (by decide), hcomponents, follow, if_pos (by decide), follow, trailFor,
    if_neg (by decide)]

/-- A name leads to what the working directory has under it. -/
lemma resolve_name {name : String} (hname : IsName name) :
    fs.resolve name = fs.follow linkLimit fs.startTrail [name] := by
  have habsolute : isAbsolute name = false := by
    rw [isAbsolute, beq_eq_false_iff_ne]
    intro hslash
    exact hname.no_slash (List.mem_of_head? hslash)
  rw [resolve_eq hname.ne_empty, components_of_noSlash hname.no_slash, trailFor, habsolute,
    if_neg (by decide)]

/-- A file of the working directory is read by its name. -/
lemma read_name {name : String} {content : List UInt8} (hname : IsName name)
    (hdenied : fs.denies name = false)
    (h : (here fs.startTrail).lookup name = some (.file content)) : fs.read name = .ok content := by
  have hresolve : fs.resolve name = .ok (.file content) := by
    rw [resolve_name hname, follow, if_neg (by simp [hname.ne_empty, hname.ne_dot]),
      if_neg (by simp [hname.ne_dots]), h]
    rfl
  rw [read, isUnusable_name hname, hdenied, hresolve]
  rfl

/-- A name that the working directory does not have is missing. -/
lemma read_name_missing {name : String} (hname : IsName name) (hdenied : fs.denies name = false)
    (h : (here fs.startTrail).lookup name = none) : fs.read name = .error (.refused .missing) := by
  have hresolve : fs.resolve name = .error .missing := by
    rw [resolve_name hname, follow, if_neg (by simp [hname.ne_empty, hname.ne_dot]),
      if_neg (by simp [hname.ne_dots]), h]
  rw [read, isUnusable_name hname, hdenied, hresolve]
  rfl

/-- A tree with a test, a link to nothing, a link into a circle, a directory that settings exclude,
and names that others begin with, put together in no order. -/
def tangle : FileSystem :=
  (((((({} : FileSystem).put "vendor/d.go" (.file [])).put "b.go" (.file [])).put "b/c_test.go"
    (.file [])).put "b/c.go" (.link "nowhere")).put "b/a" (.link "..")).put "b+.go" (.file [])

lemma wellFormed_tangle : tangle.WellFormed := by
  have hempty : ({} : FileSystem).WellFormed := Proper.nil
  have hwork : ∀ n ∈ ([] : List String), IsName n := by simp
  have hfile : IsPlaceable (.file []) := fun inner h => by simp at h
  have hlink : ∀ target, IsPlaceable (.link target) := fun target inner h => by simp at h
  exact (((((hempty.put hwork (by decide) hfile).put hwork (by decide) hfile).put hwork (by decide)
    hfile).put hwork (by decide) (hlink _)).put hwork (by decide) (hlink _)).put hwork (by decide)
    hfile

/-- An excluded directory, a test file and links lie among the sources, and each is taken for what
it is. -/
theorem scan_finds_sources_tangle :
    tangle.WellFormed ∧ Listable tangle {} "."
      ∧ ∃ found : List (List String),
        (tangle.scan {} "." true).filterMap ScanStep.path? = found.map (joinAll ".")
          ∧ (∀ names, names ∈ found ↔ IsSourceAt tangle {} "." names)
          ∧ found.Pairwise (· < ·)
          ∧ ((tangle.scan {} "." true).filterMap ScanStep.path?).Nodup
          ∧ (ScanCounts.ofScan (tangle.scan {} "." true)).fellBack = false := by
  have h : Listable tangle {} "." := listable_of_denied_eq_nil wellFormed_tangle rfl (list_dot rfl)
  exact ⟨wellFormed_tangle, h, scan_finds_sources wellFormed_tangle h⟩

/-! ## Scans that meet no fault -/

lemma list_ne_unusable {path : String} (h : isUnusable path = false) :
    fs.list path ≠ .error .unusable := by
  rw [list, h, if_neg (by decide)]
  split
  · simp
  · split <;> simp

lemma read_ne_unusable {path : String} (h : isUnusable path = false) :
    fs.read path ≠ .error .unusable := by
  rw [read, h, if_neg (by decide)]
  split
  · simp
  · split <;> simp

/-- A file counts unless it has syntax errors and settings let none through. -/
lemma accept_value (settings : Settings) (path : String) (content : List UInt8) :
    (Source.accept parser settings path content).value
      = if (parser content).label.hasError && settings.skipFaulty then none
        else some { path, tree := parser content, content } := by
  simp only [Source.accept, Source.parse, Logged.value_bind, Logged.value_pure]
  split
  · rfl
  · split <;> rfl

/-- Only a text that is no path is a fault of loading. -/
lemma load_ok {path : String} (h : isUnusable path = false) :
    ∃ source, (Source.load parser fs settings path).value = .ok source := by
  have hread : fs.read path ≠ .error .unusable := read_ne_unusable h
  rw [Source.load]
  split
  · exact ⟨none, rfl⟩
  · split
    · next hunusable => exact absurd hunusable hread
    · exact ⟨none, rfl⟩
    · exact ⟨_, rfl⟩

/-- A source file that can be read counts unless it has a syntax error and settings skip such
files. -/
lemma load_of_read {path : String} {content : List UInt8} (hsource : settings.isSource path)
    (hread : fs.read path = .ok content)
    (hcounts : ((parser content).label.hasError && settings.skipFaulty) = false) :
    (Source.load parser fs settings path).value
      = .ok (some { path, tree := parser content, content }) := by
  rw [Source.load, hsource, if_neg (by decide), hread]
  simp only [Logged.value_bind, Logged.value_pure, accept_value, hcounts]
  rw [if_neg (by decide)]

/-- A source that was loaded has the path it was loaded from and a tree of what is read there. -/
lemma of_load_eq_some {path : String} {source : Source}
    (h : (Source.load parser fs settings path).value = .ok (some source)) :
    settings.isSource path ∧ source.path = path
      ∧ ∃ content, fs.read path = .ok content
        ∧ (Source.accept parser settings path content).value = some source := by
  rw [Source.load] at h
  split at h
  · simp at h
  · next hsource =>
    split at h
    · simp at h
    · simp at h
    · next content hread =>
      simp only [Logged.value_bind, Logged.value_pure, Except.ok.injEq] at h
      refine ⟨by simpa using hsource, ?_, content, hread, h⟩
      rw [accept_value] at h
      split at h
      · simp at h
      · rw [Option.some_inj] at h
        rw [← h]

/-- What can be loaded has a path. -/
lemma isUnusable_of_load {path : String} {source : Source}
    (h : (Source.load parser fs settings path).value = .ok (some source)) :
    isUnusable path = false := by
  obtain ⟨-, -, content, hread, -⟩ := of_load_eq_some h
  exact (resolve_of_read hread).1

/-- A path that a scan finds: the root itself, or a path below it. -/
def IsBelow (root path : String) : Prop :=
  ∃ names, (∀ n ∈ names, IsName n) ∧ path = joinAll root names

/-- A step of a scan of a root that is a path: no fault, and files at or below the root. -/
def IsSound (root : String) : ScanStep → Prop
  | .found path => IsBelow root path
  | .broken => False
  | _ => True

/-- A walk finds files below its root, and does not break off. -/
lemma isSound_walk (hfs : fs.WellFormed) (hroot : isUnusable root = false) :
    ∀ s ∈ (fs.walk settings root).map (scanStep root), IsSound root s := by
  intro s hs
  obtain ⟨w, hw, rfl⟩ := List.mem_map.mp hs
  cases hlist : fs.list root with
  | error fault =>
    rw [walk, hlist] at hw
    rw [List.mem_singleton.mp hw]
    cases fault with
    | refused reason => trivial
    | unusable => exact absurd hlist (list_ne_unusable hroot)
  | ok entries =>
    rw [walk_eq hlist] at hw
    obtain ⟨t, ht, rfl⟩ := List.mem_map.mp hw
    cases t with
    | file names =>
      have hfile : IsFilePath settings names :=
        isFilePath_of_mem_walked (proper_of_list hfs hlist) (List.mem_filterMap.mpr ⟨_, ht, rfl⟩)
      exact ⟨names, hfile.isName, rfl⟩
    | passedOver names => trivial
    | failed names => trivial

/-- What lies in the root itself is an entry of it. -/
lemma exists_join_of_mem_flatScan (hfs : fs.WellFormed) {before : List String} {path : String}
    (h : .found path ∈ fs.flatScan settings root before) :
    ∃ entries name, fs.list root = .ok entries ∧ IsName name ∧ path = join root name := by
  rw [flatScan, flatFiles] at h
  cases hlist : fs.list root with
  | error fault =>
    rw [hlist] at h
    cases fault <;> simp [Except.map] at h
  | ok entries =>
    rw [hlist] at h
    obtain ⟨found, hfound, heq⟩ := List.mem_map.mp h
    obtain ⟨⟨name, node⟩, he, rfl⟩ := List.mem_map.mp (List.mem_filter.mp hfound).1
    have hmem : (name, node) ∈ entries := mem_byName.mp (List.mem_filter.mp he).1
    rw [ScanStep.found.injEq] at heq
    exact ⟨entries, name, rfl, (proper_of_list hfs hlist).isName hmem, heq.symm⟩

/-- A scan of the root itself finds files in it, and does not break off. -/
lemma isSound_flatScan (hfs : fs.WellFormed) (hroot : isUnusable root = false)
    (before : List String) : ∀ s ∈ fs.flatScan settings root before, IsSound root s := by
  intro s hs
  cases s with
  | found path =>
    obtain ⟨-, name, -, hname, rfl⟩ := exists_join_of_mem_flatScan hfs hs
    exact ⟨[name], by simpa using hname, rfl⟩
  | broken =>
    rw [flatScan, flatFiles] at hs
    cases hlist : fs.list root with
    | ok entries => simp [hlist, Except.map] at hs
    | error fault =>
      cases fault with
      | refused reason => simp [hlist, Except.map] at hs
      | unusable => exact absurd hlist (list_ne_unusable hroot)
  | passedOver path => trivial
  | fellBack root path reason => trivial
  | unlistable root reason => trivial

/-- A scan of a root that is a path meets no fault and finds files at or below the root. -/
lemma isSound_scan (hfs : fs.WellFormed) (hroot : isUnusable root = false) (recursive : Bool) :
    ∀ s ∈ fs.scan settings root recursive, IsSound root s := by
  intro s hs
  rw [scan] at hs
  split at hs
  · split at hs
    · rw [List.mem_singleton.mp hs]
      exact ⟨[], by simp, rfl⟩
    · simp at hs
  · split at hs
    · dsimp only at hs
      split at hs
      · rcases List.mem_append.mp hs with hs | hs
        · exact isSound_walk hfs hroot s hs
        · exact isSound_flatScan hfs hroot _ s hs
      · exact isSound_walk hfs hroot s hs
    · exact isSound_flatScan hfs hroot _ s hs

/-- Only a root that is no path at all ends a scan with a fault. -/
theorem scanFault?_eq_none (hfs : fs.WellFormed) (hroot : isUnusable root = false)
    (recursive : Bool) : fs.scanFault? parser settings root recursive = none := by
  rw [scanFault?, List.findSome?_eq_none_iff]
  intro step hstep
  obtain ⟨s, hs, rfl⟩ := List.mem_map.mp hstep
  have hsound := isSound_scan hfs hroot recursive s hs
  cases s with
  | found path =>
    obtain ⟨names, hnames, rfl⟩ := hsound
    have hpath : isUnusable (joinAll root names) = false := by
      rw [isUnusable_joinAll hnames, hroot]
    obtain ⟨source, hsource⟩ := load_ok hpath
    simp only [LoadStep.fault?]
    rw [hsource]
  | passedOver path => rfl
  | fellBack root path reason => rfl
  | unlistable root reason => rfl
  | broken => exact absurd hsound id

end FileSystem

end InterfaceAtlas
