import InterfaceAtlas.Proofs.Declaration.Interfaces
import InterfaceAtlas.Proofs.Files.Scan

/-!
# Directories under two spellings

The path of a directory may have slashes at its end or not. The paths that a scan finds are spelled
after the root, but which files it finds and what is in them is the same under both spellings:

* `AddsSlashes.scanNames_eq`: the same names are found;
* `AddsSlashes.tree_sources`: the sources have the same trees;
* `AddsSlashes.methodNames_interfacesUnder`: the interfaces name the same methods.
-/

namespace InterfaceAtlas

namespace FileSystem

open InterfaceAtlas.Path

variable {fs : FileSystem} {parser : Parser} {settings : Settings}

/-! ## The sources of a scan by their paths -/

/-- The source at a path, if there is one that counts. -/
def loaded? (fs : FileSystem) (parser : Parser) (settings : Settings) (path : String) :
    Option Source :=
  match (Source.load parser fs settings path).value with
  | .ok source => source
  | .error _ => none

/-- The sources of a scan are those at the paths that it finds. -/
lemma sources_eq (fs : FileSystem) (settings : Settings) (root : String) (recursive : Bool) :
    fs.sources parser settings root recursive
      = ((fs.scan settings root recursive).filterMap ScanStep.path?).filterMap
          (fs.loaded? parser settings) := by
  rw [sources, loads, List.filterMap_map, List.filterMap_filterMap]
  refine List.filterMap_congr fun step _ => ?_
  cases step <;> rfl

lemma load_of_loaded?_eq_some {path : String} {s : Source}
    (h : fs.loaded? parser settings path = some s) :
    (Source.load parser fs settings path).value = .ok (some s) := by
  rw [loaded?] at h
  split at h
  · next source hload => rw [hload, h]
  · simp at h

/-- A source of a scan was loaded from its own path. -/
lemma load_of_mem_sources {root : String} {recursive : Bool} {s : Source}
    (h : s ∈ fs.sources parser settings root recursive) :
    s.path ∈ (fs.scan settings root recursive).filterMap ScanStep.path?
      ∧ (Source.load parser fs settings s.path).value = .ok (some s) := by
  rw [sources_eq] at h
  obtain ⟨path, hpath, hs⟩ := List.mem_filterMap.mp h
  have hload := load_of_loaded?_eq_some hs
  have heq := (of_load_eq_some hload).2.1
  rw [heq]
  exact ⟨hpath, hload⟩

/-! ## What names and trees depend on -/

/-- A candidate is a source file wherever it lies. -/
lemma IsFilePath.isSource_joinAll {names : List String} (h : IsFilePath settings names)
    (root : String) : settings.isSource (joinAll root names) := by
  obtain ⟨front, name, rfl, hcand⟩ := h.last
  rw [Settings.isCandidate, Bool.and_eq_true, Settings.endsWith, List.isSuffixOf_iff_suffix]
    at hcand
  rw [joinAll_concat, join_eq, Settings.isSource, Settings.endsWith, List.isSuffixOf_iff_suffix,
    String.toList_append]
  -- the suffix lies within the last name, so what stands before the name does not matter
  exact hcand.1.trans (List.suffix_append _ _)

/-- The tree of a source is that of what is read. -/
lemma tree_loaded?_congr {path other : String} (hpath : settings.isSource path)
    (hother : settings.isSource other) (hread : fs.read path = fs.read other) :
    (fs.loaded? parser settings path).map (·.tree)
      = (fs.loaded? parser settings other).map (·.tree) := by
  rw [loaded?, loaded?, Source.load, Source.load, hpath, hother, if_neg (by decide),
    if_neg (by decide), hread]
  cases fs.read other with
  | error fault => cases fault <;> rfl
  | ok content =>
    simp only [Logged.value_bind, Logged.value_pure, accept_value]
    split <;> rfl

/-- The methods that the interfaces under a root name are those of the trees. -/
lemma methodNames_interfacesUnder (fs : FileSystem) (settings : Settings) (root : String) :
    (fs.interfacesUnder parser settings root).map (·.methodNames)
      = ((fs.sources parser settings root true).map (·.tree)).flatMap fun tree =>
          (Declaration.interfacesOf "" tree).value.map (·.methodNames) := by
  rw [interfacesUnder, List.map_flatMap, List.flatMap_map]
  refine List.flatMap_congr fun s _ => ?_
  exact Declaration.methodNames_interfacesOf s.path "" s.tree

end FileSystem

namespace Path

open FileSystem

variable {fs : FileSystem} {parser : Parser} {settings : Settings} {long short : String}

/-! ## Scans under two spellings -/

/-- Directories can be listed or not however the root is spelled. -/
lemma AddsSlashes.denial_eq (h : AddsSlashes long short) {names : List String}
    (hnames : ∀ n ∈ names, IsName n) : fs.denial long names = fs.denial short names := by
  rw [denial, denial, denies, denies, h.normal_joinAll hnames]

/-- A scan finds the same names however the root is spelled. -/
lemma AddsSlashes.scanNames_eq (h : AddsSlashes long short) {entries : List (String × FileNode)}
    (hproper : Proper entries) :
    scanNames settings (fs.denial long) entries = scanNames settings (fs.denial short) entries :=
  scanNames_congr hproper fun _ hnames => h.denial_eq hnames

/-- Below a directory, the same is read however the directory is spelled. -/
lemma AddsSlashes.read_joinAll (h : AddsSlashes long short) {names : List String}
    (hne : names ≠ []) (hnames : ∀ n ∈ names, IsName n) :
    fs.read (joinAll long names) = fs.read (joinAll short names) := by
  rw [FileSystem.read, FileSystem.read, isUnusable_joinAll hnames, isUnusable_joinAll hnames,
    h.isUnusable_eq, denies, denies, h.normal_joinAll hnames, h.resolve_joinAll hne hnames]

/-- The sources under a directory have the same trees however the directory is spelled. -/
theorem AddsSlashes.tree_sources (h : AddsSlashes long short) (hfs : fs.WellFormed)
    {entries : List (String × FileNode)} (hlist : fs.list long = .ok entries) :
    (fs.sources parser settings long true).map (·.tree)
      = (fs.sources parser settings short true).map (·.tree) := by
  have hproper := proper_of_list hfs hlist
  rw [sources_eq, sources_eq, scan_paths hfs hlist, scan_paths hfs (h.list_eq hlist),
    h.scanNames_eq hproper, List.filterMap_map, List.filterMap_map, List.map_filterMap,
    List.map_filterMap]
  -- the names are the same now, and it is left to load each of them under both roots
  refine List.filterMap_congr fun names hnames => ?_
  have hfile := isFilePath_of_mem_scanNames hproper hnames
  exact tree_loaded?_congr (hfile.isSource_joinAll long) (hfile.isSource_joinAll short)
    (h.read_joinAll hfile.ne_nil hfile.isName)

/-- The interfaces under a directory name the same methods however the directory is spelled. -/
theorem AddsSlashes.methodNames_interfacesUnder (h : AddsSlashes long short) (hfs : fs.WellFormed)
    {entries : List (String × FileNode)} (hlist : fs.list long = .ok entries) :
    (fs.interfacesUnder parser settings long).map (·.methodNames)
      = (fs.interfacesUnder parser settings short).map (·.methodNames) := by
  rw [FileSystem.methodNames_interfacesUnder, FileSystem.methodNames_interfacesUnder,
    h.tree_sources hfs hlist]

end Path

end InterfaceAtlas
