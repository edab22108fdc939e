import InterfaceAtlas.Proofs.Files.Growth
import InterfaceAtlas.Proofs.Files.Spelling

/-!
# Entries that scans do not notice

An entry is `Harmless` to the scans of a root if nothing can come of it: a file that is no
candidate, a file that cannot be opened or whose syntax errors make it not count, or a directory
that settings exclude. A scan that meets such an entry takes at most one step more, and
`AddsEntry.sources_eq` says that it yields the same sources as without it, whatever else fails.
-/

namespace InterfaceAtlas

open InterfaceAtlas.Path

/-! ## The steps of all other entries -/

/-- Whether a step is another one than that of the entry at some names. Failures are never left
out. -/
def NamedStep.isOther (own : List String) (s : NamedStep) : Bool := s.isFailure || s.names != own

@[simp] lemma NamedStep.isOther_below (name : String) (own : List String) (s : NamedStep) :
    (s.below name).isOther (name :: own) = s.isOther own := by
  rw [isOther, isOther, isFailure_below, names_below]
  refine congrArg _ ?_
  rw [Bool.eq_iff_iff, bne_iff_ne, bne_iff_ne, Ne, Ne, List.cons.injEq, and_iff_right rfl]

namespace FileSystem

variable {settings : Settings} {name : String} {node : FileNode} {place names : List String}
  {entries larger : List (String × FileNode)} {denied others : List String → Bool}

/-- Nothing below an entry is what lies under another name. -/
lemma filter_nodeSteps_of_ne {c : String} (hne : c ≠ name) (own : List String) :
    (nodeSteps settings denied c node).filter (NamedStep.isOther (name :: own))
      = nodeSteps settings denied c node := by
  rw [List.filter_eq_self]
  intro s hs
  obtain ⟨more, hmore⟩ := exists_cons_of_mem_nodeSteps hs
  rw [NamedStep.isOther, hmore, Bool.or_eq_true, bne_iff_ne, Ne, List.cons.injEq]
  exact Or.inr fun h => hne h.1

/-- The steps below an entry with another name stay as they are, where the same can be listed. -/
lemma filter_nodeSteps_of_mem {c : String} {own : List String} (hproper : Proper entries)
    (he : (c, node) ∈ entries) (hne : c ≠ name)
    (hdenied : ∀ names, (∀ n ∈ names, IsName n) → ¬ name :: own <+: names →
      denied names = others names) :
    (nodeSteps settings denied c node).filter (NamedStep.isOther (name :: own))
      = nodeSteps settings others c node := by
  have hcons : ∀ names, (∀ n ∈ names, IsName n) → denied (c :: names) = others (c :: names) := by
    intro names hnames
    refine hdenied _ (List.forall_mem_cons.mpr ⟨hproper.isName he, hnames⟩) fun h => ?_
    exact hne (List.cons_prefix_cons.mp h).1.symm
  rw [filter_nodeSteps_of_ne hne]
  refine nodeSteps_congr fun inner hinner _ => ⟨hcons [] (by simp), ?_⟩
  subst hinner
  exact namedSteps_congr (hproper.inner he) fun names hnames =>
    hcons names fun n hn => (hnames n hn).1

/-- A file, or a directory that settings exclude, is at most a step of its own. -/
lemma filter_nodeSteps_self (h : node.isDirectory = true → settings.excludesDirectory name = true) :
    (nodeSteps settings denied name node).filter (NamedStep.isOther [name]) = [] := by
  rcases isDirectory_eq_false_or node with hdir | ⟨inner, rfl⟩
  · rw [nodeSteps_of_isDirectory_eq_false settings denied name hdir]
    split
    · simp [NamedStep.isOther, NamedStep.isFailure, NamedStep.names]
    · rfl
  · rw [nodeSteps_directory, if_pos (h rfl)]
    simp [NamedStep.isOther, NamedStep.isFailure, NamedStep.names]

/-- What is left out further down is left out below a directory. -/
lemma filter_nodeSteps_directory {own : List String} (hown : own ≠ [])
    (hlisted : denied [name] = others [name])
    (hbelow : (namedSteps settings (fun names => denied (name :: names)) larger).filter
        (NamedStep.isOther own)
      = namedSteps settings (fun names => others (name :: names)) entries) :
    (nodeSteps settings denied name (.directory larger)).filter (NamedStep.isOther (name :: own))
      = nodeSteps settings others name (.directory entries) := by
  have hother : NamedStep.isOther (name :: own) ∘ NamedStep.below name = NamedStep.isOther own :=
    funext fun s => NamedStep.isOther_below name own s
  rw [nodeSteps_directory, nodeSteps_directory, hlisted, ← hbelow]
  split
  · simp [NamedStep.isOther, NamedStep.names, hown.symm]
  · split
    · simp [NamedStep.isOther, NamedStep.isFailure]
    · rw [List.filter_map, hother]

/-- The steps of the other entries come in the same order before and behind those of the entry. -/
lemma exists_filter_namedSteps {before after : List (String × FileNode)} {own : List String}
    (hproper : Proper (before ++ (name, node) :: after))
    (hdenied : ∀ names, (∀ n ∈ names, IsName n) → ¬ name :: own <+: names →
      denied names = others names) :
    ∃ front back,
      (namedSteps settings denied (before ++ (name, node) :: after)).filter
          (NamedStep.isOther (name :: own))
        = front ++ ((nodeSteps settings denied name node).filter (NamedStep.isOther (name :: own))
            ++ back)
      ∧ namedSteps settings others (before ++ after) = front ++ back
      ∧ ∀ other, namedSteps settings others (before ++ (name, other) :: after)
        = front ++ (nodeSteps settings others name other ++ back) := by
  obtain ⟨front, back, hold, hnew⟩ := exists_byName_append hproper.distinct
  have hsame : ∀ e ∈ front ++ back,
      (nodeSteps settings denied e.1 e.2).filter (NamedStep.isOther (name :: own))
        = nodeSteps settings others e.1 e.2 := by
    intro e he
    rw [← hold, mem_byName] at he
    have hmem : e ∈ before ++ (name, node) :: after := by
      simp only [List.mem_append, List.mem_cons] at he ⊢
      tauto
    exact filter_nodeSteps_of_mem hproper hmem (hproper.fst_ne he) hdenied
  refine ⟨front.flatMap fun e => nodeSteps settings others e.1 e.2,
    back.flatMap fun e => nodeSteps settings others e.1 e.2, ?_, ?_, fun other => ?_⟩
  · rw [namedSteps_eq_flatMap, hnew, List.flatMap_append, List.flatMap_cons, List.filter_append,
      List.filter_append, List.filter_flatMap, List.filter_flatMap,
      List.flatMap_congr fun e he => hsame e (List.mem_append_left _ he),
      List.flatMap_congr fun e he => hsame e (List.mem_append_right _ he)]
  · rw [namedSteps_eq_flatMap, hold, List.flatMap_append]
  · rw [namedSteps_eq_flatMap, hnew, List.flatMap_append, List.flatMap_cons]

/-- **One entry more is one step more.** A walk over the larger entries takes the steps of the walk
without the new entry, and between them at most one that is the entry's own. -/
theorem Grown.filter_namedSteps (h : Grown name node place entries larger) (hproper : Proper larger)
    (hquiet : node.isDirectory = true → settings.excludesDirectory name = true)
    (hdenied : ∀ names, (∀ n ∈ names, IsName n) → ¬ place ++ [name] <+: names →
      denied names = others names) :
    (namedSteps settings denied larger).filter (NamedStep.isOther (place ++ [name]))
      = namedSteps settings others entries := by
  induction h generalizing denied others with
  | here before after =>
    obtain ⟨front, back, hnew, hold, -⟩ := exists_filter_namedSteps hproper hdenied
    rw [List.nil_append, hnew, hold, filter_nodeSteps_self hquiet, List.nil_append]
  | @inside place inner larger directory before after h ih =>
    rw [List.cons_append] at hdenied ⊢
    obtain ⟨front, back, hnew, -, hold⟩ := exists_filter_namedSteps hproper hdenied
    have hmem : (directory, FileNode.directory larger)
        ∈ before ++ (directory, FileNode.directory larger) :: after :=
      List.mem_append_cons_self
    have hlisted : denied [directory] = others [directory] := by
      refine hdenied _ (by simpa using hproper.isName hmem) fun h => ?_
      have hlength := h.length_le
      simp at hlength
    -- below the directory on the way to the new entry the walk goes on alike
    have hbelow : (namedSteps settings (fun names => denied (directory :: names)) larger).filter
          (NamedStep.isOther (place ++ [name]))
        = namedSteps settings (fun names => others (directory :: names)) inner := by
      refine ih (hproper.inner hmem) fun names hnames hown => ?_
      refine hdenied _ (List.forall_mem_cons.mpr ⟨hproper.isName hmem, hnames⟩) ?_
      rwa [List.cons_prefix_cons, and_iff_right rfl]
    rw [hnew, hold, filter_nodeSteps_directory (by simp) hlisted hbelow]

/-! ## The names that a scan finds -/

/-- What is left out before a first member that passes a test may be left out afterwards. -/
lemma takeThrough_filter {α : Type} {test keep : α → Bool} (h : ∀ a, test a = true → keep a = true)
    (xs : List α) : takeThrough test (xs.filter keep) = (takeThrough test xs).filter keep := by
  induction xs with
  | nil => rfl
  | cons a more ih =>
    by_cases hkeep : keep a = true
    · rw [List.filter_cons_of_pos hkeep, takeThrough, takeThrough, ih]
      split
      · rw [List.filter_cons_of_pos hkeep, List.filter_nil]
      · rw [List.filter_cons_of_pos hkeep]
    · have htest : ¬ test a = true := fun htest => hkeep (h a htest)
      rw [List.filter_cons_of_neg hkeep, ih, takeThrough, if_neg htest,
        List.filter_cons_of_neg hkeep]

lemma filterMap_file?_filter (own : List String) (steps : List NamedStep) :
    (steps.filter (NamedStep.isOther own)).filterMap NamedStep.file?
      = (steps.filterMap NamedStep.file?).filter (· != own) := by
  rw [List.filterMap_filter, List.filter_filterMap]
  refine List.filterMap_congr fun s _ => ?_
  cases s with
  | file names =>
    simp only [NamedStep.isOther, NamedStep.isFailure, NamedStep.names, NamedStep.file?,
      Bool.false_or, Option.filter]
  | passedOver names => simp [NamedStep.file?]
  | failed names => simp [NamedStep.file?]

/-- The candidates of a directory itself are what is found where nothing below can be listed. -/
lemma flatNames_eq_foundNames (settings : Settings) (entries : List (String × FileNode)) :
    flatNames settings entries = foundNames settings (fun _ => true) entries := by
  rw [flatNames, foundNames_eq_flatMap]
  generalize byName entries = sorted
  induction sorted with
  | nil => rfl
  | cons e more ih =>
    obtain ⟨name, node⟩ := e
    rw [List.flatMap_cons, ← ih]
    rcases isDirectory_eq_false_or node with hdir | ⟨inner, rfl⟩
    · rw [filterMap_nodeSteps_leaf settings _ name hdir]
      by_cases hcand : settings.isCandidate name
      · rw [List.filter_cons_of_pos (by simp [hdir, hcand]), if_pos hcand]
        rfl
      · rw [List.filter_cons_of_neg (by simp [hcand]), if_neg hcand, List.nil_append]
    · rw [filterMap_nodeSteps_directory, Bool.or_true, if_pos rfl,
        List.filter_cons_of_neg (by simp [FileNode.isDirectory]), List.nil_append]

/-- The candidates of a directory itself are those without the new entry, and at most the entry
besides. -/
lemma Grown.filter_flatNames (h : Grown name node place entries larger) (hproper : Proper larger)
    (hquiet : node.isDirectory = true → settings.excludesDirectory name = true) :
    (flatNames settings larger).filter (· != place ++ [name]) = flatNames settings entries := by
  rw [flatNames_eq_foundNames, flatNames_eq_foundNames, foundNames, foundNames,
    ← filterMap_file?_filter]
  exact congrArg _ (h.filter_namedSteps hproper hquiet fun _ _ _ => rfl)

/-- A scan finds the names that it finds without the new entry, and at most those of the entry
besides. -/
theorem Grown.filter_scanNames (h : Grown name node place entries larger) (hproper : Proper larger)
    (hquiet : node.isDirectory = true → settings.excludesDirectory name = true)
    (hdenied : ∀ names, (∀ n ∈ names, IsName n) → ¬ place ++ [name] <+: names →
      denied names = others names) :
    (scanNames settings denied larger).filter (· != place ++ [name])
      = scanNames settings others entries := by
  have hfailure : ∀ s : NamedStep, s.isFailure = true → s.isOther (place ++ [name]) = true := by
    intro s hs
    rw [NamedStep.isOther, hs, Bool.true_or]
  have hsteps : (walkedSteps settings denied larger).filter (NamedStep.isOther (place ++ [name]))
      = walkedSteps settings others entries := by
    rw [walkedSteps, ← takeThrough_filter hfailure, h.filter_namedSteps hproper hquiet hdenied,
      walkedSteps]
  have hwalked : ((walkedSteps settings denied larger).filterMap NamedStep.file?).filter
        (· != place ++ [name])
      = (walkedSteps settings others entries).filterMap NamedStep.file? := by
    rw [← filterMap_file?_filter, hsteps]
  have hany : (walkedSteps settings denied larger).any NamedStep.isFailure
      = (walkedSteps settings others entries).any NamedStep.isFailure := by
    rw [← hsteps, List.any_filter]
    refine congrArg _ (funext fun s => ?_)
    cases s <;> simp [NamedStep.isOther, NamedStep.isFailure]
  have hflat := h.filter_flatNames hproper hquiet
  rw [scanNames, scanNames, hany]
  split
  · rw [List.filter_append, hwalked, List.filter_comm, hflat]
    -- the names that are left were found on both walks or on neither
    refine congrArg _ (List.filter_congr fun names hnames => ?_)
    rw [← hflat] at hnames
    have hne := (List.mem_filter.mp hnames).2
    rw [← hwalked, Bool.eq_iff_iff, Bool.not_eq_true', Bool.not_eq_true', ← Bool.not_eq_true,
      ← Bool.not_eq_true, List.contains_iff_mem, List.contains_iff_mem, List.mem_filter,
      and_iff_left hne]
  · exact hwalked

/-- What is found stands at its names, and is no directory. -/
lemma exists_descend_of_mem_foundNames (hproper : Proper entries)
    (h : names ∈ foundNames settings denied entries) :
    ∃ leaf, (FileNode.directory entries).descend names = some leaf
      ∧ leaf.isDirectory = false := by
  induction hproper generalizing denied names with
  | @mk entries distinct named below ih =>
    have hproper : Proper entries := .mk distinct named below
    obtain ⟨name, node, he, hnode⟩ := mem_foundNames.mp h
    rcases isDirectory_eq_false_or node with hdir | ⟨inner, rfl⟩
    · rw [filterMap_nodeSteps_leaf settings denied name hdir] at hnode
      split at hnode
      · rw [List.mem_singleton.mp hnode, hproper.descend_cons he]
        exact ⟨node, rfl, hdir⟩
      · simp at hnode
    · rw [filterMap_nodeSteps_directory] at hnode
      split at hnode
      · simp at hnode
      · obtain ⟨more, hmore, rfl⟩ := List.mem_map.mp hnode
        rw [hproper.descend_cons he]
        exact ih name inner he hmore

/-- What a scan finds is there, and is no directory. -/
lemma exists_descend_of_mem_scanNames (hproper : Proper entries)
    (h : names ∈ scanNames settings denied entries) :
    ∃ leaf, (FileNode.directory entries).descend names = some leaf
      ∧ leaf.isDirectory = false := by
  have hwalked : ∀ names ∈ (walkedSteps settings denied entries).filterMap NamedStep.file?,
      names ∈ foundNames settings denied entries := by
    intro names hnames
    exact ((isPrefix_takeThrough _ _).sublist.filterMap _).subset hnames
  rw [scanNames] at h
  split at h
  · rcases List.mem_append.mp h with h | h
    · exact exists_descend_of_mem_foundNames hproper (hwalked _ h)
    · rw [flatNames_eq_foundNames] at h
      exact exists_descend_of_mem_foundNames hproper (List.mem_filter.mp h).1
  · exact exists_descend_of_mem_foundNames hproper (hwalked _ h)

/-! ## Harmless entries -/

/-- The entry `node` under `name` is nothing that a scan of `root` can make a source of. A file is
opened by a scan under one spelling only, so a file that cannot be opened is one that cannot be read
under the spelling that leads to it from the root. -/
inductive Harmless (parser : Parser) (settings : Settings) (grown : FileSystem) (root : String)
    (place : List String) (name : String) : FileNode → Prop
  | unsought {content : List UInt8} (h : settings.isCandidate name = false) :
      Harmless parser settings grown root place name (.file content)
  | unopenable {content : List UInt8}
      (h : ∀ names, (∀ n ∈ names, IsName n) →
        grown.namesTo (joinAll root names) = place ++ [name] →
          ∀ held, grown.read (joinAll root names) ≠ .ok held) :
      Harmless parser settings grown root place name (.file content)
  | faulty {content : List UInt8} (skips : settings.skipFaulty = true)
      (h : (parser content).label.hasError = true) :
      Harmless parser settings grown root place name (.file content)
  | excluded {inner : List (String × FileNode)} (h : settings.excludesDirectory name = true) :
      Harmless parser settings grown root place name (.directory inner)

/-- The names that a scan finds, in all directories or in the root alone. -/
def sourceNames (settings : Settings) (recursive : Bool) (denied : List String → Bool)
    (entries : List (String × FileNode)) : List (List String) :=
  if recursive then scanNames settings denied entries else flatNames settings entries

variable {fs grown : FileSystem} {parser : Parser} {root : String} {recursive : Bool}

/-- The paths that a scan finds are those of the names that it finds. -/
lemma paths_eq (hfs : fs.WellFormed) (hlist : fs.list root = .ok entries) (recursive : Bool) :
    (fs.scan settings root recursive).filterMap ScanStep.path?
      = (sourceNames settings recursive (fs.denial root) entries).map (joinAll root) := by
  cases recursive with
  | true => exact scan_paths hfs hlist
  | false => exact flat_paths hfs hlist

lemma isFilePath_of_mem_sourceNames (hproper : Proper entries)
    (h : names ∈ sourceNames settings recursive denied entries) : IsFilePath settings names := by
  rw [sourceNames] at h
  split at h
  · exact isFilePath_of_mem_scanNames hproper h
  · exact isFilePath_of_mem_flatNames hproper h

lemma exists_descend_of_mem_sourceNames (hproper : Proper entries)
    (h : names ∈ sourceNames settings recursive denied entries) :
    ∃ leaf, (FileNode.directory entries).descend names = some leaf
      ∧ leaf.isDirectory = false := by
  rw [sourceNames] at h
  split at h
  · exact exists_descend_of_mem_scanNames hproper h
  · rw [flatNames_eq_foundNames] at h
    exact exists_descend_of_mem_foundNames hproper h

/-- A scan of the larger tree finds what it found before, and perhaps the new entry. -/
lemma Grown.filter_sourceNames (h : Grown name node place entries larger) (hproper : Proper larger)
    (hquiet : node.isDirectory = true → settings.excludesDirectory name = true)
    (hdenied : ∀ names, (∀ n ∈ names, IsName n) → ¬ place ++ [name] <+: names →
      denied names = others names) :
    (sourceNames settings recursive denied larger).filter (· != place ++ [name])
      = sourceNames settings recursive others entries := by
  rw [sourceNames, sourceNames]
  split
  · exact h.filter_scanNames hproper hquiet hdenied
  · exact h.filter_flatNames hproper hquiet

namespace AddsEntry

/-- What is found at other names is loaded alike. -/
lemma loaded?_joinAll (h : AddsEntry fs grown place name node) (parser : Parser)
    (settings : Settings) (hpass : place ++ [name] ∉ fs.placesOn root)
    (hnames : ∀ n ∈ names, IsName n)
    (hnew : ¬ place ++ [name] <+: fs.namesTo root ++ names) :
    grown.loaded? parser settings (joinAll root names)
      = fs.loaded? parser settings (joinAll root names) := by
  have hpass' : place ++ [name] ∉ fs.placesOn (joinAll root names) := by
    intro hmem
    rcases mem_placesOn_joinAll h.wellFormed_old h.hasWorkingDirectory hnames hmem with hmem | hmem
    · exact hpass hmem
    · exact hnew hmem
  rw [loaded?, loaded?, h.load_eq parser settings hpass']

/-- Directories that are not below the new entry can be listed as before. -/
lemma denial_eq (h : AddsEntry fs grown place name node) (hnames : ∀ n ∈ names, IsName n)
    (hnew : ¬ place ++ [name] <+: fs.namesTo root ++ names) :
    grown.denial root names = fs.denial root names := by
  rw [denial, denial]
  refine h.denies_eq ?_
  rwa [namesTo_joinAll fs hnames]

end AddsEntry

/-- A harmless directory is one that settings exclude. -/
lemma Harmless.excludesDirectory (h : Harmless parser settings grown root place name node)
    (hdir : node.isDirectory = true) : settings.excludesDirectory name = true := by
  cases h with
  | unsought => simp [FileNode.isDirectory] at hdir
  | unopenable => simp [FileNode.isDirectory] at hdir
  | faulty => simp [FileNode.isDirectory] at hdir
  | excluded h => exact h

/-- If a scan finds the new entry at all, nothing is loaded from it. -/
lemma Harmless.loaded?_eq_none (h : Harmless parser settings grown root place name node)
    (hadds : AddsEntry fs grown place name node) {rest : List String}
    (hplace : place = fs.namesTo root ++ rest) (hgrown : Grown name node rest entries larger)
    (hproper : Proper larger)
    (hown : rest ++ [name] ∈ sourceNames settings recursive denied larger) :
    grown.loaded? parser settings (joinAll root (rest ++ [name])) = none := by
  have hfile := isFilePath_of_mem_sourceNames hproper hown
  have hnames : grown.namesTo (joinAll root (rest ++ [name])) = place ++ [name] := by
    rw [hadds.namesTo_eq, namesTo_joinAll fs hfile.isName, hplace, List.append_assoc]
  cases hloaded : grown.loaded? parser settings (joinAll root (rest ++ [name])) with
  | none => rfl
  | some source =>
    obtain ⟨-, -, held, hread, haccept⟩ := of_load_eq_some (load_of_loaded?_eq_some hloaded)
    cases h with
    | unsought h =>
      obtain ⟨front, last, hlast, hcand⟩ := hfile.last
      obtain ⟨-, hname⟩ := List.append_inj' hlast rfl
      rw [List.singleton_inj.mp hname] at h
      rw [h] at hcand
      exact absurd hcand (by decide)
    | unopenable h => exact absurd hread (h _ hfile.isName hnames held)
    | @faulty content hskips h =>
      -- what is read is what was put there
      have hnode := descend_of_resolve hadds.wellFormed (hadds.entries.linkFree hadds.linkFree)
        hadds.hasWorkingDirectory_new (resolve_of_read hread).2
      rw [hnames, nodeAt, hadds.entries.descend_new hadds.wellFormed, Option.some_inj,
        FileNode.file.injEq] at hnode
      rw [accept_value, ← hnode, h, hskips] at haccept
      simp at haccept
    | excluded h =>
      obtain ⟨leaf, hleaf, hdir⟩ := exists_descend_of_mem_sourceNames hproper hown
      rw [hgrown.descend_new hproper, Option.some_inj] at hleaf
      rw [← hleaf] at hdir
      simp [FileNode.isDirectory] at hdir

namespace AddsEntry

/-- Where the new entry lies below the root, the sources are those of the names that are found
without it. -/
lemma filterMap_loaded?_of_grown (h : AddsEntry fs grown place name node)
    (hpass : place ++ [name] ∉ fs.placesOn root)
    (hharmless : Harmless parser settings grown root place name node) {rest : List String}
    (hplace : place = fs.namesTo root ++ rest) (hgrown : Grown name node rest entries larger)
    (hproper : Proper larger) :
    (sourceNames settings recursive (grown.denial root) larger).filterMap
        (fun names => grown.loaded? parser settings (joinAll root names))
      = (sourceNames settings recursive (fs.denial root) entries).filterMap
        fun names => fs.loaded? parser settings (joinAll root names) := by
  have hown : ∀ names, place ++ [name] <+: fs.namesTo root ++ names ↔ rest ++ [name] <+: names := by
    intro names
    rw [hplace, List.append_assoc, List.prefix_append_right_inj]
  have hfilter : (sourceNames settings recursive (grown.denial root) larger).filter
        (· != rest ++ [name])
      = sourceNames settings recursive (fs.denial root) entries := by
    refine hgrown.filter_sourceNames hproper hharmless.excludesDirectory fun names hnames hnew => ?_
    exact h.denial_eq hnames fun hprefix => hnew ((hown names).mp hprefix)
  rw [← hfilter, List.filterMap_filter]
  refine List.filterMap_congr fun names hnames => ?_
  split
  · next hne =>
    -- other names are found without the new entry too, so they are not below it
    have hmem : names ∈ sourceNames settings recursive (fs.denial root) entries :=
      hfilter ▸ List.mem_filter.mpr ⟨hnames, hne⟩
    have hfile := isFilePath_of_mem_sourceNames hproper hnames
    refine h.loaded?_joinAll parser settings hpass hfile.isName fun hprefix => ?_
    obtain ⟨more, rfl⟩ := (hown names).mp hprefix
    obtain ⟨leaf, hleaf, -⟩ := exists_descend_of_mem_sourceNames (hgrown.proper hproper) hmem
    rw [FileNode.descend_append, hgrown.descend_old hproper] at hleaf
    simp at hleaf
  · next heq =>
    rw [bne_iff_ne, not_not] at heq
    subst heq
    exact hharmless.loaded?_eq_none h hplace hgrown hproper hnames

/-- Where the new entry does not lie below the root, nothing below the root has changed. -/
lemma filterMap_loaded?_of_not_isPrefix (h : AddsEntry fs grown place name node)
    (hpass : place ++ [name] ∉ fs.placesOn root) (hplace : ¬ fs.namesTo root <+: place)
    (hroot : ¬ place ++ [name] <+: fs.namesTo root) (hproper : Proper entries) :
    (sourceNames settings recursive (grown.denial root) entries).filterMap
        (fun names => grown.loaded? parser settings (joinAll root names))
      = (sourceNames settings recursive (fs.denial root) entries).filterMap
        fun names => fs.loaded? parser settings (joinAll root names) := by
  have hnew : ∀ names, ¬ place ++ [name] <+: fs.namesTo root ++ names := by
    intro names hprefix
    rcases List.prefix_or_prefix_of_prefix hprefix (List.prefix_append _ _) with hle | hle
    · exact hroot hle
    · rcases List.prefix_concat_iff.mp hle with heq | hle
      · exact hroot (heq ▸ List.prefix_refl _)
      · exact hplace hle
  have hnames : sourceNames settings recursive (grown.denial root) entries
      = sourceNames settings recursive (fs.denial root) entries := by
    rw [sourceNames, sourceNames,
      scanNames_congr hproper fun names hnames => h.denial_eq hnames (hnew names)]
  rw [hnames]
  refine List.filterMap_congr fun names hmem => ?_
  have hfile := isFilePath_of_mem_sourceNames hproper hmem
  exact h.loaded?_joinAll parser settings hpass hfile.isName (hnew names)

/-- **Harmless entries make no difference.** A scan of a root whose path does not come by the new
entry yields the same sources with it and without it. -/
theorem sources_eq (h : AddsEntry fs grown place name node)
    (hpass : place ++ [name] ∉ fs.placesOn root)
    (hharmless : Harmless parser settings grown root place name node) (recursive : Bool) :
    grown.sources parser settings root recursive = fs.sources parser settings root recursive := by
  rw [FileSystem.sources_eq, FileSystem.sources_eq]
  cases hfile : fs.isFile root with
  | true =>
    -- the root is a file, and it is not the new one
    rw [scan, scan, h.isFile_eq hpass, hfile, if_pos rfl, if_pos rfl]
    split
    · have hload : grown.loaded? parser settings root = fs.loaded? parser settings root := by
        rw [loaded?, loaded?, h.load_eq parser settings hpass]
      simp only [ScanStep.path?, List.filterMap_cons, List.filterMap_nil, hload]
    · rfl
  | false =>
    rcases h.list_alike hpass with
      ⟨entries, larger, hlist, hlist', hold, hnew⟩ | ⟨⟨fault, hlist⟩, fault', hlist'⟩
    · have hproper := proper_of_list h.wellFormed hlist'
      rw [paths_eq h.wellFormed hlist', paths_eq h.wellFormed_old hlist, List.filterMap_map,
        List.filterMap_map]
      have hroot := h.not_isPrefix_of_nodeAt hold
      -- the root is on the way to the new entry, or its directory is the same on both sides
      rcases h.entries.descend_cases h.wellFormed hroot with
        ⟨rest, inner, inner', hplace, hinner, hinner', hgrown⟩ | ⟨hplace, heq⟩
      · rw [show fs.nodeAt (fs.namesTo root) = _ from hinner, Option.some_inj,
          FileNode.directory.injEq] at hold
        rw [show grown.nodeAt (fs.namesTo root) = _ from hinner', Option.some_inj,
          FileNode.directory.injEq] at hnew
        subst hold hnew
        exact h.filterMap_loaded?_of_grown hpass hharmless hplace hgrown hproper
      · have hsame : larger = entries := by
          have hnode : grown.nodeAt (fs.namesTo root) = fs.nodeAt (fs.namesTo root) := heq
          rwa [hold, hnew, Option.some_inj, FileNode.directory.injEq] at hnode
        subst hsame
        exact h.filterMap_loaded?_of_not_isPrefix hpass hplace hroot hproper
    · rw [paths_eq_nil hfile hlist, paths_eq_nil ((h.isFile_eq hpass).trans hfile) hlist']
      rfl

end AddsEntry

end FileSystem

end InterfaceAtlas
