import InterfaceAtlas.Files.Scan
import InterfaceAtlas.Proofs.Container.OrderedMap
import InterfaceAtlas.Proofs.Files.Tree
import Mathlib.Data.String.Basic

/-!
# Walks by name

Where a walk gets to does not depend on how its root is spelled. So a walk is read here as a list of
`NamedStep`s, steps with the names that lead to them from the root, and `walk_eq` says that the walk
of a root takes these steps under the root's path.

Where a walk gets to is then described without any walk: `IsSourceAt` asks for real sub-directories
that settings do not exclude and for a candidate in the last of them, `FailsAt` for a last one that
cannot be listed.
-/

namespace InterfaceAtlas

open InterfaceAtlas.Path

/-- A step of a walk, by the names that lead to it from the root. -/
inductive NamedStep where
  | file (names : List String)
  | passedOver (names : List String)
  | failed (names : List String)
deriving DecidableEq

namespace NamedStep

/-- The step as seen from one directory further up. -/
def below (name : String) : NamedStep → NamedStep
  | file names => file (name :: names)
  | passedOver names => passedOver (name :: names)
  | failed names => failed (name :: names)

/-- The step of a walk from `root` on. -/
def under (root : String) : NamedStep → WalkStep
  | file names => .file (joinAll root names)
  | passedOver names => .passedOver (joinAll root names)
  | failed names => .failed (joinAll root names) (.refused .denied)

/-- The names that lead to a step. -/
def names : NamedStep → List String
  | file names => names
  | passedOver names => names
  | failed names => names

/-- The names that lead to the file of a step. -/
def file? : NamedStep → Option (List String)
  | file names => some names
  | _ => none

/-- Whether the step ends the walk. -/
def isFailure : NamedStep → Bool
  | failed _ => true
  | _ => false

lemma under_below (root name : String) (s : NamedStep) :
    (s.below name).under root = s.under (join root name) := by
  cases s <;> rfl

@[simp] lemma isFailure_under (root : String) (s : NamedStep) :
    (s.under root).isFailure = s.isFailure := by
  cases s <;> rfl

@[simp] lemma isFailure_below (name : String) (s : NamedStep) :
    (s.below name).isFailure = s.isFailure := by
  cases s <;> rfl

@[simp] lemma names_below (name : String) (s : NamedStep) :
    (s.below name).names = name :: s.names := by
  cases s <;> rfl

lemma file?_below (name : String) (s : NamedStep) :
    (s.below name).file? = s.file?.map (name :: ·) := by
  cases s <;> rfl

lemma eq_file_of_file?_eq_some {s : NamedStep} {names : List String}
    (h : s.file? = some names) : s = file names := by
  cases s with
  | file others => exact congrArg file (Option.some_inj.mp h)
  | passedOver others => simp [file?] at h
  | failed others => simp [file?] at h

lemma exists_eq_failed {s : NamedStep} (h : s.isFailure = true) : ∃ names, s = failed names := by
  cases s with
  | file names => simp [isFailure] at h
  | passedOver names => simp [isFailure] at h
  | failed names => exact ⟨names, rfl⟩

end NamedStep

namespace FileSystem

/-! ## Things in the order of their names -/

/-- What belongs to a name may be changed before or after sorting. -/
lemma byName_map {α β : Type} (f : String × α → β) (xs : List (String × α)) :
    byName (xs.map fun x => (x.1, f x)) = (byName xs).map fun x => (x.1, f x) := by
  symm
  refine List.map_mergeSort fun a _ b _ => ?_
  rfl

lemma mem_byName {α : Type} {xs : List (String × α)} {x : String × α} : x ∈ byName xs ↔ x ∈ xs :=
  (List.mergeSort_perm xs _).mem_iff

/-- Where no two names are the same, each name comes before the next. -/
lemma pairwise_byName {α : Type} {xs : List (String × α)} (h : (xs.map Prod.fst).Nodup) :
    (byName xs).Pairwise fun a b => a.1 < b.1 :=
  pairwise_mergeSort_key h

/-- One thing more goes somewhere among the others, and where it goes its name alone settles. -/
lemma exists_byName_append {α : Type} {before after : List (String × α)} {name : String} {a : α}
    (h : ((before ++ (name, a) :: after).map Prod.fst).Nodup) :
    ∃ front back, byName (before ++ after) = front ++ back
      ∧ ∀ b, byName (before ++ (name, b) :: after) = front ++ (name, b) :: back := by
  have hmem : (name, a) ∈ byName (before ++ (name, a) :: after) := mem_byName.mpr (by simp)
  obtain ⟨front, back, hsplit⟩ := List.append_of_mem hmem
  have hsorted : ((front ++ (name, a) :: back).map Prod.fst).Pairwise (· < ·) :=
    List.pairwise_map.mpr (hsplit ▸ pairwise_byName h)
  have hperm : (front ++ back).Perm (before ++ after) := by
    have hwhole : (front ++ (name, a) :: back).Perm (before ++ (name, a) :: after) :=
      hsplit ▸ List.mergeSort_perm _ _
    exact (List.perm_middle.symm.trans (hwhole.trans List.perm_middle)).cons_inv
  refine ⟨front, back, mergeSort_key_eq_of_perm ?_ ?_ hperm, fun b =>
    mergeSort_key_eq_of_perm ?_ ?_ ?_⟩
  · exact h.sublist (((List.sublist_cons_self _ _).append_left _).map _)
  · exact hsorted.sublist (((List.sublist_cons_self _ _).append_left _).map _)
  · rwa [List.map_append, List.map_cons] at h ⊢
  · rwa [List.map_append, List.map_cons] at hsorted ⊢
  · exact List.perm_middle.trans ((hperm.cons _).trans List.perm_middle.symm)

/-! ## The steps of a walk -/

mutual

/-- The steps below an entry of a directory, where `denied` says which directories further down
cannot be listed. -/
def nodeSteps (settings : Settings) (denied : List String → Bool) (name : String) :
    FileNode → List NamedStep
  | .directory entries =>
    if settings.excludesDirectory name then [.passedOver [name]]
    else if denied [name] then [.failed [name]]
    else ((byName (nodesSteps settings (fun names => denied (name :: names)) entries)).flatMap
      Prod.snd).map (NamedStep.below name)
  | _ => if settings.isCandidate name then [.file [name]] else []

/-- The steps below each of the entries of a directory, by name. -/
def nodesSteps (settings : Settings) (denied : List String → Bool) :
    List (String × FileNode) → List (String × List NamedStep)
  | [] => []
  | (name, node) :: more =>
    (name, nodeSteps settings denied name node) :: nodesSteps settings denied more

end

/-- The steps of a walk over the entries of a directory. -/
def namedSteps (settings : Settings) (denied : List String → Bool)
    (entries : List (String × FileNode)) : List NamedStep :=
  (byName (nodesSteps settings denied entries)).flatMap Prod.snd

lemma nodesSteps_eq_map (settings : Settings) (denied : List String → Bool)
    (entries : List (String × FileNode)) :
    nodesSteps settings denied entries
      = entries.map fun e => (e.1, nodeSteps settings denied e.1 e.2) := by
  induction entries with
  | nil => rw [nodesSteps, List.map_nil]
  | cons e more ih => rw [nodesSteps, ih, List.map_cons]

/-- A walk over entries takes them in the order of their names. -/
lemma namedSteps_eq_flatMap (settings : Settings) (denied : List String → Bool)
    (entries : List (String × FileNode)) :
    namedSteps settings denied entries
      = (byName entries).flatMap fun e => nodeSteps settings denied e.1 e.2 := by
  rw [namedSteps, nodesSteps_eq_map, byName_map, List.flatMap_map]

lemma mem_namedSteps {settings : Settings} {denied : List String → Bool}
    {entries : List (String × FileNode)} {s : NamedStep} :
    s ∈ namedSteps settings denied entries
      ↔ ∃ name node, (name, node) ∈ entries ∧ s ∈ nodeSteps settings denied name node := by
  rw [namedSteps_eq_flatMap, List.mem_flatMap]
  simp only [mem_byName, Prod.exists]

/-- An entry that is no directory is a file of its own, if it is a candidate. -/
lemma nodeSteps_of_isDirectory_eq_false (settings : Settings) (denied : List String → Bool)
    (name : String) {node : FileNode} (h : node.isDirectory = false) :
    nodeSteps settings denied name node
      = if settings.isCandidate name then [.file [name]] else [] := by
  cases node with
  | directory inner => simp [FileNode.isDirectory] at h
  | file content => simp only [nodeSteps]
  | link target => simp only [nodeSteps]

/-- A directory is passed over, or it fails, or the walk goes on over its entries. -/
lemma nodeSteps_directory (settings : Settings) (denied : List String → Bool) (name : String)
    (inner : List (String × FileNode)) :
    nodeSteps settings denied name (.directory inner)
      = if settings.excludesDirectory name then [.passedOver [name]]
        else if denied [name] then [.failed [name]]
        else (namedSteps settings (fun names => denied (name :: names)) inner).map
          (NamedStep.below name) := by
  rw [nodeSteps, namedSteps]

/-- A step below an entry is reached by the entry's name first. -/
lemma exists_cons_of_mem_nodeSteps {settings : Settings} {denied : List String → Bool}
    {name : String} {node : FileNode} {s : NamedStep}
    (h : s ∈ nodeSteps settings denied name node) : ∃ more, s.names = name :: more := by
  rcases isDirectory_eq_false_or node with hdir | ⟨inner, rfl⟩
  · rw [nodeSteps_of_isDirectory_eq_false settings denied name hdir] at h
    split at h
    · rw [List.mem_singleton.mp h]
      exact ⟨[], rfl⟩
    · simp at h
  · rw [nodeSteps_directory] at h
    split at h
    · rw [List.mem_singleton.mp h]
      exact ⟨[], rfl⟩
    · split at h
      · rw [List.mem_singleton.mp h]
        exact ⟨[], rfl⟩
      · obtain ⟨t, -, rfl⟩ := List.mem_map.mp h
        exact ⟨t.names, NamedStep.names_below name t⟩

/-- Steps are taken in the order of their names, compared one name after the other. -/
theorem pairwise_namedSteps {entries : List (String × FileNode)} (h : Proper entries)
    (settings : Settings) (denied : List String → Bool) :
    (namedSteps settings denied entries).Pairwise fun s t => s.names < t.names := by
  -- the induction is on the tree of directories, whose entries have names in strict order
  induction h generalizing denied with
  | @mk entries distinct named below ih =>
    rw [namedSteps_eq_flatMap, List.pairwise_flatMap]
    refine ⟨fun e he => ?_, (pairwise_byName distinct).imp fun hlt s hs t ht => ?_⟩
    · obtain ⟨name, node⟩ := e
      rcases isDirectory_eq_false_or node with hdir | ⟨inner, rfl⟩
      · rw [nodeSteps_of_isDirectory_eq_false settings denied name hdir]
        split <;> simp
      · rw [nodeSteps_directory]
        split
        · exact List.pairwise_singleton _ _
        · split
          · exact List.pairwise_singleton _ _
          · refine List.pairwise_map.mpr ((ih name inner (mem_byName.mp he) _).imp fun hlt => ?_)
            rw [NamedStep.names_below, NamedStep.names_below]
            exact List.cons_lt_cons_iff.mpr (Or.inr ⟨rfl, hlt⟩)
    · -- steps below different entries differ in the first name
      obtain ⟨more, hmore⟩ := exists_cons_of_mem_nodeSteps hs
      obtain ⟨more', hmore'⟩ := exists_cons_of_mem_nodeSteps ht
      rw [hmore, hmore']
      exact List.cons_lt_cons_iff.mpr (Or.inl hlt)

/-- The steps below an entry are settled by those below a directory that settings do not exclude. -/
lemma nodeSteps_congr {settings : Settings} {denied others : List String → Bool} {name : String}
    {node : FileNode}
    (h : ∀ inner, node = .directory inner → settings.excludesDirectory name = false →
      denied [name] = others [name]
        ∧ namedSteps settings (fun names => denied (name :: names)) inner
          = namedSteps settings (fun names => others (name :: names)) inner) :
    nodeSteps settings denied name node = nodeSteps settings others name node := by
  rcases isDirectory_eq_false_or node with hdir | ⟨inner, rfl⟩
  · rw [nodeSteps_of_isDirectory_eq_false settings denied name hdir,
      nodeSteps_of_isDirectory_eq_false settings others name hdir]
  · rw [nodeSteps_directory, nodeSteps_directory]
    by_cases hex : settings.excludesDirectory name
    · rw [if_pos hex, if_pos hex]
    · rw [Bool.not_eq_true] at hex
      obtain ⟨hdenied, hbelow⟩ := h inner rfl hex
      rw [hdenied, hbelow]

/-- Whether a directory can be listed matters only where no name on the way is excluded. -/
lemma namedSteps_congr {settings : Settings} {entries : List (String × FileNode)}
    (h : Proper entries) {denied others : List String → Bool}
    (hdenied : ∀ names, (∀ n ∈ names, IsName n ∧ settings.excludesDirectory n = false) →
      denied names = others names) :
    namedSteps settings denied entries = namedSteps settings others entries := by
  induction h generalizing denied others with
  | @mk entries distinct named below ih =>
    rw [namedSteps_eq_flatMap, namedSteps_eq_flatMap]
    refine List.flatMap_congr fun e he => nodeSteps_congr fun inner hinner hex => ?_
    obtain ⟨name, node⟩ := e
    subst hinner
    have he : (name, FileNode.directory inner) ∈ entries := mem_byName.mp he
    -- below a directory the walk asks for longer names, which are names of entries too
    have hcons : ∀ names, (∀ n ∈ names, IsName n ∧ settings.excludesDirectory n = false) →
        denied (name :: names) = others (name :: names) := by
      intro names hnames
      exact hdenied _ (List.forall_mem_cons.mpr ⟨⟨named _ he, hex⟩, hnames⟩)
    exact ⟨hcons [] (by simp), ih name inner he hcons⟩

/-- The directories below `root` that cannot be listed. -/
def denial (fs : FileSystem) (root : String) (names : List String) : Bool :=
  fs.denies (joinAll root names)

mutual

/-- The steps below an entry, by names instead of paths. -/
lemma entrySteps_eq (fs : FileSystem) (settings : Settings) (directory name : String) :
    ∀ node : FileNode, fs.entrySteps settings directory name node
      = (nodeSteps settings (fs.denial directory) name node).map (NamedStep.under directory)
  | .directory entries => by
    have hbelow : (fun names => fs.denial directory (name :: names))
        = fs.denial (join directory name) := rfl
    have hunder : NamedStep.under directory ∘ NamedStep.below name
        = NamedStep.under (join directory name) := by
      funext s
      exact NamedStep.under_below directory name s
    have hdenied : fs.denies (join directory name) = fs.denial directory [name] := rfl
    simp only [entrySteps, nodeSteps, hbelow, hdenied]
    split
    · rfl
    · split
      · rfl
      · rw [entriesSteps_eq fs settings (join directory name) entries, byName_map,
          List.flatMap_map, List.map_map, hunder, List.map_flatMap]
  | .file content => by
    simp only [entrySteps, nodeSteps]
    split <;> rfl
  | .link target => by
    simp only [entrySteps, nodeSteps]
    split <;> rfl

lemma entriesSteps_eq (fs : FileSystem) (settings : Settings) (directory : String) :
    ∀ entries : List (String × FileNode), fs.entriesSteps settings directory entries
      = (nodesSteps settings (fs.denial directory) entries).map fun e =>
          (e.1, e.2.map (NamedStep.under directory))
  | [] => by rw [entriesSteps, nodesSteps, List.map_nil]
  | (name, node) :: more => by
    rw [entriesSteps, nodesSteps, List.map_cons, entrySteps_eq fs settings directory name node,
      entriesSteps_eq fs settings directory more]

end

lemma takeThrough_map {α β : Type} (test : β → Bool) (f : α → β) (xs : List α) :
    takeThrough test (xs.map f) = (takeThrough (test ∘ f) xs).map f := by
  induction xs with
  | nil => rfl
  | cons a more ih =>
    rw [List.map_cons, takeThrough, takeThrough, ih, Function.comp_apply]
    split <;> rfl

/-- The steps of a walk over entries, up to the first directory that cannot be listed. -/
def walkedSteps (settings : Settings) (denied : List String → Bool)
    (entries : List (String × FileNode)) : List NamedStep :=
  takeThrough NamedStep.isFailure (namedSteps settings denied entries)

/-- The walk of a directory that can be listed takes the steps over its entries. -/
theorem walk_eq {fs : FileSystem} {settings : Settings} {root : String}
    {entries : List (String × FileNode)} (h : fs.list root = .ok entries) :
    fs.walk settings root
      = (walkedSteps settings (fs.denial root) entries).map (NamedStep.under root) := by
  have htest : WalkStep.isFailure ∘ NamedStep.under root = NamedStep.isFailure := by
    funext s
    exact NamedStep.isFailure_under root s
  simp only [walk, h]
  rw [entriesSteps_eq, byName_map, List.flatMap_map, walkedSteps, ← htest, ← takeThrough_map,
    namedSteps, List.map_flatMap]

/-! ## The files that a walk finds -/

/-- The files that the steps of a walk over entries find, by names. -/
def foundNames (settings : Settings) (denied : List String → Bool)
    (entries : List (String × FileNode)) : List (List String) :=
  (namedSteps settings denied entries).filterMap NamedStep.file?

lemma filterMap_nodeSteps_leaf (settings : Settings) (denied : List String → Bool)
    (name : String) {node : FileNode} (h : node.isDirectory = false) :
    (nodeSteps settings denied name node).filterMap NamedStep.file?
      = if settings.isCandidate name then [[name]] else [] := by
  rw [nodeSteps_of_isDirectory_eq_false settings denied name h]
  split <;> rfl

/-- Below a directory that is entered, the files are those of a walk over its entries. -/
lemma filterMap_nodeSteps_directory (settings : Settings) (denied : List String → Bool)
    (name : String) (inner : List (String × FileNode)) :
    (nodeSteps settings denied name (.directory inner)).filterMap NamedStep.file?
      = if settings.excludesDirectory name || denied [name] then []
        else (foundNames settings (fun names => denied (name :: names)) inner).map (name :: ·) := by
  rw [nodeSteps_directory]
  by_cases hex : settings.excludesDirectory name
  · rw [if_pos hex, if_pos (by rw [hex, Bool.true_or])]
    rfl
  · by_cases hdenied : denied [name]
    · rw [if_neg hex, if_pos hdenied, if_pos (by rw [hdenied, Bool.or_true])]
      rfl
    · rw [if_neg hex, if_neg hdenied, if_neg (by simp [hex, hdenied]), List.filterMap_map,
        foundNames, List.map_filterMap]
      refine List.filterMap_congr fun s _ => ?_
      exact NamedStep.file?_below name s

lemma foundNames_eq_flatMap (settings : Settings) (denied : List String → Bool)
    (entries : List (String × FileNode)) :
    foundNames settings denied entries
      = (byName entries).flatMap fun e =>
          (nodeSteps settings denied e.1 e.2).filterMap NamedStep.file? := by
  rw [foundNames, namedSteps_eq_flatMap, List.filterMap_flatMap]

/-- Files are found in the order of their names, compared one name after the other. -/
theorem pairwise_foundNames {entries : List (String × FileNode)} (h : Proper entries)
    (settings : Settings) (denied : List String → Bool) :
    (foundNames settings denied entries).Pairwise (· < ·) := by
  refine (pairwise_namedSteps h settings denied).filterMap _ fun s t hlt names hs others ht => ?_
  rw [NamedStep.eq_file_of_file?_eq_some hs, NamedStep.eq_file_of_file?_eq_some ht] at hlt
  exact hlt

/-- What is found is found below some entry. -/
lemma mem_foundNames {settings : Settings} {denied : List String → Bool}
    {entries : List (String × FileNode)} {names : List String} :
    names ∈ foundNames settings denied entries
      ↔ ∃ name node, (name, node) ∈ entries
        ∧ names ∈ (nodeSteps settings denied name node).filterMap NamedStep.file? := by
  rw [foundNames_eq_flatMap, List.mem_flatMap]
  simp only [mem_byName, Prod.exists]

/-- Names by which a file can be found: the last is that of a candidate. -/
structure IsFilePath (settings : Settings) (names : List String) : Prop where
  isName : ∀ n ∈ names, IsName n
  last : ∃ front name, names = front ++ [name] ∧ settings.isCandidate name

lemma IsFilePath.ne_nil {settings : Settings} {names : List String}
    (h : IsFilePath settings names) : names ≠ [] := by
  obtain ⟨front, name, rfl, -⟩ := h.last
  exact List.append_ne_nil_of_right_ne_nil _ (List.cons_ne_nil _ _)

lemma isFilePath_singleton {settings : Settings} {name : String} (hname : IsName name)
    (hcand : settings.isCandidate name) : IsFilePath settings [name] :=
  ⟨by simpa using hname, [], name, rfl, hcand⟩

lemma IsFilePath.cons {settings : Settings} {name : String} {names : List String}
    (hname : IsName name) (h : IsFilePath settings names) :
    IsFilePath settings (name :: names) := by
  obtain ⟨front, last, hsplit, hcand⟩ := h.last
  refine ⟨fun n hn => ?_, name :: front, last, by rw [hsplit, List.cons_append], hcand⟩
  rcases List.mem_cons.mp hn with rfl | hn
  · exact hname
  · exact h.isName n hn

/-- Files are found by names of entries. -/
lemma isFilePath_of_mem_foundNames {entries : List (String × FileNode)} (h : Proper entries)
    {settings : Settings} {denied : List String → Bool} {names : List String}
    (hnames : names ∈ foundNames settings denied entries) : IsFilePath settings names := by
  induction h generalizing denied names with
  | @mk entries distinct named below ih =>
    obtain ⟨name, node, he, hnode⟩ := mem_foundNames.mp hnames
    have hname : IsName name := named _ he
    rcases isDirectory_eq_false_or node with hdir | ⟨inner, rfl⟩
    · rw [filterMap_nodeSteps_leaf settings denied name hdir] at hnode
      split at hnode
      · next hcand =>
        rw [List.mem_singleton.mp hnode]
        exact isFilePath_singleton hname hcand
      · simp at hnode
    · rw [filterMap_nodeSteps_directory] at hnode
      split at hnode
      · simp at hnode
      · obtain ⟨more, hmore, rfl⟩ := List.mem_map.mp hnode
        exact (ih name inner he hmore).cons hname

/-! ## What there is to find -/

/-- Names that lead from a directory to a directory: each is that of a real sub-directory of the one
before, and settings do not exclude it. -/
inductive LeadsTo (fs : FileSystem) (settings : Settings) : String → List String → Prop
  | here (directory : String) : LeadsTo fs settings directory []
  | enter {directory name : String} {entries inner : List (String × FileNode)}
      {names : List String} (listed : fs.list directory = .ok entries)
      (mem : (name, FileNode.directory inner) ∈ entries)
      (entered : settings.excludesDirectory name = false)
      (more : LeadsTo fs settings (join directory name) names) :
      LeadsTo fs settings directory (name :: names)

/-- Each directory that names lead to from the root can be listed. -/
def Listable (fs : FileSystem) (settings : Settings) (root : String) : Prop :=
  ∀ names, LeadsTo fs settings root names → ∃ entries, fs.list (joinAll root names) = .ok entries

/-- Names that lead from the root to a directory, and in it to a candidate that is no directory
itself. -/
def IsSourceAt (fs : FileSystem) (settings : Settings) (root : String) (names : List String) :
    Prop :=
  ∃ directories name entries node, names = directories ++ [name]
    ∧ LeadsTo fs settings root directories
    ∧ fs.list (joinAll root directories) = .ok entries ∧ (name, node) ∈ entries
    ∧ node.isDirectory = false ∧ settings.isCandidate name

/-- A source lies in the directory itself or in one of its sub-directories. -/
lemma isSourceAt_iff {fs : FileSystem} {settings : Settings} {directory : String}
    {entries : List (String × FileNode)} (hlist : fs.list directory = .ok entries)
    {names : List String} :
    IsSourceAt fs settings directory names
      ↔ (∃ name node, names = [name] ∧ (name, node) ∈ entries ∧ node.isDirectory = false
          ∧ settings.isCandidate name)
        ∨ ∃ name inner more, names = name :: more ∧ (name, FileNode.directory inner) ∈ entries
          ∧ settings.excludesDirectory name = false
          ∧ IsSourceAt fs settings (join directory name) more := by
  constructor
  · rintro ⟨directories, name, listed, node, rfl, hleads, hlisted, hmem, hdir, hcand⟩
    cases hleads with
    | here =>
      rw [joinAll_nil, hlist, Except.ok.injEq] at hlisted
      exact Or.inl ⟨name, node, rfl, hlisted ▸ hmem, hdir, hcand⟩
    | @enter _ sub entries' inner directories hl he hex hmore =>
      rw [hlist, Except.ok.injEq] at hl
      exact Or.inr ⟨sub, inner, _, rfl, hl ▸ he, hex, directories, name, listed, node, rfl, hmore,
        hlisted, hmem, hdir, hcand⟩
  · rintro (⟨name, node, rfl, hmem, hdir, hcand⟩ | ⟨name, inner, more, rfl, he, hex, hsource⟩)
    · exact ⟨[], name, entries, node, rfl, .here _, hlist, hmem, hdir, hcand⟩
    · obtain ⟨directories, last, listed, node, rfl, hleads, hlisted, hmem, hdir, hcand⟩ := hsource
      exact ⟨name :: directories, last, listed, node, rfl, .enter hlist he hex hleads, hlisted,
        hmem, hdir, hcand⟩

/-- Where there is a source to find, the directory can be listed. -/
lemma IsSourceAt.exists_list {fs : FileSystem} {settings : Settings} {directory : String}
    {names : List String} (h : IsSourceAt fs settings directory names) :
    ∃ entries, fs.list directory = .ok entries := by
  obtain ⟨directories, name, entries, node, -, hleads, hlist, -⟩ := h
  cases hleads with
  | here => exact ⟨entries, hlist⟩
  | enter listed => exact ⟨_, listed⟩

/-- A walk finds a file wherever there is one to find. -/
theorem mem_foundNames_iff {fs : FileSystem} (hfs : fs.WellFormed) {settings : Settings}
    {directory : String} {entries : List (String × FileNode)}
    (hlist : fs.list directory = .ok entries) {names : List String} :
    names ∈ foundNames settings (fs.denial directory) entries
      ↔ IsSourceAt fs settings directory names := by
  have hproper := proper_of_list hfs hlist
  induction hproper generalizing directory names with
  | @mk entries distinct named below ih =>
    rw [mem_foundNames, isSourceAt_iff hlist]
    constructor
    · -- what is found is there
      rintro ⟨name, node, he, hnode⟩
      rcases isDirectory_eq_false_or node with hdir | ⟨inner, rfl⟩
      · rw [filterMap_nodeSteps_leaf settings _ name hdir] at hnode
        split at hnode
        · next hcand => exact Or.inl ⟨name, node, List.mem_singleton.mp hnode, he, hdir, hcand⟩
        · simp at hnode
      · rw [filterMap_nodeSteps_directory] at hnode
        split at hnode
        · simp at hnode
        · next hopen =>
          rw [Bool.not_eq_true, Bool.or_eq_false_iff] at hopen
          obtain ⟨more, hmore, rfl⟩ := List.mem_map.mp hnode
          have hinner := list_join hfs hlist he hopen.2
          exact Or.inr ⟨name, inner, more, rfl, he, hopen.1, (ih name inner he hinner).mp hmore⟩
    · -- what is there is found, since the directories on the way can be listed
      rintro (⟨name, node, rfl, he, hdir, hcand⟩ | ⟨name, inner, more, rfl, he, hex, hsource⟩)
      · refine ⟨name, node, he, ?_⟩
        rw [filterMap_nodeSteps_leaf settings _ name hdir, if_pos hcand]
        exact List.mem_cons_self
      · obtain ⟨listed, hlisted⟩ := hsource.exists_list
        have hdenied : fs.denial directory [name] = false := (resolve_of_list hlisted).2.1
        have hinner := list_join hfs hlist he hdenied
        refine ⟨name, _, he, ?_⟩
        rw [filterMap_nodeSteps_directory, if_neg (by rw [hex, hdenied]; decide)]
        exact List.mem_map.mpr ⟨more, (ih name inner he hinner).mpr hsource, rfl⟩

/-! ## Where a walk fails -/

/-- Names that lead from the root to a directory that cannot be listed. -/
def FailsAt (fs : FileSystem) (settings : Settings) (root : String) (names : List String) : Prop :=
  LeadsTo fs settings root names ∧ ∀ entries, fs.list (joinAll root names) ≠ .ok entries

/-- All can be listed if nothing fails. -/
lemma listable_iff {fs : FileSystem} {settings : Settings} {root : String} :
    Listable fs settings root ↔ ∀ names, ¬ FailsAt fs settings root names := by
  constructor
  · rintro h names ⟨hleads, hfail⟩
    obtain ⟨entries, hlist⟩ := h names hleads
    exact hfail entries hlist
  · intro h names hleads
    by_contra hnone
    exact h names ⟨hleads, fun entries hlist => hnone ⟨entries, hlist⟩⟩

/-- A directory that can be listed fails in one of its sub-directories. -/
lemma failsAt_iff {fs : FileSystem} {settings : Settings} {directory : String}
    {entries : List (String × FileNode)} (hlist : fs.list directory = .ok entries)
    {names : List String} :
    FailsAt fs settings directory names
      ↔ ∃ name inner more, names = name :: more ∧ (name, FileNode.directory inner) ∈ entries
        ∧ settings.excludesDirectory name = false
        ∧ FailsAt fs settings (join directory name) more := by
  constructor
  · rintro ⟨hleads, hfail⟩
    cases hleads with
    | here => exact absurd hlist (hfail entries)
    | @enter _ name listed inner more hl he hex hmore =>
      rw [hlist, Except.ok.injEq] at hl
      exact ⟨name, inner, more, rfl, hl ▸ he, hex, hmore, hfail⟩
  · rintro ⟨name, inner, more, rfl, he, hex, hleads, hfail⟩
    exact ⟨.enter hlist he hex hleads, hfail⟩

/-- A directory that cannot be listed fails itself, and nothing below it is looked at. -/
lemma failsAt_iff_eq_nil {fs : FileSystem} {settings : Settings} {directory : String}
    (hlist : ∀ entries, fs.list directory ≠ .ok entries) {names : List String} :
    FailsAt fs settings directory names ↔ names = [] := by
  constructor
  · rintro ⟨hleads, -⟩
    cases hleads with
    | here => rfl
    | enter listed => exact absurd listed (hlist _)
  · rintro rfl
    exact ⟨.here _, hlist⟩

lemma list_ne_ok_of_denies {fs : FileSystem} {path : String} (h : fs.denies path)
    (entries : List (String × FileNode)) : fs.list path ≠ .ok entries := by
  intro hlist
  rw [(resolve_of_list hlist).2.1] at h
  exact absurd h (by decide)

/-- A walk fails at each directory that it gets to and that cannot be listed. -/
theorem failed_mem_namedSteps_iff {fs : FileSystem} (hfs : fs.WellFormed) {settings : Settings}
    {directory : String} {entries : List (String × FileNode)}
    (hlist : fs.list directory = .ok entries) {names : List String} :
    .failed names ∈ namedSteps settings (fs.denial directory) entries
      ↔ FailsAt fs settings directory names := by
  have hproper := proper_of_list hfs hlist
  induction hproper generalizing directory names with
  | @mk entries distinct named below ih =>
    rw [mem_namedSteps, failsAt_iff hlist]
    constructor
    · rintro ⟨name, node, he, hs⟩
      rcases isDirectory_eq_false_or node with hdir | ⟨inner, rfl⟩
      · rw [nodeSteps_of_isDirectory_eq_false settings _ name hdir] at hs
        split at hs <;> simp at hs
      · rw [nodeSteps_directory] at hs
        split at hs
        · simp at hs
        · next hex =>
          rw [Bool.not_eq_true] at hex
          split at hs
          · next hdenied =>
            rw [List.mem_singleton, NamedStep.failed.injEq] at hs
            have hfail : FailsAt fs settings (join directory name) [] :=
              (failsAt_iff_eq_nil (list_ne_ok_of_denies hdenied)).mpr rfl
            exact ⟨name, inner, [], hs, he, hex, hfail⟩
          · next hdenied =>
            rw [Bool.not_eq_true] at hdenied
            obtain ⟨t, ht, hbelow⟩ := List.mem_map.mp hs
            cases t with
            | file more => simp [NamedStep.below] at hbelow
            | passedOver more => simp [NamedStep.below] at hbelow
            | failed more =>
              rw [NamedStep.below, NamedStep.failed.injEq] at hbelow
              have hfail := (ih name inner he (list_join hfs hlist he hdenied)).mp ht
              exact ⟨name, inner, more, hbelow.symm, he, hex, hfail⟩
    · rintro ⟨name, inner, more, rfl, he, hex, hfail⟩
      refine ⟨name, _, he, ?_⟩
      rw [nodeSteps_directory, hex, if_neg (by decide)]
      by_cases hdenied : fs.denies (join directory name)
      · rw [failsAt_iff_eq_nil (list_ne_ok_of_denies hdenied)] at hfail
        rw [if_pos (show fs.denial directory [name] = true from hdenied), hfail]
        exact List.mem_cons_self
      · rw [Bool.not_eq_true] at hdenied
        rw [if_neg (by rw [show fs.denial directory [name] = false from hdenied]; decide)]
        have ht := (ih name inner he (list_join hfs hlist he hdenied)).mpr hfail
        exact List.mem_map.mpr ⟨_, ht, rfl⟩

/-- A walk over directories that can be listed does not fail. -/
theorem isFailure_of_listable {fs : FileSystem} (hfs : fs.WellFormed) {settings : Settings}
    {directory : String} {entries : List (String × FileNode)}
    (hlist : fs.list directory = .ok entries) (h : Listable fs settings directory) :
    ∀ s ∈ namedSteps settings (fs.denial directory) entries, s.isFailure = false := by
  intro s hs
  cases s with
  | file names => rfl
  | passedOver names => rfl
  | failed names =>
    exact absurd ((failed_mem_namedSteps_iff hfs hlist).mp hs) (listable_iff.mp h names)

end FileSystem

end InterfaceAtlas
