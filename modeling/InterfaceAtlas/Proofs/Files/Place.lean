import InterfaceAtlas.Proofs.Files.Normal
import InterfaceAtlas.Proofs.Files.Tree

/-!
# Places

A place in a file system is the list of names that lead to it from the root, and `namesTo` reads it
off a path by its text alone. Here it is shown that this reading can be trusted:

* `namesTo_joinAll` and `namesTo_normal`: names joined to a path lead on from its place, and the
  normal spelling of a path is a spelling of the same place;
* `normal_joinAll_injective`: different names below one directory are still different in the normal
  spelling;
* `descend_of_resolve`: where there are no links, what a path leads to is what stands at its place.

`placesOn` lists the places that are looked at on the way, and `mem_placesOn_joinAll` says that
names behind a path add places behind its own only.
-/

namespace InterfaceAtlas

namespace FileSystem

open InterfaceAtlas.Path

/-! ## The place that a path spells -/

/-- The names behind which the components of a path are looked up, the innermost first. -/
def stackFor (fs : FileSystem) (path : String) : List String :=
  if isAbsolute path then [] else fs.workingDirectory.reverse

lemma namesTo_eq (fs : FileSystem) (path : String) :
    fs.namesTo path
      = ((components path).foldl (pushComponent true) (fs.stackFor path)).reverse := rfl

/-- Names joined to a path lead on from its place. -/
lemma namesTo_joinAll (fs : FileSystem) {root : String} {names : List String}
    (hnames : ∀ n ∈ names, IsName n) :
    fs.namesTo (joinAll root names) = fs.namesTo root ++ names := by
  by_cases hnil : names = []
  · rw [hnil, joinAll_nil, List.append_nil]
  · have hstem : (stem root).foldl (pushComponent true) (fs.stackFor root)
        = (components root).foldl (pushComponent true) (fs.stackFor root) := by
      rw [← foldl_pushComponent_filter, ← filter_components, foldl_pushComponent_filter]
    have hstack : fs.stackFor (joinAll root names) = fs.stackFor root := by
      rw [stackFor, stackFor, isAbsolute_joinAll hnames]
    rw [namesTo_eq, namesTo_eq, hstack, components_joinAll hnil hnames, List.foldl_append, hstem,
      foldl_pushComponent_names hnames, List.reverse_append, List.reverse_reverse]

/-- The normal spelling of a path is a spelling of the same place. -/
theorem namesTo_normal (fs : FileSystem) (path : String) :
    fs.namesTo (normal path) = fs.namesTo path := by
  have hstack : fs.stackFor (normal path) = fs.stackFor path := by
    rw [stackFor, stackFor, isAbsolute_normal]
  have habs : isAbsolute path = true → fs.stackFor path = [] := by
    intro h
    rw [stackFor, if_pos h]
  rw [namesTo_eq, namesTo_eq, hstack, foldl_pushComponent_normal, kept,
    foldl_pushComponent_reverse _ _ habs]

/-- Different names below one directory are different in the normal spelling. -/
theorem normal_joinAll_injective {root : String} {names others : List String}
    (hnames : ∀ n ∈ names, IsName n) (hothers : ∀ n ∈ others, IsName n)
    (h : normal (joinAll root names) = normal (joinAll root others)) : names = others := by
  -- both have a place in any file system, and their places start with that of the directory
  have hplace : ({} : FileSystem).namesTo (joinAll root names)
      = ({} : FileSystem).namesTo (joinAll root others) := by
    rw [← namesTo_normal, h, namesTo_normal]
  rw [namesTo_joinAll _ hnames, namesTo_joinAll _ hothers] at hplace
  exact List.append_cancel_left hplace

end FileSystem

/-! ## What stands at a place -/

namespace FileNode

/-- The node under a name; only directories have any. -/
def child : FileNode → String → Option FileNode
  | directory entries, name => entries.lookup name
  | _, _ => none

/-- The node at the end of some names. -/
def descend : FileNode → List String → Option FileNode
  | node, [] => some node
  | node, name :: more => (node.child name).bind fun inner => descend inner more

@[simp] lemma descend_nil (node : FileNode) : node.descend [] = some node := rfl

lemma descend_cons (node : FileNode) (name : String) (more : List String) :
    node.descend (name :: more) = (node.child name).bind fun inner => inner.descend more := rfl

/-- To descend by some names and then by more is to descend by all. -/
lemma descend_append (node : FileNode) (names more : List String) :
    node.descend (names ++ more) = (node.descend names).bind fun inner => inner.descend more := by
  induction names generalizing node with
  | nil => rfl
  | cons name names ih =>
    rw [List.cons_append, descend_cons, descend_cons]
    cases node.child name with
    | none => rfl
    | some inner => exact ih inner

lemma descend_concat (node : FileNode) (names : List String) (name : String) :
    node.descend (names ++ [name]) = (node.descend names).bind fun inner => inner.child name := by
  rw [descend_append]
  refine congrArg _ (funext fun inner => ?_)
  rw [descend_cons]
  cases inner.child name <;> rfl

/-- Nothing stands below what is no directory. -/
lemma of_descend_eq_some {node inner : FileNode} (h : node.isDirectory = false)
    {names : List String} (hinner : node.descend names = some inner) :
    names = [] ∧ inner = node := by
  cases names with
  | nil => exact ⟨rfl, (Option.some_inj.mp hinner).symm⟩
  | cons name more =>
    cases node with
    | directory entries => simp [isDirectory] at h
    | file content => simp [descend_cons, child] at hinner
    | link target => simp [descend_cons, child] at hinner

end FileNode

namespace FileSystem

open InterfaceAtlas.Path

/-- The node at a place. -/
def nodeAt (fs : FileSystem) (names : List String) : Option FileNode :=
  (FileNode.directory fs.entries).descend names

/-- The working directory is a directory of the file system. -/
def HasWorkingDirectory (fs : FileSystem) : Prop :=
  ∃ entries, fs.nodeAt fs.workingDirectory = some (.directory entries)

/-- There are no links among the entries nor in the directories below. -/
inductive LinkFree : List (String × FileNode) → Prop
  | mk {entries : List (String × FileNode)}
      (noLink : ∀ name target, (name, FileNode.link target) ∉ entries)
      (below : ∀ name inner, (name, FileNode.directory inner) ∈ entries → LinkFree inner) :
      LinkFree entries

/-- Where there are no links none is ever met. -/
lemma LinkFree.descend_ne_link {entries : List (String × FileNode)} (h : LinkFree entries)
    (names : List String) (target : String) :
    (FileNode.directory entries).descend names ≠ some (.link target) := by
  induction names generalizing entries with
  | nil => simp
  | cons name more ih =>
    obtain ⟨hlink, hbelow⟩ := h
    intro heq
    obtain ⟨node, hnode, hmore⟩ := Option.bind_eq_some_iff.mp heq
    have hmem : (name, node) ∈ entries := mem_of_lookup hnode
    rcases isDirectory_eq_false_or node with hdir | ⟨inner, rfl⟩
    · obtain ⟨-, rfl⟩ := FileNode.of_descend_eq_some hdir hmore
      exact hlink name target hmem
    · exact ih (hbelow name inner hmem) hmore

/-- The way through a proper directory goes on from the entry under the first name. -/
lemma Proper.descend_cons {entries : List (String × FileNode)} (h : Proper entries) {name : String}
    {node : FileNode} (he : (name, node) ∈ entries) (more : List String) :
    (FileNode.directory entries).descend (name :: more) = node.descend more := by
  rw [FileNode.descend_cons, FileNode.child, h.lookup he, Option.bind_some]

/-- What stands at a place of a proper directory is reached by names. -/
lemma Proper.isName_of_descend {entries : List (String × FileNode)} (h : Proper entries)
    {names : List String} {node : FileNode}
    (hnode : (FileNode.directory entries).descend names = some node) : ∀ n ∈ names, IsName n := by
  induction names generalizing entries with
  | nil => simp
  | cons name more ih =>
    obtain ⟨next, hnext, hmore⟩ := Option.bind_eq_some_iff.mp hnode
    have hmem : (name, next) ∈ entries := mem_of_lookup hnext
    rcases isDirectory_eq_false_or next with hdir | ⟨inner, rfl⟩
    · obtain ⟨rfl, -⟩ := FileNode.of_descend_eq_some hdir hmore
      simpa using h.isName hmem
    · exact List.forall_mem_cons.mpr ⟨h.isName hmem, ih (h.inner hmem) hmore⟩

/-! ## Trails by name -/

/-- The trail at the end of some names from the root on, the innermost first. -/
inductive Along (entries : List (String × FileNode)) : List String → Trail → Prop
  | root : Along entries [] [entries]
  | enter {stack : List String} {trail : Trail} {name : String}
      {inner : List (String × FileNode)} (h : Along entries stack trail)
      (entered : (here trail).lookup name = some (.directory inner)) :
      Along entries (name :: stack) (inner :: trail)

variable {entries : List (String × FileNode)} {stack : List String} {trail : Trail}

/-- The trail leads to where the stack does. -/
lemma Along.descend (h : Along entries stack trail) :
    (FileNode.directory entries).descend stack.reverse = some (.directory (here trail)) := by
  induction h with
  | root => rfl
  | @enter stack trail name inner h entered ih =>
    rw [List.reverse_cons, FileNode.descend_concat, ih]
    exact entered

/-- Below the end of a trail, entries are looked up by the names behind those of the trail. -/
lemma Along.lookup (h : Along entries stack trail) (name : String) :
    (here trail).lookup name = (FileNode.directory entries).descend (name :: stack).reverse := by
  rw [List.reverse_cons, FileNode.descend_concat, h.descend]
  rfl

/-- One step up takes the last name off. -/
lemma Along.up (h : Along entries stack trail) : Along entries stack.tail (up trail) := by
  cases h with
  | root => exact .root
  | @enter stack trail name inner h entered =>
    cases h with
    | root => exact .root
    | enter above into => exact .enter above into

/-- Every directory has a trail that leads to it. -/
lemma exists_along {names : List String} {inner : List (String × FileNode)}
    (h : (FileNode.directory entries).descend names = some (.directory inner)) :
    ∃ trail, Along entries names.reverse trail := by
  induction names using List.reverseRecOn generalizing inner with
  | nil => exact ⟨_, .root⟩
  | append_singleton names name ih =>
    rw [FileNode.descend_concat] at h
    obtain ⟨node, hnode, hchild⟩ := Option.bind_eq_some_iff.mp h
    cases node with
    | directory listed =>
      obtain ⟨trail, htrail⟩ := ih hnode
      have hhere : here trail = listed := by
        have heq := htrail.descend
        rw [List.reverse_reverse, hnode, Option.some_inj, FileNode.directory.injEq] at heq
        exact heq.symm
      rw [List.reverse_append]
      exact ⟨_, .enter htrail (hhere ▸ hchild)⟩
    | file content => simp [FileNode.child] at hchild
    | link target => simp [FileNode.child] at hchild

/-- The trail at the working directory goes along its names. -/
lemma along_startTrail {fs : FileSystem} (h : fs.HasWorkingDirectory) :
    Along fs.entries fs.workingDirectory.reverse fs.startTrail := by
  -- of one step only this matters: it enters a directory that is there
  obtain ⟨step, hstart, hstep⟩ : ∃ step : Trail → String → Trail,
      fs.startTrail = fs.workingDirectory.foldl step fs.rootTrail
        ∧ ∀ {trail name inner}, (here trail).lookup name = some (.directory inner) →
          step trail name = inner :: trail :=
    ⟨_, rfl, fun {trail name inner} hinner => by simp only [hinner]⟩
  have hfold : ∀ {stack trail}, Along fs.entries stack trail →
      stack.reverse.foldl step fs.rootTrail = trail := by
    intro stack trail htrail
    induction htrail with
    | root => rfl
    | @enter stack trail name inner h entered ih =>
      rw [List.reverse_cons, List.foldl_append, ih, List.foldl_cons, List.foldl_nil, hstep entered]
  obtain ⟨entries, hentries⟩ := h
  obtain ⟨trail, htrail⟩ := exists_along hentries
  have hfolded := hfold htrail
  rw [List.reverse_reverse] at hfolded
  rw [hstart, hfolded]
  exact htrail

/-- Paths are looked up from a trail on that goes along their stack. -/
lemma along_trailFor {fs : FileSystem} (h : fs.HasWorkingDirectory) (path : String) :
    Along fs.entries (fs.stackFor path) (fs.trailFor path) := by
  rw [stackFor, trailFor]
  split
  · exact .root
  · exact along_startTrail h

/-- The names of a trail are names of entries. -/
lemma Along.ne_dots (h : Along entries stack trail) (hproper : Proper entries) :
    ∀ n ∈ stack, n ≠ ".." := by
  intro n hn
  exact (hproper.isName_of_descend h.descend n (List.mem_reverse.mpr hn)).ne_dots

/-! ## Paths without links -/

/-- Where there are no links, components lead from a trail to the place that they spell. -/
lemma descend_of_follow {fs : FileSystem} (hfs : fs.WellFormed) (hlinks : LinkFree fs.entries)
    {links : Nat} {cs : List String} (h : Along fs.entries stack trail) {node : FileNode}
    (hnode : fs.follow links trail cs = .ok node) :
    fs.nodeAt (cs.foldl (pushComponent true) stack).reverse = some node := by
  induction cs generalizing stack trail with
  | nil =>
    rw [follow, Except.ok.injEq] at hnode
    rw [← hnode]
    exact h.descend
  | cons c rest ih =>
    rw [List.foldl_cons]
    by_cases hskip : (c == "" || c == ".") = true
    · rw [follow, if_pos hskip] at hnode
      rw [pushComponent_of_skipped hskip]
      exact ih h hnode
    · by_cases hdots : (c == "..") = true
      · rw [follow, if_neg hskip, if_pos hdots] at hnode
        rw [beq_iff_eq.mp hdots, pushComponent_dots (h.ne_dots hfs)]
        exact ih h.up hnode
      · rw [follow, if_neg hskip, if_neg hdots] at hnode
        rw [pushComponent_of_kept hskip hdots]
        have hlook := h.lookup c
        split at hnode
        · simp at hnode
        · next inner hinner => exact ih (h.enter hinner) hnode
        · next content hfile =>
          split at hnode
          · next hempty =>
            rw [Except.ok.injEq] at hnode
            rw [List.isEmpty_iff.mp hempty, List.foldl_nil, ← hnode, ← hfile]
            exact hlook.symm
          · simp at hnode
        · next target hlink =>
          rw [hlink] at hlook
          exact absurd hlook.symm (hlinks.descend_ne_link _ target)

/-- **Places can be read off paths.** Where there are no links, what a path leads to is what stands
at its place. -/
theorem descend_of_resolve {fs : FileSystem} (hfs : fs.WellFormed) (hlinks : LinkFree fs.entries)
    (hwork : fs.HasWorkingDirectory) {path : String} {node : FileNode}
    (h : fs.resolve path = .ok node) : fs.nodeAt (fs.namesTo path) = some node := by
  rw [resolve] at h
  split at h
  · simp at h
  · exact descend_of_follow hfs hlinks (along_trailFor hwork path) h

/-! ## The places on the way -/

/-- The places that are looked at on the way along some components, where there are no links. Where
no directory is found the way ends. -/
def placesFrom (fs : FileSystem) (stack : List String) : List String → List (List String)
  | [] => []
  | c :: rest =>
    if c == "" || c == "." then placesFrom fs stack rest
    else if c == ".." then placesFrom fs stack.tail rest
    else (c :: stack).reverse :: match fs.nodeAt (c :: stack).reverse with
      | some (.directory _) => placesFrom fs (c :: stack) rest
      | _ => []

/-- The places that are looked at on the way to what a path leads to. -/
def placesOn (fs : FileSystem) (path : String) : List (List String) :=
  fs.placesFrom (fs.stackFor path) (components path)

variable {fs : FileSystem}

lemma placesFrom_of_skipped {c : String} (h : (c == "" || c == ".") = true) (stack : List String)
    (rest : List String) : fs.placesFrom stack (c :: rest) = fs.placesFrom stack rest := by
  rw [placesFrom, if_pos h]

/-- Two dots go on from the directory above. -/
lemma placesFrom_of_dots {c : String} (h : ¬ (c == "" || c == ".") = true)
    (hdots : (c == "..") = true) (stack : List String) (rest : List String) :
    fs.placesFrom stack (c :: rest) = fs.placesFrom stack.tail rest := by
  rw [placesFrom, if_neg h, if_pos hdots]

/-- A component that is looked up adds a place, and more places only if it is a directory. -/
lemma placesFrom_of_kept {c : String} (h : ¬ (c == "" || c == ".") = true)
    (hdots : ¬ (c == "..") = true) (stack : List String) (rest : List String) :
    fs.placesFrom stack (c :: rest)
      = (c :: stack).reverse :: if (fs.nodeAt (c :: stack).reverse).any FileNode.isDirectory then
          fs.placesFrom (c :: stack) rest else [] := by
  rw [placesFrom, if_neg h, if_neg hdots]
  refine congrArg _ ?_
  cases fs.nodeAt (c :: stack).reverse with
  | none => rfl
  | some node => cases node <;> rfl

/-- Empty components are no places. -/
lemma placesFrom_filter (cs : List String) (stack : List String) :
    fs.placesFrom stack (cs.filter (· != "")) = fs.placesFrom stack cs := by
  induction cs generalizing stack with
  | nil => rfl
  | cons c cs ih =>
    by_cases hc : c = ""
    · rw [hc, List.filter_cons_of_neg (by decide), ih, placesFrom_of_skipped (by decide)]
    · rw [List.filter_cons_of_pos (by simp [hc])]
      by_cases hskip : (c == "" || c == ".") = true
      · rw [placesFrom_of_skipped hskip, placesFrom_of_skipped hskip, ih]
      · by_cases hdots : (c == "..") = true
        · rw [placesFrom_of_dots hskip hdots, placesFrom_of_dots hskip hdots, ih]
        · rw [placesFrom_of_kept hskip hdots, placesFrom_of_kept hskip hdots, ih]

/-- A longer way has the places of a shorter one. -/
lemma placesFrom_subset_append (cs more : List String) (stack : List String) :
    fs.placesFrom stack cs ⊆ fs.placesFrom stack (cs ++ more) := by
  induction cs generalizing stack with
  | nil => exact List.nil_subset _
  | cons c cs ih =>
    rw [List.cons_append]
    by_cases hskip : (c == "" || c == ".") = true
    · rw [placesFrom_of_skipped hskip, placesFrom_of_skipped hskip]
      exact ih stack
    · by_cases hdots : (c == "..") = true
      · rw [placesFrom_of_dots hskip hdots, placesFrom_of_dots hskip hdots]
        exact ih stack.tail
      · rw [placesFrom_of_kept hskip hdots, placesFrom_of_kept hskip hdots]
        refine List.cons_subset_cons _ ?_
        split
        · exact ih (c :: stack)
        · exact List.nil_subset _

/-- The places on a way along names come one behind the other. -/
lemma isPrefix_of_mem_placesFrom {names : List String} (hnames : ∀ n ∈ names, IsName n)
    {stack place : List String} (h : place ∈ fs.placesFrom stack names) :
    place <+: stack.reverse ++ names := by
  induction names generalizing stack with
  | nil => exact absurd h List.not_mem_nil
  | cons name more ih =>
    have hname := hnames name List.mem_cons_self
    have hsplit : (name :: stack).reverse ++ more = stack.reverse ++ name :: more := by
      rw [List.reverse_cons, List.append_assoc, List.singleton_append]
    rw [placesFrom_of_kept (by simp [hname.ne_empty, hname.ne_dot]) (by simpa using hname.ne_dots),
      List.mem_cons] at h
    rcases h with rfl | h
    · exact ⟨more, hsplit⟩
    · split at h
      · exact hsplit ▸ ih (fun n hn => hnames n (List.mem_cons_of_mem _ hn)) h
      · exact absurd h List.not_mem_nil

/-- Names behind a way add places behind its end only. -/
lemma mem_placesFrom_append {names : List String} (hnames : ∀ n ∈ names, IsName n)
    {cs stack place : List String} (hstack : ∀ n ∈ stack, n ≠ "..")
    (h : place ∈ fs.placesFrom stack (cs ++ names)) :
    place ∈ fs.placesFrom stack cs
      ∨ place <+: (cs.foldl (pushComponent true) stack).reverse ++ names := by
  induction cs generalizing stack with
  | nil => exact Or.inr (isPrefix_of_mem_placesFrom hnames h)
  | cons c cs ih =>
    rw [List.cons_append] at h
    rw [List.foldl_cons]
    by_cases hskip : (c == "" || c == ".") = true
    · rw [placesFrom_of_skipped hskip] at h
      rw [placesFrom_of_skipped hskip, pushComponent_of_skipped hskip]
      exact ih hstack h
    · by_cases hdots : (c == "..") = true
      · rw [placesFrom_of_dots hskip hdots] at h
        rw [placesFrom_of_dots hskip hdots, beq_iff_eq.mp hdots, pushComponent_dots hstack]
        exact ih (fun n hn => hstack n (List.mem_of_mem_tail hn)) h
      · rw [placesFrom_of_kept hskip hdots, List.mem_cons] at h
        rw [placesFrom_of_kept hskip hdots, pushComponent_of_kept hskip hdots, List.mem_cons]
        rcases h with rfl | h
        · exact Or.inl (Or.inl rfl)
        · split at h
          · next hdir =>
            rw [if_pos hdir]
            have hcons : ∀ n ∈ c :: stack, n ≠ ".." :=
              List.forall_mem_cons.mpr ⟨by simpa using hdots, hstack⟩
            exact (ih hcons h).imp_left Or.inr
          · exact absurd h List.not_mem_nil

/-- Names joined to a path add places behind its own only. -/
lemma mem_placesOn_joinAll (hfs : fs.WellFormed) (hwork : fs.HasWorkingDirectory) {root : String}
    {names place : List String} (hnames : ∀ n ∈ names, IsName n)
    (h : place ∈ fs.placesOn (joinAll root names)) :
    place ∈ fs.placesOn root ∨ place <+: fs.namesTo root ++ names := by
  by_cases hnil : names = []
  · rw [hnil, joinAll_nil] at h
    exact Or.inl h
  · have hstack : fs.stackFor (joinAll root names) = fs.stackFor root := by
      rw [stackFor, stackFor, isAbsolute_joinAll hnames]
    have hdots := (along_trailFor hwork root).ne_dots hfs
    rw [placesOn, hstack, components_joinAll hnil hnames] at h
    rcases mem_placesFrom_append hnames hdots h with h | h
    · rw [← placesFrom_filter, ← filter_components, placesFrom_filter] at h
      exact Or.inl h
    · rw [← foldl_pushComponent_filter, ← filter_components, foldl_pushComponent_filter] at h
      exact Or.inr h

/-- The way to the directory of a file is a part of the way to the file. -/
lemma placesOn_containing_subset (path : String) :
    fs.placesOn (containing path) ⊆ fs.placesOn path := by
  by_cases hparent : parent path = ""
  · have hdot : components "." = ["."] := components_of_noSlash (by decide)
    rw [containing, if_pos (by simpa using hparent), placesOn, hdot,
      placesFrom_of_skipped (by decide)]
    exact List.nil_subset _
  · obtain ⟨habs, more, hmore⟩ := components_parent hparent
    have hstack : fs.stackFor (parent path) = fs.stackFor path := by
      rw [stackFor, stackFor, habs]
    rw [containing, if_neg (by simpa using hparent), placesOn, placesOn, hstack,
      ← placesFrom_filter, ← placesFrom_filter (components path), ← hmore]
    exact placesFrom_subset_append _ _ _

end FileSystem

end InterfaceAtlas
