import InterfaceAtlas.Files.FileSystem
import InterfaceAtlas.Proofs.Files.Path

/-!
# Directory trees

A file system gives each entry of a directory a name of its own (`WellFormed`). Paths are resolved
one component at a time, so what a path of an entry leads to is settled by the directory it is
joined to:

* `list_join`: a real sub-directory is listed with its own entries;
* `WellFormed.put`, `WellFormed.makeDirectory`, `WellFormed.remove`: changes keep a file system
  well-formed;
* `AddsSlashes.resolve_joinAll` and `AddsSlashes.list_eq`: slashes at the end of a directory's path
  make no difference to what is in the directory.
-/

namespace InterfaceAtlas

namespace FileSystem

open InterfaceAtlas.Path

/-! ## Well-formed file systems -/

/-- The entries of a directory as a file system holds them: each has a name, no two have the same,
and so it is in all directories below. -/
inductive Proper : List (String × FileNode) → Prop
  | mk {entries : List (String × FileNode)} (distinct : (entries.map Prod.fst).Nodup)
      (named : ∀ e ∈ entries, IsName e.1)
      (below : ∀ name inner, (name, FileNode.directory inner) ∈ entries → Proper inner) :
      Proper entries

/-- All directories of the file system are proper. -/
def WellFormed (fs : FileSystem) : Prop := Proper fs.entries

lemma Proper.distinct {entries : List (String × FileNode)} (h : Proper entries) :
    (entries.map Prod.fst).Nodup := by
  obtain ⟨hdistinct, -, -⟩ := h
  exact hdistinct

lemma Proper.isName {entries : List (String × FileNode)} (h : Proper entries)
    {name : String} {node : FileNode} (he : (name, node) ∈ entries) : IsName name := by
  obtain ⟨-, hnamed, -⟩ := h
  exact hnamed _ he

/-- What is inside of proper entries is proper. -/
lemma Proper.inner {entries inner : List (String × FileNode)} (h : Proper entries) {name : String}
    (he : (name, FileNode.directory inner) ∈ entries) : Proper inner := by
  obtain ⟨-, -, hbelow⟩ := h
  exact hbelow _ _ he

lemma Proper.nil : Proper [] := by
  refine .mk List.nodup_nil (fun e he => ?_) (fun name inner he => ?_)
  · exact absurd he List.not_mem_nil
  · exact absurd he List.not_mem_nil

lemma isDirectory_eq_false_or (node : FileNode) :
    node.isDirectory = false ∨ ∃ inner, node = .directory inner := by
  cases node with
  | directory inner => exact Or.inr ⟨inner, rfl⟩
  | file content => exact Or.inl rfl
  | link target => exact Or.inl rfl

lemma mem_of_lookup {entries : List (String × FileNode)} {name : String} {node : FileNode}
    (h : entries.lookup name = some node) : (name, node) ∈ entries := by
  obtain ⟨before, after, rfl, -⟩ := List.lookup_eq_some_iff.mp h
  exact List.mem_append_right _ List.mem_cons_self

/-- An entry of a proper directory is found under its name. -/
lemma Proper.lookup {entries : List (String × FileNode)} (h : Proper entries) {name : String}
    {node : FileNode} (he : (name, node) ∈ entries) : entries.lookup name = some node := by
  have hdistinct := h.distinct
  obtain ⟨before, after, rfl⟩ := List.append_of_mem he
  rw [List.map_append, List.map_cons, List.nodup_append] at hdistinct
  obtain ⟨-, -, hdisjoint⟩ := hdistinct
  refine List.lookup_eq_some_iff.mpr ⟨before, after, rfl, fun e hbefore => ?_⟩
  have hne : e.1 ≠ name :=
    hdisjoint e.1 (List.mem_map.mpr ⟨e, hbefore, rfl⟩) name List.mem_cons_self
  rw [bne_iff_ne]
  exact hne.symm

/-! ## Resolving paths -/

/-- Some components lead into a directory, and then whatever comes behind them is looked for from
there on; or they do not, and then nothing can be found behind them. -/
lemma follow_append_cases (fs : FileSystem) (links : Nat) (trail : Trail) (cs : List String) :
    (∃ links' trail', fs.follow links trail cs = .ok (.directory (here trail'))
        ∧ ∀ rest, rest ≠ [] → fs.follow links trail (cs ++ rest) = fs.follow links' trail' rest)
      ∨ (∃ reason, (∀ entries, fs.follow links trail cs ≠ .ok (.directory entries))
        ∧ ∀ rest, rest ≠ [] → fs.follow links trail (cs ++ rest) = .error reason) := by
  -- in each case one component is done with, and what comes behind stays behind
  fun_induction follow fs links trail cs with
  | case1 links trail => exact Or.inl ⟨links, trail, rfl, fun rest _ => rfl⟩
  | case2 links trail c more hc ih =>
    have hstep : ∀ rest, fs.follow links trail (c :: more ++ rest)
        = fs.follow links trail (more ++ rest) := by
      intro rest
      rw [List.cons_append, follow, if_pos hc]
    simpa only [hstep] using ih
  | case3 links trail c more hc hup ih =>
    have hstep : ∀ rest, fs.follow links trail (c :: more ++ rest)
        = fs.follow links (up trail) (more ++ rest) := by
      intro rest
      rw [List.cons_append, follow, if_neg hc, if_pos hup]
    simpa only [hstep] using ih
  | case4 links trail c more hc hup hnone =>
    refine Or.inr ⟨.missing, fun _ => by simp, fun rest _ => ?_⟩
    rw [List.cons_append, follow, if_neg hc, if_neg hup, hnone]
  | case5 links trail c more hc hup inner hdir ih =>
    have hstep : ∀ rest, fs.follow links trail (c :: more ++ rest)
        = fs.follow links (inner :: trail) (more ++ rest) := by
      intro rest
      rw [List.cons_append, follow, if_neg hc, if_neg hup, hdir]
    simpa only [hstep] using ih
  | case6 links trail c more hc hup content hfile hempty =>
    refine Or.inr ⟨.notDirectory, fun _ => by simp, fun rest hrest => ?_⟩
    rw [List.cons_append, follow, if_neg hc, if_neg hup, hfile]
    simp [hrest]
  | case7 links trail c more hc hup content hfile hempty =>
    refine Or.inr ⟨.notDirectory, fun _ => by simp, fun rest hrest => ?_⟩
    rw [List.cons_append, follow, if_neg hc, if_neg hup, hfile]
    simp [hrest]
  | case8 trail c more hc hup target hlink =>
    refine Or.inr ⟨.tooManyLinks, fun _ => by simp, fun rest _ => ?_⟩
    rw [List.cons_append, follow, if_neg hc, if_neg hup, hlink]
  | case9 trail c more hc hup target hlink links ih =>
    have hstep : ∀ rest, fs.follow (links + 1) trail (c :: more ++ rest)
        = fs.follow links (if Path.isAbsolute target then fs.rootTrail else trail)
            (Path.components target ++ more ++ rest) := by
      intro rest
      rw [List.cons_append, follow, if_neg hc, if_neg hup, hlink, List.append_assoc]
    simpa only [hstep, dite_eq_ite] using ih

/-- Empty components lead nowhere else. -/
lemma follow_replicate_empty (fs : FileSystem) (links : Nat) (trail : Trail) (n : Nat)
    (cs : List String) :
    fs.follow links trail (List.replicate n "" ++ cs) = fs.follow links trail cs := by
  induction n with
  | zero => rfl
  | succ n ih => rw [List.replicate_succ, List.cons_append, follow, if_pos (by decide), ih]

@[simp] lemma here_cons (entries : List (String × FileNode)) (trail : Trail) :
    here (entries :: trail) = entries := rfl

lemma proper_here {trail : Trail} (h : ∀ entries ∈ trail, Proper entries) :
    Proper (here trail) := by
  cases trail with
  | nil => exact Proper.nil
  | cons entries more => exact h entries List.mem_cons_self

lemma mem_of_mem_up {trail : Trail} {entries : List (String × FileNode)}
    (h : entries ∈ up trail) : entries ∈ trail := by
  rcases trail with _ | ⟨a, _ | ⟨b, more⟩⟩
  · exact h
  · exact h
  · exact List.mem_cons_of_mem _ h

lemma proper_rootTrail {fs : FileSystem} (hfs : fs.WellFormed) :
    ∀ entries ∈ fs.rootTrail, Proper entries := by
  intro entries he
  rw [rootTrail, List.mem_singleton] at he
  exact he ▸ hfs

/-- Going down into a directory keeps a trail of proper directories. -/
lemma proper_cons {trail : Trail} (h : ∀ entries ∈ trail, Proper entries) {name : String}
    {inner : List (String × FileNode)}
    (hdir : (here trail).lookup name = some (.directory inner)) :
    ∀ entries ∈ inner :: trail, Proper entries := by
  intro entries he
  rcases List.mem_cons.mp he with rfl | he
  · exact (proper_here h).inner (mem_of_lookup hdir)
  · exact h entries he

/-- Paths lead from proper directories to proper directories. -/
lemma follow_proper {fs : FileSystem} (hfs : fs.WellFormed) {links : Nat} {trail : Trail}
    {cs : List String} {entries : List (String × FileNode)}
    (htrail : ∀ entries ∈ trail, Proper entries)
    (h : fs.follow links trail cs = .ok (.directory entries)) : Proper entries := by
  fun_induction follow fs links trail cs with
  | case1 links trail =>
    rw [Except.ok.injEq, FileNode.directory.injEq] at h
    exact h ▸ proper_here htrail
  | case2 links trail c more hc ih => exact ih htrail h
  | case3 links trail c more hc hup ih => exact ih (fun es he => htrail es (mem_of_mem_up he)) h
  | case4 => simp at h
  | case5 links trail c more hc hup inner hdir ih => exact ih (proper_cons htrail hdir) h
  | case6 => simp at h
  | case7 => simp at h
  | case8 => simp at h
  | case9 trail c more hc hup target hlink links ih =>
    -- an absolute link leads back to the root, any other goes on from where it lies
    refine ih (fun es he => ?_) h
    split at he
    · exact proper_rootTrail hfs es he
    · exact htrail es he

lemma proper_startTrail {fs : FileSystem} (hfs : fs.WellFormed) :
    ∀ entries ∈ fs.startTrail, Proper entries := by
  rw [startTrail]
  induction fs.workingDirectory using List.reverseRecOn with
  | nil => exact proper_rootTrail hfs
  | append_singleton names name ih =>
    rw [List.foldl_append, List.foldl_cons, List.foldl_nil]
    split
    · next inner hdir => exact proper_cons ih hdir
    · exact ih

/-- The trail at which the components of a path are looked up. -/
def trailFor (fs : FileSystem) (path : String) : Trail :=
  if isAbsolute path then fs.rootTrail else fs.startTrail

lemma resolve_eq {fs : FileSystem} {path : String} (h : path ≠ "") :
    fs.resolve path = fs.follow linkLimit (fs.trailFor path) (components path) := by
  rw [resolve, if_neg (by simpa using h), trailFor]

/-- What names lead to is looked up by the components of the directory and then the names. -/
lemma resolve_joinAll (fs : FileSystem) {directory : String} {names : List String}
    (hne : names ≠ []) (hnames : ∀ n ∈ names, IsName n) :
    fs.resolve (joinAll directory names)
      = fs.follow linkLimit (fs.trailFor directory) (stem directory ++ names) := by
  rw [resolve_eq (joinAll_ne_empty hne hnames), components_joinAll hne hnames, trailFor,
    isAbsolute_joinAll hnames, trailFor]

/-- What can be listed is a directory that is reached and not denied. -/
lemma resolve_of_list {fs : FileSystem} {path : String} {entries : List (String × FileNode)}
    (h : fs.list path = .ok entries) :
    isUnusable path = false ∧ fs.denies path = false
      ∧ fs.resolve path = .ok (.directory entries) := by
  rw [list] at h
  split at h
  · simp at h
  · next hnull =>
    split at h
    · simp at h
    · next hdenied =>
      split at h
      · next inner hinner =>
        rw [Except.ok.injEq] at h
        exact ⟨by simpa using hnull, by simpa using hdenied, by rw [hinner, h]⟩
      · simp at h
      · simp at h

lemma ne_empty_of_list {fs : FileSystem} {path : String} {entries : List (String × FileNode)}
    (h : fs.list path = .ok entries) : path ≠ "" := by
  rintro rfl
  have hres := (resolve_of_list h).2.2
  simp [resolve] at hres

/-- A directory that is reached and not denied can be listed. -/
lemma list_eq_of_resolve {fs : FileSystem} {path : String} {entries : List (String × FileNode)}
    (hnull : isUnusable path = false) (hdenied : fs.denies path = false)
    (h : fs.resolve path = .ok (.directory entries)) : fs.list path = .ok entries := by
  rw [list, hnull, hdenied, h]
  rfl

lemma resolve_of_read {fs : FileSystem} {path : String} {content : List UInt8}
    (h : fs.read path = .ok content) :
    isUnusable path = false ∧ fs.resolve path = .ok (.file content) := by
  rw [read] at h
  split at h
  · simp at h
  · next hnull =>
    split at h
    · simp at h
    · split at h
      · next held hheld =>
        rw [Except.ok.injEq] at h
        exact ⟨by simpa using hnull, by rw [hheld, h]⟩
      · simp at h
      · simp at h

/-- What a directory of a well-formed file system lists is proper. -/
theorem proper_of_list {fs : FileSystem} (hfs : fs.WellFormed) {path : String}
    {entries : List (String × FileNode)} (h : fs.list path = .ok entries) : Proper entries := by
  have hres := (resolve_of_list h).2.2
  rw [resolve_eq (ne_empty_of_list h)] at hres
  refine follow_proper hfs (fun es he => ?_) hres
  rw [trailFor] at he
  split at he
  · exact proper_rootTrail hfs es he
  · exact proper_startTrail hfs es he

/-- From a directory that can be listed, names are looked up in its entries. -/
lemma exists_follow_of_list {fs : FileSystem} {directory : String}
    {entries : List (String × FileNode)} (h : fs.list directory = .ok entries) :
    ∃ links trail, here trail = entries ∧
      ∀ names, names ≠ [] → (∀ n ∈ names, IsName n) →
        fs.resolve (joinAll directory names) = fs.follow links trail names := by
  have hne := ne_empty_of_list h
  have hres := (resolve_of_list h).2.2
  rw [resolve_eq hne] at hres
  rcases follow_append_cases fs linkLimit (fs.trailFor directory) (stem directory) with
    ⟨links, trail, hstem, hrest⟩ | ⟨reason, hstem, hrest⟩
  · refine ⟨links, trail, ?_, fun names hnil hnames => ?_⟩
    · -- the directory itself may have an empty component more than its entries share
      rcases components_eq_stem hne with hc | hc
      · rw [hc, hstem, Except.ok.injEq, FileNode.directory.injEq] at hres
        exact hres
      · rw [hc, hrest _ (by simp), follow, if_pos (by decide), follow, Except.ok.injEq,
          FileNode.directory.injEq] at hres
        exact hres
    · rw [resolve_joinAll fs hnil hnames, hrest names hnil]
  · rcases components_eq_stem hne with hc | hc
    · rw [hc] at hres
      exact absurd hres (hstem entries)
    · rw [hc, hrest _ (by simp)] at hres
      simp at hres

/-- An entry that is no link is what its path leads to. -/
lemma resolve_join {fs : FileSystem} (hfs : fs.WellFormed) {directory name : String}
    {entries : List (String × FileNode)} {node : FileNode} (h : fs.list directory = .ok entries)
    (he : (name, node) ∈ entries) (hlink : ∀ target, node ≠ .link target) :
    isUnusable (join directory name) = false ∧ fs.resolve (join directory name) = .ok node := by
  have hproper := proper_of_list hfs h
  have hname : ∀ n ∈ [name], IsName n := by
    intro n hn
    rw [List.mem_singleton.mp hn]
    exact hproper.isName he
  have hn := hname name List.mem_cons_self
  obtain ⟨links, trail, hhere, hfollow⟩ := exists_follow_of_list h
  constructor
  · have hnull : isUnusable (joinAll directory [name]) = isUnusable directory :=
      isUnusable_joinAll hname
    rw [(resolve_of_list h).1] at hnull
    exact hnull
  · have hlook : (here trail).lookup name = some node := hhere ▸ hproper.lookup he
    have hstep : fs.follow links trail [name] = .ok node := by
      cases node with
      | link target => exact absurd rfl (hlink target)
      | file content => simp [follow, hn.ne_empty, hn.ne_dot, hn.ne_dots, hlook]
      | directory inner => simp [follow, hn.ne_empty, hn.ne_dot, hn.ne_dots, hlook]
    rw [← hstep]
    exact hfollow [name] (List.cons_ne_nil _ _) hname

/-- A real sub-directory that may be listed is listed with its own entries. -/
theorem list_join {fs : FileSystem} (hfs : fs.WellFormed) {directory name : String}
    {entries inner : List (String × FileNode)} (h : fs.list directory = .ok entries)
    (he : (name, .directory inner) ∈ entries) (hdenied : fs.denies (join directory name) = false) :
    fs.list (join directory name) = .ok inner := by
  obtain ⟨hnull, hres⟩ := resolve_join hfs h he (by simp)
  exact list_eq_of_resolve hnull hdenied hres

/-- A file that may be opened is read with its own content. -/
theorem read_join {fs : FileSystem} (hfs : fs.WellFormed) {directory name : String}
    {entries : List (String × FileNode)} {content : List UInt8}
    (h : fs.list directory = .ok entries) (he : (name, .file content) ∈ entries)
    (hdenied : fs.denies (join directory name) = false) :
    fs.read (join directory name) = .ok content := by
  obtain ⟨hnull, hres⟩ := resolve_join hfs h he (by simp)
  rw [read, hnull, hdenied, hres]
  rfl

/-! ## Changes -/

/-- What is put into a file system may be anything but a directory that is not proper. -/
def IsPlaceable (node : FileNode) : Prop := ∀ inner, node = .directory inner → Proper inner

/-- An entry after a change was there before, or is what the change has made. -/
lemma mem_alterEntry {name : String} {f : Option FileNode → Option FileNode}
    {entries : List (String × FileNode)} {e : String × FileNode}
    (h : e ∈ alterEntry name f entries) :
    e ∈ entries ∨ e.1 = name ∧ ∃ held, f held = some e.2 ∧ ∀ old ∈ held, (name, old) ∈ entries := by
  induction entries with
  | nil =>
    obtain ⟨node, hnode, rfl⟩ := Option.map_eq_some_iff.mp (Option.mem_toList.mp h)
    exact Or.inr ⟨rfl, none, hnode, by simp⟩
  | cons first more ih =>
    obtain ⟨other, held⟩ := first
    rw [alterEntry] at h
    split at h
    · next hother =>
      rw [beq_iff_eq] at hother
      subst hother
      rcases List.mem_append.mp h with h | h
      · obtain ⟨node, hnode, rfl⟩ := Option.map_eq_some_iff.mp (Option.mem_toList.mp h)
        refine Or.inr ⟨rfl, some held, hnode, fun old hold => ?_⟩
        rw [Option.mem_some_iff.mp hold]
        exact List.mem_cons_self
      · exact Or.inl (List.mem_cons_of_mem _ h)
    · rcases List.mem_cons.mp h with rfl | h
      · exact Or.inl List.mem_cons_self
      · rcases ih h with h | ⟨hname, old, hnode, hold⟩
        · exact Or.inl (List.mem_cons_of_mem _ h)
        · exact Or.inr ⟨hname, old, hnode, fun o ho => List.mem_cons_of_mem _ (hold o ho)⟩

lemma nodup_alterEntry {name : String} {f : Option FileNode → Option FileNode}
    {entries : List (String × FileNode)} (h : (entries.map Prod.fst).Nodup) :
    ((alterEntry name f entries).map Prod.fst).Nodup := by
  induction entries with
  | nil =>
    rw [alterEntry]
    cases f none <;> simp
  | cons first more ih =>
    obtain ⟨other, held⟩ := first
    rw [List.map_cons, List.nodup_cons] at h
    rw [alterEntry]
    split
    · next hother =>
      rw [beq_iff_eq] at hother
      subst hother
      cases f (some held) with
      | none => exact h.2
      | some node => exact List.nodup_cons.mpr h
    · next hother =>
      refine List.nodup_cons.mpr ⟨fun hmem => ?_, ih h.2⟩
      obtain ⟨e, he, rfl⟩ := List.mem_map.mp hmem
      rcases mem_alterEntry he with he | ⟨hname, -⟩
      · exact h.1 (List.mem_map.mpr ⟨e, he, rfl⟩)
      · exact hother (by rw [hname, beq_self_eq_true])

/-- An entry of a proper directory may be changed to anything that is proper itself. -/
lemma Proper.alterEntry {entries : List (String × FileNode)} (h : Proper entries) {name : String}
    (hname : IsName name) {f : Option FileNode → Option FileNode}
    (hf : ∀ held node, (∀ old ∈ held, IsPlaceable old) → f held = some node → IsPlaceable node) :
    Proper (alterEntry name f entries) := by
  refine .mk (nodup_alterEntry h.distinct) (fun e he => ?_) (fun inside inner he => ?_)
  · rcases mem_alterEntry he with he | ⟨hn, -⟩
    · exact h.isName he
    · rwa [hn]
  · rcases mem_alterEntry he with he | ⟨-, held, hnode, hheld⟩
    · exact h.inner he
    · refine hf held _ (fun old hold directory hdir => ?_) hnode inner rfl
      subst hdir
      exact h.inner (hheld _ hold)

/-- So may what names lead to, with the directories made on the way. -/
lemma Proper.alterAt {f : Option FileNode → Option FileNode}
    (hf : ∀ held node, (∀ old ∈ held, IsPlaceable old) → f held = some node → IsPlaceable node)
    {names : List String} (hnames : ∀ n ∈ names, IsName n) {entries : List (String × FileNode)}
    (h : Proper entries) : Proper (alterAt f names entries) := by
  induction names generalizing entries with
  | nil => exact h
  | cons name more ih =>
    have hname := hnames name List.mem_cons_self
    have hmore : ∀ n ∈ more, IsName n := fun n hn => hnames n (List.mem_cons_of_mem _ hn)
    cases more with
    | nil => exact h.alterEntry hname hf
    | cons next more =>
      refine h.alterEntry hname fun held node hheld hnode inner hinner => ?_
      subst hinner
      split at hnode
      · next directory =>
        rw [Option.some_inj, FileNode.directory.injEq] at hnode
        exact hnode ▸ ih hmore (hheld _ rfl directory rfl)
      · -- no directory is there: one is made, or what is there stays
        split at hnode
        · rw [Option.some_inj, FileNode.directory.injEq] at hnode
          exact hnode ▸ ih hmore Proper.nil
        · exact hheld _ hnode inner rfl

variable {fs : FileSystem} {path : String}

lemma isName_namesTo (hwork : ∀ n ∈ fs.workingDirectory, IsName n)
    (hpath : isUnusable path = false) : ∀ n ∈ fs.namesTo path, IsName n := by
  intro n hn
  rw [namesTo, List.mem_reverse] at hn
  refine isName_foldl_pushComponent hpath (fun m hm => ?_) n hn
  split at hm
  · exact absurd hm List.not_mem_nil
  · exact hwork m (List.mem_reverse.mp hm)

/-- A file system stays well-formed when something is put into it. -/
theorem WellFormed.put (hfs : fs.WellFormed) (hwork : ∀ n ∈ fs.workingDirectory, IsName n)
    (hpath : isUnusable path = false) {node : FileNode} (hnode : IsPlaceable node) :
    (fs.put path node).WellFormed := by
  refine Proper.alterAt (fun held new _ hnew => ?_) (isName_namesTo hwork hpath) hfs
  rw [Option.some_inj] at hnew
  exact hnew ▸ hnode

/-- To make a directory keeps a tree well formed. -/
theorem WellFormed.makeDirectory (hfs : fs.WellFormed)
    (hwork : ∀ n ∈ fs.workingDirectory, IsName n) (hpath : isUnusable path = false) :
    (fs.makeDirectory path).WellFormed := by
  refine Proper.alterAt (fun held new hheld hnew => ?_) (isName_namesTo hwork hpath) hfs
  rw [Option.some_inj] at hnew
  subst hnew
  cases held with
  | none =>
    intro inner hinner
    exact FileNode.directory.inj hinner ▸ Proper.nil
  | some old => exact hheld old rfl

/-- To remove an entry keeps a tree well formed. -/
theorem WellFormed.remove (hfs : fs.WellFormed) (hwork : ∀ n ∈ fs.workingDirectory, IsName n)
    (hpath : isUnusable path = false) : (fs.remove path).WellFormed := by
  refine Proper.alterAt (fun held new _ hnew => ?_) (isName_namesTo hwork hpath) hfs
  exact absurd hnew (by simp)

end FileSystem

namespace Path

open FileSystem

/-! ## Slashes at the end of a directory's path -/

lemma AddsSlashes.trailFor_eq (fs : FileSystem) {long short : String}
    (h : AddsSlashes long short) : fs.trailFor long = fs.trailFor short := by
  rw [trailFor, trailFor, h.isAbsolute_eq]

/-- Below a directory, a path leads to the same however the directory is spelled. -/
theorem AddsSlashes.resolve_joinAll {fs : FileSystem} {long short : String}
    (h : AddsSlashes long short) {names : List String} (hne : names ≠ [])
    (hnames : ∀ n ∈ names, IsName n) :
    fs.resolve (joinAll long names) = fs.resolve (joinAll short names) := by
  obtain ⟨n, hn⟩ := h.stem_eq
  rw [FileSystem.resolve_joinAll fs hne hnames, FileSystem.resolve_joinAll fs hne hnames, hn,
    h.trailFor_eq fs, List.append_assoc]
  have hne' : List.replicate n "" ++ names ≠ [] :=
    fun hnil => hne (List.append_eq_nil_iff.mp hnil).2
  -- wherever the shorter stem leads, the empty components behind it change nothing
  rcases follow_append_cases fs linkLimit (fs.trailFor short) (stem short) with
    ⟨links, trail, -, hrest⟩ | ⟨reason, -, hrest⟩
  · rw [hrest _ hne', hrest _ hne, follow_replicate_empty]
  · rw [hrest _ hne', hrest _ hne]

/-- A directory that can be listed can be listed without slashes behind its path. -/
theorem AddsSlashes.list_eq {fs : FileSystem} {long short : String} (h : AddsSlashes long short)
    {entries : List (String × FileNode)} (hlist : fs.list long = .ok entries) :
    fs.list short = .ok entries := by
  rcases h with rfl | ⟨hne, hlast, n, hn⟩
  · exact hlist
  · have h : AddsSlashes long short := Or.inr ⟨hne, hlast, n, hn⟩
    have hlong : long = short ++ String.ofList (List.replicate n '/') := by
      rw [← String.toList_inj, hn, String.toList_append, String.toList_ofList]
    obtain ⟨hnull, hdenied, hres⟩ := resolve_of_list hlist
    rw [resolve_eq (ne_empty_of_list hlist), h.trailFor_eq fs, hlong,
      components_append_replicate_slash] at hres
    refine list_eq_of_resolve ?_ ?_ ?_
    · rwa [← h.isUnusable_eq]
    · have hnormal : normal (joinAll long []) = normal (joinAll short []) :=
        h.normal_joinAll (by simp)
      rw [joinAll_nil, joinAll_nil] at hnormal
      rwa [denies, ← hnormal]
    · rw [resolve_eq hne]
      cases n with
      | zero => rwa [List.replicate_zero, List.append_nil] at hres
      | succ n =>
        -- behind the shorter path only empty components follow, so it leads to a directory already
        rcases follow_append_cases fs linkLimit (fs.trailFor short) (components short) with
          ⟨links, trail, hshort, hrest⟩ | ⟨reason, -, hrest⟩
        · rw [hrest _ (by simp), ← List.append_nil (List.replicate (n + 1) ""),
            follow_replicate_empty, follow] at hres
          rw [hshort, hres]
        · rw [hrest _ (by simp)] at hres
          simp at hres

end Path

end InterfaceAtlas
