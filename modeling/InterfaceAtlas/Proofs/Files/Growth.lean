import InterfaceAtlas.Files.Source
import InterfaceAtlas.Proofs.Files.Place
import Mathlib.Data.List.Nodup

/-!
# One entry more

`AddsEntry` relates two file systems of which the second has one entry more than the first, and
perhaps does not let anybody list or open this entry or what lies below it. Whoever does not ask for
the new entry does not see it:

* `AddsEntry.resolve_alike`: a path that does not come by the new entry leads to the same file, or
  to the same directory, or is refused for the same reason;
* `AddsEntry.list_alike` and `AddsEntry.load_eq`: such a path is listed on both sides or on neither,
  and the same is loaded from it.
-/

namespace InterfaceAtlas

namespace FileSystem

open InterfaceAtlas.Path

/-! ## Entries with one more -/

/-- The second entries are the first ones with one more, `node` under `name`, in the directory at
`place`. -/
inductive Grown (name : String) (node : FileNode) :
    List String → List (String × FileNode) → List (String × FileNode) → Prop
  | here (before after : List (String × FileNode)) :
      Grown name node [] (before ++ after) (before ++ (name, node) :: after)
  | inside {place : List String} {inner larger : List (String × FileNode)} (directory : String)
      (before after : List (String × FileNode)) (h : Grown name node place inner larger) :
      Grown name node (directory :: place) (before ++ (directory, .directory inner) :: after)
        (before ++ (directory, .directory larger) :: after)

variable {name : String} {node : FileNode} {place names : List String}
  {entries larger : List (String × FileNode)}

/-- The other entries of a proper directory have other names. -/
lemma Proper.fst_ne {before after : List (String × FileNode)}
    (h : Proper (before ++ (name, node) :: after)) {e : String × FileNode}
    (he : e ∈ before ++ after) : e.1 ≠ name := by
  have hdistinct := h.distinct
  rw [List.map_append, List.map_cons, List.nodup_middle, ← List.map_append,
    List.nodup_cons] at hdistinct
  rintro rfl
  exact hdistinct.1 (List.mem_map.mpr ⟨e, he, rfl⟩)

/-- Where the larger entries are proper, so are the others. -/
lemma Grown.proper (h : Grown name node place entries larger) (hproper : Proper larger) :
    Proper entries := by
  induction h with
  | here before after =>
    have hsub : (before ++ after).Sublist (before ++ (name, node) :: after) :=
      (List.sublist_cons_self _ _).append_left _
    refine .mk (hproper.distinct.sublist (hsub.map _)) (fun e he => ?_) (fun other inner he => ?_)
    · exact hproper.isName (hsub.subset he)
    · exact hproper.inner (hsub.subset he)
  | @inside place inner larger directory before after h ih =>
    -- the names are the same on both sides, and so are all entries but for one directory
    have hmem : ∀ e ∈ before ++ (directory, FileNode.directory inner) :: after,
        e = (directory, .directory inner)
          ∨ e ∈ before ++ (directory, FileNode.directory larger) :: after := by
      intro e he
      simp only [List.mem_append, List.mem_cons] at he ⊢
      tauto
    have hnew : (directory, FileNode.directory larger)
        ∈ before ++ (directory, FileNode.directory larger) :: after :=
      List.mem_append_cons_self
    refine .mk ?_ (fun e he => ?_) (fun other below he => ?_)
    · have hdistinct := hproper.distinct
      rwa [List.map_append, List.map_cons] at hdistinct ⊢
    · rcases hmem e he with rfl | he
      · exact hproper.isName hnew
      · exact hproper.isName he
    · rcases hmem _ he with heq | he
      · rw [Prod.mk.injEq, FileNode.directory.injEq] at heq
        exact heq.2 ▸ ih (hproper.inner hnew)
      · exact hproper.inner he

/-- The new entry stands at its place. -/
lemma Grown.descend_new (h : Grown name node place entries larger) (hproper : Proper larger) :
    (FileNode.directory larger).descend (place ++ [name]) = some node := by
  induction h with
  | here before after =>
    rw [List.nil_append, hproper.descend_cons List.mem_append_cons_self, FileNode.descend_nil]
  | @inside place inner larger directory before after h ih =>
    rw [List.cons_append, hproper.descend_cons List.mem_append_cons_self]
    exact ih (hproper.inner List.mem_append_cons_self)

lemma lookup_append_cons {c directory : String} {inner : FileNode} (h : c ≠ directory)
    (before after : List (String × FileNode)) :
    (before ++ (directory, inner) :: after).lookup c = (before ++ after).lookup c := by
  rw [List.lookup_append, List.lookup_append, List.lookup_cons, beq_false_of_ne h]

/-- What stands at a place on both sides, if it is neither the new entry nor lies below it: there
are directories on the way to the new entry, and otherwise the same. -/
lemma Grown.descend_cases (h : Grown name node place entries larger) (hproper : Proper larger)
    (hnew : ¬ place ++ [name] <+: names) :
    (∃ rest inner inner', place = names ++ rest
        ∧ (FileNode.directory entries).descend names = some (.directory inner)
        ∧ (FileNode.directory larger).descend names = some (.directory inner')
        ∧ Grown name node rest inner inner')
      ∨ ¬ names <+: place
        ∧ (FileNode.directory larger).descend names
          = (FileNode.directory entries).descend names := by
  induction h generalizing names with
  | here before after =>
    cases names with
    | nil => exact Or.inl ⟨[], _, _, rfl, rfl, rfl, .here before after⟩
    | cons c more =>
      have hne : c ≠ name := by
        rintro rfl
        exact hnew (by simp)
      refine Or.inr ⟨by simp, ?_⟩
      rw [FileNode.descend_cons, FileNode.descend_cons, FileNode.child, FileNode.child,
        lookup_append_cons hne]
  | @inside place inner larger directory before after h ih =>
    cases names with
    | nil => exact Or.inl ⟨_, _, _, rfl, rfl, rfl, .inside directory before after h⟩
    | cons c more =>
      by_cases hc : c = directory
      · subst hc
        -- both sides have a directory there, and the induction goes on in it
        have hproper' := (Grown.inside c before after h).proper hproper
        have hnew' : ¬ place ++ [name] <+: more := by
          rwa [List.cons_append, List.cons_prefix_cons, and_iff_right rfl] at hnew
        rw [hproper.descend_cons List.mem_append_cons_self,
          hproper'.descend_cons List.mem_append_cons_self]
        rcases ih (hproper.inner List.mem_append_cons_self) hnew' with
          ⟨rest, deeper, deeper', rfl, hcase⟩ | ⟨hcase, heq⟩
        · exact Or.inl ⟨rest, deeper, deeper', rfl, hcase⟩
        · refine Or.inr ⟨?_, heq⟩
          rwa [List.cons_prefix_cons, and_iff_right rfl]
      · refine Or.inr ⟨?_, ?_⟩
        · rw [List.cons_prefix_cons]
          exact fun h => hc h.1
        · rw [FileNode.descend_cons, FileNode.descend_cons, FileNode.child, FileNode.child,
            lookup_append_cons hc, lookup_append_cons hc]

/-- Without the new entry there is nothing at its place. -/
lemma Grown.descend_old (h : Grown name node place entries larger) (hproper : Proper larger) :
    (FileNode.directory entries).descend (place ++ [name]) = none := by
  induction h with
  | here before after =>
    have hnone : (before ++ after).lookup name = none := by
      rw [List.lookup_eq_none_iff]
      intro e he
      rw [bne_iff_ne]
      exact (hproper.fst_ne he).symm
    rw [List.nil_append, FileNode.descend_cons, FileNode.child, hnone]
    rfl
  | @inside place inner larger directory before after h ih =>
    have hproper' := (Grown.inside directory before after h).proper hproper
    rw [List.cons_append, hproper'.descend_cons List.mem_append_cons_self]
    exact ih (hproper.inner List.mem_append_cons_self)

/-- A file brings no link with it. -/
lemma Grown.linkFree {content : List UInt8} (h : Grown name (.file content) place entries larger)
    (hlinks : LinkFree entries) : LinkFree larger := by
  induction h with
  | here before after =>
    obtain ⟨hlink, hbelow⟩ := hlinks
    refine .mk (fun other target he => hlink other target ?_) (fun other inner he => ?_)
    · simpa using he
    · exact hbelow other inner (by simpa using he)
  | @inside place inner larger directory before after h ih =>
    obtain ⟨hlink, hbelow⟩ := hlinks
    refine .mk (fun other target he => hlink other target ?_) (fun other deeper he => ?_)
    · simpa using he
    · simp only [List.mem_append, List.mem_cons, Prod.mk.injEq, FileNode.directory.injEq] at he
      rcases he with he | ⟨rfl, rfl⟩ | he
      · exact hbelow other deeper (by simp [he])
      · exact ih (hbelow other inner (by simp))
      · exact hbelow other deeper (by simp [he])

/-! ## File systems with one entry more -/

/-- A file system without links in which the working directory is there, and the same file system
with one entry more. But for this entry and what lies below it the same is denied. -/
structure AddsEntry (fs grown : FileSystem) (place : List String) (name : String)
    (node : FileNode) : Prop where
  wellFormed : grown.WellFormed
  linkFree : LinkFree fs.entries
  hasWorkingDirectory : fs.HasWorkingDirectory
  entries : Grown name node place fs.entries grown.entries
  workingDirectory : grown.workingDirectory = fs.workingDirectory
  stillDenied : ∀ path ∈ fs.denied, path ∈ grown.denied
  newlyDenied : ∀ path ∈ grown.denied, path ∉ fs.denied → place ++ [name] <+: fs.namesTo path

/-- Where names lead on both sides: they are refused for the same reason, or they lead to the same
file, or to what are directories at the same place. -/
inductive LeadsAlike (fs grown : FileSystem) (names : List String) :
    Except Refusal FileNode → Except Refusal FileNode → Prop
  | refused (reason : Refusal) : LeadsAlike fs grown names (.error reason) (.error reason)
  | file (content : List UInt8) :
      LeadsAlike fs grown names (.ok (.file content)) (.ok (.file content))
  | directory {inner larger : List (String × FileNode)}
      (old : fs.nodeAt names = some (.directory inner))
      (new : grown.nodeAt names = some (.directory larger)) :
      LeadsAlike fs grown names (.ok (.directory inner)) (.ok (.directory larger))

namespace AddsEntry

variable {fs grown : FileSystem} {stack : List String} {trail trail' : Trail} {path : String}

lemma wellFormed_old (h : AddsEntry fs grown place name node) : fs.WellFormed :=
  h.entries.proper h.wellFormed

/-- What was there before is not below the new entry. -/
lemma not_isPrefix_of_nodeAt (h : AddsEntry fs grown place name node) {old : FileNode}
    (hold : fs.nodeAt names = some old) : ¬ place ++ [name] <+: names := by
  rintro ⟨more, rfl⟩
  rw [nodeAt, FileNode.descend_append, h.entries.descend_old h.wellFormed] at hold
  simp at hold

/-- A directory that was there before is there still. -/
lemma exists_nodeAt (h : AddsEntry fs grown place name node) {inner : List (String × FileNode)}
    (hold : fs.nodeAt names = some (.directory inner)) :
    ∃ larger, grown.nodeAt names = some (.directory larger) := by
  rcases h.entries.descend_cases h.wellFormed (h.not_isPrefix_of_nodeAt hold) with
    ⟨-, -, larger, -, -, hlarger, -⟩ | ⟨-, heq⟩
  · exact ⟨larger, hlarger⟩
  · exact ⟨inner, heq.trans hold⟩

lemma hasWorkingDirectory_new (h : AddsEntry fs grown place name node) :
    grown.HasWorkingDirectory := by
  obtain ⟨inner, hinner⟩ := h.hasWorkingDirectory
  rw [HasWorkingDirectory, h.workingDirectory]
  exact h.exists_nodeAt hinner

/-- Paths start from the same working directory as before. -/
lemma stackFor_eq (h : AddsEntry fs grown place name node) (path : String) :
    grown.stackFor path = fs.stackFor path := by
  rw [stackFor, stackFor, h.workingDirectory]

/-- A path spells the same names as before. -/
lemma namesTo_eq (h : AddsEntry fs grown place name node) (path : String) :
    grown.namesTo path = fs.namesTo path := by
  rw [FileSystem.namesTo_eq, FileSystem.namesTo_eq, h.stackFor_eq]

/-! ## The same ways -/

/-- An entry that is looked up and is not the new one is a directory on both sides, or it is the
same on both. -/
lemma lookup_cases (h : AddsEntry fs grown place name node) (halong : Along fs.entries stack trail)
    (halong' : Along grown.entries stack trail') {c : String}
    (hne : place ++ [name] ≠ (c :: stack).reverse) :
    (∃ inner larger, (here trail).lookup c = some (.directory inner)
        ∧ (here trail').lookup c = some (.directory larger))
      ∨ (here trail').lookup c = (here trail).lookup c := by
  have hnew : ¬ place ++ [name] <+: (c :: stack).reverse := by
    rw [List.reverse_cons] at hne ⊢
    rw [List.prefix_concat_iff, not_or]
    exact ⟨hne, h.not_isPrefix_of_nodeAt halong.descend⟩
  rw [halong.lookup, halong'.lookup]
  rcases h.entries.descend_cases h.wellFormed hnew with
    ⟨-, inner, larger, -, hinner, hlarger, -⟩ | ⟨-, heq⟩
  · exact Or.inl ⟨inner, larger, hinner, hlarger⟩
  · exact Or.inr heq

/-- Components lead alike from two trails along the same names, if they do not come by the new
entry. -/
lemma follow_alike (h : AddsEntry fs grown place name node) {links : Nat} {cs : List String}
    (halong : Along fs.entries stack trail) (halong' : Along grown.entries stack trail')
    (hpass : place ++ [name] ∉ fs.placesFrom stack cs) :
    LeadsAlike fs grown (cs.foldl (pushComponent true) stack).reverse
      (fs.follow links trail cs) (grown.follow links trail' cs) := by
  -- one component is done with at a time, and both trails stay along the same names
  induction cs generalizing stack trail trail' with
  | nil =>
    rw [follow, follow]
    exact .directory halong.descend halong'.descend
  | cons c rest ih =>
    rw [List.foldl_cons]
    by_cases hskip : (c == "" || c == ".") = true
    · rw [placesFrom_of_skipped hskip] at hpass
      rw [follow, follow, if_pos hskip, if_pos hskip, pushComponent_of_skipped hskip]
      exact ih halong halong' hpass
    · by_cases hdots : (c == "..") = true
      · rw [placesFrom_of_dots hskip hdots] at hpass
        rw [follow, follow, if_neg hskip, if_neg hskip, if_pos hdots, if_pos hdots,
          beq_iff_eq.mp hdots, pushComponent_dots (halong.ne_dots h.wellFormed_old)]
        exact ih halong.up halong'.up hpass
      · rw [placesFrom_of_kept hskip hdots, List.mem_cons, not_or] at hpass
        obtain ⟨hne, hpass⟩ := hpass
        rw [follow, follow, if_neg hskip, if_neg hskip, if_neg hdots, if_neg hdots,
          pushComponent_of_kept hskip hdots]
        -- both sides enter the directory under this component
        have henter : ∀ {inner larger : List (String × FileNode)},
            (here trail).lookup c = some (.directory inner) →
            (here trail').lookup c = some (.directory larger) →
            LeadsAlike fs grown (rest.foldl (pushComponent true) (c :: stack)).reverse
              (fs.follow links (inner :: trail) rest)
              (grown.follow links (larger :: trail') rest) := by
          intro inner larger hinner hlarger
          refine ih (halong.enter hinner) (halong'.enter hlarger) ?_
          have hnode : fs.nodeAt (c :: stack).reverse = some (.directory inner) := by
            rw [← hinner, halong.lookup]
            rfl
          rwa [hnode, Option.any_some, FileNode.isDirectory, if_pos rfl] at hpass
        rcases h.lookup_cases halong halong' hne with ⟨inner, larger, hinner, hlarger⟩ | heq
        · rw [hinner, hlarger]
          exact henter hinner hlarger
        · rw [heq]
          cases hlook : (here trail).lookup c with
          | none => exact .refused .missing
          | some found =>
            cases found with
            | directory inner => exact henter hlook (heq.trans hlook)
            | file content =>
              dsimp only
              split
              · exact .file content
              · exact .refused .notDirectory
            | link target =>
              rw [halong.lookup] at hlook
              exact absurd hlook (h.linkFree.descend_ne_link _ target)

/-- **Paths lead alike.** A path that does not come by the new entry leads to the same on both
sides. -/
theorem resolve_alike (h : AddsEntry fs grown place name node)
    (hpass : place ++ [name] ∉ fs.placesOn path) :
    LeadsAlike fs grown (fs.namesTo path) (fs.resolve path) (grown.resolve path) := by
  have halong' := along_trailFor h.hasWorkingDirectory_new path
  rw [h.stackFor_eq] at halong'
  by_cases hempty : path = ""
  · rw [resolve, resolve, if_pos (by simpa using hempty), if_pos (by simpa using hempty)]
    exact .refused .missing
  · rw [resolve_eq hempty, resolve_eq hempty]
    exact h.follow_alike (along_trailFor h.hasWorkingDirectory path) halong' hpass

/-! ## The same files and directories -/

/-- Nothing else is denied than before. -/
lemma denies_eq (h : AddsEntry fs grown place name node)
    (hnew : ¬ place ++ [name] <+: fs.namesTo path) : grown.denies path = fs.denies path := by
  rw [denies, denies, Bool.eq_iff_iff, List.contains_iff_mem, List.contains_iff_mem]
  refine ⟨fun hdenied => ?_, h.stillDenied _⟩
  by_contra hold
  refine hnew ?_
  rw [← namesTo_normal]
  exact h.newlyDenied _ hdenied hold

/-- A directory that was there can be listed as before. -/
lemma denies_eq_of_resolve (h : AddsEntry fs grown place name node) {old : FileNode}
    (hres : fs.resolve path = .ok old) : grown.denies path = fs.denies path := by
  have hold := descend_of_resolve h.wellFormed_old h.linkFree h.hasWorkingDirectory hres
  exact h.denies_eq (h.not_isPrefix_of_nodeAt hold)

/-- A path that does not pass by the new entry leads to a file if it did before. -/
lemma isFile_eq (h : AddsEntry fs grown place name node)
    (hpass : place ++ [name] ∉ fs.placesOn path) : grown.isFile path = fs.isFile path := by
  have halike := h.resolve_alike hpass
  rw [isFile, isFile]
  generalize fs.resolve path = old, grown.resolve path = new at halike
  cases halike <;> rfl

/-- A path that does not come by the new entry is listed on both sides or on neither. -/
theorem list_alike (h : AddsEntry fs grown place name node)
    (hpass : place ++ [name] ∉ fs.placesOn path) :
    (∃ inner larger, fs.list path = .ok inner ∧ grown.list path = .ok larger
        ∧ fs.nodeAt (fs.namesTo path) = some (.directory inner)
        ∧ grown.nodeAt (fs.namesTo path) = some (.directory larger))
      ∨ (∃ fault, fs.list path = .error fault) ∧ ∃ fault, grown.list path = .error fault := by
  have halike := h.resolve_alike hpass
  cases hlist : fs.list path with
  | ok inner =>
    obtain ⟨hnull, hdenied, hres⟩ := resolve_of_list hlist
    rw [← h.denies_eq_of_resolve hres] at hdenied
    rw [hres] at halike
    generalize hres' : grown.resolve path = new at halike
    cases halike with
    | @directory _ larger hold hnew =>
      exact Or.inl ⟨inner, larger, rfl, list_eq_of_resolve hnull hdenied hres', hold, hnew⟩
  | error fault =>
    refine Or.inr ⟨⟨fault, rfl⟩, ?_⟩
    cases hlist' : grown.list path with
    | error fault => exact ⟨fault, rfl⟩
    | ok larger =>
      obtain ⟨hnull, hdenied, hres'⟩ := resolve_of_list hlist'
      rw [hres'] at halike
      generalize hres : fs.resolve path = old at halike
      cases halike with
      | directory hold hnew =>
        rw [h.denies_eq_of_resolve hres] at hdenied
        rw [list_eq_of_resolve hnull hdenied hres] at hlist
        simp at hlist

/-- What is read from a path that does not come by the new entry is the same, or it is refused on
both sides. -/
lemma read_alike (h : AddsEntry fs grown place name node)
    (hpass : place ++ [name] ∉ fs.placesOn path) :
    grown.read path = fs.read path
      ∨ (∃ reason, fs.read path = .error (.refused reason))
        ∧ ∃ reason, grown.read path = .error (.refused reason) := by
  have halike := h.resolve_alike hpass
  rw [read, read]
  split
  · exact Or.inl rfl
  · cases hres : fs.resolve path with
    | error reason =>
      rw [hres] at halike
      generalize grown.resolve path = new at halike
      cases halike
      refine Or.inr ⟨?_, ?_⟩
      · split <;> exact ⟨_, rfl⟩
      · split <;> exact ⟨_, rfl⟩
    | ok old =>
      rw [h.denies_eq_of_resolve hres]
      rw [hres] at halike
      generalize grown.resolve path = new at halike
      cases halike <;> exact Or.inl rfl

/-- The same is loaded from a path that does not come by the new entry. -/
theorem load_eq (h : AddsEntry fs grown place name node) (parser : Parser) (settings : Settings)
    (hpass : place ++ [name] ∉ fs.placesOn path) :
    (Source.load parser grown settings path).value
      = (Source.load parser fs settings path).value := by
  rw [Source.load, Source.load]
  split
  · rfl
  · rcases h.read_alike hpass with heq | ⟨⟨reason, hold⟩, reason', hnew⟩
    · rw [heq]
    · rw [hold, hnew]
      rfl

end AddsEntry

/-! ## Putting an entry -/

/-- A node under a new name goes behind the entries that are there. -/
lemma alterEntry_of_lookup_eq_none {f : Option FileNode → Option FileNode}
    (hnew : entries.lookup name = none) (hf : f none = some node) :
    alterEntry name f entries = entries ++ [(name, node)] := by
  induction entries with
  | nil => rw [alterEntry, hf]; rfl
  | cons e more ih =>
    obtain ⟨other, old⟩ := e
    rw [List.lookup_cons] at hnew
    split at hnew
    · simp at hnew
    · next hne =>
      rw [beq_eq_false_iff_ne] at hne
      rw [alterEntry, if_neg (by simpa using hne.symm), ih hnew, List.cons_append]

/-- A node that is there is changed where it is. -/
lemma alterEntry_append_cons {f : Option FileNode → Option FileNode} {old : FileNode}
    {before : List (String × FileNode)} (hbefore : ∀ e ∈ before, name != e.1)
    (hf : f (some old) = some node) (after : List (String × FileNode)) :
    alterEntry name f (before ++ (name, old) :: after) = before ++ (name, node) :: after := by
  induction before with
  | nil => rw [List.nil_append, alterEntry, if_pos (by simp), hf]; rfl
  | cons e more ih =>
    obtain ⟨other, held⟩ := e
    have hne : name ≠ other := by simpa using hbefore _ List.mem_cons_self
    rw [List.cons_append, alterEntry, if_neg (by simpa using hne.symm),
      ih fun e he => hbefore e (List.mem_cons_of_mem _ he), List.cons_append]

/-- What is put under a new name into a directory that is there is one entry more. -/
lemma grown_alterAt {inner : List (String × FileNode)}
    (hdirectory : (FileNode.directory entries).descend place = some (.directory inner))
    (hnew : inner.lookup name = none) :
    Grown name node place entries (alterAt (fun _ => some node) (place ++ [name]) entries) := by
  induction place generalizing entries with
  | nil =>
    rw [FileNode.descend_nil, Option.some_inj, FileNode.directory.injEq] at hdirectory
    subst hdirectory
    rw [List.nil_append, alterAt, alterEntry_of_lookup_eq_none hnew rfl]
    have hhere : Grown name node [] (entries ++ []) (entries ++ [(name, node)]) := .here entries []
    rwa [List.append_nil] at hhere
  | cons directory place ih =>
    obtain ⟨next, hnext, hmore⟩ := Option.bind_eq_some_iff.mp hdirectory
    rcases isDirectory_eq_false_or next with hdir | ⟨below, rfl⟩
    · obtain ⟨-, rfl⟩ := FileNode.of_descend_eq_some hdir hmore
      simp [FileNode.isDirectory] at hdir
    · obtain ⟨before, after, rfl, hbefore⟩ := List.lookup_eq_some_iff.mp hnext
      obtain ⟨x, xs, hxs⟩ := List.exists_cons_of_ne_nil
        (List.append_ne_nil_of_right_ne_nil place (List.cons_ne_nil name []))
      have hbelow := ih hmore
      rw [hxs] at hbelow
      rw [List.cons_append, hxs, alterAt, alterEntry_append_cons hbefore rfl]
      · exact .inside directory before after hbelow
      · simp

variable {fs grown : FileSystem} {path : String}

/-- Putting something under a new name into a directory that is there adds an entry. -/
theorem addsEntry_put (hfs : fs.WellFormed) (hlinks : LinkFree fs.entries)
    (hwork : fs.HasWorkingDirectory) (hpath : isUnusable path = false)
    (hplace : fs.namesTo path = place ++ [name]) {inner : List (String × FileNode)}
    (hdirectory : fs.nodeAt place = some (.directory inner)) (hnew : inner.lookup name = none)
    (hnode : IsPlaceable node) : AddsEntry fs (fs.put path node) place name node where
  wellFormed := by
    obtain ⟨working, hworking⟩ := hwork
    exact hfs.put (hfs.isName_of_descend hworking) hpath hnode
  linkFree := hlinks
  hasWorkingDirectory := hwork
  entries := by
    rw [put, hplace]
    exact grown_alterAt hdirectory hnew
  workingDirectory := rfl
  stillDenied := fun _ h => h
  newlyDenied := fun _ h hold => absurd h hold

/-- The new entry, or anything below it, may be denied. -/
theorem AddsEntry.deny (h : AddsEntry fs grown place name node)
    (hpath : place ++ [name] <+: fs.namesTo path) :
    AddsEntry fs (grown.deny path) place name node where
  wellFormed := h.wellFormed
  linkFree := h.linkFree
  hasWorkingDirectory := h.hasWorkingDirectory
  entries := h.entries
  workingDirectory := h.workingDirectory
  stillDenied := fun old hold => List.mem_append_left _ (h.stillDenied old hold)
  newlyDenied := by
    intro denied hdenied hnew
    rcases List.mem_append.mp hdenied with hdenied | hdenied
    · exact h.newlyDenied denied hdenied hnew
    · rw [List.mem_singleton.mp hdenied, namesTo_normal]
      exact hpath

end FileSystem

end InterfaceAtlas
