import InterfaceAtlas.Files.Path
import InterfaceAtlas.Proofs.Text.Pieces
import Mathlib.Data.List.DropRight

/-!
# Paths of entries

Scans spell the path of an entry by joining its name to the path of its directory. This file says
what such a spelling amounts to:

* `components_joinAll`: its components are those of the directory and then the names;
* `joinAll_injective`: different names below one directory have different paths;
* `containing_join`: the directory that is read off the path of an entry is the directory it was
  joined to, but for slashes at the end.
-/

namespace InterfaceAtlas

namespace Path

/-- A text that can name an entry of a directory. -/
structure IsName (name : String) : Prop where
  ne_empty : name ≠ ""
  ne_dot : name ≠ "."
  ne_dots : name ≠ ".."
  no_slash : '/' ∉ name.toList
  no_null : '\x00' ∉ name.toList

/-- The path of what some names lead to from a directory on. -/
def joinAll (directory : String) (names : List String) : String := names.foldl join directory

@[simp] lemma joinAll_nil (directory : String) : joinAll directory [] = directory := rfl

@[simp] lemma joinAll_cons (directory name : String) (names : List String) :
    joinAll directory (name :: names) = joinAll (join directory name) names := rfl

/-- The last name is joined last. -/
lemma joinAll_concat (directory name : String) (names : List String) :
    joinAll directory (names ++ [name]) = join (joinAll directory names) name := by
  rw [joinAll, List.foldl_append]
  rfl

/-! ## Components -/

/-- A slash separates the parts in front of it from those behind it. -/
lemma components_append_slash (a b : String) :
    components (a ++ "/" ++ b) = components a ++ components b := by
  have hlist : (a ++ "/" ++ b).toList = a.toList ++ '/' :: b.toList := by
    simp
  rw [components, hlist, Text.splitAt_append_sep, List.map_append]
  rfl

lemma components_of_noSlash {name : String} (h : '/' ∉ name.toList) :
    components name = [name] := by
  rw [components, Text.splitAt_of_notMem h, List.map_singleton, String.ofList_toList]

/-- The text in front of the names of a directory's entries. -/
def opening (directory : String) : String :=
  if directory == "" || directory.toList.getLast? == some '/' then directory else directory ++ "/"

lemma join_eq (directory name : String) : join directory name = opening directory ++ name := by
  rw [join, opening]
  split <;> rfl

/-- An opening is empty or ends with a slash. -/
lemma opening_eq (directory : String) :
    (directory = "" ∧ opening directory = "")
      ∨ (directory ≠ "" ∧ ∃ front, opening directory = front ++ "/") := by
  by_cases hd : directory = ""
  · exact Or.inl ⟨hd, by rw [hd]; rfl⟩
  · refine Or.inr ⟨hd, ?_⟩
    rw [opening]
    by_cases hlast : directory.toList.getLast? = some '/'
    · rw [if_pos (by simp [hlast])]
      obtain ⟨front, hfront⟩ := List.getLast?_eq_some_iff.mp hlast
      refine ⟨String.ofList front, String.toList_inj.mp ?_⟩
      rw [hfront]
      simp
    · rw [if_neg (by simp [hlast, hd])]
      exact ⟨directory, rfl⟩

/-- The components of a directory's path that its entries have too. -/
def stem (directory : String) : List String := (components (opening directory)).dropLast

lemma components_opening_append (directory : String) (x : String) :
    components (opening directory ++ x) = stem directory ++ components x := by
  rw [stem]
  rcases opening_eq directory with ⟨-, h⟩ | ⟨-, front, h⟩
  · rw [h, String.empty_append]
    rfl
  · have hslash : components (front ++ "/") = components front ++ [""] := by
      have h := components_append_slash front ""
      rwa [String.append_empty] at h
    rw [h, components_append_slash, hslash, List.dropLast_concat]

/-- A name that is joined is one more part. -/
lemma components_join {directory name : String} (hname : IsName name) :
    components (join directory name) = stem directory ++ [name] := by
  rw [join_eq, components_opening_append, components_of_noSlash hname.no_slash]

lemma join_ne_empty {directory name : String} (hname : IsName name) :
    join directory name ≠ "" := by
  intro h
  rw [join_eq, ← String.toList_inj, String.toList_append] at h
  exact hname.ne_empty (String.toList_inj.mp (List.append_eq_nil_iff.mp h).2)

/-- The name of an entry does not end with a slash, so one is put behind it. -/
lemma opening_join {directory name : String} (hname : IsName name) :
    opening (join directory name) = join directory name ++ "/" := by
  have hchars : name.toList ≠ [] := fun h => hname.ne_empty (String.toList_inj.mp h)
  have hlast : (join directory name).toList.getLast? ≠ some '/' := by
    rw [join_eq, String.toList_append, List.getLast?_append_of_ne_nil _ hchars]
    exact fun h => hname.no_slash (List.mem_of_getLast? h)
  rw [opening, if_neg (by simp [hlast, join_ne_empty hname])]

lemma stem_join {directory name : String} (hname : IsName name) :
    stem (join directory name) = stem directory ++ [name] := by
  have h := components_append_slash (join directory name) ""
  rw [String.append_empty] at h
  rw [stem, opening_join hname, h, components_join hname]
  exact List.dropLast_concat

/-- Names that are joined are the last parts of the path. -/
lemma stem_joinAll {directory : String} {names : List String} (hnames : ∀ n ∈ names, IsName n) :
    stem (joinAll directory names) = stem directory ++ names := by
  induction names generalizing directory with
  | nil => rw [joinAll_nil, List.append_nil]
  | cons name more ih =>
    rw [joinAll_cons, ih fun n hn => hnames n (List.mem_cons_of_mem _ hn),
      stem_join (hnames name List.mem_cons_self), List.append_assoc, List.singleton_append]

/-- The components of what names lead to: those of the directory and then the names. -/
theorem components_joinAll {directory : String} {names : List String} (hne : names ≠ [])
    (hnames : ∀ n ∈ names, IsName n) :
    components (joinAll directory names) = stem directory ++ names := by
  obtain ⟨front, name, rfl⟩ := (List.eq_nil_or_concat' names).resolve_left hne
  rw [joinAll_concat, components_join (hnames name (by simp)),
    stem_joinAll fun n hn => hnames n (List.mem_append_left _ hn), List.append_assoc]

/-- A path to something below a directory is never empty. -/
lemma joinAll_ne_empty {directory : String} {names : List String} (hne : names ≠ [])
    (hnames : ∀ n ∈ names, IsName n) : joinAll directory names ≠ "" := by
  obtain ⟨front, name, rfl⟩ := (List.eq_nil_or_concat' names).resolve_left hne
  rw [joinAll_concat]
  exact join_ne_empty (hnames name (by simp))

/-- Different names below one directory have different paths. -/
theorem joinAll_injective {directory : String} {names others : List String}
    (hne : names ≠ []) (hne' : others ≠ []) (hnames : ∀ n ∈ names, IsName n)
    (hothers : ∀ n ∈ others, IsName n)
    (h : joinAll directory names = joinAll directory others) : names = others := by
  -- the components of both paths start with those of the directory
  have hc := congrArg components h
  rw [components_joinAll hne hnames, components_joinAll hne' hothers] at hc
  exact List.append_cancel_left hc

/-! ## Null characters, blanks and names -/

/-- A text is unusable if a part of it is. -/
lemma isUnusable_append (a b : String) : isUnusable (a ++ b) = (isUnusable a || isUnusable b) := by
  rw [isUnusable, String.toList_append, List.contains_append]
  rfl

lemma isUnusable_opening (directory : String) :
    isUnusable (opening directory) = isUnusable directory := by
  rw [opening]
  split
  · rfl
  · rw [isUnusable_append, Bool.or_eq_left_iff_imp]
    exact fun h => absurd h (by decide)

lemma isUnusable_name {name : String} (hname : IsName name) : isUnusable name = false := by
  rw [isUnusable, ← Bool.not_eq_true, List.contains_iff_mem]
  exact hname.no_null

/-- Names bring no null character into a path. -/
lemma isUnusable_joinAll {directory : String} {names : List String}
    (hnames : ∀ n ∈ names, IsName n) :
    isUnusable (joinAll directory names) = isUnusable directory := by
  induction names generalizing directory with
  | nil => rfl
  | cons name more ih =>
    rw [joinAll_cons, ih fun n hn => hnames n (List.mem_cons_of_mem _ hn), join_eq,
      isUnusable_append, isUnusable_opening, isUnusable_name (hnames name List.mem_cons_self),
      Bool.or_false]

lemma isBlankText_join {directory name : String} (h : Text.isBlankText directory = false) :
    Text.isBlankText (join directory name) = false := by
  rw [Text.isBlankText, List.all_eq_false] at h ⊢
  obtain ⟨c, hc, hblank⟩ := h
  refine ⟨c, ?_, hblank⟩
  rw [join]
  split <;> simp [hc]

/-- What names lead to is not blank where the directory is not. -/
lemma isBlankText_joinAll {directory : String} (h : Text.isBlankText directory = false)
    (names : List String) : Text.isBlankText (joinAll directory names) = false := by
  induction names generalizing directory with
  | nil => exact h
  | cons name more ih => exact ih (isBlankText_join h)

/-- The directory of a file is spelled with characters of the file's path, or it is a dot. -/
lemma isUnusable_containing {path : String} (h : isUnusable path = false) :
    isUnusable (containing path) = false := by
  have hbefore : ∀ c ∈ beforeLast path.toList, c ∈ path.toList := by
    intro c hc
    rw [beforeLast, List.mem_reverse] at hc
    exact List.mem_reverse.mp ((List.dropWhile_sublist _).mem hc)
  have hparent : ∀ c ∈ (parent path).toList, c ∈ path.toList := by
    intro c hc
    rw [parent] at hc
    split at hc
    · rw [String.toList_ofList] at hc
      exact hbefore c hc
    · rw [String.toList_ofList, List.mem_reverse] at hc
      exact hbefore c (List.mem_reverse.mp ((List.dropWhile_sublist _).mem hc))
  rw [containing]
  split
  · decide
  · rw [isUnusable, List.contains_eq_mem, decide_eq_false_iff_not] at h ⊢
    exact fun hnull => h (hparent _ hnull)

lemma head?_opening_append {directory name : String} (hd : directory ≠ "") :
    (opening directory ++ name).toList.head? = directory.toList.head? := by
  have hchars : directory.toList ≠ [] := fun h => hd (String.toList_inj.mp h)
  rw [opening]
  split
  · rw [String.toList_append, List.head?_append_of_ne_nil _ hchars]
  · rw [String.append_assoc, String.toList_append, List.head?_append_of_ne_nil _ hchars]

lemma isAbsolute_join {directory name : String} (hname : IsName name) :
    isAbsolute (join directory name) = isAbsolute directory := by
  rw [join_eq, isAbsolute, isAbsolute]
  by_cases hd : directory = ""
  · have hhead : name.toList.head? ≠ some '/' := by
      exact fun h => hname.no_slash (List.mem_of_head? h)
    rw [hd]
    show (("" ++ name).toList.head? == some '/') = false
    rw [String.empty_append]
    simpa using hhead
  · rw [head?_opening_append hd]

/-- What lies below a directory is absolute if the directory is. -/
lemma isAbsolute_joinAll {directory : String} {names : List String}
    (hnames : ∀ n ∈ names, IsName n) :
    isAbsolute (joinAll directory names) = isAbsolute directory := by
  induction names generalizing directory with
  | nil => rfl
  | cons name more ih =>
    rw [joinAll_cons, ih fun n hn => hnames n (List.mem_cons_of_mem _ hn),
      isAbsolute_join (hnames name List.mem_cons_self)]

/-! ## The directory that a path names -/

/-- The first path is the second one, perhaps with slashes behind it. -/
def AddsSlashes (long short : String) : Prop :=
  long = short
    ∨ short ≠ "" ∧ short.toList.getLast? ≠ some '/'
      ∧ ∃ n, long.toList = short.toList ++ List.replicate n '/'

/-- Behind an opening, the last slash is the one before the name. -/
lemma beforeLast_join {directory name : String} (hname : IsName name) :
    beforeLast (join directory name).toList = (opening directory).toList := by
  have hdrop : name.toList.reverse.dropWhile (· != '/') = [] := by
    rw [List.dropWhile_eq_nil_iff]
    intro c hc
    rw [bne_iff_ne]
    exact fun h => hname.no_slash (h ▸ List.mem_reverse.mp hc)
  rw [beforeLast, join_eq, String.toList_append, List.reverse_append, List.dropWhile_append, hdrop,
    List.isEmpty_nil, if_pos rfl]
  rcases opening_eq directory with ⟨-, h⟩ | ⟨-, front, h⟩
  · rw [h]
    rfl
  · rw [h, String.toList_append, List.reverse_append]
    show (List.dropWhile _ ('/' :: front.toList.reverse)).reverse = _
    rw [List.dropWhile_cons_of_neg (by decide), List.reverse_cons, List.reverse_reverse]
    rfl

lemma parent_join {directory name : String} (hname : IsName name) :
    parent (join directory name)
      = if (opening directory).toList.all (· == '/') then opening directory
        else String.ofList ((opening directory).toList.rdropWhile (· == '/')) := by
  rw [parent, beforeLast_join hname]
  simp only [String.ofList_toList]
  rfl

/-- A directory without a slash at its end is read off as it is. -/
lemma parent_join_of_getLast?_ne {directory name : String} (hd : directory ≠ "")
    (hlast : directory.toList.getLast? ≠ some '/') (hname : IsName name) :
    parent (join directory name) = directory := by
  have hopen : opening directory = directory ++ "/" := by
    rw [opening, if_neg (by simp [hlast, hd])]
  have hchars : directory.toList ≠ [] := fun h => hd (String.toList_inj.mp h)
  have hlast' : directory.toList.getLast hchars ≠ '/' := by
    rwa [List.getLast?_eq_some_getLast hchars, Ne, Option.some_inj] at hlast
  have hall : (opening directory).toList.all (· == '/') = false := by
    rw [hopen, String.toList_append, List.all_append, Bool.and_eq_false_iff, List.all_eq_false]
    exact Or.inl ⟨_, List.getLast_mem hchars, by simpa using hlast'⟩
  rw [parent_join hname, hall, if_neg (by decide), hopen, String.toList_append]
  show String.ofList ((directory.toList ++ ['/']).rdropWhile (· == '/')) = directory
  rw [List.rdropWhile_concat_pos _ _ _ (by decide),
    List.rdropWhile_eq_self_iff.mpr (fun h => by simpa using hlast'), String.ofList_toList]

/-- A text is what is left without the slashes at its end, and then these. -/
lemma exists_append_replicate_slash (cs : List Char) :
    ∃ n, cs = cs.rdropWhile (· == '/') ++ List.replicate n '/' := by
  induction cs using List.reverseRecOn with
  | nil => exact ⟨0, rfl⟩
  | append_singleton cs c ih =>
    by_cases hc : c = '/'
    · obtain ⟨n, hn⟩ := ih
      refine ⟨n + 1, ?_⟩
      rw [List.rdropWhile_concat_pos _ _ _ (by simp [hc]), List.replicate_succ',
        ← List.append_assoc, ← hn, hc]
    · exact ⟨0, by rw [List.rdropWhile_concat_neg _ _ _ (by simp [hc]), List.replicate_zero,
        List.append_nil]⟩

/-- The directory read off the path of an entry is the one the name was joined to, but for slashes
at its end. -/
theorem containing_join {directory name : String} (hd : directory ≠ "") (hname : IsName name) :
    AddsSlashes directory (containing (join directory name)) := by
  by_cases hlast : directory.toList.getLast? = some '/'
  · have hopen : opening directory = directory := by rw [opening, if_pos (by simp [hlast])]
    by_cases hall : directory.toList.all (· == '/')
    · -- nothing but slashes: they are all kept
      rw [containing, parent_join hname, hopen, if_pos hall, if_neg (by simpa using hd)]
      exact Or.inl rfl
    · -- the slashes at the end go, and what is left is not empty
      obtain ⟨n, hn⟩ := exists_append_replicate_slash directory.toList
      have hne : directory.toList.rdropWhile (· == '/') ≠ [] := by
        intro h
        rw [h, List.nil_append] at hn
        rw [hn] at hall
        simp at hall
      have hlast' : (directory.toList.rdropWhile (· == '/')).getLast? ≠ some '/' := by
        rw [List.getLast?_eq_some_getLast hne, Ne, Option.some_inj]
        simpa using List.rdropWhile_last_not (· == '/') directory.toList hne
      rw [containing, parent_join hname, hopen, if_neg hall, if_neg (by simpa using hne)]
      refine Or.inr ⟨by simpa using hne, by rwa [String.toList_ofList], n, ?_⟩
      rwa [String.toList_ofList]
  · rw [containing, parent_join_of_getLast?_ne hd hlast hname, if_neg (by simpa using hd)]
    exact Or.inl rfl

/-! ## Spellings of one directory -/

/-- Slashes behind a path are empty components of it. -/
lemma components_append_replicate_slash (path : String) (n : Nat) :
    components (path ++ String.ofList (List.replicate n '/'))
      = components path ++ List.replicate n "" := by
  induction n with
  | zero => simp
  | succ n ih =>
    have hlast : path ++ String.ofList (List.replicate (n + 1) '/')
        = path ++ String.ofList (List.replicate n '/') ++ "/" ++ "" := by
      rw [← String.toList_inj, List.replicate_succ']
      simp
    rw [hlast, components_append_slash, ih, List.append_assoc, List.replicate_succ']
    rfl

lemma stem_of_getLast?_ne {directory : String} (hd : directory ≠ "")
    (hlast : directory.toList.getLast? ≠ some '/') : stem directory = components directory := by
  have h := components_append_slash directory ""
  rw [String.append_empty] at h
  rw [stem, opening, if_neg (by simp [hlast, hd]), h]
  exact List.dropLast_concat

/-- Slashes behind a directory are empty components in front of its entries. -/
lemma AddsSlashes.stem_eq {long short : String} (h : AddsSlashes long short) :
    ∃ n, stem long = stem short ++ List.replicate n "" := by
  rcases h with rfl | ⟨hne, hlast, n, hn⟩
  · exact ⟨0, (List.append_nil _).symm⟩
  · have hlong : long = short ++ String.ofList (List.replicate n '/') := by
      rw [← String.toList_inj, hn, String.toList_append, String.toList_ofList]
    cases n with
    | zero =>
      rw [List.replicate_zero, List.append_nil] at hn
      exact ⟨0, by rw [String.toList_inj.mp hn, List.replicate_zero, List.append_nil]⟩
    | succ n =>
      -- the longer path ends with a slash, and the last of its empty components is no longer there
      have hopen : opening long = long := by
        rw [opening, if_pos]
        rw [hn, List.replicate_succ', ← List.append_assoc, List.getLast?_concat]
        simp
      refine ⟨n, ?_⟩
      rw [stem_of_getLast?_ne hne hlast, stem, hopen, hlong, components_append_replicate_slash,
        List.replicate_succ', ← List.append_assoc]
      exact List.dropLast_concat

/-- More slashes do not make a path absolute. -/
lemma AddsSlashes.isAbsolute_eq {long short : String} (h : AddsSlashes long short) :
    isAbsolute long = isAbsolute short := by
  rcases h with rfl | ⟨hne, -, n, hn⟩
  · rfl
  · have hchars : short.toList ≠ [] := fun h => hne (String.toList_inj.mp h)
    rw [isAbsolute, isAbsolute, hn, List.head?_append_of_ne_nil _ hchars]

lemma AddsSlashes.isUnusable_eq {long short : String} (h : AddsSlashes long short) :
    isUnusable long = isUnusable short := by
  rcases h with rfl | ⟨-, -, n, hn⟩
  · rfl
  · have hslashes : (List.replicate n '/').contains '\x00' = false := by
      rw [List.contains_eq_mem, decide_eq_false_iff_not, List.mem_replicate]
      exact fun h => absurd h.2 (by decide)
    rw [isUnusable, isUnusable, hn, List.contains_eq_any_beq, List.any_append,
      ← List.contains_eq_any_beq, ← List.contains_eq_any_beq, hslashes, Bool.or_false]

/-- What stands behind a path with something else than slashes does not count as leading. -/
lemma leadingSlashes_append {short path : String} (hne : short ≠ "")
    (hlast : short.toList.getLast? ≠ some '/') (rest : List Char)
    (h : path.toList = short.toList ++ rest) :
    leadingSlashes path = leadingSlashes short := by
  have hchars : short.toList ≠ [] := fun h => hne (String.toList_inj.mp h)
  -- the leading slashes end before the end of the shorter path
  have hlen : (short.toList.takeWhile (· == '/')).length ≠ short.toList.length := by
    intro hl
    have hall := List.takeWhile_eq_self_iff.mp
      ((List.takeWhile_prefix (· == '/')).eq_of_length hl) _ (List.getLast_mem hchars)
    rw [List.getLast?_eq_some_getLast hchars, Ne, Option.some_inj] at hlast
    exact hlast (by simpa using hall)
  rw [leadingSlashes, leadingSlashes, h, List.takeWhile_append, if_neg hlen]

/-- Below a directory, all that names add is a text that does not depend on the directory. -/
lemma exists_joinAll_eq {names : List String} (hne : names ≠ []) (hnames : ∀ n ∈ names, IsName n) :
    ∃ text, ∀ directory, joinAll directory names = opening directory ++ text := by
  induction names with
  | nil => exact absurd rfl hne
  | cons name more ih =>
    by_cases hmore : more = []
    · exact ⟨name, fun d => by rw [hmore, joinAll_cons, joinAll_nil, join_eq]⟩
    · obtain ⟨text, htext⟩ := ih hmore fun n hn => hnames n (List.mem_cons_of_mem _ hn)
      refine ⟨name ++ "/" ++ text, fun d => ?_⟩
      rw [joinAll_cons, htext, opening_join (hnames name List.mem_cons_self), join_eq,
        String.append_assoc, String.append_assoc, String.append_assoc]

/-- What lies below two spellings has as many slashes in front. -/
lemma AddsSlashes.leadingSlashes_joinAll {long short : String} (h : AddsSlashes long short)
    {names : List String} (hnames : ∀ n ∈ names, IsName n) :
    leadingSlashes (joinAll long names) = leadingSlashes (joinAll short names) := by
  rcases h with rfl | ⟨hne, hlast, n, hn⟩
  · rfl
  · -- both paths start with the shorter one, which has something else than slashes in it
    have hlead : ∀ d, short.toList <+: d.toList →
        leadingSlashes (joinAll d names) = leadingSlashes short := by
      intro d ⟨rest, hd⟩
      by_cases hnil : names = []
      · rw [hnil, joinAll_nil]
        exact leadingSlashes_append hne hlast rest hd.symm
      · obtain ⟨text, htext⟩ := exists_joinAll_eq hnil hnames
        rw [htext, opening]
        split
        · exact leadingSlashes_append hne hlast (rest ++ text.toList) (by simp [← hd])
        · exact leadingSlashes_append hne hlast (rest ++ '/' :: text.toList) (by simp [← hd])
    rw [hlead long ⟨_, hn.symm⟩, hlead short (List.prefix_refl _)]

/-- Empty components leave the stack as it is. -/
lemma foldl_pushComponent_filter (absolute : Bool) (cs : List String) (stack : List String) :
    (cs.filter (· != "")).foldl (pushComponent absolute) stack
      = cs.foldl (pushComponent absolute) stack := by
  induction cs generalizing stack with
  | nil => rfl
  | cons c cs ih =>
    by_cases hc : c = ""
    · rw [hc, List.filter_cons_of_neg (by decide), List.foldl_cons, ih]
      rfl
    · rw [List.filter_cons_of_pos (by simp [hc]), List.foldl_cons, List.foldl_cons, ih]

/-- Normal paths agree if the paths have the same slashes in front and the same parts. -/
lemma normal_congr {p q : String} (habs : isAbsolute p = isAbsolute q)
    (hlead : leadingSlashes p = leadingSlashes q)
    (hcomp : (components p).filter (· != "") = (components q).filter (· != "")) :
    normal p = normal q := by
  rw [normal, normal, habs, hlead, ← foldl_pushComponent_filter _ (components p), hcomp,
    foldl_pushComponent_filter]

/-- A directory's own path has the components of its stem, and perhaps an empty one. -/
lemma components_eq_stem {directory : String} (hd : directory ≠ "") :
    components directory = stem directory ∨ components directory = stem directory ++ [""] := by
  by_cases hlast : directory.toList.getLast? = some '/'
  · refine Or.inr ?_
    obtain ⟨front, hfront⟩ := List.getLast?_eq_some_iff.mp hlast
    have h : directory = String.ofList front ++ "/" ++ "" := by
      rw [← String.toList_inj, hfront]
      simp
    have hopen : opening directory = directory := by rw [opening, if_pos (by simp [hlast])]
    have hcomp : components directory = components (String.ofList front) ++ [""] := by
      rw [h, components_append_slash]
      rfl
    rw [stem, hopen, hcomp, List.dropLast_concat]
  · exact Or.inl (stem_of_getLast?_ne hd hlast).symm

lemma filter_components (directory : String) :
    (components directory).filter (· != "") = (stem directory).filter (· != "") := by
  by_cases hd : directory = ""
  · rw [hd]
    rfl
  · rcases components_eq_stem hd with h | h
    · rw [h]
    · rw [h, List.filter_append]
      exact List.append_nil _

/-- The spellings of a directory are compared as equal, and so are those of all below it. -/
theorem AddsSlashes.normal_joinAll {long short : String} (h : AddsSlashes long short)
    {names : List String} (hnames : ∀ n ∈ names, IsName n) :
    normal (joinAll long names) = normal (joinAll short names) := by
  obtain ⟨n, hn⟩ := h.stem_eq
  refine normal_congr ?_ (h.leadingSlashes_joinAll hnames) ?_
  · rw [isAbsolute_joinAll hnames, isAbsolute_joinAll hnames, h.isAbsolute_eq]
  · rw [filter_components, filter_components, stem_joinAll hnames, stem_joinAll hnames, hn]
    simp

/-! ## Names on a stack -/

/-- What is put on a stack of names is a name. -/
lemma isName_pushComponent {c : String} (hslash : '/' ∉ c.toList) (hnull : '\x00' ∉ c.toList)
    {stack : List String} (hstack : ∀ n ∈ stack, IsName n) :
    ∀ n ∈ pushComponent true stack c, IsName n := by
  intro n hn
  unfold pushComponent at hn
  split at hn
  · exact hstack n hn
  · next hkept =>
    rw [Bool.or_eq_true, not_or, beq_iff_eq, beq_iff_eq] at hkept
    split at hn
    · split at hn
      · simp at hn
      · next top rest =>
        split at hn
        · next hdots => exact absurd (beq_iff_eq.mp hdots) (hstack top List.mem_cons_self).ne_dots
        · exact hstack n (List.mem_cons_of_mem _ hn)
    · next hdots =>
      rcases List.mem_cons.mp hn with rfl | hn
      · exact ⟨hkept.1, hkept.2, by simpa using hdots, hslash, hnull⟩
      · exact hstack n hn

/-- The names on the stack come from the path, so they are names. -/
lemma isName_foldl_pushComponent {path : String} (h : isUnusable path = false)
    {stack : List String} (hstack : ∀ n ∈ stack, IsName n) :
    ∀ n ∈ (components path).foldl (pushComponent true) stack, IsName n := by
  have hcomponents : ∀ c ∈ components path, '/' ∉ c.toList ∧ '\x00' ∉ c.toList := by
    intro c hc
    obtain ⟨piece, hpiece, rfl⟩ := List.mem_map.mp hc
    obtain ⟨hslash, hmem⟩ := Text.mem_splitAt hpiece
    rw [String.toList_ofList]
    refine ⟨hslash, fun hnull => ?_⟩
    rw [isUnusable, List.contains_iff_mem.mpr (hmem _ hnull)] at h
    exact absurd h (by decide)
  generalize components path = cs at hcomponents ⊢
  induction cs generalizing stack with
  | nil => exact hstack
  | cons c cs ih =>
    obtain ⟨hslash, hnull⟩ := hcomponents c List.mem_cons_self
    exact ih (isName_pushComponent hslash hnull hstack)
      fun d hd => hcomponents d (List.mem_cons_of_mem _ hd)

end Path

end InterfaceAtlas
