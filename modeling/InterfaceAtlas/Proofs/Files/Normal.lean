import InterfaceAtlas.Proofs.Files.Path

/-!
# Normal spellings

The normal spelling of a path puts its components on a stack, where `..` takes one away again, and
writes down what is left. Here is what a stack makes of components:

* `foldl_pushComponent_normal`: the components of a normal spelling lead from any stack to where the
  components that are kept lead;
* `foldl_pushComponent_reverse`: and these lead to where all components lead, so nothing is lost;
* `components_parent`: the directory of a path has the components of the path but for the last.
-/

namespace InterfaceAtlas

namespace Path

/-! ## The directory of a path -/

/-- A path is what stands before its last slash, that slash included, and the piece behind it. -/
lemma beforeLast_append_lastPiece (cs : List Char) : beforeLast cs ++ lastPiece cs = cs := by
  rw [beforeLast, lastPiece, ← List.reverse_append, List.takeWhile_append_dropWhile,
    List.reverse_reverse]

/-- What stands behind the last slash of the path of an entry is its name. -/
lemma baseName_join {directory name : String} (h : IsName name) :
    baseName (join directory name) = name := by
  have hname : ∀ c ∈ name.toList.reverse, (c != '/') = true := by
    intro c hc
    rw [bne_iff_ne]
    rintro rfl
    exact h.no_slash (List.mem_reverse.mp hc)
  have htake : ∀ cs : List Char, (name.toList.reverse ++ cs).takeWhile (· != '/')
      = name.toList.reverse ++ cs.takeWhile (· != '/') :=
    fun cs => List.takeWhile_append_of_pos hname
  rw [join_eq, baseName, lastPiece, String.toList_append, List.reverse_append, htake]
  rcases opening_eq directory with ⟨-, hopening⟩ | ⟨-, front, hopening⟩
  · simp [hopening]
  · simp [hopening]

/-- What stands before the last slash ends with it. -/
lemma exists_beforeLast_eq {cs : List Char} (h : beforeLast cs ≠ []) :
    ∃ front, beforeLast cs = front ++ ['/'] := by
  have hne : cs.reverse.dropWhile (· != '/') ≠ [] := fun hnil => h (by rw [beforeLast, hnil]; rfl)
  have hslash := List.head_dropWhile_not (· != '/') hne
  obtain ⟨c, rest, hrest⟩ := List.exists_cons_of_ne_nil hne
  simp only [hrest, List.head_cons, bne_eq_false_iff_eq] at hslash
  exact ⟨rest.reverse, by rw [beforeLast, hrest, hslash, List.reverse_cons]⟩

/-- The directory of a path is what stands before the last slash, but for slashes at its end. -/
lemma exists_beforeLast_eq_parent (path : String) :
    ∃ n, beforeLast path.toList = (parent path).toList ++ List.replicate n '/' := by
  rw [parent]
  split
  · exact ⟨0, by rw [String.toList_ofList, List.replicate_zero, List.append_nil]⟩
  · rw [String.toList_ofList]
    exact exists_append_replicate_slash _

/-- Slashes at the end of a path are empty components. -/
lemma filter_components_append_slashes (path : String) (n : Nat) :
    (components (path ++ String.ofList (List.replicate n '/'))).filter (· != "")
      = (components path).filter (· != "") := by
  rw [components_append_replicate_slash, List.filter_append, List.filter_replicate,
    if_neg (by decide), List.append_nil]

/-- The components of the directory of a path are those of the path but for the last, and for empty
ones. -/
lemma components_parent {path : String} (h : parent path ≠ "") :
    isAbsolute (parent path) = isAbsolute path
      ∧ (components (parent path)).filter (· != "") <+: (components path).filter (· != "") := by
  have hchars : (parent path).toList ≠ [] := fun hnil => h (String.toList_inj.mp hnil)
  obtain ⟨n, hn⟩ := exists_beforeLast_eq_parent path
  have hne : beforeLast path.toList ≠ [] := by
    rw [hn]
    exact List.append_ne_nil_of_left_ne_nil hchars _
  obtain ⟨front, hfront⟩ := exists_beforeLast_eq hne
  have hpath := beforeLast_append_lastPiece path.toList
  constructor
  · rw [hn, List.append_assoc] at hpath
    rw [isAbsolute, isAbsolute, ← hpath, List.head?_append_of_ne_nil _ hchars]
  · -- the directory and what stands before the last slash differ by slashes at the end only
    have hdirectory : parent path ++ String.ofList (List.replicate n '/')
        = String.ofList front ++ String.ofList (List.replicate 1 '/') := by
      rw [← String.toList_inj]
      simp only [String.toList_append, String.toList_ofList]
      rw [← hn, hfront]
      rfl
    have hwhole : path = String.ofList front ++ "/" ++ String.ofList (lastPiece path.toList) := by
      rw [← String.toList_inj]
      simp only [String.toList_append, String.toList_ofList]
      rw [hfront] at hpath
      exact hpath.symm
    have hcomponents := congrArg components hwhole
    rw [components_append_slash] at hcomponents
    rw [← filter_components_append_slashes (parent path) n, hdirectory,
      filter_components_append_slashes, hcomponents, List.filter_append]
    exact List.prefix_append _ _

/-! ## Normal spellings -/

/-- Names without slashes are what is between the slashes of their joined text. -/
lemma components_intercalate {xs : List String} (hne : xs ≠ [])
    (h : ∀ x ∈ xs, '/' ∉ x.toList) : components ("/".intercalate xs) = xs := by
  have hslash : "/".toList = ['/'] := by decide
  have hpieces : ∀ piece ∈ xs.map String.toList, '/' ∉ piece := by simpa using h
  rw [components, String.toList_intercalate, hslash,
    Text.splitAt_intercalate (by simpa using hne) hpieces, List.map_map]
  simp

lemma components_slash_append (path : String) :
    components ("/" ++ path) = "" :: components path := by
  have h := components_append_slash "" path
  rwa [String.empty_append] at h

/-- Slashes in front of a path are empty components. -/
lemma filter_components_leadingSlashes_append (path text : String) :
    (components (leadingSlashes path ++ text)).filter (· != "")
      = (components text).filter (· != "") := by
  have hone : (components ("/" ++ text)).filter (· != "")
      = (components text).filter (· != "") := by
    rw [components_slash_append]
    exact List.filter_cons_of_neg (by decide)
  rw [leadingSlashes]
  split
  · rw [String.empty_append]
  · have htwo : "//" ++ text = "/" ++ ("/" ++ text) := by
      rw [← String.append_assoc]
      rfl
    rw [htwo, components_slash_append, List.filter_cons_of_neg (by decide), hone]
  · exact hone

/-- The components that a normal spelling keeps. -/
def kept (path : String) : List String :=
  ((components path).foldl (pushComponent (isAbsolute path)) []).reverse

lemma normal_eq (path : String) :
    normal path = if leadingSlashes path ++ "/".intercalate (kept path) == "" then "."
      else leadingSlashes path ++ "/".intercalate (kept path) := rfl

/-- What is put on a stack is no empty component and no dot. -/
lemma mem_pushComponent {absolute : Bool} {stack : List String} {c x : String}
    (h : x ∈ pushComponent absolute stack c) :
    x ∈ stack ∨ (x = c ∨ x = "..") ∧ x ≠ "" ∧ x ≠ "." := by
  unfold pushComponent at h
  split at h
  · exact Or.inl h
  · next hc =>
    rw [Bool.or_eq_true, not_or, beq_iff_eq, beq_iff_eq] at hc
    split at h
    · split at h
      · split at h
        · exact Or.inl h
        · rw [List.mem_singleton.mp h]
          exact Or.inr ⟨Or.inr rfl, by decide, by decide⟩
      · split at h
        · rcases List.mem_cons.mp h with rfl | h
          · exact Or.inr ⟨Or.inr rfl, by decide, by decide⟩
          · exact Or.inl h
        · exact Or.inl (List.mem_cons_of_mem _ h)
    · rcases List.mem_cons.mp h with rfl | h
      · exact Or.inr ⟨Or.inl rfl, hc.1, hc.2⟩
      · exact Or.inl h

/-- What is on the stack was there before or is a part of the path, and says something. -/
lemma mem_foldl_pushComponent {absolute : Bool} {cs stack : List String} {x : String}
    (h : x ∈ cs.foldl (pushComponent absolute) stack) :
    x ∈ stack ∨ (x ∈ cs ∨ x = "..") ∧ x ≠ "" ∧ x ≠ "." := by
  induction cs generalizing stack with
  | nil => exact Or.inl h
  | cons c cs ih =>
    rcases ih h with h | ⟨h, hne⟩
    · rcases mem_pushComponent h with h | ⟨rfl | rfl, hne⟩
      · exact Or.inl h
      · exact Or.inr ⟨Or.inl List.mem_cons_self, hne⟩
      · exact Or.inr ⟨Or.inr rfl, hne⟩
    · exact Or.inr ⟨h.imp_left (List.mem_cons_of_mem _), hne⟩

lemma noSlash_of_mem_components {path c : String} (h : c ∈ components path) : '/' ∉ c.toList := by
  obtain ⟨piece, hpiece, rfl⟩ := List.mem_map.mp h
  rw [String.toList_ofList]
  exact (Text.mem_splitAt hpiece).1

/-- The parts that are kept are those that say something. -/
lemma of_mem_kept {path x : String} (h : x ∈ kept path) :
    '/' ∉ x.toList ∧ x ≠ "" ∧ x ≠ "." := by
  rcases mem_foldl_pushComponent (List.mem_reverse.mp h) with h | ⟨h | rfl, hne⟩
  · exact absurd h List.not_mem_nil
  · exact ⟨noSlash_of_mem_components h, hne⟩
  · exact ⟨by decide, hne⟩

lemma filter_kept (path : String) : (kept path).filter (· != "") = kept path := by
  rw [List.filter_eq_self]
  intro x hx
  simpa using (of_mem_kept hx).2.1

/-- A normal path is made of the parts that were kept. -/
lemma filter_components_intercalate_kept (path : String) :
    (components ("/".intercalate (kept path))).filter (· != "") = kept path := by
  by_cases hnil : kept path = []
  · rw [hnil]
    rfl
  · rw [components_intercalate hnil fun x hx => (of_mem_kept hx).1, filter_kept]

/-- The components of a normal spelling take a stack where the kept ones take it. -/
lemma foldl_pushComponent_normal (absolute : Bool) (path : String) (stack : List String) :
    (components (normal path)).foldl (pushComponent absolute) stack
      = (kept path).foldl (pushComponent absolute) stack := by
  have hfilter : (components (leadingSlashes path ++ "/".intercalate (kept path))).filter (· != "")
      = kept path := by
    rw [filter_components_leadingSlashes_append, filter_components_intercalate_kept]
  rw [normal_eq]
  split
  · -- nothing is kept, and the spelling is a dot
    next hempty =>
    rw [beq_iff_eq] at hempty
    rw [hempty] at hfilter
    have hdot : components "." = ["."] := components_of_noSlash (by decide)
    rw [← hfilter, hdot]
    rfl
  · rw [← foldl_pushComponent_filter, hfilter]

lemma isAbsolute_of_leadingSlashes {path : String} (h : isAbsolute path = true) :
    leadingSlashes path = "/" ∨ leadingSlashes path = "//" := by
  have hpos : (path.toList.takeWhile (· == '/')).length ≠ 0 := by
    rw [isAbsolute, beq_iff_eq] at h
    cases hp : path.toList with
    | nil => simp [hp] at h
    | cons c cs =>
      rw [hp, List.head?_cons, Option.some_inj] at h
      simp [h]
  unfold leadingSlashes
  split
  · next h0 => exact absurd h0 hpos
  · exact Or.inr rfl
  · exact Or.inl rfl

lemma leadingSlashes_of_isAbsolute_eq_false {path : String} (h : isAbsolute path = false) :
    leadingSlashes path = "" := by
  have hnil : path.toList.takeWhile (· == '/') = [] := by
    rw [isAbsolute, beq_eq_false_iff_ne] at h
    cases hp : path.toList with
    | nil => rfl
    | cons c cs =>
      rw [hp, List.head?_cons, Ne, Option.some_inj] at h
      exact List.takeWhile_cons_of_neg (by simpa using h)
  rw [leadingSlashes, hnil]
  rfl

/-- A normal path is absolute if the path was. -/
lemma isAbsolute_normal (path : String) : isAbsolute (normal path) = isAbsolute path := by
  cases habs : isAbsolute path with
  | true =>
    have hhead : ∀ text : String, isAbsolute ("/" ++ text) = true := fun text => by
      simp [isAbsolute]
    have hne : ∀ text : String, ("/" ++ text == "") = false := fun text => by
      simp [← String.toList_inj]
    rcases isAbsolute_of_leadingSlashes habs with hlead | hlead
    · rw [normal_eq, hlead, hne, if_neg (by decide), hhead]
    · have htwo : "//" = "/" ++ "/" := rfl
      rw [normal_eq, hlead, htwo, String.append_assoc, hne, if_neg (by decide), hhead]
  | false =>
    rw [normal_eq, leadingSlashes_of_isAbsolute_eq_false habs, String.empty_append]
    split
    · decide
    · -- the first of the components that are kept has no slash and is not empty
      cases hkept : kept path with
      | nil => rfl
      | cons x more =>
        obtain ⟨hslash, hne, -⟩ := of_mem_kept (hkept ▸ List.mem_cons_self : x ∈ kept path)
        have hchars : x.toList ≠ [] := fun h => hne (String.toList_inj.mp h)
        have hhead : ("/".intercalate (x :: more)).toList.head? = x.toList.head? := by
          cases more with
          | nil => rw [String.intercalate_singleton]
          | cons y more =>
            rw [String.intercalate_cons_cons, String.toList_append, String.toList_append,
              List.append_assoc, List.head?_append_of_ne_nil _ hchars]
        rw [isAbsolute, hhead, beq_eq_false_iff_ne]
        exact fun h => hslash (List.mem_of_head? h)

/-- Empty parts and dots leave the stack as it was. -/
lemma pushComponent_of_skipped {c : String} (h : (c == "" || c == ".") = true) (absolute : Bool)
    (stack : List String) : pushComponent absolute stack c = stack := by
  unfold pushComponent
  rw [if_pos h]

lemma pushComponent_of_kept {c : String} (h : ¬ (c == "" || c == ".") = true)
    (hdots : ¬ (c == "..") = true) (absolute : Bool) (stack : List String) :
    pushComponent absolute stack c = c :: stack := by
  unfold pushComponent
  rw [if_neg h, if_neg hdots]

/-- A name is put on top of the stack. -/
lemma pushComponent_name {name : String} (h : IsName name) (absolute : Bool)
    (stack : List String) : pushComponent absolute stack name = name :: stack :=
  pushComponent_of_kept (by simp [h.ne_empty, h.ne_dot]) (by simpa using h.ne_dots) _ _

/-- Names are pushed one after the other. -/
lemma foldl_pushComponent_names {names : List String} (h : ∀ n ∈ names, IsName n)
    (absolute : Bool) (stack : List String) :
    names.foldl (pushComponent absolute) stack = names.reverse ++ stack := by
  induction names generalizing stack with
  | nil => rfl
  | cons name more ih =>
    rw [List.foldl_cons, pushComponent_name (h name List.mem_cons_self),
      ih fun n hn => h n (List.mem_cons_of_mem _ hn), List.reverse_cons, List.append_assoc]
    rfl

/-- Two dots take a name away from a stack of names. -/
lemma pushComponent_dots {stack : List String} (h : ∀ n ∈ stack, n ≠ "..") :
    pushComponent true stack ".." = stack.tail := by
  cases stack with
  | nil => rfl
  | cons top rest =>
    have htop : (top == "..") = false := by simpa using h top List.mem_cons_self
    simp [pushComponent, htop]

/-- Components that are first put on a stack of their own lead to where they lead one by one. -/
lemma foldl_pushComponent_reverse (absolute : Bool) (cs : List String) {stack : List String}
    (habs : absolute = true → stack = []) :
    (cs.foldl (pushComponent absolute) []).reverse.foldl (pushComponent true) stack
      = cs.foldl (pushComponent true) stack := by
  induction cs using List.reverseRecOn with
  | nil => rfl
  | append_singleton cs c ih =>
    have hmem : ∀ x ∈ cs.foldl (pushComponent absolute) [], x ≠ "" ∧ x ≠ "." := by
      intro x hx
      rcases mem_foldl_pushComponent hx with hx | ⟨-, hne⟩
      · exact absurd hx List.not_mem_nil
      · exact hne
    rw [List.foldl_append, List.foldl_append, ← ih]
    generalize cs.foldl (pushComponent absolute) [] = own at hmem
    show (pushComponent absolute own c).reverse.foldl (pushComponent true) stack
      = pushComponent true (own.reverse.foldl (pushComponent true) stack) c
    by_cases hskip : (c == "" || c == ".") = true
    · rw [pushComponent_of_skipped hskip, pushComponent_of_skipped hskip]
    · have hpush : ∀ x : String, (x :: own).reverse.foldl (pushComponent true) stack
          = pushComponent true (own.reverse.foldl (pushComponent true) stack) x := by
        intro x
        rw [List.reverse_cons, List.foldl_append]
        rfl
      by_cases hdots : (c == "..") = true
      · rw [beq_iff_eq.mp hdots]
        cases own with
        | nil =>
          cases absolute with
          | true =>
            rw [habs rfl]
            rfl
          | false => rfl
        | cons top rest =>
          by_cases htop : (top == "..") = true
          · have hown : pushComponent absolute (top :: rest) ".." = ".." :: top :: rest := by
              simp [pushComponent, htop]
            rw [hown, hpush]
          · -- the name on top was put there before, and goes again
            obtain ⟨hne, hdot⟩ := hmem top List.mem_cons_self
            have hown : pushComponent absolute (top :: rest) ".." = rest := by
              simp [pushComponent, htop]
            rw [hown, List.reverse_cons, List.foldl_append, List.foldl_cons, List.foldl_nil,
              pushComponent_of_kept (by simp [hne, hdot]) htop]
            simp [pushComponent, htop]
      · rw [pushComponent_of_kept hskip hdots, hpush]

end Path

end InterfaceAtlas
