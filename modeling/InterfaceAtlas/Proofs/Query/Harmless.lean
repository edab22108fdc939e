import InterfaceAtlas.Proofs.Files.Harmless
import InterfaceAtlas.Proofs.Query.Outcome

/-!
# Commands and harmless entries

Queries see a file system through the sources that scans yield and through the files that they load.
Where these are the same on two file systems, so are the answers, and for an entry that is
`Harmless` they are. `run_eq_of_harmless` puts this together: with one such entry more, anywhere in
the tree, each command still says the same.
-/

namespace InterfaceAtlas

namespace Query

open InterfaceAtlas.Path

variable {fs grown : FileSystem} {parser : Parser} {settings : Settings} {α β : Type}

/-! ## Queries on two file systems -/

/-- The scans of a root yield the same sources on both file systems. -/
def SameSources (parser : Parser) (settings : Settings) (fs grown : FileSystem) (root : String) :
    Prop :=
  ∀ recursive,
    grown.sources parser settings root recursive = fs.sources parser settings root recursive

/-- The same is loaded from a path on both file systems. -/
def SameLoad (parser : Parser) (settings : Settings) (fs grown : FileSystem) (path : String) :
    Prop :=
  (Source.load parser grown settings path).value = (Source.load parser fs settings path).value

/-- Two answers agree if their parts do. -/
lemma result_bind_congr {x y : Answer α} {f g : α → Answer β} (h : result x = result y)
    (hnext : ∀ a, result (f a) = result (g a)) : result (x >>= f) = result (y >>= g) := by
  rw [result_bind, result_bind, h]
  exact congrArg _ (funext hnext)

/-- After an argument was asked for it is enough to look at texts that are not blank. -/
lemma result_require_congr {v : Value} {label : String} {f g : String → Answer α}
    (h : ∀ s, v = .text s → Text.isBlankText s = false → result (f s) = result (g s)) :
    result (require label v >>= f) = result (require label v >>= g) := by
  cases hfilled : v.isFilled with
  | false =>
    rw [result_bind_error (result_require_error hfilled label),
      result_bind_error (result_require_error hfilled label)]
  | true =>
    obtain ⟨s, rfl, hblank⟩ := v.exists_text_of_isFilled hfilled
    rw [result_require_bind hblank, result_require_bind hblank, h s rfl hblank]

/-- Scans over the same sources find the same interfaces. -/
lemma scanInterfaces_congr (hfs : fs.WellFormed) (hgrown : grown.WellFormed) {root : String}
    (h : SameSources parser settings fs grown root) :
    result (scanInterfaces parser grown settings root)
      = result (scanInterfaces parser fs settings root) := by
  cases hnull : isUnusable root with
  | true => rw [scanInterfaces_error hnull, scanInterfaces_error hnull]
  | false =>
    rw [scanInterfaces_result (FileSystem.scanFault?_eq_none hgrown hnull true),
      scanInterfaces_result (FileSystem.scanFault?_eq_none hfs hnull true),
      FileSystem.interfacesUnder, FileSystem.interfacesUnder, h]

lemma scanScope_congr (hfs : fs.WellFormed) (hgrown : grown.WellFormed) {root : String}
    (h : SameSources parser settings fs grown root) :
    result (scanScope parser grown settings root) = result (scanScope parser fs settings root) := by
  cases hnull : isUnusable root with
  | true => rw [scanScope_error hnull, scanScope_error hnull]
  | false =>
    rw [scanScope_result (FileSystem.scanFault?_eq_none hgrown hnull true),
      scanScope_result (FileSystem.scanFault?_eq_none hfs hnull true), FileSystem.scopeUnder,
      FileSystem.scopeUnder, FileSystem.interfacesUnder, FileSystem.interfacesUnder,
      FileSystem.methodsUnder, FileSystem.methodsUnder, h]

/-- A file that loads alike is found or missed alike. -/
lemma guardPath_load_congr {path : String} (h : SameLoad parser settings fs grown path) :
    result (guardPath (Source.load parser grown settings path))
      = result (guardPath (Source.load parser fs settings path)) := by
  show (Source.load parser grown settings path).value.mapError _ = _
  rw [h]
  rfl

/-- The same sources have the same implementations, for every root and method name. -/
theorem implementations_congr (hfs : fs.WellFormed) (hgrown : grown.WellFormed) {root : Value}
    (h : ∀ s, root = .text s → SameSources parser settings fs grown s) (method : Value) :
    result (implementations parser grown settings root method)
      = result (implementations parser fs settings root method) := by
  refine result_require_congr fun s hs _ => result_require_congr fun m _ _ => ?_
  exact result_bind_congr (scanScope_congr hfs hgrown (h s hs)) fun scope => rfl

/-- The same sources have the same owners of a method name. -/
theorem interfaces_congr (hfs : fs.WellFormed) (hgrown : grown.WellFormed) {root : Value}
    (h : ∀ s, root = .text s → SameSources parser settings fs grown s) (method : Value) :
    result (interfaces parser grown settings root method)
      = result (interfaces parser fs settings root method) := by
  refine result_require_congr fun s hs _ => result_require_congr fun m _ _ => ?_
  exact result_bind_congr (scanInterfaces_congr hfs hgrown (h s hs)) fun found => rfl

/-- The same sources have the same interfaces. -/
theorem allInterfaces_congr (hfs : fs.WellFormed) (hgrown : grown.WellFormed) {root : Value}
    (h : ∀ s, root = .text s → SameSources parser settings fs grown s) :
    result (allInterfaces parser grown settings root)
      = result (allInterfaces parser fs settings root) := by
  refine result_require_congr fun s hs _ => ?_
  exact result_bind_congr (scanInterfaces_congr hfs hgrown (h s hs)) fun found => rfl

/-- A file that loads alike has the same interfaces. -/
theorem fileInterfaces_congr {file : Value}
    (h : ∀ s, file = .text s → SameLoad parser settings fs grown s) :
    result (fileInterfaces parser grown settings file)
      = result (fileInterfaces parser fs settings file) := by
  refine result_require_congr fun s hs _ => ?_
  exact result_bind_congr (guardPath_load_congr (h s hs)) fun source => rfl

/-- A file that loads alike has the same implementations, if the directory around it has the same
sources. -/
theorem fileImplementations_congr (hfs : fs.WellFormed) (hgrown : grown.WellFormed) {file : Value}
    (h : ∀ s, file = .text s →
      SameLoad parser settings fs grown s ∧ SameSources parser settings fs grown (containing s)) :
    result (fileImplementations parser grown settings file)
      = result (fileImplementations parser fs settings file) := by
  refine result_require_congr fun s hs _ => ?_
  obtain ⟨hload, hsources⟩ := h s hs
  refine result_bind_congr (guardPath_load_congr hload) fun source => ?_
  cases source with
  | none => rfl
  | some source =>
    exact result_bind_congr (scanInterfaces_congr hfs hgrown hsources) fun found => rfl

/-- The counters of the two scans may differ, but nothing in the summary of a package shows them. -/
theorem packageRelations_congr (hfs : fs.WellFormed) (hgrown : grown.WellFormed) {directory : Value}
    (h : ∀ s, directory = .text s → SameSources parser settings fs grown s) :
    result (packageRelations parser grown settings directory)
      = result (packageRelations parser fs settings directory) := by
  cases hfilled : directory.isFilled with
  | false =>
    rw [packageRelations, packageRelations,
      result_bind_error (result_require_error hfilled _),
      result_bind_error (result_require_error hfilled _)]
  | true =>
    obtain ⟨s, rfl, hblank⟩ := directory.exists_text_of_isFilled hfilled
    cases hnull : isUnusable s with
    | true =>
      rw [packageRelations, packageRelations, result_require_bind hblank,
        result_require_bind hblank, result_bind_error (scanWith_error hnull false _),
        result_bind_error (scanWith_error hnull false _)]
    | false =>
      rw [packageRelations_result hgrown hblank hnull, packageRelations_result hfs hblank hnull,
        FileSystem.interfacesUnder, FileSystem.interfacesUnder, h s rfl, h s rfl]

end Query

/-! ## Commands on two file systems -/

namespace Command

open Query

variable {fs grown : FileSystem} {parser : Parser} {settings : Settings} {place : List String}
  {name : String}
  {node : FileNode}

/-- The root that a command scans when it is given a path. -/
def scanned : Command → String → String
  | findFileImplementations, path => Path.containing path
  | _, path => path

/-- A command with the wrong number of arguments is refused, and any other ends as its query does.
-/
lemma run_eq_elim (parser : Parser) (fs : FileSystem) (settings : Settings) (c : Command)
    (arguments : List Value) :
    (run parser fs settings c.verb arguments).value
      = ((c.answer? parser fs settings arguments).map result).elim (.error (.wrongCount c.verb))
          fun r => r.mapError .query := by
  rw [run, ofVerb?_verb]
  dsimp only
  cases c.answer? parser fs settings arguments <;> rfl

/-- The way to what a command scans is a part of the way to the path that it is given. -/
lemma placesOn_scanned_subset (fs : FileSystem) (c : Command) (path : String) :
    fs.placesOn (c.scanned path) ⊆ fs.placesOn path := by
  cases c with
  | findFileImplementations => exact FileSystem.placesOn_containing_subset path
  | findImplementations | findInterfaces | findFileInterfaces | analyzePackageInterfaces
  | findAllInterfaces => exact List.Subset.refl _

/-- Each query has the same result on two file systems where the same is loaded and scanned. -/
lemma answer?_congr (hfs : fs.WellFormed) (hgrown : grown.WellFormed) (c : Command)
    {arguments : List Value}
    (h : ∀ path, arguments.head? = some (.text path) →
      SameLoad parser settings fs grown path
        ∧ SameSources parser settings fs grown (c.scanned path)) :
    (c.answer? parser grown settings arguments).map result
      = (c.answer? parser fs settings arguments).map result := by
  have hwire : ∀ {α : Type} {x y : Answer α} (f : α → Json), result x = result y →
      (some (f <$> x)).map result = (some (f <$> y)).map result := by
    intro α x y f hxy
    rw [Option.map_some, Option.map_some, result_map, result_map, hxy]
  unfold answer?
  split
  · next root method =>
    exact hwire _ (implementations_congr hfs hgrown (fun s hs => (h s (congrArg some hs)).2) method)
  · next root method =>
    exact hwire _ (interfaces_congr hfs hgrown (fun s hs => (h s (congrArg some hs)).2) method)
  · next file => exact hwire _ (fileInterfaces_congr fun s hs => (h s (congrArg some hs)).1)
  · next file =>
    exact hwire _ (fileImplementations_congr hfs hgrown fun s hs => h s (congrArg some hs))
  · next directory =>
    exact hwire _ (packageRelations_congr hfs hgrown fun s hs => (h s (congrArg some hs)).2)
  · next root =>
    exact hwire _ (allInterfaces_congr hfs hgrown fun s hs => (h s (congrArg some hs)).2)
  · rfl

/-- **Harmless entries are not noticed.** Into a directory of a file system without links one entry
is put that no source can come of, and that may be denied with all that lies below it. Then each
command answers as before, whatever its arguments are, if its path does not come by this entry. -/
theorem run_eq_of_harmless (h : FileSystem.AddsEntry fs grown place name node) (c : Command)
    {arguments : List Value}
    (hpath : ∀ path, arguments.head? = some (.text path) →
      place ++ [name] ∉ fs.placesOn path
        ∧ FileSystem.Harmless parser settings grown (c.scanned path) place name node) :
    (run parser grown settings c.verb arguments).value
      = (run parser fs settings c.verb arguments).value := by
  have hanswer : (c.answer? parser grown settings arguments).map result
      = (c.answer? parser fs settings arguments).map result := by
    refine answer?_congr h.wellFormed_old h.wellFormed c fun path hfirst => ?_
    obtain ⟨hpass, hharmless⟩ := hpath path hfirst
    have hscanned : place ++ [name] ∉ fs.placesOn (c.scanned path) :=
      fun hmem => hpass (placesOn_scanned_subset fs c path hmem)
    exact ⟨h.load_eq parser settings hpass, h.sources_eq hscanned hharmless⟩
  rw [run_eq_elim, run_eq_elim, hanswer]

/-- The directory with one file, and beside it one that would come first but cannot be opened. -/
def locked : FileSystem := (shapes.put "a.go" (.file [])).deny "a.go"

/-- The directory with one file, and beside it an excluded one that cannot be listed and leads back
to where it lies. -/
def vendored : FileSystem := (shapes.put "vendor" (.directory [("back", .link "..")])).deny "vendor"

lemma linkFree_shapes : FileSystem.LinkFree shapes.entries := by
  refine .mk (fun name target he => ?_) (fun name inner he => ?_)
  · simp [shapes] at he
  · simp [shapes] at he

/-- What `locked` adds is a file that no one may read. -/
lemma addsEntry_locked : FileSystem.AddsEntry shapes locked [] "a.go" (.file []) := by
  have hput : FileSystem.AddsEntry shapes (shapes.put "a.go" (.file [])) [] "a.go" (.file []) :=
    FileSystem.addsEntry_put wellFormed_shapes linkFree_shapes ⟨_, rfl⟩ (by decide) (by decide) rfl
      (by decide) fun inner hinner => by simp at hinner
  exact hput.deny ⟨[], by decide⟩

/-- What `vendored` adds is a directory that leads back through a link. -/
lemma addsEntry_vendored :
    FileSystem.AddsEntry shapes vendored [] "vendor" (.directory [("back", .link "..")]) := by
  have hproper : FileSystem.Proper [("back", .link "..")] := by
    refine .mk (by simp) (fun e he => ?_) (fun name inner he => ?_)
    · rw [List.mem_singleton.mp he]
      exact ⟨by decide, by decide, by decide, by decide, by decide⟩
    · simp at he
  have hput : FileSystem.AddsEntry shapes (shapes.put "vendor" (.directory [("back", .link "..")]))
      [] "vendor" (.directory [("back", .link "..")]) :=
    FileSystem.addsEntry_put wellFormed_shapes linkFree_shapes ⟨_, rfl⟩ (by decide) (by decide) rfl
      (by decide) fun inner hinner => FileNode.directory.inj hinner ▸ hproper
  exact hput.deny ⟨[], by decide⟩

/-- The working directory leads to the locked file by its name, and there it is denied. -/
lemma harmless_locked :
    FileSystem.Harmless shapeParser {} locked "." [] "a.go" (.file []) := by
  refine .unopenable fun names hnames hplace held hread => ?_
  rw [FileSystem.namesTo_joinAll _ hnames] at hplace
  have hname : names = ["a.go"] := hplace
  rw [hname, FileSystem.read, if_neg (by decide), if_pos (by decide)] at hread
  simp at hread

/-- The command answers with a method of `Square`. -/
lemma run_shapes_implementations :
    (run shapeParser shapes {} "find-implementations" [.text ".", .text "Area"]).value
      = .ok (Wire.implementations false [squareArea]) := by
  show (run shapeParser shapes {} findImplementations.verb _).value = _
  rw [run_value rfl, result_map, implementations_shapes]
  rfl

lemma run_shapes_relations :
    (run shapeParser shapes {} "analyze-package-interfaces" [.text "."]).value
      = .ok (Relations.toJson (.ofMatches [("Shape", "Area")])) := by
  show (run shapeParser shapes {} analyzePackageInterfaces.verb _).value = _
  rw [run_value rfl, result_map,
    packageRelations_shapes (by decide) (by decide) (FileSystem.list_dot rfl) rfl]
  rfl

/-- Whether the locked file or the excluded directory is there, the square answers for the area of
shapes and the package relates the two. -/
theorem run_eq_of_harmless_shapes :
    (["a.go"] ∉ shapes.placesOn "."
        ∧ FileSystem.Harmless shapeParser {} locked "." [] "a.go" (.file [])
        ∧ (run shapeParser locked {} "find-implementations" [.text ".", .text "Area"]).value
          = (run shapeParser shapes {} "find-implementations" [.text ".", .text "Area"]).value
        ∧ (run shapeParser locked {} "find-implementations" [.text ".", .text "Area"]).value
          = .ok (Wire.implementations false [squareArea]))
      ∧ ["vendor"] ∉ shapes.placesOn "."
        ∧ (run shapeParser vendored {} "analyze-package-interfaces" [.text "."]).value
          = (run shapeParser shapes {} "analyze-package-interfaces" [.text "."]).value
        ∧ (run shapeParser vendored {} "analyze-package-interfaces" [.text "."]).value
          = .ok (Relations.toJson (.ofMatches [("Shape", "Area")])) := by
  have hpasses : shapes.placesOn "." = [] := by decide
  have hlocked : (run shapeParser locked {} "find-implementations" [.text ".", .text "Area"]).value
      = (run shapeParser shapes {} "find-implementations" [.text ".", .text "Area"]).value := by
    refine run_eq_of_harmless addsEntry_locked findImplementations fun path hpath => ?_
    obtain rfl : "." = path := by simpa using hpath
    rw [hpasses]
    exact ⟨List.not_mem_nil, harmless_locked⟩
  have hvendored : (run shapeParser vendored {} "analyze-package-interfaces" [.text "."]).value
      = (run shapeParser shapes {} "analyze-package-interfaces" [.text "."]).value := by
    refine run_eq_of_harmless addsEntry_vendored analyzePackageInterfaces fun path hpath => ?_
    obtain rfl : "." = path := by simpa using hpath
    rw [hpasses]
    exact ⟨List.not_mem_nil, .excluded (by decide)⟩
  refine ⟨⟨?_, harmless_locked, hlocked, ?_⟩, ?_, hvendored, ?_⟩
  · rw [hpasses]
    exact List.not_mem_nil
  · rw [hlocked, run_shapes_implementations]
  · rw [hpasses]
    exact List.not_mem_nil
  · rw [hvendored, run_shapes_relations]

end Command

end InterfaceAtlas
