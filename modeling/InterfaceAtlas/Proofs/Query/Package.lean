import InterfaceAtlas.Proofs.Files.Spelling
import InterfaceAtlas.Proofs.Query.Implementations

/-!
# The relations of a package

To sum up a package, the interfaces of its directory are scanned once and used for all of its files,
while the query for one file scans the directory that it reads off the file's path. The two scans
may see the directory under different spellings, and still `packageRelations_eq` holds: the summary
is the one that the queries for the single files lead to.
-/

namespace InterfaceAtlas

namespace Query

open InterfaceAtlas.Path

variable {fs : FileSystem} {parser : Parser} {settings : Settings} {directory : String}

/-! ## The files of a directory -/

/-- The sources that lie in a directory itself have paths of its entries. -/
lemma exists_join_of_mem_sources (hfs : fs.WellFormed) (hfile : fs.isFile directory = false)
    {s : Source} (hs : s ∈ fs.sources parser settings directory false) :
    ∃ entries name, fs.list directory = .ok entries ∧ IsName name
      ∧ s.path = join directory name := by
  obtain ⟨hpath, -⟩ := FileSystem.load_of_mem_sources hs
  rw [FileSystem.scan, hfile, if_neg (by decide), if_neg (by decide)] at hpath
  obtain ⟨step, hstep, hfound⟩ := List.mem_filterMap.mp hpath
  cases step with
  | found path =>
    rw [ScanStep.path?, Option.some_inj] at hfound
    exact FileSystem.exists_join_of_mem_flatScan hfs (hfound ▸ hstep)
  | passedOver path => simp [ScanStep.path?] at hfound
  | fellBack root path reason => simp [ScanStep.path?] at hfound
  | unlistable root reason => simp [ScanStep.path?] at hfound
  | broken => simp [ScanStep.path?] at hfound

/-- The query for a file of a directory answers as if it had scanned the directory as spelled. -/
lemma fileImplementations_of_mem_sources (hfs : fs.WellFormed)
    (hblank : Text.isBlankText directory = false) (hfile : fs.isFile directory = false)
    {s : Source} (hs : s ∈ fs.sources parser settings directory false) :
    result (fileImplementations parser fs settings (.text s.path))
      = .ok (coveringMethods s.methods.value (fs.interfacesUnder parser settings directory)) := by
  obtain ⟨entries, name, hlist, hname, hpath⟩ := exists_join_of_mem_sources hfs hfile hs
  obtain ⟨-, hload⟩ := FileSystem.load_of_mem_sources hs
  have hne : directory ≠ "" := by
    rintro rfl
    exact absurd hblank (by decide)
  -- the directory that the query reads off the path is this one, but for slashes at the end
  have hslashes : AddsSlashes directory (containing s.path) := hpath ▸ containing_join hne hname
  have hnames : (fs.interfacesUnder parser settings directory).map (·.methodNames)
      = (fs.interfacesUnder parser settings (containing s.path)).map (·.methodNames) :=
    hslashes.methodNames_interfacesUnder hfs hlist
  rw [fileImplementations_result hfs (hpath ▸ isBlankText_join hblank) hload]
  refine congrArg Except.ok (coveringMethods_congr _ fun names => ?_)
  rw [hnames]

/-! ## The summary -/

/-- The summary of a package, with the interfaces of its directory scanned once. -/
lemma packageRelations_result (hfs : fs.WellFormed) (hblank : Text.isBlankText directory = false)
    (hnull : isUnusable directory = false) :
    result (packageRelations parser fs settings (.text directory))
      = .ok (Resolver.resolve
          { interfaces := (fs.sources parser settings directory false).flatMap fun s =>
              s.interfaces.value
            methods := .ofDeclarations
              ((fs.sources parser settings directory false).flatMap fun s =>
                coveringMethods s.methods.value (fs.interfacesUnder parser settings directory))
            policy := .nameOverlap }).value := by
  have hscan : fs.scanFault? parser settings directory true = none :=
    FileSystem.scanFault?_eq_none hfs hnull true
  have hflat : fs.scanFault? parser settings directory false = none :=
    FileSystem.scanFault?_eq_none hfs hnull false
  rw [packageRelations, result_require_bind hblank, result_bind_ok (scanWith_result pure hflat)]
  simp only [result_say_bind, Logged.value_pure, List.map_id']
  split
  · -- without sources no second scan is made, and nothing is matched with nothing
    next hempty =>
    rw [List.isEmpty_iff.mp hempty]
    rfl
  · rw [result_bind_ok (scanInterfaces_result hscan)]
    simp only [result_lift_bind, result_say_bind, result_pure, Logged.value_inPhase,
      Logged.value_mapM, List.flatMap_map, packagePart, Logged.value_bind, Logged.value_pure,
      implementationsIn_eq]

/-- **Packages file by file.** The summary of a directory is what matching by name makes of the
interfaces of the files in it and of the methods that the queries for these files answer with. -/
theorem packageRelations_eq (hfs : fs.WellFormed) (hblank : Text.isBlankText directory = false)
    (hnull : isUnusable directory = false) (hfile : fs.isFile directory = false) :
    ∃ answers : List (List MethodDeclaration),
      (fs.sources parser settings directory false).map
          (fun s => result (fileImplementations parser fs settings (.text s.path)))
        = answers.map .ok
        ∧ result (packageRelations parser fs settings (.text directory))
          = .ok (Resolver.resolve
              { interfaces := (fs.sources parser settings directory false).flatMap fun s =>
                  s.interfaces.value
                methods := .ofDeclarations answers.flatten
                policy := .nameOverlap }).value := by
  refine ⟨(fs.sources parser settings directory false).map fun s =>
    coveringMethods s.methods.value (fs.interfacesUnder parser settings directory), ?_, ?_⟩
  · rw [List.map_map]
    exact List.map_congr_left fun s hs => fileImplementations_of_mem_sources hfs hblank hfile hs
  · rw [packageRelations_result hfs hblank hnull, ← List.flatMap_def]

/-- The package of shapes relates the method of the square to its interface. -/
lemma packageRelations_shapes (hblank : Text.isBlankText directory = false)
    (hnull : isUnusable directory = false) (hlist : shapes.list directory = .ok shapes.entries)
    (hjoin : join directory "shape.go" = "./shape.go") :
    result (packageRelations shapeParser shapes {} (.text directory))
      = .ok (.ofMatches [("Shape", "Area")]) := by
  rw [packageRelations_result wellFormed_shapes hblank hnull, sources_shapes hlist hjoin,
    interfacesUnder_shapes hlist hjoin, List.flatMap_singleton, List.flatMap_singleton,
    interfaces_shapeSource, methods_shapeSource]
  decide +kernel

lemma resolve_shapes : shapes.resolve "./" = .ok (.directory shapes.entries) := by
  have hcomponents : components "./" = [".", ""] := by decide
  rw [FileSystem.resolve_eq (by decide), hcomponents, FileSystem.follow,
    if_pos (by decide), FileSystem.follow, if_pos (by decide), FileSystem.follow]
  rfl

/-- The root of `shapes` is a directory, also with a slash behind it. -/
lemma isFile_shapes : shapes.isFile "./" = false := by
  rw [FileSystem.isFile, resolve_shapes]
  rfl

lemma list_shapes : shapes.list "./" = .ok shapes.entries :=
  FileSystem.list_eq_of_resolve (by decide) (by decide) resolve_shapes

/-- The package holds one type and the interface that it implements. -/
theorem packageRelations_eq_shapes :
    shapes.WellFormed ∧ shapes.isFile "./" = false
      ∧ ∃ answers : List (List MethodDeclaration),
        (shapes.sources shapeParser {} "./" false).map
            (fun s => result (fileImplementations shapeParser shapes {} (.text s.path)))
          = answers.map .ok
          ∧ answers = [[squareArea]]
          ∧ result (packageRelations shapeParser shapes {} (.text "./"))
            = .ok (Resolver.resolve
                { interfaces := (shapes.sources shapeParser {} "./" false).flatMap fun s =>
                    s.interfaces.value
                  methods := .ofDeclarations answers.flatten
                  policy := .nameOverlap }).value
          ∧ result (packageRelations shapeParser shapes {} (.text "./"))
            = .ok (.ofMatches [("Shape", "Area")]) := by
  obtain ⟨answers, hfiles, hpackage⟩ := @packageRelations_eq shapes shapeParser {} "./"
    wellFormed_shapes (by decide) (by decide) isFile_shapes
  have hsources : shapes.sources shapeParser {} "./" false = [shapeSource] :=
    sources_shapes list_shapes rfl false
  have hsquare : answers = [[squareArea]] := by
    have hone : result (fileImplementations shapeParser shapes {} (.text "./shape.go"))
        = .ok [squareArea] := fileImplementations_shapes
    rw [hsources, List.map_singleton, shapeSource, hone] at hfiles
    exact List.map_injective_iff.mpr (fun _ _ => Except.ok.inj) hfiles.symm
  exact ⟨wellFormed_shapes, isFile_shapes, answers, hfiles, hsquare, hpackage,
    packageRelations_shapes (by decide) (by decide) list_shapes rfl⟩

end Query

end InterfaceAtlas
