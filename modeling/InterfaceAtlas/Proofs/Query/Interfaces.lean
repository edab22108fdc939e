import InterfaceAtlas.Proofs.Files.Spelling
import InterfaceAtlas.Proofs.Query.Implementations

/-!
# The interfaces of a tree, file by file

The queries for the interfaces of a tree load the files that a scan finds, while the query for the
interfaces of one file loads what it is asked for. `allInterfaces_eq_flatten` says that they agree:
a tree answers as its files do, one after the other.
-/

namespace InterfaceAtlas

namespace Query

open InterfaceAtlas.Path

variable {fs : FileSystem} {parser : Parser} {settings : Settings} {root : String}

/-! ## One file -/

/-- The interface methods of the source at a path; none if there is no source that counts. -/
def methodsAt (fs : FileSystem) (parser : Parser) (settings : Settings) (path : String) :
    List InterfaceMethod :=
  (fs.loaded? parser settings path).elim [] fun source => methodsNamed source.interfaces.value

/-- The query for the interfaces of a file has their methods, and none if it does not load. -/
lemma fileInterfaces_result {path : String} (hblank : Text.isBlankText path = false)
    (hnull : isUnusable path = false) :
    result (fileInterfaces parser fs settings (.text path))
      = .ok (methodsAt fs parser settings path) := by
  obtain ⟨source, hload⟩ : ∃ source, (Source.load parser fs settings path).value = .ok source :=
    FileSystem.load_ok hnull
  have hloaded : fs.loaded? parser settings path = source := by
    rw [FileSystem.loaded?, hload]
  rw [fileInterfaces, result_require_bind hblank, result_bind_ok (result_guardPath_ok hload),
    methodsAt, hloaded]
  cases source with
  | none => rfl
  | some source => simp only [result_lift_bind, result_pure, Option.elim_some]

/-- A file that can be loaded answers with the methods that its interfaces name. -/
lemma fileInterfaces_of_load {path : String} {source : Source}
    (hblank : Text.isBlankText path = false)
    (hload : (Source.load parser fs settings path).value = .ok (some source)) :
    result (fileInterfaces parser fs settings (.text path))
      = .ok (methodsNamed source.interfaces.value) := by
  rw [fileInterfaces_result hblank (FileSystem.isUnusable_of_load hload), methodsAt,
    FileSystem.loaded?, hload]
  rfl

/-! ## All files -/

lemma flatMap_filterMap {α β γ : Type} (f : α → Option β) (g : β → List γ) (xs : List α) :
    (xs.filterMap f).flatMap g = xs.flatMap fun a => (f a).elim [] g := by
  induction xs with
  | nil => rfl
  | cons a more ih =>
    rw [List.flatMap_cons, ← ih]
    cases h : f a with
    | none => rw [List.filterMap_cons_none h, Option.elim_none, List.nil_append]
    | some b => rw [List.filterMap_cons_some h, List.flatMap_cons, Option.elim_some]

/-- The interface methods under a root are those at the paths that a scan finds. -/
lemma methodsNamed_interfacesUnder (fs : FileSystem) (settings : Settings) (root : String) :
    methodsNamed (fs.interfacesUnder parser settings root)
      = ((fs.scan settings root true).filterMap ScanStep.path?).flatMap
          (methodsAt fs parser settings) := by
  rw [methodsNamed, FileSystem.interfacesUnder, FileSystem.sources_eq, List.flatMap_assoc]
  exact flatMap_filterMap _ _ _

/-- The paths that a scan finds can be asked for in turn. -/
lemma of_mem_paths (hfs : fs.WellFormed) (hblank : Text.isBlankText root = false)
    (hnull : isUnusable root = false) {path : String}
    (h : path ∈ (fs.scan settings root true).filterMap ScanStep.path?) :
    Text.isBlankText path = false ∧ isUnusable path = false := by
  obtain ⟨step, hstep, hpath⟩ := List.mem_filterMap.mp h
  have hsound := FileSystem.isSound_scan hfs hnull true step hstep
  cases step with
  | found other =>
    rw [ScanStep.path?, Option.some_inj] at hpath
    obtain ⟨names, hnames, rfl⟩ := hsound
    rw [← hpath]
    exact ⟨isBlankText_joinAll hblank names, by rw [isUnusable_joinAll hnames, hnull]⟩
  | passedOver other => simp [ScanStep.path?] at hpath
  | fellBack root other reason => simp [ScanStep.path?] at hpath
  | unlistable root reason => simp [ScanStep.path?] at hpath
  | broken => simp [ScanStep.path?] at hpath

/-- The query for all interfaces has their methods in the order of the scan. -/
lemma allInterfaces_result (hroot : Text.isBlankText root = false)
    (hscan : fs.scanFault? parser settings root true = none) :
    result (allInterfaces parser fs settings (.text root))
      = .ok (methodsNamed (fs.interfacesUnder parser settings root)) := by
  rw [allInterfaces, result_require_bind hroot, result_bind_ok (scanInterfaces_result hscan),
    result_pure]

/-- **Trees file by file.** Each file that a scan of the root finds has an answer of its own, the
answer for the whole tree is these answers one after the other, and the answer for one method is
what has its name among them. -/
theorem allInterfaces_eq_flatten (hfs : fs.WellFormed) (hblank : Text.isBlankText root = false)
    (hnull : isUnusable root = false) :
    ∃ answers : List (List InterfaceMethod),
      ((fs.scan settings root true).filterMap ScanStep.path?).map
          (fun path => result (fileInterfaces parser fs settings (.text path)))
        = answers.map .ok
        ∧ result (allInterfaces parser fs settings (.text root)) = .ok answers.flatten
        ∧ ∀ method, Text.isBlankText method = false →
          result (interfaces parser fs settings (.text root) (.text method))
            = .ok (answers.flatten.filter fun m => m.name == method) := by
  have hscan : fs.scanFault? parser settings root true = none :=
    FileSystem.scanFault?_eq_none hfs hnull true
  refine ⟨((fs.scan settings root true).filterMap ScanStep.path?).map
    (methodsAt fs parser settings), ?_, ?_, fun method hmethod => ?_⟩
  · rw [List.map_map]
    refine List.map_congr_left fun path hpath => ?_
    obtain ⟨hpathBlank, hpathNull⟩ := of_mem_paths hfs hblank hnull hpath
    exact fileInterfaces_result hpathBlank hpathNull
  · rw [allInterfaces_result hblank hscan, methodsNamed_interfacesUnder, List.flatMap_def]
  · rw [interfaces_result hblank hmethod hscan, methodsNamed_interfacesUnder, List.flatMap_def]

/-- The directory with one file answers with the method of its interface. -/
theorem allInterfaces_eq_flatten_shapes :
    shapes.WellFormed
      ∧ ∃ answers : List (List InterfaceMethod),
        ((shapes.scan {} "." true).filterMap ScanStep.path?).map
            (fun path => result (fileInterfaces shapeParser shapes {} (.text path)))
          = answers.map .ok
          ∧ answers.flatten = shape.methods
          ∧ result (allInterfaces shapeParser shapes {} (.text ".")) = .ok answers.flatten
          ∧ result (interfaces shapeParser shapes {} (.text ".") (.text "Area"))
            = .ok (answers.flatten.filter fun m => m.name == "Area") := by
  obtain ⟨answers, hfiles, hall, hnamed⟩ :=
    @allInterfaces_eq_flatten shapes shapeParser {} "." wellFormed_shapes (by decide) (by decide)
  have hshape : answers.flatten = shape.methods := by
    rw [allInterfaces_result (by decide) scanFault?_shapes,
      interfacesUnder_shapes (FileSystem.list_dot rfl) rfl, Except.ok.injEq] at hall
    rw [← hall]
    rfl
  exact ⟨wellFormed_shapes, answers, hfiles, hshape, hall, hnamed "Area" (by decide)⟩

end Query

end InterfaceAtlas
