import InterfaceAtlas.Proofs.Files.Harmless
import InterfaceAtlas.Proofs.Matching.Coverage

/-!
# Who implements a method

Two queries look for the methods of types that implement an interface, and each has an answer that
can be read off the sources:

* `implementations_exact`: one method name in a whole tree. The interface is the first that names
  the method, and each type that covers it answers with its last declaration;
* `fileImplementations_exact`: all methods of one file, where a type has to cover an interface with
  the methods of this file alone.
-/

namespace InterfaceAtlas

namespace Query

variable {fs : FileSystem} {parser : Parser} {settings : Settings} {root method : String}

/-! ## The first interface that names a method -/

/-- The interface is the first that names the method, and it does so first in `first`. -/
def OwnsFirst (interfaces : List InterfaceDeclaration) (method : String) (first : InterfaceMethod)
    (i : InterfaceDeclaration) : Prop :=
  ∃ before after, interfaces = before ++ i :: after ∧ (∀ j ∈ before, method ∉ j.methodNames)
    ∧ i.methods.find? (fun m => m.name == method) = some first

/-- The first entry with a name lies in the first interface that names it. -/
lemma exists_ownsFirst {interfaces : List InterfaceDeclaration} {first : InterfaceMethod}
    (h : ((methodsNamed interfaces).filter fun m => m.name == method).head? = some first) :
    ∃ i, OwnsFirst interfaces method first i := by
  rw [List.head?_filter, methodsNamed, List.find?_flatMap, List.findSome?_eq_some_iff] at h
  obtain ⟨before, i, after, hsplit, hfirst, hbefore⟩ := h
  refine ⟨i, before, after, hsplit, fun j hj hmem => ?_, hfirst⟩
  obtain ⟨m, hm, hname⟩ := List.mem_map.mp hmem
  exact List.find?_eq_none.mp (hbefore j hj) m hm (beq_iff_eq.mpr hname)

/-- The first owner of a method has it among its own. -/
lemma OwnsFirst.mem_methodNames {interfaces : List InterfaceDeclaration} {first : InterfaceMethod}
    {i : InterfaceDeclaration} (h : OwnsFirst interfaces method first i) :
    method ∈ i.methodNames := by
  obtain ⟨-, -, -, -, hfirst⟩ := h
  have hname := List.find?_some hfirst
  exact List.mem_map.mpr ⟨first, List.mem_of_find?_eq_some hfirst, beq_iff_eq.mp hname⟩

/-- The first owner of a method is the one that a resolver finds. -/
lemma OwnsFirst.find?_declares {interfaces : List InterfaceDeclaration} {first : InterfaceMethod}
    {i : InterfaceDeclaration} (h : OwnsFirst interfaces method first i) :
    interfaces.find? (fun i => i.declares method) = some i := by
  have hmem := h.mem_methodNames
  obtain ⟨before, after, hsplit, hbefore, -⟩ := h
  rw [List.find?_eq_some_iff_append]
  refine ⟨declares_iff.mpr hmem, before, after, hsplit, fun j hj => ?_⟩
  rw [Bool.not_eq_true', ← Bool.not_eq_true, declares_iff]
  exact hbefore j hj

/-- Without an entry there is no interface to look at. -/
lemma find?_declares_eq_none {interfaces : List InterfaceDeclaration}
    (h : (methodsNamed interfaces).filter (fun m => m.name == method) = []) :
    interfaces.find? (fun i => i.declares method) = none := by
  rw [List.find?_eq_none]
  intro i hi hdeclares
  obtain ⟨m, hm, hname⟩ := List.mem_map.mp (declares_iff.mp hdeclares)
  have hmem : m ∈ methodsNamed interfaces := List.mem_flatMap.mpr ⟨i, hi, hm⟩
  exact List.filter_eq_nil_iff.mp h m hmem (beq_iff_eq.mpr hname)

/-! ## One declaration for each type -/

/-- The methods are those of the types that cover the interface, one for each type and the last
that is declared, in the order in which the types first appear. -/
structure IsLastOfCovering (ds : List MethodDeclaration) (i : InterfaceDeclaration)
    (method : String) (found : List MethodDeclaration) : Prop where
  receiver_iff : ∀ type, type ∈ found.map (·.receiver) ↔ type ≠ "" ∧ Covers ds type i
  once : (found.map (·.receiver)).Nodup
  ordered : found.Pairwise fun a b =>
    (ds.map (·.receiver)).idxOf a.receiver < (ds.map (·.receiver)).idxOf b.receiver
  last : ∀ d ∈ found, lastDeclared? ds d.receiver method = some d

/-- A type that covers an interface has a last declaration of each of its methods. -/
lemma exists_lastDeclared?_of_covers {ds : List MethodDeclaration} {i : InterfaceDeclaration}
    (hmethod : method ∈ i.methodNames) {type : String} (h : Covers ds type i) :
    ∃ d, lastDeclared? ds type method = some d ∧ d.receiver = type := by
  obtain ⟨d, hd⟩ := exists_lastDeclared? (h method hmethod)
  exact ⟨d, hd, (of_lastDeclared?_eq_some hd).2.1⟩

/-- The methods that are picked have the receivers that cover the interface. -/
lemma map_receiver_implementationsFor (scope : Scope) {i : InterfaceDeclaration}
    (hmethod : method ∈ i.methodNames) :
    (implementationsFor scope i method).map (·.receiver)
      = (receivers scope.methods).filter fun type => Covers scope.methods type i := by
  rw [implementationsFor_eq, List.map_filterMap]
  -- no type is lost on the way, since each that covers the interface declares the method
  refine (List.filterMap_congr fun type htype => ?_).trans List.filterMap_some
  have hcovers : Covers scope.methods type i := of_decide_eq_true (List.mem_filter.mp htype).2
  obtain ⟨d, hd, hreceiver⟩ := exists_lastDeclared?_of_covers hmethod hcovers
  rw [hd, Option.map_some, hreceiver]

/-- What a query lists for a method is the last of each covering type. -/
theorem isLastOfCovering_implementationsFor (scope : Scope) {i : InterfaceDeclaration}
    (hmethod : method ∈ i.methodNames) :
    IsLastOfCovering scope.methods i method (implementationsFor scope i method) := by
  have hreceivers := map_receiver_implementationsFor scope hmethod
  refine ⟨fun type => ?_, ?_, ?_, fun d hd => ?_⟩
  · rw [hreceivers, List.mem_filter, decide_eq_true_eq, mem_receivers]
    constructor
    · rintro ⟨⟨hne, -⟩, hcovers⟩
      exact ⟨hne, hcovers⟩
    · rintro ⟨hne, hcovers⟩
      exact ⟨⟨hne, exists_receiver_of_covers hcovers hmethod⟩, hcovers⟩
  · rw [hreceivers]
    exact (nodup_receivers scope.methods).filter _
  · have hsorted := (pairwise_receivers scope.methods).filter fun type =>
      Covers scope.methods type i
    rwa [← hreceivers, List.pairwise_map] at hsorted
  · rw [implementationsFor_eq] at hd
    obtain ⟨type, -, htype⟩ := List.mem_filterMap.mp hd
    rwa [(of_lastDeclared?_eq_some htype).2.1]

/-! ## Queries about a tree -/

/-- What a scope answers for a method: the methods on the types that implement the first interface
that names it. -/
lemma implementations_result (hroot : Text.isBlankText root = false)
    (hmethod : Text.isBlankText method = false)
    (hscan : fs.scanFault? parser settings root true = none) :
    result (implementations parser fs settings (.text root) (.text method))
      = .ok (((fs.interfacesUnder parser settings root).find? fun i => i.declares method).elim []
          fun i => implementationsFor (fs.scopeUnder parser settings root) i method) := by
  rw [implementations, result_require_bind hroot, result_require_bind hmethod,
    result_bind_ok (scanScope_result hscan), ← List.head?_filter]
  simp only [Scope.interfacesDeclaring, FileSystem.scopeUnder]
  cases (fs.interfacesUnder parser settings root).filter fun i => i.declares method with
  | nil => rw [result_say_bind, result_pure, List.head?_nil, Option.elim_none]
  | cons target others =>
    rw [List.head?_cons, Option.elim_some]
    dsimp only
    -- whether there are other candidates matters for the diagnostics only
    split <;> simp only [result_say_bind, result_lift_bind, result_pure, Logged.value_inPhase,
      Logged.value_pure]

/-- The query for the owners of a method has the methods of that name in all interfaces. -/
lemma interfaces_result (hroot : Text.isBlankText root = false)
    (hmethod : Text.isBlankText method = false)
    (hscan : fs.scanFault? parser settings root true = none) :
    result (interfaces parser fs settings (.text root) (.text method))
      = .ok ((methodsNamed (fs.interfacesUnder parser settings root)).filter fun m =>
          m.name == method) := by
  rw [interfaces, result_require_bind hroot, result_require_bind hmethod,
    result_bind_ok (scanInterfaces_result hscan), result_pure]

/-- Each type that satisfies the interface has a declaration of the method in the table. -/
def NeverMissing (ds : List MethodDeclaration) (i : InterfaceDeclaration) (method : String) :
    Prop :=
  ∀ type ∈ Resolver.satisfyingTypes { interfaces := [i], methods := .ofDeclarations ds } i,
    (MethodTable.ofDeclarations ds).declaration? type method ≠ none

/-- A type that covers an interface has each method of it. -/
lemma neverMissing {ds : List MethodDeclaration} {i : InterfaceDeclaration}
    (hmethod : method ∈ i.methodNames) : NeverMissing ds i method := by
  intro type h
  rw [satisfyingTypes_ofDeclarations, List.mem_filter, decide_eq_true_eq, mem_receivers] at h
  obtain ⟨⟨hne, -⟩, hcovers⟩ := h
  obtain ⟨d, hd, -⟩ := exists_lastDeclared?_of_covers hmethod hcovers
  rw [MethodTable.declaration?_ofDeclarations ds hne, hd]
  exact Option.some_ne_none d

/-- **Who implements a method of a tree.** Where no interface names the method there is no answer.
Otherwise the first entry for the method lies in an interface, and the answer has one declaration
for each type that covers it: the last one, in the order in which the types first appear. A
declaration is there for each of these types. -/
theorem implementations_exact (hroot : Text.isBlankText root = false)
    (hmethod : Text.isBlankText method = false)
    (hscan : fs.scanFault? parser settings root true = none) :
    ∃ entries found,
      result (interfaces parser fs settings (.text root) (.text method)) = .ok entries
        ∧ result (implementations parser fs settings (.text root) (.text method)) = .ok found
        ∧ (entries = [] → found = [])
        ∧ ∀ first ∈ entries.head?,
            ∃ i, OwnsFirst (fs.interfacesUnder parser settings root) method first i
              ∧ IsLastOfCovering (fs.methodsUnder parser settings root) i method found
              ∧ NeverMissing (fs.methodsUnder parser settings root) i method := by
  refine ⟨_, _, interfaces_result hroot hmethod hscan, implementations_result hroot hmethod hscan,
    fun hnil => ?_, fun first hfirst => ?_⟩
  · rw [find?_declares_eq_none hnil, Option.elim_none]
  · obtain ⟨i, howns⟩ := exists_ownsFirst hfirst
    rw [howns.find?_declares, Option.elim_some]
    exact ⟨i, howns, isLastOfCovering_implementationsFor (fs.scopeUnder parser settings root)
      howns.mem_methodNames, neverMissing howns.mem_methodNames⟩

/-- A file in which a type implements an interface. -/
def shapeText : List UInt8 :=
  ("package shape\ntype Shape interface \x7b Area() int \x7d\n"
    ++ "type Square int\nfunc (s Square) Area() int \x7b return 1 \x7d\n").toUTF8.toList

/-- A directory with this file alone. -/
def shapes : FileSystem where
  entries := [("shape.go", .file shapeText)]

lemma wellFormed_shapes : shapes.WellFormed := by
  refine .mk (by simp [shapes]) (fun e he => ?_) (fun name inner he => ?_)
  · rw [List.mem_singleton.mp he]
    exact ⟨by decide, by decide, by decide, by decide, by decide⟩
  · simp [shapes] at he

/-- A leaf of a tree with a text, in a role. -/
def leafIn (field kind text : String) : Node :=
  .mk { kind, field := some field, text := some text.toUTF8.toList } []

/-- The declaration of an interface with one method. -/
def interfaceNode (name method : String) : Node :=
  .mk { kind := "type_spec" }
    [leafIn "name" "type_identifier" name,
      .mk { kind := "interface_type", field := some "type" }
        [.mk { kind := "method_elem" } [leafIn "name" "field_identifier" method]]]

/-- The declaration of a method. -/
def methodNode (receiver method : String) : Node :=
  .mk { kind := "method_declaration" }
    [.mk { kind := "parameter_list", field := some "receiver" }
      [.mk { kind := "parameter_declaration" } [leafIn "type" "type_identifier" receiver]],
      leafIn "name" "field_identifier" method]

/-- What the file declares: an interface, and a method that it names. -/
def shapeTree : Node :=
  .mk { kind := "source_file" } [interfaceNode "Shape" "Area", methodNode "Square" "Area"]

/-- A parser for this file. -/
def shapeParser : Parser := fun _ => shapeTree

/-- What is loaded from the directory. -/
def shapeSource : Source where
  path := "./shape.go"
  tree := shapeTree
  content := shapeText

/-- The one file of `shapes` has the tree that is given for it. -/
lemma load_shapes :
    (Source.load shapeParser shapes {} "./shape.go").value = .ok (some shapeSource) := by
  have hread := FileSystem.read_join wellFormed_shapes (FileSystem.list_dot rfl)
    List.mem_cons_self rfl
  exact FileSystem.load_of_read (by decide) hread (by decide)

/-- The file is all that there is, whether the directory is spelled `.` or `./`. -/
lemma sources_shapes (hlist : shapes.list root = .ok shapes.entries)
    (hjoin : Path.join root "shape.go" = "./shape.go") (recursive : Bool) :
    shapes.sources shapeParser {} root recursive = [shapeSource] := by
  have hnames : FileSystem.sourceNames {} recursive (shapes.denial root) shapes.entries
      = [["shape.go"]] := by
    cases recursive <;> with_unfolding_all rfl
  have hloaded : shapes.loaded? shapeParser {} "./shape.go" = some shapeSource := by
    rw [FileSystem.loaded?, load_shapes]
  rw [FileSystem.sources_eq, FileSystem.paths_eq wellFormed_shapes hlist, hnames,
    List.map_singleton, Path.joinAll_cons, Path.joinAll_nil, hjoin,
    List.filterMap_cons_some hloaded, List.filterMap_nil]

/-- The interface of the file. -/
def shape : InterfaceDeclaration where
  name := "Shape"
  file := "./shape.go"
  location := ⟨"./shape.go", 0, 0⟩
  methods :=
    [{ name := "Area", interfaceName := "Shape", location := ⟨"./shape.go", 0, 0⟩
       hint := ⟨"./shape.go", 1, 0⟩ }]

/-- The method of the file. -/
def squareArea : MethodDeclaration where
  receiver := "Square"
  name := "Area"
  file := "./shape.go"
  start := ⟨"./shape.go", 0, 0⟩
  stop := ⟨"./shape.go", 0, 0⟩

/-- The file declares one interface, which is read off its tree. -/
lemma interfaces_shapeSource : shapeSource.interfaces.value = [shape] := by
  decide +kernel

/-- The file declares one method, which is read off its tree. -/
lemma methods_shapeSource : shapeSource.methods.value = [squareArea] := by
  decide +kernel

/-- However the root is spelled, a scan finds the one interface. -/
lemma interfacesUnder_shapes (hlist : shapes.list root = .ok shapes.entries)
    (hjoin : Path.join root "shape.go" = "./shape.go") :
    shapes.interfacesUnder shapeParser {} root = [shape] := by
  rw [FileSystem.interfacesUnder, sources_shapes hlist hjoin, List.flatMap_singleton,
    interfaces_shapeSource]

lemma methodsUnder_shapes (hlist : shapes.list root = .ok shapes.entries)
    (hjoin : Path.join root "shape.go" = "./shape.go") :
    shapes.methodsUnder shapeParser {} root = [squareArea] := by
  rw [FileSystem.methodsUnder, sources_shapes hlist hjoin, List.flatMap_singleton,
    methods_shapeSource]

lemma scanFault?_shapes : shapes.scanFault? shapeParser {} "." true = none :=
  FileSystem.scanFault?_eq_none wellFormed_shapes (by decide) true

lemma interfaces_shapes :
    result (interfaces shapeParser shapes {} (.text ".") (.text "Area")) = .ok shape.methods := by
  rw [interfaces_result (by decide) (by decide) scanFault?_shapes,
    interfacesUnder_shapes (FileSystem.list_dot rfl) rfl]
  decide

/-- The query finds the method by which `Square` implements `Shape`. -/
lemma implementations_shapes :
    result (implementations shapeParser shapes {} (.text ".") (.text "Area"))
      = .ok [squareArea] := by
  have hlist : shapes.list "." = .ok shapes.entries := FileSystem.list_dot rfl
  rw [implementations_result (by decide) (by decide) scanFault?_shapes, FileSystem.scopeUnder,
    interfacesUnder_shapes hlist rfl, methodsUnder_shapes hlist rfl]
  decide +kernel

/-- The square answers for the area of shapes. -/
theorem implementations_exact_shapes :
    shapes.scanFault? shapeParser {} "." true = none
      ∧ ∃ entries found,
        result (interfaces shapeParser shapes {} (.text ".") (.text "Area")) = .ok entries
          ∧ entries = shape.methods
          ∧ result (implementations shapeParser shapes {} (.text ".") (.text "Area")) = .ok found
          ∧ found = [squareArea]
          ∧ (entries = [] → found = [])
          ∧ ∀ first ∈ entries.head?,
              ∃ i, OwnsFirst (shapes.interfacesUnder shapeParser {} ".") "Area" first i
                ∧ IsLastOfCovering (shapes.methodsUnder shapeParser {} ".") i "Area" found
                ∧ NeverMissing (shapes.methodsUnder shapeParser {} ".") i "Area" := by
  obtain ⟨entries, found, hentries, hfound, hnone, hfirst⟩ :=
    @implementations_exact shapes shapeParser {} "." "Area" (by decide) (by decide)
      scanFault?_shapes
  have hshape : entries = shape.methods := Except.ok.inj (hentries.symm.trans interfaces_shapes)
  have hsquare : found = [squareArea] := Except.ok.inj (hfound.symm.trans implementations_shapes)
  exact ⟨scanFault?_shapes, entries, found, hentries, hshape, hfound, hsquare, hnone, hfirst⟩

/-! ## Queries about a file -/

/-- The query for a file that loads has the methods by which its types cover interfaces around it.
-/
lemma fileImplementations_result {path : String} {source : Source} (hfs : fs.WellFormed)
    (hpath : Text.isBlankText path = false)
    (hload : (Source.load parser fs settings path).value = .ok (some source)) :
    result (fileImplementations parser fs settings (.text path))
      = .ok (coveringMethods source.methods.value
          (fs.interfacesUnder parser settings (Path.containing path))) := by
  have hscan : fs.scanFault? parser settings (Path.containing path) true = none :=
    FileSystem.scanFault?_eq_none hfs
      (Path.isUnusable_containing (FileSystem.isUnusable_of_load hload)) true
  rw [fileImplementations, result_require_bind hpath,
    result_bind_ok (result_guardPath_ok hload)]
  dsimp only
  rw [result_bind_ok (scanInterfaces_result hscan)]
  simp only [result_lift_bind, result_say_bind, result_pure, implementationsIn_eq]

/-- **Who implements an interface in a file.** The answer for a file that can be loaded has the
methods of the receivers that cover, in the file alone, an interface with methods from the file's
directory or below. So what is reported of a type covers such an interface, a type that is not
reported lacks a method of each of them, and it makes no difference in which order and how often
the interfaces come. -/
theorem fileImplementations_exact {path : String} {source : Source} (hfs : fs.WellFormed)
    (hpath : Text.isBlankText path = false)
    (hload : (Source.load parser fs settings path).value = .ok (some source)) :
    ∃ found, result (fileImplementations parser fs settings (.text path)) = .ok found
      ∧ found = coveringMethods source.methods.value
          (fs.interfacesUnder parser settings (Path.containing path))
      ∧ (∀ type ∈ found.map (·.receiver),
          ∃ i ∈ fs.interfacesUnder parser settings (Path.containing path),
            i.methods ≠ [] ∧ Covers found type i)
      ∧ (∀ type ∈ receivers source.methods.value, type ∉ found.map (·.receiver) →
          ∀ i ∈ fs.interfacesUnder parser settings (Path.containing path), i.methods ≠ [] →
            ∃ name ∈ i.methodNames, ¬ Declared source.methods.value type name)
      ∧ ∀ others,
          (∀ i, i ∈ others ↔ i ∈ fs.interfacesUnder parser settings (Path.containing path)) →
            (implementationsIn source others).value = found := by
  refine ⟨_, fileImplementations_result hfs hpath hload, rfl, fun type htype => ?_,
    fun type htype hout i hi hne => ?_, fun others hothers => ?_⟩
  · obtain ⟨-, i, hi, hne, hcovers⟩ := mem_map_receiver_coveringMethods.mp htype
    exact ⟨i, hi, hne, covers_coveringMethods htype hcovers⟩
  · have hmisses : ¬ Covers source.methods.value type i := fun hcovers =>
      hout (mem_map_receiver_coveringMethods.mpr ⟨htype, i, hi, hne, hcovers⟩)
    rw [Covers] at hmisses
    push Not at hmisses
    exact hmisses
  · rw [implementationsIn_eq]
    exact coveringMethods_congr _ fun names => by simp only [List.mem_map, hothers]

/-- The file of shapes answers with the method of the square. -/
lemma fileImplementations_shapes :
    result (fileImplementations shapeParser shapes {} (.text "./shape.go"))
      = .ok [squareArea] := by
  have hinterfaces : shapes.interfacesUnder shapeParser {} (Path.containing "./shape.go")
      = [shape] := interfacesUnder_shapes (FileSystem.list_dot rfl) rfl
  rw [fileImplementations_result wellFormed_shapes (by decide) load_shapes, methods_shapeSource,
    hinterfaces]
  decide +kernel

/-- The file declares a type and the interface that it implements. -/
theorem fileImplementations_exact_shapes :
    ∃ source, (Source.load shapeParser shapes {} "./shape.go").value = .ok (some source)
      ∧ ∃ found, result (fileImplementations shapeParser shapes {} (.text "./shape.go")) = .ok found
        ∧ found = [squareArea]
        ∧ found = coveringMethods source.methods.value (shapes.interfacesUnder shapeParser {} ".")
        ∧ (∀ type ∈ found.map (·.receiver),
          ∃ i ∈ shapes.interfacesUnder shapeParser {} ".", i.methods ≠ [] ∧ Covers found type i)
        ∧ (∀ type ∈ receivers source.methods.value, type ∉ found.map (·.receiver) →
          ∀ i ∈ shapes.interfacesUnder shapeParser {} ".", i.methods ≠ [] →
            ∃ name ∈ i.methodNames, ¬ Declared source.methods.value type name)
        ∧ ∀ others, (∀ i, i ∈ others ↔ i ∈ shapes.interfacesUnder shapeParser {} ".") →
          (implementationsIn source others).value = found := by
  obtain ⟨found, hfound, heq, hcovers, hlacks, horder⟩ :=
    fileImplementations_exact wellFormed_shapes (by decide) load_shapes
  have hsquare : found = [squareArea] :=
    Except.ok.inj (hfound.symm.trans fileImplementations_shapes)
  exact ⟨_, load_shapes, found, hfound, hsquare, heq, hcovers, hlacks, horder⟩

end Query

end InterfaceAtlas
