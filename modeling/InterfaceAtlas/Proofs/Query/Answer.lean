import InterfaceAtlas.Proofs.Declaration.MethodTable
import InterfaceAtlas.Proofs.Journal.Outcome
import InterfaceAtlas.Query.Basic
import Mathlib.Data.List.Basic

/-!
# What queries answer, without the diagnostics

A query is a computation that says things on its way and may end in a fault. `Query.result` forgets
what it says. Three things live here:

* the results of the pieces that queries are put together from (`result_bind` and its like);
* the sources that a scan yields, `FileSystem.sources`, and the fault that ends it,
  `FileSystem.scanFault?`, with `scanWith_result` reading a scan as one or the other;
* what lies in the sources under a root: `FileSystem.interfacesUnder` and `FileSystem.methodsUnder`.
-/

namespace InterfaceAtlas

namespace Query

variable {α β : Type}

/-! ## Results of queries -/

/-- The answer of a query or its fault, without the diagnostics. -/
def result (x : Answer α) : Except QueryFault α := x.run.value

@[simp] lemma result_pure (a : α) : result (pure a) = .ok a := rfl

/-- The result of two parts in a row does not depend on what they say. -/
lemma result_bind (x : Answer α) (f : α → Answer β) :
    result (x >>= f) = result x >>= fun a => result (f a) :=
  Logged.outcome_bind x f

/-- After a computation that has an answer a query goes on with this answer. -/
lemma result_bind_ok {x : Answer α} {a : α} (h : result x = .ok a) (f : α → Answer β) :
    result (x >>= f) = result (f a) :=
  Logged.outcome_bind_ok h f

lemma result_map (f : α → β) (x : Answer α) : result (f <$> x) = (result x).map f :=
  Logged.outcome_map f x

@[simp] lemma result_lift (x : Logged α) : result (ExceptT.lift x) = .ok x.value := rfl

/-- A message does not count for the result. -/
@[simp] lemma result_say_bind (level : Level) (message : String) (f : Unit → Answer β) :
    result (say level message >>= f) = result (f ()) :=
  result_bind_ok (a := ()) rfl f

@[simp] lemma result_lift_bind (x : Logged α) (f : α → Answer β) :
    result (ExceptT.lift x >>= f) = result (f x.value) :=
  result_bind_ok (result_lift x) f

/-- An argument that is a text and not blank is taken as it is. -/
lemma result_require_bind {s : String} (h : Text.isBlankText s = false) (label : String)
    (f : String → Answer β) : result (require label (.text s) >>= f) = result (f s) := by
  refine result_bind_ok ?_ f
  rw [require, h]
  rfl

/-- A path that can be used has the result that is made of it. -/
lemma result_guardPath_ok {x : Logged (Except UnusablePath α)} {a : α} (h : x.value = .ok a) :
    result (guardPath x) = .ok a := by
  show (x.value.mapError QueryFault.unusable) = _
  rw [h]
  rfl

end Query

/-! ## What a scan yields -/

namespace FileSystem

/-- The sources that a scan yields. -/
def sources (fs : FileSystem) (parser : Parser) (settings : Settings) (root : String)
    (recursive : Bool) :
    List Source :=
  (fs.loads parser settings root recursive).filterMap LoadStep.source?

/-- The fault that ends a scan, if there is one. -/
def scanFault? (fs : FileSystem) (parser : Parser) (settings : Settings) (root : String)
    (recursive : Bool) :
    Option UnusablePath :=
  (fs.loads parser settings root recursive).findSome? LoadStep.fault?

/-- The interfaces of the sources under a root, in the order of the scan. -/
def interfacesUnder (fs : FileSystem) (parser : Parser) (settings : Settings) (root : String) :
    List InterfaceDeclaration :=
  (fs.sources parser settings root true).flatMap fun s => s.interfaces.value

/-- The methods of the sources under a root, in the order of the scan. -/
def methodsUnder (fs : FileSystem) (parser : Parser) (settings : Settings) (root : String) :
    List MethodDeclaration :=
  (fs.sources parser settings root true).flatMap fun s => s.methods.value

/-- All that the sources under a root declare. -/
def scopeUnder (fs : FileSystem) (parser : Parser) (settings : Settings) (root : String) : Scope :=
  { interfaces := fs.interfacesUnder parser settings root
    methods := fs.methodsUnder parser settings root }

end FileSystem

/-- A loop over the sources of a scan that meets no fault gets to all of them. -/
lemma eachSource_value {β : Type} (f : Source → Logged β) {steps : List LoadStep}
    (h : steps.findSome? LoadStep.fault? = none) :
    (eachSource f steps).value
      = .ok ((steps.filterMap LoadStep.source?).map fun s => (f s).value) := by
  induction steps with
  | nil => rfl
  | cons step more ih =>
    rw [List.findSome?_cons] at h
    cases hf : step.fault? with
    | some fault => simp [hf] at h
    | none =>
      rw [hf] at h
      rw [eachSource, Logged.value_bind, hf]
      cases hs : step.source? with
      | none => rw [List.filterMap_cons_none hs, ← ih h]
      | some s =>
        rw [List.filterMap_cons_some hs]
        simp only [Logged.value_bind, Logged.value_pure, ih h, List.map_cons]
        rfl

namespace Query

/-- A scan that meets no fault has a result for each source. -/
theorem scanWith_result {β : Type} {fs : FileSystem} {parser : Parser} {settings : Settings}
    {root : String} {recursive : Bool} (f : Source → Logged β)
    (h : fs.scanFault? parser settings root recursive = none) :
    result (scanWith parser fs settings root recursive f)
      = .ok ((fs.sources parser settings root recursive).map fun s => (f s).value,
          .ofLoads (fs.loads parser settings root recursive)) := by
  have heach := eachSource_value f h
  rw [scanWith, result_bind_ok (result_guardPath_ok (by rw [Logged.value_inPhase, heach]))]
  rfl

variable {fs : FileSystem} {parser : Parser} {settings : Settings} {root : String}

/-- A scan without faults has all interfaces under the root. -/
theorem scanInterfaces_result (h : fs.scanFault? parser settings root true = none) :
    result (scanInterfaces parser fs settings root)
      = .ok (fs.interfacesUnder parser settings root) := by
  rw [scanInterfaces, result_bind_ok (scanWith_result _ h)]
  simp only [result_say_bind, result_pure]
  rw [FileSystem.interfacesUnder, List.flatMap_def]

/-- A scan without faults has all that is declared under the root. -/
theorem scanScope_result (h : fs.scanFault? parser settings root true = none) :
    result (scanScope parser fs settings root) = .ok (fs.scopeUnder parser settings root) := by
  rw [scanScope, result_bind_ok (scanWith_result _ h)]
  simp only [result_say_bind, result_pure, Scope.concat, List.flatMap_map]
  rfl

end Query

end InterfaceAtlas
