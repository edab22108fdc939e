import InterfaceAtlas.Proofs.Query.Interfaces
import InterfaceAtlas.Proofs.Query.Package
import InterfaceAtlas.Query.Command

/-!
# How commands end

A command ends in one of three ways, and its arguments alone settle in which: with a fault for the
first argument that is no text or is blank, with a fault for a text that is no path because it holds
a null character, or with a payload. No state of the file system is a fault.

* `EndsAs` puts this for a query, and there is a lemma for each of the six;
* `run_endsAs` is the statement for commands;
* `isFilled_of_run` says of any file system that a payload is not had without texts.
-/

namespace InterfaceAtlas

/-- Whether an argument is a text that is not blank. -/
def Value.isFilled : Value → Bool
  | .text s => !Text.isBlankText s
  | _ => false

/-- Whether an argument is a text with a null character. -/
def Value.holdsNull : Value → Bool
  | .text s => Path.isUnusable s
  | _ => false

/-- Only texts with more than blanks fill an argument. -/
lemma Value.exists_text_of_isFilled {v : Value} (h : v.isFilled = true) :
    ∃ s, v = .text s ∧ Text.isBlankText s = false := by
  cases v with
  | text s => exact ⟨s, rfl, by simpa [isFilled] using h⟩
  | null | bool | int | float | bytes | date | moment | list | pair | set | map =>
    simp [isFilled] at h

namespace Query

open InterfaceAtlas.Path

variable {fs : FileSystem} {parser : Parser} {settings : Settings} {α β : Type}

/-! ## Faults on the way -/

/-- After a fault a query does not go on. -/
lemma result_bind_error {x : Answer α} {fault : QueryFault} (h : result x = .error fault)
    (f : α → Answer β) : result (x >>= f) = .error fault :=
  Logged.outcome_bind_error h f

/-- An argument that is not filled ends a query, and is named. -/
lemma result_require_error {v : Value} (h : v.isFilled = false) (label : String) :
    result (require label v) = .error (.blank label) := by
  cases v with
  | text s =>
    have hblank : Text.isBlankText s = true := by simpa [Value.isFilled] using h
    rw [require, if_pos hblank]
    rfl
  | null | bool | int | float | bytes | date | moment | list | pair | set | map => rfl

/-- A path that cannot be used ends a query. -/
lemma result_guardPath_error {x : Logged (Except UnusablePath α)} {fault : UnusablePath}
    (h : x.value = .error fault) : result (guardPath x) = .error (.unusable fault) := by
  show (x.value.mapError QueryFault.unusable) = _
  rw [h]
  rfl

/-- The scan of a text that is no path ends at once. -/
lemma scan_of_isUnusable {root : String} (h : isUnusable root = true) (recursive : Bool) :
    fs.scan settings root recursive = [.broken] := by
  have hfile : fs.isFile root = false := by
    rw [FileSystem.isFile, h]
    rfl
  have hlist : fs.list root = .error .unusable := by
    rw [FileSystem.list, if_pos h]
  rw [FileSystem.scan, hfile, if_neg (by decide)]
  cases recursive with
  | true =>
    have hwalk : fs.walk settings root = [.failed root .unusable] := by
      rw [FileSystem.walk, hlist]
    rw [if_pos rfl, hwalk]
    rfl
  | false =>
    rw [if_neg (by decide), FileSystem.flatScan, FileSystem.flatFiles, hlist]
    rfl

/-- A scan from a root with a null character ends in a fault at its first step. -/
lemma scanWith_error {root : String} (h : isUnusable root = true) (recursive : Bool)
    (f : Source → Logged β) :
    result (scanWith parser fs settings root recursive f) = .error (.unusable .nullCharacter) := by
  refine result_bind_error (result_guardPath_error ?_) _
  rw [Logged.value_inPhase, FileSystem.loads, scan_of_isUnusable h]
  rfl

lemma scanInterfaces_error {root : String} (h : isUnusable root = true) :
    result (scanInterfaces parser fs settings root) = .error (.unusable .nullCharacter) :=
  result_bind_error (scanWith_error h true _) _

lemma scanScope_error {root : String} (h : isUnusable root = true) :
    result (scanScope parser fs settings root) = .error (.unusable .nullCharacter) :=
  result_bind_error (scanWith_error h true _) _

/-- A text that is no path is a fault of loading if it looks like the path of a source. -/
lemma load_error {path : String} (h : isUnusable path = true) (hsource : settings.isSource path) :
    (Source.load parser fs settings path).value = .error .nullCharacter := by
  have hread : fs.read path = .error .unusable := by
    rw [FileSystem.read, if_pos h]
  rw [Source.load, hsource, if_neg (by decide), hread]
  rfl

/-- Anything else is loaded or left out. -/
lemma exists_load_ok {path : String} (h : (isUnusable path && settings.isSource path) = false) :
    ∃ source, (Source.load parser fs settings path).value = .ok source := by
  rcases Bool.and_eq_false_iff.mp h with hpath | hsource
  · exact FileSystem.load_ok hpath
  · refine ⟨none, ?_⟩
    rw [Source.load, hsource, if_pos (by decide)]
    rfl

/-! ## The ends of queries -/

/-- How a query ends: with a fault for the argument that is missing, with a fault for a null
character, or with an answer. -/
def EndsAs (missing : Option String) (null : Bool) (x : Answer α) : Prop :=
  match missing with
  | some label => result x = .error (.blank label)
  | none =>
    if null then result x = .error (.unusable .nullCharacter) else ∃ a, result x = .ok a

/-- The label of the first argument that is no text or is blank. -/
def firstMissing? (labels : List String) (arguments : List Value) : Option String :=
  ((labels.zip arguments).find? fun x => !x.2.isFilled).map Prod.fst

/-- An argument that is given is not the one that is missing. -/
lemma firstMissing?_of_isFilled {v : Value} (h : v.isFilled = true) (label : String)
    (labels : List String) (arguments : List Value) :
    firstMissing? (label :: labels) (v :: arguments) = firstMissing? labels arguments := by
  simp [firstMissing?, h]

/-- The first argument that is missing is the one that is named. -/
lemma firstMissing?_of_isFilled_eq_false {v : Value} (h : v.isFilled = false) (label : String)
    (labels : List String) (arguments : List Value) :
    firstMissing? (label :: labels) (v :: arguments) = some label := by
  simp [firstMissing?, h]

/-- A query ends as before whatever is made of its answer. -/
lemma EndsAs.map {missing : Option String} {null : Bool} {x : Answer α}
    (h : EndsAs missing null x) (f : α → β) : EndsAs missing null (f <$> x) := by
  cases missing with
  | some label =>
    show result (f <$> x) = _
    rw [result_map, show result x = _ from h]
    rfl
  | none =>
    cases null with
    | true =>
      show result (f <$> x) = _
      rw [result_map, show result x = _ from h]
      rfl
    | false =>
      obtain ⟨a, ha⟩ : ∃ a, result x = .ok a := h
      exact ⟨f a, by rw [result_map, ha]; rfl⟩

/-- A query first asks for an argument, and goes on with the text if it is given. -/
lemma EndsAs.require {v : Value} {label : String} {labels : List String}
    {arguments : List Value} {null : Bool} {f : String → Answer α}
    (h : ∀ s, v = .text s → Text.isBlankText s = false →
      EndsAs (firstMissing? labels arguments) null (f s)) :
    EndsAs (firstMissing? (label :: labels) (v :: arguments)) null (require label v >>= f) := by
  cases hfilled : v.isFilled with
  | false =>
    rw [firstMissing?_of_isFilled_eq_false hfilled]
    exact result_bind_error (result_require_error hfilled label) f
  | true =>
    obtain ⟨s, rfl, hblank⟩ := v.exists_text_of_isFilled hfilled
    rw [firstMissing?_of_isFilled hfilled]
    simpa only [EndsAs, result_require_bind hblank] using h s rfl hblank

lemma endsAs_ok {x : Answer α} {a : α} (h : result x = .ok a) : EndsAs none false x := ⟨a, h⟩

/-- How the query for the implementations under a root ends. -/
theorem implementations_endsAs (hfs : fs.WellFormed) (root method : Value) :
    EndsAs (firstMissing? ["root", "method name"] [root, method]) root.holdsNull
      (implementations parser fs settings root method) := by
  refine EndsAs.require fun s hs hroot => EndsAs.require fun m hm hmethod => ?_
  subst hs hm
  cases hnull : Value.holdsNull (.text s) with
  | true => exact result_bind_error (scanScope_error hnull) _
  | false =>
    have hscan : fs.scanFault? parser settings s true = none :=
      FileSystem.scanFault?_eq_none hfs hnull true
    have hresult := implementations_result hroot hmethod hscan
    rw [implementations, result_require_bind hroot, result_require_bind hmethod] at hresult
    exact endsAs_ok hresult

/-- How the query for the owners of a method ends. -/
theorem interfaces_endsAs (hfs : fs.WellFormed) (root method : Value) :
    EndsAs (firstMissing? ["root", "method name"] [root, method]) root.holdsNull
      (interfaces parser fs settings root method) := by
  refine EndsAs.require fun s hs hroot => EndsAs.require fun m hm hmethod => ?_
  subst hs hm
  cases hnull : Value.holdsNull (.text s) with
  | true => exact result_bind_error (scanInterfaces_error hnull) _
  | false =>
    have hscan : fs.scanFault? parser settings s true = none :=
      FileSystem.scanFault?_eq_none hfs hnull true
    have hresult := interfaces_result hroot hmethod hscan
    rw [interfaces, result_require_bind hroot, result_require_bind hmethod] at hresult
    exact endsAs_ok hresult

/-- How the query for all interfaces ends. -/
theorem allInterfaces_endsAs (hfs : fs.WellFormed) (root : Value) :
    EndsAs (firstMissing? ["root"] [root]) root.holdsNull
      (allInterfaces parser fs settings root) := by
  refine EndsAs.require fun s hs hroot => ?_
  subst hs
  cases hnull : Value.holdsNull (.text s) with
  | true => exact result_bind_error (scanInterfaces_error hnull) _
  | false =>
    have hscan : fs.scanFault? parser settings s true = none :=
      FileSystem.scanFault?_eq_none hfs hnull true
    have hresult := allInterfaces_result hroot hscan
    rw [allInterfaces, result_require_bind hroot] at hresult
    exact endsAs_ok hresult

/-- How the query for the relations in a package ends. A file in it is no fault of the caller. -/
theorem packageRelations_endsAs (hfs : fs.WellFormed) (directory : Value) :
    EndsAs (firstMissing? ["package directory"] [directory]) directory.holdsNull
      (packageRelations parser fs settings directory) := by
  refine EndsAs.require fun s hs hblank => ?_
  subst hs
  cases hnull : Value.holdsNull (.text s) with
  | true => exact result_bind_error (scanWith_error hnull false _) _
  | false =>
    obtain ⟨relations, hresult⟩ :
        ∃ relations, result (packageRelations parser fs settings (.text s)) = .ok relations :=
      ⟨_, packageRelations_result hfs hblank hnull⟩
    rw [packageRelations, result_require_bind hblank] at hresult
    exact endsAs_ok hresult

/-- Whether an argument is a text with a null character that looks like the path of a source. -/
def holdsNullAsSource (settings : Settings) : Value → Bool
  | .text s => isUnusable s && settings.isSource s
  | _ => false

/-- How the query for the interfaces of a file ends. A name that is no source is not even opened. -/
theorem fileInterfaces_endsAs (file : Value) :
    EndsAs (firstMissing? ["file"] [file]) (holdsNullAsSource settings file)
      (fileInterfaces parser fs settings file) := by
  refine EndsAs.require fun s hs hblank => ?_
  subst hs
  cases hnull : holdsNullAsSource settings (.text s) with
  | true =>
    obtain ⟨hpath, hsource⟩ := Bool.and_eq_true_iff.mp hnull
    exact result_bind_error (result_guardPath_error (load_error hpath hsource)) _
  | false =>
    obtain ⟨source, hload⟩ : ∃ source, (Source.load parser fs settings s).value = .ok source :=
      exists_load_ok hnull
    have hbind := fun f => result_bind_ok (β := List InterfaceMethod) (result_guardPath_ok hload) f
    cases source with
    | none => exact endsAs_ok (hbind _)
    | some source => exact endsAs_ok ((hbind _).trans (result_lift_bind _ _))

/-- How the query for the implementations in a file ends. -/
theorem fileImplementations_endsAs (hfs : fs.WellFormed) (file : Value) :
    EndsAs (firstMissing? ["file"] [file]) (holdsNullAsSource settings file)
      (fileImplementations parser fs settings file) := by
  refine EndsAs.require fun s hs hblank => ?_
  subst hs
  cases hnull : holdsNullAsSource settings (.text s) with
  | true =>
    obtain ⟨hpath, hsource⟩ := Bool.and_eq_true_iff.mp hnull
    exact result_bind_error (result_guardPath_error (load_error hpath hsource)) _
  | false =>
    obtain ⟨source, hload⟩ : ∃ source, (Source.load parser fs settings s).value = .ok source :=
      exists_load_ok hnull
    cases source with
    | none => exact endsAs_ok (result_bind_ok (result_guardPath_ok hload) _)
    | some source =>
      have hresult := fileImplementations_result hfs hblank hload
      rw [fileImplementations, result_require_bind hblank] at hresult
      exact endsAs_ok hresult

end Query

/-! ## The ends of commands -/

namespace Command

open Query

variable {fs : FileSystem} {parser : Parser} {settings : Settings}

/-- The words with which a command asks for its arguments. -/
def labels : Command → List String
  | findImplementations => ["root", "method name"]
  | findInterfaces => ["root", "method name"]
  | findFileInterfaces => ["file"]
  | findFileImplementations => ["file"]
  | analyzePackageInterfaces => ["package directory"]
  | findAllInterfaces => ["root"]

/-- Whether a command would ask the system for a path with a null character. A path that does not
end like that of a source is never asked for as a file. -/
def asksForNull (settings : Settings) : Command → List Value → Bool
  | findFileInterfaces, file :: _ => holdsNullAsSource settings file
  | findFileImplementations, file :: _ => holdsNullAsSource settings file
  | _, first :: _ => first.holdsNull
  | _, [] => false

lemma ofVerb?_verb (c : Command) : ofVerb? c.verb = some c := by
  cases c <;> decide

/-- A command that has a query ends as the query does. -/
lemma run_value {c : Command} {arguments : List Value} {x : Answer Json}
    (h : c.answer? parser fs settings arguments = some x) :
    (run parser fs settings c.verb arguments).value = (result x).mapError .query := by
  rw [run, ofVerb?_verb]
  dsimp only
  rw [h]
  rfl

/-- With as many arguments as it takes, a command has a query to answer it. -/
lemma exists_answer?_endsAs (hfs : fs.WellFormed) (c : Command) {arguments : List Value}
    (h : arguments.length = c.arguments.length) :
    ∃ x, c.answer? parser fs settings arguments = some x
      ∧ EndsAs (firstMissing? c.labels arguments) (c.asksForNull settings arguments) x := by
  match c, arguments, h with
  | findImplementations, [root, method], _ =>
    exact ⟨_, rfl, (implementations_endsAs hfs root method).map _⟩
  | findInterfaces, [root, method], _ =>
    exact ⟨_, rfl, (interfaces_endsAs hfs root method).map _⟩
  | findFileInterfaces, [file], _ => exact ⟨_, rfl, (fileInterfaces_endsAs file).map _⟩
  | findFileImplementations, [file], _ =>
    exact ⟨_, rfl, (fileImplementations_endsAs hfs file).map _⟩
  | analyzePackageInterfaces, [directory], _ =>
    exact ⟨_, rfl, (packageRelations_endsAs hfs directory).map _⟩
  | findAllInterfaces, [root], _ => exact ⟨_, rfl, (allInterfaces_endsAs hfs root).map _⟩

/-- **How commands end.** Given as many arguments as it takes, a command ends with a fault that
names the first argument that is no text or is blank. If there is none it ends with a payload, but
for a path with a null character, which is a fault of its own where the system would be asked for
it. -/
theorem run_endsAs (hfs : fs.WellFormed) (c : Command) {arguments : List Value}
    (h : arguments.length = c.arguments.length) :
    (∀ label, firstMissing? c.labels arguments = some label →
        (run parser fs settings c.verb arguments).value = .error (.query (.blank label))
          ∧ (QueryFault.blank label).message = label ++ " must be a non-empty string")
      ∧ (firstMissing? c.labels arguments = none → c.asksForNull settings arguments = true →
        (run parser fs settings c.verb arguments).value
          = .error (.query (.unusable .nullCharacter)))
      ∧ (firstMissing? c.labels arguments = none → c.asksForNull settings arguments = false →
        ∃ payload, (run parser fs settings c.verb arguments).value = .ok payload) := by
  obtain ⟨x, hx, hends⟩ := exists_answer?_endsAs hfs c h
  rw [run_value hx]
  refine ⟨fun label hlabel => ?_, fun hnone hnull => ?_, fun hnone hnull => ?_⟩
  · rw [hlabel] at hends
    exact ⟨by rw [show result x = _ from hends]; rfl, rfl⟩
  · rw [hnone, hnull] at hends
    rw [show result x = _ from hends]
    rfl
  · rw [hnone, hnull] at hends
    obtain ⟨payload, hpayload⟩ : ∃ payload, result x = .ok payload := hends
    exact ⟨payload, by rw [hpayload]; rfl⟩

/-- A root with a null character in it is neither blank nor a path, while the root of an empty file
system has a payload. -/
theorem run_endsAs_null :
    ({} : FileSystem).WellFormed
      ∧ (firstMissing? findAllInterfaces.labels [.text "a\x00b"] = none
        ∧ (run shapeParser {} {} "find-all-interfaces" [.text "a\x00b"]).value
          = .error (.query (.unusable .nullCharacter)))
      ∧ firstMissing? findAllInterfaces.labels [.text "."] = none
        ∧ ∃ payload,
          (run shapeParser {} {} "find-all-interfaces" [.text "."]).value = .ok payload := by
  have hends (path : String) := @run_endsAs {} shapeParser {} FileSystem.Proper.nil
    findAllInterfaces [.text path] rfl
  have hnull : firstMissing? findAllInterfaces.labels [.text "a\x00b"] = none := by decide
  have hroot : firstMissing? findAllInterfaces.labels [.text "."] = none := by decide
  exact ⟨FileSystem.Proper.nil, ⟨hnull, (hends "a\x00b").2.1 hnull (by decide)⟩, hroot,
    (hends ".").2.2 hroot (by decide)⟩

end Command

/-! ## What payloads take -/

namespace Query

variable {α β : Type}

/-- What comes after a required argument answers only if the argument is filled. -/
lemma isFilled_of_result_bind {label : String} {v : Value} {f : String → Answer α} {a : α}
    (h : result (require label v >>= f) = .ok a) :
    v.isFilled = true ∧ ∃ s, result (f s) = .ok a := by
  cases hfilled : v.isFilled with
  | false =>
    rw [result_bind_error (result_require_error hfilled label)] at h
    cases h
  | true =>
    obtain ⟨s, -, hs⟩ := Logged.exists_of_outcome_bind_ok h
    exact ⟨rfl, s, hs⟩

/-- What asks for one argument and has a value was given a text. -/
lemma isFilled_of_map_require {label : String} {v : Value} {g : String → Answer α} {f : α → β}
    {b : β} (h : result (f <$> (require label v >>= g)) = .ok b) : v.isFilled = true := by
  rw [result_map] at h
  obtain ⟨a, ha, -⟩ := Logged.exists_of_map_ok h
  exact (isFilled_of_result_bind ha).1

/-- What asks for two arguments and has a value was given two texts. -/
lemma isFilled_of_map_require_require {label label' : String} {v v' : Value}
    {g : String → String → Answer α} {f : α → β} {b : β}
    (h : result (f <$> (require label v >>= fun s => require label' v' >>= g s)) = .ok b) :
    v.isFilled = true ∧ v'.isFilled = true := by
  rw [result_map] at h
  obtain ⟨a, ha, -⟩ := Logged.exists_of_map_ok h
  obtain ⟨hv, s, hs⟩ := isFilled_of_result_bind ha
  exact ⟨hv, (isFilled_of_result_bind hs).1⟩

end Query

namespace Command

open Query

variable {fs : FileSystem} {parser : Parser} {settings : Settings} {arguments : List Value}
  {payload : Json}

/-- A query answers only if each of its arguments is filled. -/
lemma isFilled_of_answer? {c : Command} {x : Answer Json}
    (hx : c.answer? parser fs settings arguments = some x) (h : result x = .ok payload) :
    ∀ v ∈ arguments, v.isFilled = true := by
  unfold answer? at hx
  split at hx
  case h_7 => cases hx
  all_goals obtain rfl := Option.some.inj hx
  · simpa using isFilled_of_map_require_require h
  · simpa using isFilled_of_map_require_require h
  all_goals simpa using isFilled_of_map_require h

/-- A command that has a payload was given texts. -/
lemma isFilled_of_run {verb : String}
    (h : (run parser fs settings verb arguments).value = .ok payload) :
    ∀ v ∈ arguments, v.isFilled = true := by
  unfold run at h
  split at h
  · cases h
  · next c _ =>
    split at h
    · cases h
    · next x hx =>
      exact isFilled_of_answer? hx (Logged.of_mapError_ok h)

end Command

end InterfaceAtlas
