import InterfaceAtlas.Proofs.Files.Scan
import Mathlib.Logic.Function.Iterate

/-!
# Scans source by source

Whoever reads a scan asks for one source after the other. A search then goes on from where it stood
until it finds a file, and the file is loaded. If it does not count it is skipped and the search
goes on again; if it does, everything stops until the next source is asked for. `Search.next` is the
one part of this and `Search.resume` the other, with the counters that both of them raise.

What has still to come is a part of the scan (`Search.ahead`). A search takes the steps of it up to
the first file (`next_goesOn`), and a reader those up to the first source (`resume_reads`). So a
reader who has asked `n` times has taken the steps that it takes to get `n` sources, and the
counters are those of these steps (`Reading.after_run`).
-/

namespace InterfaceAtlas

/-! ## The steps that are taken -/

section TakeUntil

variable {α β : Type} {test : α → Bool} {n : Nat} {xs : List α}

/-- The steps that are taken are the first of all. -/
lemma isPrefix_takeUntil (test : α → Bool) (n : Nat) (xs : List α) :
    takeUntil test n xs <+: xs := by
  fun_induction takeUntil test n xs with
  | case1 xs => exact List.nil_prefix
  | case2 n => exact List.nil_prefix
  | case3 n a more ih => exact (List.prefix_cons_inj a).mpr ih

/-- The steps that it takes to get `n` things yield the first `n` of them. -/
lemma filterMap_takeUntil (f : α → Option β) (n : Nat) (xs : List α) :
    (takeUntil (fun a => (f a).isSome) n xs).filterMap f = (xs.filterMap f).take n := by
  fun_induction takeUntil (fun a => (f a).isSome) n xs with
  | case1 xs => rw [List.take_zero, List.filterMap_nil]
  | case2 n => rfl
  | case3 n a more ih =>
    cases hf : f a with
    | none =>
      rw [hf, Option.isSome_none, if_neg (by decide)] at ih
      rw [Option.isSome_none, if_neg (by decide), List.filterMap_cons_none hf,
        List.filterMap_cons_none hf, ih]
    | some b =>
      rw [hf, Option.isSome_some, if_pos rfl] at ih
      rw [Option.isSome_some, if_pos rfl, List.filterMap_cons_some hf,
        List.filterMap_cons_some hf, List.take_succ_cons, ih]

/-- Whoever wants more than there is takes all steps. -/
lemma takeUntil_eq_self (h : xs.countP test < n) : takeUntil test n xs = xs := by
  fun_induction takeUntil test n xs with
  | case1 xs => omega
  | case2 n => rfl
  | case3 n a more ih =>
    refine congrArg (a :: ·) (ih ?_)
    rw [List.countP_cons] at h
    by_cases ha : test a = true
    · rw [if_pos ha] at h ⊢
      omega
    · rw [if_neg ha] at h ⊢
      omega

/-- Whoever gets all that is wanted takes no step after the last of it. -/
lemma exists_takeUntil_eq_concat (hpos : 0 < n) (h : n ≤ xs.countP test) :
    ∃ front a, takeUntil test n xs = front ++ [a] ∧ test a = true := by
  fun_induction takeUntil test n xs with
  | case1 xs => omega
  | case2 n => simp at h
  | case3 n a more ih =>
    rw [List.countP_cons] at h
    by_cases ha : test a = true
    · rw [if_pos ha] at h ih ⊢
      cases n with
      | zero =>
        -- this is the last thing that is wanted, and no step is taken after it
        exact ⟨[], a, by rw [takeUntil]; rfl, ha⟩
      | succ n =>
        obtain ⟨front, b, hfront, hb⟩ := ih (by omega) (by omega)
        exact ⟨a :: front, b, by rw [hfront, List.cons_append], hb⟩
    · rw [if_neg ha] at h ih ⊢
      obtain ⟨front, b, hfront, hb⟩ := ih hpos h
      exact ⟨a :: front, b, by rw [hfront, List.cons_append], hb⟩

/-- Steps in front that yield nothing are all taken. -/
lemma takeUntil_append {front : List α} (hfront : ∀ a ∈ front, test a = false) (xs : List α) :
    takeUntil test (n + 1) (front ++ xs) = front ++ takeUntil test (n + 1) xs := by
  induction front with
  | nil => rfl
  | cons a more ih =>
    rw [List.forall_mem_cons] at hfront
    rw [List.cons_append, takeUntil, hfront.1, if_neg (by decide), ih hfront.2, List.cons_append]

/-- The first step is the only one if it yields something. -/
lemma takeUntil_one_cons {a : α} (ha : test a = true) (xs : List α) :
    takeUntil test 1 (a :: xs) = [a] := by
  rw [takeUntil, if_pos ha, takeUntil]

/-- Whoever wants one thing more goes on with the steps that are left. -/
lemma takeUntil_succ (rest : List α) (h : xs = takeUntil test n xs ++ rest) :
    takeUntil test (n + 1) xs = takeUntil test n xs ++ takeUntil test 1 rest := by
  fun_induction takeUntil test n xs with
  | case1 xs => rw [h, List.nil_append, List.nil_append]
  | case2 n =>
    rw [List.nil_append] at h
    rw [← h]
    rfl
  | case3 n a more ih =>
    rw [List.cons_append, List.cons.injEq, and_iff_right rfl] at h
    rw [takeUntil, List.cons_append, ← ih h]
    split <;> rfl

end TakeUntil


/-! ## The steps ahead -/

namespace FileSystem

variable {fs : FileSystem} {parser : Parser} {settings : Settings}

/-- The step of a scan with loading that a step of a scan is. -/
def loadStep (fs : FileSystem) (parser : Parser) (settings : Settings) : ScanStep → LoadStep
  | .found path => .loaded path (Source.load parser fs settings path)
  | other => .other other

/-- A scan with loading is a scan whose files are loaded. -/
lemma loads_eq (fs : FileSystem) (parser : Parser) (settings : Settings) (root : String)
    (recursive : Bool) :
    fs.loads parser settings root recursive
      = (fs.scan settings root recursive).map (fs.loadStep parser settings) := by
  rw [loads]
  refine List.map_congr_left fun step _ => ?_
  cases step <;> rfl

@[simp] lemma isFound_loadStep (step : ScanStep) :
    (fs.loadStep parser settings step).isFound = step.isFound := by
  cases step <;> rfl

@[simp] lemma isFallback_loadStep (step : ScanStep) :
    (fs.loadStep parser settings step).isFallback = step.isFallback := by
  cases step <;> rfl

end FileSystem

namespace ScanStep

/-- Whether a scan goes on after a step without having found a file. -/
def isPassing : ScanStep → Bool
  | found _ => false
  | broken => false
  | _ => true

variable {fs : FileSystem} {parser : Parser} {settings : Settings}

/-- A step that finds nothing yields no source. -/
lemma source?_loadStep_of_isPassing {step : ScanStep} (h : step.isPassing = true) :
    (fs.loadStep parser settings step).source? = none := by
  cases step <;> first | rfl | cases h

lemma isSkipped_loadStep_of_isPassing {step : ScanStep} (h : step.isPassing = true) :
    (fs.loadStep parser settings step).isSkipped = false := by
  cases step <;> first | rfl | cases h

end ScanStep

namespace ScanCounts

/-- The counters after some more steps of a scan. -/
def pastScan (c : ScanCounts) (steps : List ScanStep) : ScanCounts :=
  { c with
    seen := c.seen + steps.countP ScanStep.isFound
    fellBack := c.fellBack || steps.any ScanStep.isFallback }

/-- The counters after some more steps of a scan with loading. -/
def pastLoads (c : ScanCounts) (steps : List LoadStep) : ScanCounts :=
  { seen := c.seen + steps.countP LoadStep.isFound
    parsed := c.parsed + steps.countP LoadStep.isParsed
    skipped := c.skipped + steps.countP LoadStep.isSkipped
    fellBack := c.fellBack || steps.any LoadStep.isFallback }

lemma pastScan_nil (c : ScanCounts) : c.pastScan [] = c := by
  simp [pastScan]

/-- The counters are raised by one step after the other. -/
lemma pastScan_cons (c : ScanCounts) (step : ScanStep) (steps : List ScanStep) :
    c.pastScan (step :: steps) = (c.pastScan [step]).pastScan steps := by
  simp [pastScan, List.countP_cons, Bool.or_assoc]
  omega

lemma pastScan_found (c : ScanCounts) (path : String) :
    c.pastScan [.found path] = { c with seen := c.seen + 1 } := by
  simp [pastScan, ScanStep.isFound, ScanStep.path?, ScanStep.isFallback]

lemma pastScan_passedOver (c : ScanCounts) (path : String) : c.pastScan [.passedOver path] = c := by
  simp [pastScan, ScanStep.isFound, ScanStep.path?, ScanStep.isFallback]

/-- To fall back is marked, and no file is counted for it. -/
lemma pastScan_fellBack (c : ScanCounts) (root path : String) (reason : Refusal) :
    c.pastScan [.fellBack root path reason] = { c with fellBack := true } := by
  simp [pastScan, ScanStep.isFound, ScanStep.path?, ScanStep.isFallback]

lemma pastScan_unlistable (c : ScanCounts) (root : String) (reason : Refusal) :
    c.pastScan [.unlistable root reason] = c := by
  simp [pastScan, ScanStep.isFound, ScanStep.path?, ScanStep.isFallback]

/-- The counters are raised by one step after the other. -/
lemma pastLoads_append (c : ScanCounts) (front back : List LoadStep) :
    c.pastLoads (front ++ back) = (c.pastLoads front).pastLoads back := by
  simp [pastLoads, Nat.add_assoc, Bool.or_assoc]

/-- Counters that start from nothing are those of the steps. -/
lemma pastLoads_default (steps : List LoadStep) :
    ScanCounts.pastLoads {} steps = .ofLoads steps := by
  simp [pastLoads, ofLoads]

end ScanCounts

/-! ## Searches -/

/-- Where a search for the source files under a root stands. -/
inductive Search.Stage where
  /-- Nothing has been looked at. -/
  | fresh
  /-- The walk has found some files, and goes on with some steps. -/
  | walking (walked : List String) (steps : List WalkStep)
  /-- Some files in the root itself are left, apart from those that the walk has found. -/
  | listing (walked paths : List String)
  | ended
deriving DecidableEq, Repr, Inhabited

/-- A search, as it stands between one file and the next. -/
structure Search where
  stage : Search.Stage := .fresh
  counts : ScanCounts := {}
deriving DecidableEq, Repr, Inhabited

namespace Search

/-- A search that goes on with files in the root itself. -/
def nextListed (counts : ScanCounts) (walked : List String) :
    List String → Except UnusablePath (Option String) × Search
  | [] => (.ok none, ⟨.ended, counts⟩)
  | path :: more =>
    if walked.contains path then nextListed counts walked more
    else (.ok (some path), ⟨.listing walked more, { counts with seen := counts.seen + 1 }⟩)

variable (fs : FileSystem) (parser : Parser) (settings : Settings) (root : String)
  (recursive : Bool)

/-- A search that begins to look at the root itself. -/
def beginListing (counts : ScanCounts) (walked : List String) :
    Except UnusablePath (Option String) × Search :=
  match fs.flatFiles settings root with
  | .ok paths => nextListed counts walked paths
  | .error (.refused _) => (.ok none, ⟨.ended, counts⟩)
  | .error .unusable => (.error .nullCharacter, ⟨.ended, counts⟩)

/-- A search that goes on with steps of a walk, and looks at the root itself when one has failed. -/
def nextWalked (counts : ScanCounts) (walked : List String) :
    List WalkStep → Except UnusablePath (Option String) × Search
  | [] => (.ok none, ⟨.ended, counts⟩)
  | .file path :: more =>
    (.ok (some path),
      ⟨.walking (walked ++ [path]) more, { counts with seen := counts.seen + 1 }⟩)
  | .passedOver _ :: more => nextWalked counts walked more
  | .failed _ (.refused _) :: _ =>
    beginListing fs settings root { counts with fellBack := true } walked
  | .failed _ .unusable :: _ => (.error .nullCharacter, ⟨.ended, counts⟩)

/-- A search goes on until it finds a file, or ends. -/
def next (s : Search) : Except UnusablePath (Option String) × Search :=
  match s.stage with
  | .fresh =>
    if fs.isFile root then
      if settings.isCandidate (Path.baseName root) then
        (.ok (some root), ⟨.ended, { s.counts with seen := s.counts.seen + 1 }⟩)
      else (.ok none, ⟨.ended, s.counts⟩)
    else if recursive then nextWalked fs settings root s.counts [] (fs.walk settings root)
    else beginListing fs settings root s.counts []
  | .walking walked steps => nextWalked fs settings root s.counts walked steps
  | .listing walked paths => nextListed s.counts walked paths
  | .ended => (.ok none, s)

/-- The steps of a scan that the steps of its walk lead to, when some files have been found. -/
def walkAhead (walked : List String) : List WalkStep → List ScanStep
  | [] => []
  | .file path :: more => .found path :: walkAhead (walked ++ [path]) more
  | .passedOver path :: more => .passedOver path :: walkAhead walked more
  | .failed path (.refused reason) :: _ =>
    .fellBack root path reason :: fs.flatScan settings root walked
  | .failed _ .unusable :: _ => [.broken]

/-- The steps of a scan that a search has still to take. -/
def ahead (s : Search) : List ScanStep :=
  match s.stage with
  | .fresh => fs.scan settings root recursive
  | .walking walked steps => walkAhead fs settings root walked steps
  | .listing walked paths => (paths.filter fun path => !walked.contains path).map .found
  | .ended => []

/-- What comes of a search that goes on with some steps ahead of it: it takes those up to the first
that finds a file or breaks everything off, or else all. -/
inductive GoesOn (counts : ScanCounts) (steps : List ScanStep) :
    Except UnusablePath (Option String) → ScanCounts → List ScanStep → Prop where
  | found {front back : List ScanStep} {path : String}
      (hsteps : steps = front ++ .found path :: back)
      (hfront : ∀ step ∈ front, step.isPassing = true) :
      GoesOn counts steps (.ok (some path)) (counts.pastScan (front ++ [.found path])) back
  | ended (hsteps : ∀ step ∈ steps, step.isPassing = true) :
      GoesOn counts steps (.ok none) (counts.pastScan steps) []
  | broken {front back : List ScanStep} (hsteps : steps = front ++ .broken :: back)
      (hfront : ∀ step ∈ front, step.isPassing = true) :
      GoesOn counts steps (.error .nullCharacter) (counts.pastScan front) []

namespace GoesOn

variable {counts counts' : ScanCounts} {step : ScanStep} {steps rest : List ScanStep}
  {result : Except UnusablePath (Option String)}

lemma of_nil (counts : ScanCounts) : GoesOn counts [] (.ok none) counts [] := by
  have h : GoesOn counts [] (.ok none) (counts.pastScan []) [] :=
    .ended (List.forall_mem_nil _)
  rwa [ScanCounts.pastScan_nil] at h

lemma of_found (counts : ScanCounts) (path : String) (steps : List ScanStep) :
    GoesOn counts (.found path :: steps) (.ok (some path))
      { counts with seen := counts.seen + 1 } steps := by
  rw [← ScanCounts.pastScan_found counts path]
  exact .found (List.nil_append _).symm (List.forall_mem_nil _)

/-- A fault that comes first breaks everything off. -/
lemma of_broken (counts : ScanCounts) (steps : List ScanStep) :
    GoesOn counts (.broken :: steps) (.error .nullCharacter) counts [] := by
  have h : GoesOn counts (.broken :: steps) (.error .nullCharacter) (counts.pastScan []) [] :=
    .broken (List.nil_append _).symm (List.forall_mem_nil _)
  rwa [ScanCounts.pastScan_nil] at h

/-- A step that finds nothing is taken first. -/
lemma cons (hstep : step.isPassing = true)
    (h : GoesOn (counts.pastScan [step]) steps result counts' rest) :
    GoesOn counts (step :: steps) result counts' rest := by
  cases h with
  | found hsteps hfront =>
    rw [← ScanCounts.pastScan_cons, ← List.cons_append]
    exact .found (congrArg (step :: ·) hsteps) (List.forall_mem_cons.mpr ⟨hstep, hfront⟩)
  | ended hsteps =>
    rw [← ScanCounts.pastScan_cons]
    exact .ended (List.forall_mem_cons.mpr ⟨hstep, hsteps⟩)
  | broken hsteps hfront =>
    rw [← ScanCounts.pastScan_cons]
    exact .broken (congrArg (step :: ·) hsteps) (List.forall_mem_cons.mpr ⟨hstep, hfront⟩)

end GoesOn

variable {fs parser settings root recursive}

/-- A search among the files in the root itself. -/
lemma nextListed_goesOn (counts : ScanCounts) (walked paths : List String) :
    GoesOn counts ((paths.filter fun path => !walked.contains path).map .found)
      (nextListed counts walked paths).1 (nextListed counts walked paths).2.counts
      ((nextListed counts walked paths).2.ahead fs settings root recursive) := by
  fun_induction nextListed counts walked paths with
  | case1 => exact .of_nil counts
  | case2 path more hwalked ih =>
    rwa [List.filter_cons_of_neg (by simpa using hwalked)]
  | case3 path more hwalked =>
    rw [List.filter_cons_of_pos (by simpa using hwalked)]
    exact .of_found counts path _

/-- A search that begins to look at the root itself. -/
lemma beginListing_goesOn (counts : ScanCounts) (walked : List String) :
    GoesOn counts (fs.flatScan settings root walked) (beginListing fs settings root counts walked).1
      (beginListing fs settings root counts walked).2.counts
      ((beginListing fs settings root counts walked).2.ahead fs settings root recursive) := by
  rw [FileSystem.flatScan]
  fun_cases beginListing fs settings root counts walked with
  | case1 paths hfiles =>
    rw [hfiles]
    exact nextListed_goesOn counts walked paths
  | case2 reason hfiles =>
    rw [hfiles]
    exact .cons rfl (by rw [ScanCounts.pastScan_unlistable]; exact .of_nil counts)
  | case3 hfiles =>
    rw [hfiles]
    exact .of_broken counts []

/-- A search in a walk. The induction is on the steps of the walk; one that fails leads over to the
root itself. -/
lemma nextWalked_goesOn (counts : ScanCounts) (walked : List String) (steps : List WalkStep) :
    GoesOn counts (walkAhead fs settings root walked steps)
      (nextWalked fs settings root counts walked steps).1
      (nextWalked fs settings root counts walked steps).2.counts
      ((nextWalked fs settings root counts walked steps).2.ahead fs settings root recursive) := by
  fun_induction nextWalked fs settings root counts walked steps with
  | case1 => exact .of_nil counts
  | case2 path more => exact .of_found counts path _
  | case3 path more ih => exact .cons rfl (by rwa [ScanCounts.pastScan_passedOver])
  | case4 path reason more =>
    refine .cons rfl ?_
    rw [ScanCounts.pastScan_fellBack]
    exact beginListing_goesOn _ walked
  | case5 path more => exact .of_broken counts []

/-- A scan from the steps of its walk, when some files have been found. -/
def completed (fs : FileSystem) (settings : Settings) (root : String) (walked : List String)
    (steps : List ScanStep) : List ScanStep :=
  if steps.any ScanStep.isFallback then
    steps ++ fs.flatScan settings root (walked ++ steps.filterMap ScanStep.path?)
  else steps

/-- A step that is no failure comes first, and the file that it finds is found before the others. -/
lemma completed_cons {walked : List String} {step : ScanStep} {steps : List ScanStep}
    (hstep : step.isFallback = false) :
    completed fs settings root walked (step :: steps)
      = step :: completed fs settings root (walked ++ step.path?.toList) steps := by
  have hpaths : walked ++ (step :: steps).filterMap ScanStep.path?
      = walked ++ step.path?.toList ++ steps.filterMap ScanStep.path? := by
    rw [List.append_assoc, List.filterMap_cons]
    cases step.path? <;> rfl
  rw [completed, completed, List.any_cons, hstep, Bool.false_or, hpaths]
  split <;> rfl

/-- The steps of a walk up to its failure lead to those of a whole scan. -/
lemma walkAhead_takeThrough (walked : List String) (steps : List WalkStep) :
    walkAhead fs settings root walked (takeThrough WalkStep.isFailure steps)
      = completed fs settings root walked
          ((takeThrough WalkStep.isFailure steps).map (FileSystem.scanStep root)) := by
  induction steps generalizing walked with
  | nil => rfl
  | cons step more ih =>
    cases step with
    | file path =>
      show .found path :: walkAhead fs settings root _ (takeThrough WalkStep.isFailure more)
        = completed fs settings root walked (.found path :: List.map _ _)
      rw [ih, completed_cons rfl]
      rfl
    | passedOver path =>
      show .passedOver path :: walkAhead fs settings root _ (takeThrough WalkStep.isFailure more)
        = completed fs settings root walked (.passedOver path :: List.map _ _)
      rw [ih, completed_cons rfl]
      exact congrArg (fun found => _ :: completed fs settings root found _)
        (List.append_nil walked).symm
    | failed path fault =>
      cases fault with
      | refused reason =>
        show .fellBack root path reason :: fs.flatScan settings root walked
          = .fellBack root path reason :: fs.flatScan settings root (walked ++ [])
        rw [List.append_nil]
      | unusable => rfl

/-- The scan of a directory is what its walk leads to. -/
lemma scan_eq_walkAhead (hfile : fs.isFile root = false) :
    fs.scan settings root true = walkAhead fs settings root [] (fs.walk settings root) := by
  have hwalk : ∃ steps, fs.walk settings root = takeThrough WalkStep.isFailure steps := by
    rw [FileSystem.walk]
    split
    · next fault _ => exact ⟨[.failed root fault], rfl⟩
    · exact ⟨_, rfl⟩
  obtain ⟨steps, hsteps⟩ := hwalk
  rw [FileSystem.scan, hfile, if_neg (by decide), if_pos rfl, hsteps, walkAhead_takeThrough]
  rfl

/-- **Searches.** A search takes the steps of the scan that are ahead of it, up to the first that
finds a file. -/
theorem next_goesOn (fs : FileSystem) (settings : Settings) (root : String) (recursive : Bool)
    (s : Search) :
    GoesOn s.counts (s.ahead fs settings root recursive) (s.next fs settings root recursive).1
      (s.next fs settings root recursive).2.counts
      ((s.next fs settings root recursive).2.ahead fs settings root recursive) := by
  obtain ⟨stage, counts⟩ := s
  cases stage with
  | fresh =>
    cases hfile : fs.isFile root with
    | true =>
      simp only [ahead, next, FileSystem.scan, hfile, if_true]
      cases hcand : settings.isCandidate (Path.baseName root) with
      | true => exact .of_found counts root []
      | false => exact .of_nil counts
    | false =>
      cases recursive with
      | true =>
        have hnext : next fs settings root true ⟨.fresh, counts⟩
            = nextWalked fs settings root counts [] (fs.walk settings root) := by
          simp [next, hfile]
        rw [hnext, ahead, scan_eq_walkAhead hfile]
        exact nextWalked_goesOn counts [] _
      | false =>
        have hnext : next fs settings root false ⟨.fresh, counts⟩
            = beginListing fs settings root counts [] := by
          simp [next, hfile]
        rw [hnext, ahead, FileSystem.scan, hfile, if_neg (by decide), if_neg (by decide)]
        exact beginListing_goesOn counts []
  | walking walked steps => exact nextWalked_goesOn counts walked steps
  | listing walked paths => exact nextListed_goesOn counts walked paths
  | ended => exact .of_nil counts

section Next

variable {s later : Search} {path : String}

/-- A search that finds a file has passed by the steps in front of it. -/
lemma exists_of_next_found (h : s.next fs settings root recursive = (.ok (some path), later)) :
    ∃ front, s.ahead fs settings root recursive
        = front ++ .found path :: later.ahead fs settings root recursive
      ∧ (∀ step ∈ front, step.isPassing = true)
      ∧ later.counts = s.counts.pastScan (front ++ [.found path]) := by
  have hgoes := next_goesOn fs settings root recursive s
  rw [h] at hgoes
  generalize later.ahead fs settings root recursive = rest at hgoes ⊢
  generalize later.counts = counts at hgoes ⊢
  cases hgoes with
  | found hsteps hfront => exact ⟨_, hsteps, hfront, rfl⟩

/-- A search that ends has passed by all steps. -/
lemma of_next_none (h : s.next fs settings root recursive = (.ok none, later)) :
    (∀ step ∈ s.ahead fs settings root recursive, step.isPassing = true)
      ∧ later.counts = s.counts.pastScan (s.ahead fs settings root recursive)
      ∧ later.ahead fs settings root recursive = [] := by
  have hgoes := next_goesOn fs settings root recursive s
  rw [h] at hgoes
  generalize later.ahead fs settings root recursive = rest at hgoes ⊢
  generalize later.counts = counts at hgoes ⊢
  cases hgoes with
  | ended hsteps => exact ⟨hsteps, rfl, rfl⟩

/-- Only a root that is no path breaks a search off. -/
lemma broken_mem_ahead {fault : UnusablePath}
    (h : s.next fs settings root recursive = (.error fault, later)) :
    .broken ∈ s.ahead fs settings root recursive := by
  have hgoes := next_goesOn fs settings root recursive s
  rw [h] at hgoes
  generalize later.ahead fs settings root recursive = rest at hgoes
  generalize later.counts = counts at hgoes
  cases hgoes with
  | broken hsteps hfront =>
    rw [hsteps]
    exact List.mem_append_cons_self

end Next

/-! ## Readers -/

/-- Each file that is found leaves fewer steps ahead, so a reader comes to an end. -/
lemma length_ahead_lt {s later : Search} {path : String}
    (h : s.next fs settings root recursive = (.ok (some path), later)) :
    (later.ahead fs settings root recursive).length
      < (s.ahead fs settings root recursive).length := by
  obtain ⟨front, hsteps, -, -⟩ := exists_of_next_found h
  rw [hsteps, List.length_append, List.length_cons]
  omega

variable (fs parser settings root recursive) in
/-- A reader goes on with a search until a file that it finds is a source. -/
def resume (s : Search) : Except UnusablePath (Option Source) × Search :=
  match _hnext : s.next fs settings root recursive with
  | (.error fault, later) => (.error fault, later)
  | (.ok none, later) => (.ok none, later)
  | (.ok (some path), ⟨stage, counts⟩) =>
    match (Source.load parser fs settings path).value with
    | .error fault => (.error fault, ⟨.ended, counts⟩)
    | .ok none => resume ⟨stage, { counts with skipped := counts.skipped + 1 }⟩
    | .ok (some source) =>
      (.ok (some source), ⟨stage, { counts with parsed := counts.parsed + 1 }⟩)
termination_by (s.ahead fs settings root recursive).length
decreasing_by exact (length_ahead_lt _hnext :)

section Loads

variable {front : List ScanStep} {path : String}

/-- The counters of the steps of a scan, when the files that they find are loaded. -/
lemma pastLoads_map (counts : ScanCounts) (steps : List ScanStep) :
    counts.pastLoads (steps.map (fs.loadStep parser settings))
      = { counts.pastScan steps with
          parsed := counts.parsed
            + (steps.map (fs.loadStep parser settings)).countP LoadStep.isParsed
          skipped := counts.skipped
            + (steps.map (fs.loadStep parser settings)).countP LoadStep.isSkipped } := by
  have hfound : LoadStep.isFound ∘ fs.loadStep parser settings = ScanStep.isFound :=
    funext FileSystem.isFound_loadStep
  have hfallback : LoadStep.isFallback ∘ fs.loadStep parser settings = ScanStep.isFallback :=
    funext FileSystem.isFallback_loadStep
  rw [ScanCounts.pastLoads, ScanCounts.pastScan, List.any_map, hfallback, List.countP_map, hfound]

lemma not_isParsed_of_isPassing (hfront : ∀ step ∈ front, step.isPassing = true) :
    ∀ step ∈ front.map (fs.loadStep parser settings), step.isParsed = false := by
  rw [List.forall_mem_map]
  intro step hstep
  rw [LoadStep.isParsed, ScanStep.source?_loadStep_of_isPassing (hfront step hstep)]
  rfl

/-- Steps that find nothing yield no sources to count. -/
lemma countP_isParsed_of_isPassing (hfront : ∀ step ∈ front, step.isPassing = true) :
    (front.map (fs.loadStep parser settings)).countP LoadStep.isParsed = 0 := by
  rw [List.countP_eq_zero]
  exact fun step hstep => Bool.eq_false_iff.mp (not_isParsed_of_isPassing hfront step hstep)

/-- Steps that find nothing skip no files. -/
lemma countP_isSkipped_of_isPassing (hfront : ∀ step ∈ front, step.isPassing = true) :
    (front.map (fs.loadStep parser settings)).countP LoadStep.isSkipped = 0 := by
  rw [List.countP_eq_zero, List.forall_mem_map]
  exact fun step hstep =>
    Bool.eq_false_iff.mp (ScanStep.isSkipped_loadStep_of_isPassing (hfront step hstep))

lemma filterMap_source?_of_isPassing (hfront : ∀ step ∈ front, step.isPassing = true) :
    (front.map (fs.loadStep parser settings)).filterMap LoadStep.source? = [] := by
  rw [List.filterMap_eq_nil_iff, List.forall_mem_map]
  exact fun step hstep => ScanStep.source?_loadStep_of_isPassing (hfront step hstep)

/-- Where no file is found the counters of both scans agree. -/
lemma pastLoads_passing (hfront : ∀ step ∈ front, step.isPassing = true) (counts : ScanCounts) :
    counts.pastLoads (front.map (fs.loadStep parser settings)) = counts.pastScan front := by
  rw [pastLoads_map, countP_isParsed_of_isPassing hfront, countP_isSkipped_of_isPassing hfront]
  rfl

/-- The counters of steps of which the last finds a file. -/
lemma pastLoads_found (hfront : ∀ step ∈ front, step.isPassing = true)
    {counts later : ScanCounts} (hlater : later = counts.pastScan (front ++ [.found path])) :
    counts.pastLoads ((front ++ [ScanStep.found path]).map (fs.loadStep parser settings))
      = { later with
          parsed := later.parsed
            + [fs.loadStep parser settings (.found path)].countP LoadStep.isParsed
          skipped := later.skipped
            + [fs.loadStep parser settings (.found path)].countP LoadStep.isSkipped } := by
  rw [hlater, pastLoads_map, List.map_append, List.countP_append, List.countP_append,
    countP_isParsed_of_isPassing hfront, countP_isSkipped_of_isPassing hfront, Nat.zero_add,
    Nat.zero_add]
  rfl

/-- The counters when the file that is found at last does not count. -/
lemma pastLoads_skipped (hfront : ∀ step ∈ front, step.isPassing = true)
    (hload : (Source.load parser fs settings path).value = .ok none) {counts later : ScanCounts}
    (hlater : later = counts.pastScan (front ++ [.found path])) :
    counts.pastLoads ((front ++ [ScanStep.found path]).map (fs.loadStep parser settings))
      = { later with skipped := later.skipped + 1 } := by
  rw [pastLoads_found hfront hlater]
  simp [FileSystem.loadStep, LoadStep.isParsed, LoadStep.isSkipped, LoadStep.source?, hload]

/-- The counters when the file that is found at last is a source. -/
lemma pastLoads_parsed (hfront : ∀ step ∈ front, step.isPassing = true) {source : Source}
    (hload : (Source.load parser fs settings path).value = .ok (some source))
    {counts later : ScanCounts} (hlater : later = counts.pastScan (front ++ [.found path])) :
    counts.pastLoads ((front ++ [ScanStep.found path]).map (fs.loadStep parser settings))
      = { later with parsed := later.parsed + 1 } := by
  rw [pastLoads_found hfront hlater]
  simp [FileSystem.loadStep, LoadStep.isParsed, LoadStep.isSkipped, LoadStep.source?, hload]

end Loads

variable (fs parser settings root recursive) in
/-- The steps that a reader takes to get one more source. -/
def takenNext (s : Search) : List LoadStep :=
  takeUntil LoadStep.isParsed 1
    ((s.ahead fs settings root recursive).map (fs.loadStep parser settings))

variable (fs parser settings root recursive) in
/-- A reader who asks for one more source gets the one that the steps ahead lead to first. The
counters are raised by those of the steps that this takes, and the others stay ahead. -/
structure Reads (s : Search) (p : Except UnusablePath (Option Source) × Search) : Prop where
  result_eq :
    p.1 = .ok ((s.takenNext fs parser settings root recursive).filterMap LoadStep.source?).head?
  counts_eq : p.2.counts = s.counts.pastLoads (s.takenNext fs parser settings root recursive)
  ahead_eq : (s.ahead fs settings root recursive).map (fs.loadStep parser settings)
    = s.takenNext fs parser settings root recursive
      ++ (p.2.ahead fs settings root recursive).map (fs.loadStep parser settings)

namespace Reads

variable {s : Search} {stage : Stage} {counts : ScanCounts} {path : String}

/-- Nothing is found any more. -/
lemma of_ended {later : Search} (hnext : s.next fs settings root recursive = (.ok none, later)) :
    Reads fs parser settings root recursive s (.ok none, later) := by
  obtain ⟨hsteps, hcounts, hahead⟩ := of_next_none hnext
  have htaken : s.takenNext fs parser settings root recursive
      = (s.ahead fs settings root recursive).map (fs.loadStep parser settings) := by
    refine takeUntil_eq_self ?_
    rw [countP_isParsed_of_isPassing hsteps]
    exact Nat.one_pos
  constructor
  case result_eq =>
    rw [htaken, filterMap_source?_of_isPassing hsteps]
    rfl
  case counts_eq => rw [htaken, pastLoads_passing hsteps, hcounts]
  case ahead_eq => rw [htaken, hahead, List.map_nil, List.append_nil]

/-- The file that is found first is a source. -/
lemma of_parsed {source : Source}
    (hnext : s.next fs settings root recursive = (.ok (some path), ⟨stage, counts⟩))
    (hload : (Source.load parser fs settings path).value = .ok (some source)) :
    Reads fs parser settings root recursive s
      (.ok (some source), ⟨stage, { counts with parsed := counts.parsed + 1 }⟩) := by
  obtain ⟨front, hsteps, hfront, hcounts⟩ := exists_of_next_found hnext
  have hsplit : (s.ahead fs settings root recursive).map (fs.loadStep parser settings)
      = front.map (fs.loadStep parser settings) ++ fs.loadStep parser settings (.found path)
        :: (ahead fs settings root recursive ⟨stage, counts⟩).map
          (fs.loadStep parser settings) := by
    rw [hsteps, List.map_append, List.map_cons]
  have hsource : (fs.loadStep parser settings (.found path)).source? = some source := by
    rw [FileSystem.loadStep, LoadStep.source?, hload]
  have htaken : s.takenNext fs parser settings root recursive
      = (front ++ [ScanStep.found path]).map (fs.loadStep parser settings) := by
    rw [takenNext, hsplit, takeUntil_append (not_isParsed_of_isPassing hfront),
      takeUntil_one_cons (by rw [LoadStep.isParsed, hsource]; rfl), List.map_append]
    rfl
  constructor
  case result_eq =>
    rw [htaken, List.map_append, List.filterMap_append, filterMap_source?_of_isPassing hfront,
      List.map_singleton, List.filterMap_cons_some hsource]
    rfl
  case counts_eq => rw [htaken, pastLoads_parsed hfront hload hcounts]
  case ahead_eq => rw [htaken, hsplit, List.map_append, List.append_assoc]; rfl

/-- The file that is found first does not count. -/
lemma of_skipped {p : Except UnusablePath (Option Source) × Search}
    (hnext : s.next fs settings root recursive = (.ok (some path), ⟨stage, counts⟩))
    (hload : (Source.load parser fs settings path).value = .ok none)
    (h : Reads fs parser settings root recursive
      ⟨stage, { counts with skipped := counts.skipped + 1 }⟩ p) :
    Reads fs parser settings root recursive s p := by
  obtain ⟨front, hsteps, hfront, hcounts⟩ := exists_of_next_found hnext
  have hsplit : (s.ahead fs settings root recursive).map (fs.loadStep parser settings)
      = (front ++ [ScanStep.found path]).map (fs.loadStep parser settings)
        ++ (ahead fs settings root recursive ⟨stage, counts⟩).map
          (fs.loadStep parser settings) := by
    rw [hsteps, ← List.map_append, List.append_assoc]
    rfl
  have hnone : ∀ step ∈ (front ++ [ScanStep.found path]).map (fs.loadStep parser settings),
      step.source? = none := by
    rw [List.forall_mem_map, List.forall_mem_append, List.forall_mem_singleton]
    refine ⟨fun step hstep => ScanStep.source?_loadStep_of_isPassing (hfront step hstep), ?_⟩
    rw [FileSystem.loadStep, LoadStep.source?, hload]
  have htaken : s.takenNext fs parser settings root recursive
      = (front ++ [ScanStep.found path]).map (fs.loadStep parser settings)
        ++ takenNext fs parser settings root recursive ⟨stage, counts⟩ := by
    rw [takenNext, hsplit, takeUntil_append fun step hstep => by
      rw [LoadStep.isParsed, hnone step hstep]; rfl]
    rfl
  constructor
  case result_eq =>
    rw [htaken, List.filterMap_append, List.filterMap_eq_nil_iff.mpr hnone]
    exact h.result_eq
  case counts_eq =>
    rw [htaken, ScanCounts.pastLoads_append, pastLoads_skipped hfront hload hcounts]
    exact h.counts_eq
  case ahead_eq =>
    rw [htaken, hsplit, List.append_assoc]
    exact congrArg _ h.ahead_eq

end Reads

/-- **Readers.** A reader who asks for one more source takes the steps ahead up to the one that
yields it, if no fault comes first. -/
theorem resume_reads (s : Search)
    (hfault : ∀ step ∈ s.ahead fs settings root recursive,
      (fs.loadStep parser settings step).fault? = none) :
    Reads fs parser settings root recursive s (s.resume fs parser settings root recursive) := by
  fun_induction resume fs parser settings root recursive s with
  | case1 s fault later hnext =>
    exact absurd (hfault _ (broken_mem_ahead hnext)) (Option.some_ne_none _)
  | case2 s later hnext => exact .of_ended hnext
  | case3 s path stage counts hnext fault hload =>
    obtain ⟨front, hsteps, -, -⟩ := exists_of_next_found hnext
    have hnone := hfault (.found path) (hsteps ▸ List.mem_append_cons_self)
    rw [FileSystem.loadStep, LoadStep.fault?, hload] at hnone
    exact absurd hnone (Option.some_ne_none fault)
  | case4 s path stage counts hnext hload ih =>
    refine .of_skipped hnext hload (ih fun step hstep => hfault step ?_)
    obtain ⟨front, hsteps, -, -⟩ := exists_of_next_found hnext
    rw [hsteps]
    exact List.mem_append_right _ (List.mem_cons_of_mem _ hstep)
  | case5 s path stage counts hnext source hload => exact .of_parsed hnext hload

end Search

/-! ## What a reader has got -/

namespace FileSystem

variable {fs : FileSystem} {parser : Parser} {settings : Settings} {root : String}
  {recursive : Bool}

/-- The steps that a scan takes to get `n` sources. -/
def taken (fs : FileSystem) (parser : Parser) (settings : Settings) (root : String)
    (recursive : Bool) (n : Nat) : List LoadStep :=
  takeUntil LoadStep.isParsed n (fs.loads parser settings root recursive)

/-- The steps that are taken are the first of the scan. -/
lemma isPrefix_taken (fs : FileSystem) (parser : Parser) (settings : Settings) (root : String)
    (recursive : Bool) (n : Nat) :
    fs.taken parser settings root recursive n <+: fs.loads parser settings root recursive :=
  isPrefix_takeUntil _ _ _

/-- The first sources of a scan do not depend on whether it is read any further. -/
lemma filterMap_source?_taken (fs : FileSystem) (parser : Parser) (settings : Settings)
    (root : String) (recursive : Bool) (n : Nat) :
    (fs.taken parser settings root recursive n).filterMap LoadStep.source?
      = (fs.sources parser settings root recursive).take n :=
  filterMap_takeUntil LoadStep.source? n _

end FileSystem

/-- A search for the sources under a root, and those that it has led to. -/
structure Reading where
  search : Search := {}
  given : List Source := []

namespace Reading

variable (fs : FileSystem) (parser : Parser) (settings : Settings) (root : String)
  (recursive : Bool)

/-- One more source is asked for. -/
def ask (r : Reading) : Reading :=
  match r.search.resume fs parser settings root recursive with
  | (.ok (some source), search) => ⟨search, r.given ++ [source]⟩
  | (_, search) => ⟨search, r.given⟩

/-- A reading in which so many sources were asked for. -/
def after (n : Nat) : Reading := (ask fs parser settings root recursive)^[n] {}

/-- The steps of the scan that a reading has still to take. -/
def ahead (r : Reading) : List LoadStep :=
  (r.search.ahead fs settings root recursive).map (fs.loadStep parser settings)

variable {fs parser settings root recursive}

/-- To ask for one more source takes the steps ahead up to the one that yields it. -/
theorem ask_step (r : Reading)
    (hfault : ∀ step ∈ r.ahead fs parser settings root recursive, step.fault? = none) :
    (r.ask fs parser settings root recursive).given = r.given
        ++ (r.search.takenNext fs parser settings root recursive).filterMap LoadStep.source?
      ∧ (r.ask fs parser settings root recursive).search.counts = r.search.counts.pastLoads
          (r.search.takenNext fs parser settings root recursive)
      ∧ r.ahead fs parser settings root recursive
        = r.search.takenNext fs parser settings root recursive
          ++ (r.ask fs parser settings root recursive).ahead fs parser settings root recursive := by
  obtain ⟨hresult, hcounts, hahead⟩ := Search.resume_reads r.search (List.forall_mem_map.mp hfault)
  -- at most one source is among the steps that are taken, so the first of them is all
  have hgiven : (r.search.takenNext fs parser settings root recursive).filterMap LoadStep.source?
      = ((r.search.takenNext fs parser settings root recursive).filterMap
          LoadStep.source?).head?.toList := by
    rw [← List.take_one, Search.takenNext]
    exact ((congrArg (List.take 1) (filterMap_takeUntil LoadStep.source? 1 _)).trans
      (List.take_take.trans (filterMap_takeUntil LoadStep.source? 1 _).symm)).symm
  have hask : r.ask fs parser settings root recursive
      = ⟨(r.search.resume fs parser settings root recursive).2, r.given
        ++ (r.search.takenNext fs parser settings root recursive).filterMap LoadStep.source?⟩ := by
    rw [ask, hgiven]
    cases hresume : r.search.resume fs parser settings root recursive with
    | mk result later =>
      rw [hresume] at hresult
      obtain rfl : result = _ := hresult
      cases ((r.search.takenNext fs parser settings root recursive).filterMap
          LoadStep.source?).head? with
      | none => rw [Option.toList_none, List.append_nil]
      | some source => rfl
  rw [hask]
  exact ⟨rfl, hcounts, hahead⟩

/-- **Readings.** A reader who has asked `n` times has got the first `n` sources, has taken the
steps that it takes to get them, and has counted these steps. -/
theorem after_run (hfault : fs.scanFault? parser settings root recursive = none) (n : Nat) :
    (after fs parser settings root recursive n).given
        = (fs.sources parser settings root recursive).take n
      ∧ (after fs parser settings root recursive n).search.counts
        = .ofLoads (fs.taken parser settings root recursive n)
      ∧ fs.loads parser settings root recursive
        = fs.taken parser settings root recursive n
          ++ (after fs parser settings root recursive n).ahead fs parser settings root
            recursive := by
  induction n with
  | zero =>
    rw [FileSystem.taken, takeUntil]
    exact ⟨rfl, rfl, fs.loads_eq parser settings root recursive⟩
  | succ n ih =>
    obtain ⟨hgiven, hcounts, hahead⟩ := ih
    have hask : after fs parser settings root recursive (n + 1)
        = (after fs parser settings root recursive n).ask fs parser settings root recursive :=
      Function.iterate_succ_apply' _ _ _
    have hnone : ∀ step ∈ (after fs parser settings root recursive n).ahead fs parser settings root
        recursive, step.fault? = none := by
      intro step hstep
      refine List.findSome?_eq_none_iff.mp hfault step ?_
      rw [hahead]
      exact List.mem_append_right _ hstep
    have htaken : fs.taken parser settings root recursive (n + 1)
        = fs.taken parser settings root recursive n
          ++ (after fs parser settings root recursive n).search.takenNext fs parser settings root
            recursive :=
      takeUntil_succ _ hahead
    obtain ⟨hgiven', hcounts', hahead'⟩ := ask_step _ hnone
    refine ⟨?_, ?_, ?_⟩
    · rw [hask, hgiven', hgiven, ← fs.filterMap_source?_taken, ← fs.filterMap_source?_taken, htaken,
        List.filterMap_append]
    · rw [hask, hcounts', hcounts, htaken, ← ScanCounts.pastLoads_default,
        ← ScanCounts.pastLoads_default, ScanCounts.pastLoads_append]
    · rw [hask, htaken, List.append_assoc, ← hahead', ← hahead]

end Reading

end InterfaceAtlas
