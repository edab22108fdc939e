import InterfaceAtlas.Query.Command
import Mathlib.Data.List.Basic

/-!
# Queries and the level of diagnostics

Settings also name the level from which on diagnostics are written. No query reads it: scans look at
the names of files and directories and at what becomes of files with syntax errors, and queries look
at scans. `Command.run_withLevel` says so of commands, diagnostics included. Whether what is said
gets written is for the console to decide.
-/

namespace InterfaceAtlas

/-- The settings with another level. -/
def Settings.withLevel (s : Settings) (level : String) : Settings := { s with logLevel := level }

namespace Settings

variable (s : Settings) (level : String)

@[simp] lemma excludesDirectory_withLevel :
    (s.withLevel level).excludesDirectory = s.excludesDirectory := rfl

@[simp] lemma isCandidate_withLevel : (s.withLevel level).isCandidate = s.isCandidate := rfl

@[simp] lemma isSource_withLevel : (s.withLevel level).isSource = s.isSource := rfl

@[simp] lemma skipFaulty_withLevel : (s.withLevel level).skipFaulty = s.skipFaulty := rfl

end Settings

variable (parser : Parser) (fs : FileSystem) (settings : Settings) (level : String)

/-! ## Scans -/

namespace FileSystem

mutual

/-- A walk reads other settings than the level. The induction is on the entry and its entries. -/
lemma entrySteps_withLevel (directory name : String) (node : FileNode) :
    fs.entrySteps (settings.withLevel level) directory name node
      = fs.entrySteps settings directory name node := by
  cases node with
  | directory entries =>
    rw [entrySteps, entrySteps, entriesSteps_withLevel, Settings.excludesDirectory_withLevel]
  | file content => rw [entrySteps, entrySteps, Settings.isCandidate_withLevel] <;> simp
  | link target => rw [entrySteps, entrySteps, Settings.isCandidate_withLevel] <;> simp

lemma entriesSteps_withLevel (directory : String) (entries : List (String × FileNode)) :
    fs.entriesSteps (settings.withLevel level) directory entries
      = fs.entriesSteps settings directory entries := by
  cases entries with
  | nil => rfl
  | cons entry more =>
    obtain ⟨name, node⟩ := entry
    rw [entriesSteps, entriesSteps, entrySteps_withLevel, entriesSteps_withLevel]

end

/-- The level does not change where a walk goes. -/
lemma walk_withLevel (root : String) :
    fs.walk (settings.withLevel level) root = fs.walk settings root := by
  simp only [walk, entriesSteps_withLevel]

lemma flatFiles_withLevel (directory : String) :
    fs.flatFiles (settings.withLevel level) directory = fs.flatFiles settings directory := by
  simp only [flatFiles, Settings.isCandidate_withLevel]

/-- The level does not change what a scan finds in the root itself. -/
lemma flatScan_withLevel (root : String) (before : List String) :
    fs.flatScan (settings.withLevel level) root before = fs.flatScan settings root before := by
  rw [flatScan, flatScan, flatFiles_withLevel]

/-- The level does not change what a scan finds. -/
lemma scan_withLevel (root : String) (recursive : Bool) :
    fs.scan (settings.withLevel level) root recursive = fs.scan settings root recursive := by
  rw [scan, scan, Settings.isCandidate_withLevel, walk_withLevel]
  simp only [flatScan_withLevel]

/-- The level does not change which files are loaded, or what is said of it. -/
lemma load_withLevel (path : String) :
    Source.load parser fs (settings.withLevel level) path
      = Source.load parser fs settings path := by
  simp only [Source.load, Source.accept, Settings.isSource_withLevel,
    Settings.skipFaulty_withLevel]

/-- The level does not change the steps of a scan with loading. -/
lemma loads_withLevel (root : String) (recursive : Bool) :
    fs.loads parser (settings.withLevel level) root recursive
      = fs.loads parser settings root recursive := by
  simp only [loads, scan_withLevel, load_withLevel]

end FileSystem

/-! ## Queries -/

namespace Query

open FileSystem

/-- The level does not change what is made of a scan. -/
lemma scanWith_withLevel {β : Type} (root : String) (recursive : Bool) (f : Source → Logged β) :
    scanWith parser fs (settings.withLevel level) root recursive f
      = scanWith parser fs settings root recursive f := by
  simp only [scanWith, loads_withLevel]

lemma scanInterfaces_withLevel (root : String) :
    scanInterfaces parser fs (settings.withLevel level) root
      = scanInterfaces parser fs settings root := by
  simp only [scanInterfaces, scanWith_withLevel]

lemma scanScope_withLevel (root : String) :
    scanScope parser fs (settings.withLevel level) root
      = scanScope parser fs settings root := by
  simp only [scanScope, scanWith_withLevel]

end Query

namespace Command

open FileSystem Query

/-- The level does not change what a command answers, or what it says on its way. -/
lemma answer?_withLevel (c : Command) (arguments : List Value) :
    c.answer? parser fs (settings.withLevel level) arguments
      = c.answer? parser fs settings arguments := by
  unfold answer?
  split
  · simp only [implementations, scanScope_withLevel]
  · simp only [interfaces, scanInterfaces_withLevel]
  · simp only [fileInterfaces, load_withLevel]
  · simp only [fileImplementations, load_withLevel, scanInterfaces_withLevel]
  · simp only [packageRelations, scanWith_withLevel, scanInterfaces_withLevel]
  · simp only [allInterfaces, scanInterfaces_withLevel]
  · rfl

/-- Commands do not read the level. -/
theorem run_withLevel (verb : String) (arguments : List Value) :
    run parser fs (settings.withLevel level) verb arguments
      = run parser fs settings verb arguments := by
  simp only [run, answer?_withLevel]

end Command

end InterfaceAtlas
