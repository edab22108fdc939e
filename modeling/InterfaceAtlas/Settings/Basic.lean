import InterfaceAtlas.Text.Quoted
import InterfaceAtlas.Value.Basic

/-!
# Settings

What a scan takes for a source file, which directories it stays out of, what becomes of files with
syntax errors, and how much diagnostics say.
-/

namespace InterfaceAtlas

/-- The settings of the program. -/
structure Settings where
  /-- A sub-directory is passed over if its name contains one of these. -/
  excludedTokens : List String := ["vendor"]
  /-- The end of the name of a source file. -/
  sourceSuffix : String := ".go"
  /-- The end of the name of a test file, which no scan takes up. -/
  testSuffix : String := "_test.go"
  /-- Files with syntax errors are left out. -/
  skipFaulty : Bool := true
  /-- The name of the level from which on diagnostics are written. -/
  logLevel : String := "INFO"
deriving DecidableEq, Repr, Inhabited

namespace Settings

/-- Whether `part` occurs in a list of characters. -/
def occursIn (part : List Char) : List Char → Bool
  | [] => part.isEmpty
  | c :: cs => part.isPrefixOf (c :: cs) || occursIn part cs

/-- Whether a scan stays out of a sub-directory: its name is hidden or contains an excluded token.
An empty token excludes nothing. -/
def excludesDirectory (s : Settings) (name : String) : Bool :=
  name.toList.head? == some '.'
    || s.excludedTokens.any fun token => token != "" && occursIn token.toList name.toList

/-- Whether a text ends with another. -/
def endsWith (text ending : String) : Bool := ending.toList.isSuffixOf text.toList

/-- Whether a path is that of a source file. -/
def isSource (s : Settings) (path : String) : Bool := endsWith path s.sourceSuffix

/-- Whether a scan takes up a file: a source file that is no test. -/
def isCandidate (s : Settings) (name : String) : Bool :=
  endsWith name s.sourceSuffix && !endsWith name s.testSuffix

/-- Settings as diagnostics show them. -/
def display (s : Settings) : String :=
  "AnalyzerConfig(excluded_dir_tokens=" ++ Text.Quoted.renderTuple s.excludedTokens
    ++ ", source_suffix=" ++ Text.Quoted.render s.sourceSuffix
    ++ ", test_suffix=" ++ Text.Quoted.render s.testSuffix
    ++ ", skip_files_with_errors=" ++ Value.writeBool s.skipFaulty
    ++ ", log_level=" ++ Text.Quoted.render s.logLevel ++ ")"

end Settings

end InterfaceAtlas
