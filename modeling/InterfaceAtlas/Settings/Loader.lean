import InterfaceAtlas.Text.Utf8
import InterfaceAtlas.Value.Basic

/-!
# Loaders

How the text of a settings file becomes a value is left to a loader. It is handed the file as a
stream. Where a byte follows that is not UTF-8, it may have its value, or know that there is none,
before it comes to that byte.
-/

namespace InterfaceAtlas

/-- Why a loader has no value. -/
inductive LoadFault where
  /-- The text does not keep to the rules. -/
  | malformed (reason : String)
  /-- A byte was read that is not UTF-8. -/
  | notText
  /-- What is written as a value is none. -/
  | badValue (fault : ValueFault)
deriving DecidableEq, Repr, Inhabited

/-- A loader makes a value of the stream of a file. -/
structure Loader where
  load : Text.Utf8.Stream → Except LoadFault Value
  /-- Where all is text, no byte is read that is not. -/
  load_whole : ∀ text, load { front := text } ≠ .error .notText

namespace Loader

/-- A loader finds nothing wrong with a text but that it does not keep to the rules. -/
def IsPlain (l : Loader) : Prop := ∀ s fault, l.load s ≠ .error (.badValue fault)

end Loader

end InterfaceAtlas
