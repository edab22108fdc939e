import InterfaceAtlas.Text.Utf8
import Mathlib.Data.List.Basic

/-!
# Texts and streams

Who reads bytes from the front meets the characters in front of the first fault. By `decode?_eq`
they are the whole text where there is no fault, and otherwise there is no text.
-/

namespace InterfaceAtlas.Text.Utf8

variable {bytes : List UInt8} {text : List Char}

lemma mapM_glyphsFrom (covered : Nat) (bytes : List UInt8) :
    (glyphsFrom covered bytes).mapM Glyph.char?
      = if (streamFrom covered bytes).rest = [] then some (streamFrom covered bytes).front
        else none := by
  fun_induction streamFrom covered bytes with
  | case1 covered => simp [glyphsFrom]
  | case2 covered b rest ih => rw [glyphsFrom, ih]
  | case3 b rest g hchar =>
    -- a fault ends the stream, and the bytes are no text whatever follows
    have hfault : g.char? = none := hchar
    rw [glyphsFrom, List.mapM_cons, hfault]
    simp
  | case4 b rest g c hchar s ih =>
    have hglyph : g.char? = some c := hchar
    rw [glyphsFrom, List.mapM_cons, hglyph, ih]
    dsimp only
    split <;> rfl

/-- The text of some bytes is their stream, if this goes to the end. -/
theorem decode?_eq (bytes : List UInt8) :
    decode? bytes = if (stream bytes).rest = [] then some (stream bytes).front else none :=
  mapM_glyphsFrom 0 bytes

/-- The stream of a text is this text. -/
lemma stream_of_decode? (h : decode? bytes = some text) : stream bytes = { front := text } := by
  rw [decode?_eq] at h
  split at h
  · next hrest =>
    rw [← Option.some.inj h, ← hrest]
  · simp at h

end InterfaceAtlas.Text.Utf8
