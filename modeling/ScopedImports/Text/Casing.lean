import ScopedImports.Text.CaseProperties
import ScopedImports.Text.LowerMap

/-!
Lower-casing of text.

Every character is replaced by its own lower-case form, save the capital sigma, whose form depends
on its place: `ς` at the end of a word, `σ` elsewhere.  A sigma ends a word when a cased character
stands before it and none after it, where characters that case ignores are looked through on either
side.

    lower "ΟΔΟΣ" = "οδος"      lower "Σ" = "σ"      lower "ΑΣ.Α" = "ασ.α"      lower "ΑΣ/Α" = "ας/α"
-/

namespace ScopedImports.Text

/-- The nearest character that case does not ignore is cased. -/
def startsCased (text : List Char) : Bool :=
  ((text.dropWhile isCaseIgnorable).head?.map isCased).getD false

/-- The form of a capital sigma between the given texts; the one before is read backwards. -/
def sigmaForm (before after : List Char) : Char :=
  if startsCased before && !startsCased after then 'ς' else 'σ'

/-- Lower-case `text`, which follows `before` (read backwards). -/
def lowerFrom (before : List Char) : List Char → List Char
  | [] => []
  | c :: rest =>
    (if c = 'Σ' then [sigmaForm before rest] else lowerChar c) ++ lowerFrom (c :: before) rest

/-- The text in lower case. -/
def lower (text : String) : String := String.ofList (lowerFrom [] text.toList)

end ScopedImports.Text
