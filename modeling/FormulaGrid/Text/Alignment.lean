/-!
Contract: texts padded with spaces to a width counted in characters.

A text that is already wide enough is left as it is.
-/

namespace FormulaGrid.Text

/-- Spaces in front, up to the width. -/
def padLeft (width : Nat) (text : String) : String :=
  String.ofList (List.replicate (width - text.length) ' ' ++ text.toList)

/-- Spaces behind, up to the width. -/
def padRight (width : Nat) (text : String) : String :=
  String.ofList (text.toList ++ List.replicate (width - text.length) ' ')

end FormulaGrid.Text
