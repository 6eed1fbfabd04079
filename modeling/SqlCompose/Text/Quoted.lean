/-!
# Single-quoted literals

A backslash or a quote inside a literal is written with a backslash in front of it, and every
other character is written as it is.
-/

namespace SqlCompose.Text

/-- The characters that stand for `c` inside a literal. -/
def escapeChar (c : Char) : List Char :=
  if c = '\\' ∨ c = '\'' then ['\\', c] else [c]

/-- The body of the literal that stands for `s`. -/
def escape (s : String) : String :=
  String.ofList (s.toList.flatMap escapeChar)

/-- The literal of `s`; without `escaping` its body is `s` itself. -/
def quoted (escaping : Bool) (s : String) : String :=
  "'" ++ (if escaping then escape s else s) ++ "'"

@[simp] theorem toList_escape (s : String) :
    (escape s).toList = s.toList.flatMap escapeChar := by
  simp [escape]

end SqlCompose.Text
