import ChatGateway.Text

namespace ChatGateway

/-! Paths of files, as text. A path that starts with a slash is absolute. -/

namespace FilePath

def isAbsolute (path : String) : Bool :=
  path.toList.head? == some '/'

def endsWithSlash (path : String) : Bool :=
  path.toList.getLast? == some '/'

/-- `rest` below `base`. One slash stands between them; below the empty path stands
`rest` alone, and an absolute `rest` stands for itself. -/
def join (base rest : String) : String :=
  if isAbsolute rest ∨ base = "" then rest
  else if endsWithSlash base then base ++ rest
  else base ++ "/" ++ rest

def below (base : String) (steps : List String) : String :=
  steps.foldl join base

example : below "/h/" [".config", "x"] = "/h/.config/x" ∧ below "" ["x"] = "x" := by
  decide +kernel

/-- The steps of a path. Slashes may be repeated, and `.` is no step. -/
def steps (path : String) : List String :=
  ((Text.split '/' path.toList).map String.ofList).filter fun step => step != "" && step != "."

example : steps "/a//b/./c/" = ["a", "b", "c"] := by decide +kernel

def parent? (path : String) : Option String :=
  match (steps path).reverse with
  | [] => none
  | _ :: above =>
      let above := Text.join "/" above.reverse
      some (if isAbsolute path then "/" ++ above else above)

example : parent? "a/x.log" = some "a" ∧ parent? "x.log" = some "" ∧ parent? "/x" = some "/" ∧
    parent? "" = none := by decide +kernel

end FilePath

end ChatGateway
