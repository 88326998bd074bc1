/-!
# How a program says that it failed

An error is written with the causes behind it. A single cause is set in. More than one are
numbered.
-/

namespace LfuCache.Text

/-- Sets the first line in by one text and the lines after it by another. -/
def setIn (first others : String) (text : String) : String :=
  first ++ ("\n" ++ others).intercalate (text.splitOn "\n")

def numbered (n : Nat) (cause : String) : String := setIn s!"    {n}: " "       " cause

def causeLines (causes : List String) : List String :=
  match causes with
  | [cause] => [setIn "    " "    " cause]
  | causes => causes.mapIdx numbered

/-- The report of an error. It ends its last line. -/
def report (message : String) (causes : List String) : String :=
  let behind :=
    if causes.isEmpty then "" else "\n\nCaused by:\n" ++ "\n".intercalate (causeLines causes)
  "Error: " ++ message ++ behind ++ "\n"

end LfuCache.Text
