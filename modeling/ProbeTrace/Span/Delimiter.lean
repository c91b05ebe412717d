/-!
# Delimiters

A probe named for a root and the ending `_start` opens a span of that root, and
one with the ending `_end` may close it.
-/

set_option autoImplicit false

namespace ProbeTrace.Delimiter

def startSuffix : String := "_start"

def endSuffix : String := "_end"

/-- The text in front of an ending. -/
def stem? (ending text : String) : Option String :=
  let size := text.toList.length - ending.toList.length
  if text.toList.drop size = ending.toList then some (String.ofList (text.toList.take size))
  else none

/-- The root of a span that a probe opens. -/
def startRoot? (probe : String) : Option String :=
  stem? startSuffix probe

/-- The root of a span that a probe may close. -/
def endRoot? (probe : String) : Option String :=
  stem? endSuffix probe

theorem stem?_eq_some_iff (ending text stem : String) :
    stem? ending text = some stem ↔ text = stem ++ ending := by
  constructor
  · intro h
    simp only [stem?] at h
    split at h
    · rename_i hdrop
      cases h
      apply String.toList_inj.1
      simp only [String.toList_append, String.toList_ofList]
      conv => lhs; rw [← List.take_append_drop
        (text.toList.length - ending.toList.length) text.toList]
      rw [hdrop]
    · cases h
  · intro h
    subst h
    simp [stem?]

/-- No name has both endings. -/
theorem append_endSuffix_ne (a b : String) : a ++ endSuffix ≠ b ++ startSuffix := by
  intro h
  have hlast := congrArg (fun text => text.toList.getLast?) h
  simp [startSuffix, endSuffix] at hlast

end ProbeTrace.Delimiter
