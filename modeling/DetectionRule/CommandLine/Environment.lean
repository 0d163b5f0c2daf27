/-!
# The environment of a run

Variables by name. A variable that is defined once keeps its value: defining it again changes
nothing.
-/

namespace DetectionRule.CommandLine

/-- Variables by name; of two with one name the first counts. -/
structure Environment where
  bindings : List (String × String) := []

namespace Environment

def lookup (environment : Environment) (name : String) : Option String :=
  environment.bindings.lookup name

def define (environment : Environment) (name value : String) : Environment :=
  ⟨environment.bindings ++ [(name, value)]⟩

theorem lookup_define (environment : Environment) (name value other : String) :
    (environment.define name value).lookup other =
      (environment.lookup other).or (if other = name then some value else none) := by
  rw [lookup, define, List.lookup_append, List.lookup_singleton]
  simp only [lookup, beq_iff_eq]

theorem lookup_define_of_some {environment : Environment} {other known : String}
    (h : environment.lookup other = some known) (name value : String) :
    (environment.define name value).lookup other = some known := by
  simp [lookup_define, h]

end Environment

end DetectionRule.CommandLine
