import Retrofit.Skeleton.Braced
import Retrofit.Skeleton.Indented

/-! A skeleton is a source file without bodies: a declaration for each module, a field for each attribute
and a stub for each function. -/
namespace Retrofit

namespace Skeleton

def moduleLines : Target → Project → Module → List Line
  | .python => pythonModule
  | .java => javaModule
  | .javaScript => scriptModule
  | .generic => neutralModule

def moduleText (t : Target) (p : Project) (m : Module) : String :=
  render t (moduleLines t p m)

end Skeleton

namespace Project

/-- The skeleton for a given target, with an empty line between modules. -/
def skeletonFor (p : Project) (t : Target) : String :=
  Text.join "\n" (p.modules.map (Skeleton.moduleText t p))

def skeleton (p : Project) : String :=
  p.skeletonFor (Target.ofLanguage p.language)

end Project

end Retrofit
