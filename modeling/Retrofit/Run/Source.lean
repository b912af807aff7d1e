/-! A legacy source file that is to be modernized. -/
namespace Retrofit

structure Source where
  filename : String
  folder : Option String
  language : String
  code : String
  deriving DecidableEq

/-- The name of the source in requests, recordings and reports. -/
def Source.path (s : Source) : String :=
  match s.folder with
  | some folder => s!"{folder}/{s.filename}"
  | none => s.filename

end Retrofit
