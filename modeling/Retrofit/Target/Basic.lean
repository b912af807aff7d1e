import Retrofit.Text.LetterCase

/-! The language that modern code is written in. Its name is free text; what documents and skeletons need
to know about it depends on which of four families it belongs to. -/
namespace Retrofit

/-- The families of languages that text is written for; TypeScript goes with JavaScript. -/
inductive Target where
  | python
  | java
  | javaScript
  | generic
  deriving DecidableEq

namespace Target

def ofLanguage (language : String) : Target :=
  match Text.lowerAscii language with
  | "python" => .python
  | "java" => .java
  | "javascript" | "typescript" => .javaScript
  | _ => .generic

def name : Target → String
  | .python => "Python"
  | .java => "Java"
  | .javaScript => "JavaScript"
  | .generic => "Generic"

def version (language : String) : String :=
  match Text.lowerAscii language with
  | "python" => "Python 3.11+"
  | "java" => "Java 17+ (LTS)"
  | "javascript" => "ES2022+ / Node.js 18+"
  | "typescript" => "TypeScript 5.0+"
  | "cpp" => "C++20"
  | "csharp" => "C# 11 / .NET 7+"
  | _ => s!"Modern {language}"

end Target

end Retrofit
