import Retrofit.Target.Basic
import Retrofit.Text.Blank
import Retrofit.Text.Cut

/-! What documents say about a target: how things are named, where files go, how code is run and tested,
and a habit of legacy code that is easily recognized. -/
namespace Retrofit

/-- A row for the comparison of old and new that is due when code of the language holds `needle`. -/
structure Heuristic where
  language : String
  needle : String
  row : String

def Heuristic.applies (h : Heuristic) (language code : String) : Bool :=
  Text.lowerAscii language == h.language && Text.contains code h.needle

structure Conventions where
  lineComment : String
  naming : List String
  folders : String
  execution : String
  heuristic : Option Heuristic
  testExample : String

namespace Conventions

def python : Conventions where
  lineComment := "#"
  naming := [
    "- **Files:** `snake_case.py`",
    "- **Classes:** `PascalCase`",
    "- **Functions:** `snake_case()`",
    "- **Constants:** `UPPER_SNAKE_CASE`"]
  folders := Text.join "\n" [
    "project/",
    "├── src/",
    "│   ├── __init__.py",
    "│   ├── main.py",
    "│   ├── services/",
    "│   │   └── \x7bfile\x7d",
    "│   └── utils/",
    "│       └── helpers.py",
    "├── tests/",
    "│   ├── test_services.py",
    "│   └── test_utils.py",
    "├── docs/",
    "│   └── API.md",
    "├── requirements.txt",
    "└── README.md"]
  execution := Text.join "\n" [
    "### Prerequisites",
    "",
    "```bash",
    "# Install Python 3.11+",
    "python --version",
    "",
    "# Create virtual environment",
    "python -m venv venv",
    "source venv/bin/activate  # On Windows: venv\\Scripts\\activate",
    "",
    "# Install dependencies",
    "pip install -r requirements.txt",
    "```",
    "",
    "### Running the Code",
    "",
    "```bash",
    "python src/\x7bfile\x7d",
    "```"]
  heuristic := some {
    language := "python"
    needle := "print("
    row := "| Logging | `print()` statements | `logging` module | Proper log levels, file output, production-ready |" }
  testExample := Text.join "\n" [
    "# tests/test_services.py",
    "import pytest",
    "",
    "",
    "def test_behaviour_is_preserved():",
    "    # Arrange legacy inputs, call the modern function, compare outputs",
    "    ..."]

def java : Conventions where
  lineComment := "//"
  naming := [
    "- **Files:** `PascalCase.java`",
    "- **Classes:** `PascalCase`",
    "- **Methods:** `camelCase()`",
    "- **Constants:** `UPPER_SNAKE_CASE`"]
  folders := Text.join "\n" [
    "project/",
    "├── src/",
    "│   └── main/",
    "│       └── java/",
    "│           └── com/company/",
    "│               ├── \x7bfile\x7d",
    "│               ├── services/",
    "│               └── utils/",
    "├── src/",
    "│   └── test/",
    "│       └── java/",
    "├── pom.xml",
    "└── README.md"]
  execution := Text.join "\n" [
    "### Prerequisites",
    "",
    "```bash",
    "# Install Java 17+",
    "java -version",
    "",
    "# Build with Maven",
    "mvn clean install",
    "",
    "# Run",
    "mvn exec:java",
    "```"]
  heuristic := some {
    language := "java"
    needle := "Vector"
    row := "| Collections | `Vector`, `Hashtable` | `ArrayList`, `HashMap` | Thread-safe by default causes overhead, modern generics |" }
  testExample := Text.join "\n" [
    "// src/test/java/com/company/ServiceTest.java",
    "import org.junit.jupiter.api.Test;",
    "import static org.junit.jupiter.api.Assertions.*;",
    "",
    "class ServiceTest \x7b",
    "    @Test",
    "    void behaviourIsPreserved() \x7b",
    "        // Arrange legacy inputs, call the modern method, compare outputs",
    "    \x7d",
    "\x7d"]

def javaScript : Conventions where
  lineComment := "//"
  naming := [
    "- **Files:** `kebab-case.js`",
    "- **Classes:** `PascalCase`",
    "- **Functions:** `camelCase()`",
    "- **Constants:** `UPPER_SNAKE_CASE`"]
  folders := Text.join "\n" [
    "project/",
    "├── src/",
    "│   ├── index.js",
    "│   ├── services/",
    "│   │   └── \x7bfile\x7d",
    "│   └── utils/",
    "│       └── helpers.js",
    "├── tests/",
    "│   └── services.test.js",
    "├── package.json",
    "├── .eslintrc.js",
    "└── README.md"]
  execution := Text.join "\n" [
    "### Prerequisites",
    "",
    "```bash",
    "# Install Node.js 18+",
    "node --version",
    "",
    "# Install dependencies",
    "npm install",
    "",
    "# Run",
    "npm start",
    "```"]
  heuristic := some {
    language := "javascript"
    needle := "var "
    row := "| Variables | `var` keyword | `const`/`let` | Block scoping, prevents hoisting issues |" }
  testExample := Text.join "\n" [
    "// tests/services.test.js",
    "describe('service', () => \x7b",
    "  test('behaviour is preserved', () => \x7b",
    "    // Arrange legacy inputs, call the modern function, compare outputs",
    "  \x7d);",
    "\x7d);"]

def generic : Conventions where
  lineComment := "//"
  naming := []
  folders := Text.join "\n" [
    "project/",
    "├── src/",
    "│   └── \x7bfile\x7d",
    "├── tests/",
    "├── docs/",
    "└── README.md"]
  execution := Text.join "\n" [
    "### Prerequisites",
    "",
    "Install a toolchain for \x7bversion\x7d and the project's dependencies.",
    "",
    "### Running the Code",
    "",
    "```bash",
    "# Build and run src/\x7bfile\x7d with the standard \x7blanguage\x7d toolchain",
    "```"]
  heuristic := none
  testExample := "# Add example test code based on language"

end Conventions

def Target.conventions : Target → Conventions
  | .python => .python
  | .java => .java
  | .javaScript => .javaScript
  | .generic => .generic

end Retrofit
