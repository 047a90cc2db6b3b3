import WaqitiAudit.Text.Re
import WaqitiAudit.Text.Dict

/-!
# The reference validator: data model and patterns

This file sets up the data of `src/services/validate_references.py`: the finding
record `BrokenReference`, the `ValidationReport` it is collected in, the state of a
`ReferenceValidator` (its report and its symbol table), and the regular expressions
each phase applies to the text of a file.

The corpus is the list of `.java` files `services_path.rglob("*.java")` yields, each
with the text Python reads from it, in the order of the walk. A file that cannot be
opened contributes nothing to any phase, exactly as if the walk had not yielded it, so
the corpus lists readable files only.
-/

namespace ReferenceValidator

open PyStr PyRe

/-- A `.java` file of the corpus: its path and its text. -/
structure JavaFile where
  path : Str
  content : Str
  deriving Repr, DecidableEq

/-- The `.java` files of `services/`, in the order the walk yields them. -/
abbrev Corpus := List JavaFile

/-- The `BrokenReference` dataclass. -/
structure BrokenReference where
  sourceFile : Str
  lineNumber : Nat
  referenceType : Str
  target : Str
  expected : Str
  actual : Str
  severity : Str
  impact : Str
  recommendedFix : Str
  deriving Repr, DecidableEq

/-- The `ValidationReport` dataclass, as the phases fill it. -/
structure ValidationReport where
  brokenImports : List BrokenReference := []
  brokenMethodCalls : List BrokenReference := []
  missingBeans : List BrokenReference := []
  brokenFeignClients : List BrokenReference := []
  circularDependencies : List (Str × Str) := []
  deriving Repr, DecidableEq

/-- The value stored in `feign_clients` for one client. -/
structure FeignInfo where
  file : Str
  serviceName : Str
  content : Str
  deriving Repr, DecidableEq

end ReferenceValidator

open PyStr ReferenceValidator in
/-- The state of a `ReferenceValidator` object: its report and its caches. -/
@[ext] structure ReferenceValidator where
  report : ValidationReport := {}
  /-- `class_registry`: fully qualified name to file path. -/
  classRegistry : PyDict Str Str := .empty
  publicClasses : PySet Str := .empty
  componentClasses : PySet Str := .empty
  serviceClasses : PySet Str := .empty
  repositoryClasses : PySet Str := .empty
  feignClients : PyDict Str FeignInfo := .empty
  /-- `class_methods`, a `defaultdict(set)`. -/
  classMethods : PyDict Str (PySet Str) := .empty

namespace ReferenceValidator

open PyStr PyRe

/-- A validator right after `__init__`. -/
def init : ReferenceValidator := {}

/-! ## The patterns -/

/-- `[\w.]`. -/
def wordDot : Regex := .atom (.oneOf [.word, .char '.'])

/-- `[^c]`. -/
def notChar (c : Char) : Regex := .atom (.noneOf [.char c])

/-- `package\s+([\w.]+);` -/
def packageRe : Regex :=
  seqs [lit "package".toList, plus space, .group 1 (plus wordDot), chr ';']

/-- `(public\s+)?(class|interface|enum)\s+(\w+)` -/
def classRe : Regex :=
  seqs [opt (.group 1 (.seq (lit "public".toList) (plus space))),
    .group 2 (alts [lit "class".toList, lit "interface".toList, lit "enum".toList]),
    plus space, .group 3 (plus word)]

/-- `@<name>\b`: the annotation marker, not followed by a word character. -/
def annotationRe (name : Str) : Regex :=
  .seq (lit ('@' :: name)) (.notAhead (.oneOf [.word]))

/-- `@FeignClient\s*\([^)]*name\s*=\s*"([^"]+)"[^)]*\)` -/
def feignRe : Regex :=
  seqs [lit "@FeignClient".toList, many space, chr '(', many (notChar ')'),
    lit "name".toList, many space, chr '=', many space, chr '"', .group 1 (plus (notChar '"')),
    chr '"', many (notChar ')'), chr ')']

/-- `(public|protected|private)?\s+[\w<>\[\],\s]+\s+(\w+)\s*\([^)]*\)` -/
def methodRe : Regex :=
  seqs [opt (.group 1 (alts [lit "public".toList, lit "protected".toList, lit "private".toList])),
    plus space,
    plus (.atom (.oneOf [.word, .char '<', .char '>', .char '[', .char ']', .char ',', .space])),
    plus space, .group 2 (plus word), many space, chr '(', many (notChar ')'), chr ')']

/-- The names `scan_all_classes` does not record as methods. -/
def notMethodNames : List Str :=
  ["class".toList, "if".toList, "for".toList, "while".toList, "switch".toList]

/-- `import\s+([\w.]+);` -/
def importRe : Regex :=
  seqs [lit "import".toList, plus space, .group 1 (plus wordDot), chr ';']

/-- `<variable>\.(\w+)\(` -/
def callRe (var : Str) : Regex :=
  seqs [lit var, chr '.', .group 1 (plus word), chr '(']

/-- `@(Autowired|Inject)\s+(?:private|protected|public)?\s+([\w<>.,\s]+)\s+(\w+);` -/
def autowiredRe : Regex :=
  seqs [chr '@', .group 1 (alts [lit "Autowired".toList, lit "Inject".toList]), plus space,
    opt (alts [lit "private".toList, lit "protected".toList, lit "public".toList]), plus space,
    .group 2 (plus (.atom (.oneOf [.word, .char '<', .char '>', .char '.', .char ',', .space]))),
    plus space, .group 3 (plus word), chr ';']

/-- `<.*>` -/
def genericRe : Regex := seqs [chr '<', many (.atom .dot), chr '>']

/-- `import\s+([\w.]+\.<re.escape(base)>);` -/
def qualifiedImportRe (base : Str) : Regex :=
  seqs [lit "import".toList, plus space,
    .group 1 (seqs [plus wordDot, chr '.', lit base]), chr ';']

/-- `fallback\s*=\s*(\w+)\.class` -/
def fallbackRe : Regex :=
  seqs [lit "fallback".toList, many space, chr '=', many space, .group 1 (plus word),
    lit ".class".toList]

/-- `/services/([^/]+)/` -/
def serviceDirRe : Regex :=
  seqs [lit "/services/".toList, .group 1 (plus (notChar '/')), chr '/']

/-- The internal namespace marker `'com.waqiti'`. -/
def waqiti : Str := "com.waqiti".toList

/-- Python truthiness of an optional group. -/
def truthy : Option Str → Bool
  | some s => !s.isEmpty
  | none => false

/-- The 1-based line of a match: `content[:match.start()].count('\n') + 1`. -/
def lineOf (content : Str) (m : Match) : Nat := countNewlines (content.take m.start) + 1

end ReferenceValidator
