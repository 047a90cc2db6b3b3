import WaqitiAudit.Text.Re

/-!
# The Prometheus configuration fix, and what it does to a YAML mapping

`fix_prometheus_config` (`src/services/fix-prometheus-config.py`) rewrites a YAML file
with one `re.sub`: the block from `management:` to the first
`metrics: / export: / prometheus: / enabled: …` chain becomes
`prometheus: / metrics: / export: / enabled: …`, each header written at the indentation
of the old `metrics:` plus two spaces per level. Only those four lines are touched;
whatever follows `enabled: …` keeps its indentation, and so its place in the new
nesting.

To say what a rewrite does to the configuration, a YAML text built from block mappings
with scalar leaves is read as its leaves (`yamlLeaves`): each scalar with the path of
keys above it, the reading a YAML loader gives such a text. `movePrometheus` is the
move the script's docstring announces, from `management.metrics.export.prometheus` to
`management.prometheus.metrics.export`.

What is proved:

* **what the rewrite moves** — `metrics_siblings_reparented`: on a configuration with
  metric tags and a second exporter, the fix moves the Prometheus subtree but also
  re-parents `management.metrics.tags` under `management.prometheus` and the sibling
  exporter under `management.prometheus.metrics`.
-/

namespace FixPrometheusConfig

open PyStr PyRe

/-! ## The rewrite -/

/-- `pattern`:
`(management:\s*\n(?:.*\n)*?)(\s+)metrics:\s*\n\s+export:\s*\n\s+prometheus:\s*\n(\s+enabled:\s*(?:true|false))` -/
def pattern : Regex :=
  seqs [.group 1 (seqs [lit "management:".toList, many space, chr '\n',
      lazyMany (.seq (many (.atom .dot)) (chr '\n'))]),
    .group 2 (plus space), lit "metrics:".toList, many space, chr '\n',
    plus space, lit "export:".toList, many space, chr '\n',
    plus space, lit "prometheus:".toList, many space, chr '\n',
    .group 3 (seqs [plus space, lit "enabled:".toList, many space,
      alts [lit "true".toList, lit "false".toList]])]

/-- `replacement`:
`f"{prefix}{indent}prometheus:\n{indent}  metrics:\n{indent}    export:\n{enabled_line}"`. -/
def replacement (m : Match) : Str :=
  let indent := m.grp 2
  m.grp 1 ++ indent ++ "prometheus:\n".toList ++ indent ++ "  metrics:\n".toList ++ indent ++
    "    export:\n".toList ++ m.grp 3

/-- `fix_prometheus_config` on a file whose text is `content`: whether it reports a fix,
and the text the file holds afterwards. -/
def fixPrometheusConfig (content : Str) : Bool × Str :=
  match search pattern content with
  | none => (false, content)
  | some _ => (true, subFn pattern replacement content)

/-! ## Reading block mappings -/

/-- A line `key: value` or `key:` of a block mapping, with its indentation. -/
structure YamlLine where
  indent : Nat
  key : Str
  value : Str
  deriving Repr, DecidableEq

/-- The mapping line a text line holds; none for a blank line. -/
def yamlLine (line : Str) : Option YamlLine :=
  let body := line.dropWhile (· = ' ')
  if strip body = [] then none
  else
    let key := body.takeWhile (· ≠ ':')
    some ⟨line.length - body.length, key, strip (body.drop (key.length + 1))⟩

/-- The leaves below the open keys `stack` (innermost first, with their indentation): a
line closes every open key indented as far as it or further, and then either opens its
key or is a leaf under the keys still open. -/
def yamlLeavesAux : List (Nat × Str) → List YamlLine → List (List Str × Str)
  | _, [] => []
  | stack, l :: ls =>
    let outer := stack.dropWhile fun p => l.indent ≤ p.1
    if l.value = [] then yamlLeavesAux ((l.indent, l.key) :: outer) ls
    else ((outer.map (·.2)).reverse ++ [l.key], l.value) :: yamlLeavesAux outer ls

/-- The leaves of a YAML text of block mappings: each scalar with its key path. -/
def yamlLeaves (text : Str) : List (List Str × Str) :=
  yamlLeavesAux [] ((splitNewlines text).filterMap yamlLine)

/-- The key path written `a.b.c`. -/
def keyPath (s : Str) : List Str := splitOnSep ".".toList s

/-- The announced move: a path below `management.metrics.export.prometheus` goes below
`management.prometheus.metrics.export`; every other path stays. -/
def movePrometheus (path : List Str) : List Str :=
  if (keyPath "management.metrics.export.prometheus".toList).isPrefixOf path then
    keyPath "management.prometheus.metrics.export".toList ++ path.drop 4
  else path

/-! ## A configuration with tags and a second exporter -/

/-- Prometheus and Datadog exporters, and metric tags. -/
def taggedConfig : Str :=
  "management:\n  metrics:\n    export:\n      prometheus:\n        enabled: true\n      datadog:\n        enabled: false\n    tags:\n      application: wallet\n".toList

set_option maxRecDepth 8000 in
/-- The fix rewrites the four header lines only, so the Datadog exporter, indented as a
child of `export:`, becomes a child of `prometheus.metrics`, and the tags, indented as a
child of `metrics:`, become a child of `prometheus`: the moved configuration keeps
`management.metrics.tags.application` and `management.metrics.export.datadog.enabled`,
the rewritten text has neither. -/
theorem metrics_siblings_reparented :
    fixPrometheusConfig taggedConfig =
        (true, "management:\n  prometheus:\n    metrics:\n      export:\n        enabled: true\n      datadog:\n        enabled: false\n    tags:\n      application: wallet\n".toList) ∧
      (yamlLeaves taggedConfig).map (fun p => (movePrometheus p.1, p.2)) =
        [(keyPath "management.prometheus.metrics.export.enabled".toList, "true".toList),
         (keyPath "management.metrics.export.datadog.enabled".toList, "false".toList),
         (keyPath "management.metrics.tags.application".toList, "wallet".toList)] ∧
      yamlLeaves (fixPrometheusConfig taggedConfig).2 =
        [(keyPath "management.prometheus.metrics.export.enabled".toList, "true".toList),
         (keyPath "management.prometheus.metrics.datadog.enabled".toList, "false".toList),
         (keyPath "management.prometheus.tags.application".toList, "wallet".toList)] := by
  decide

end FixPrometheusConfig
