import WaqitiAudit.Text.Str
import WaqitiAudit.Text.Re
import WaqitiAudit.Text.Matches
import WaqitiAudit.Text.Literal
import WaqitiAudit.Text.Dict
import WaqitiAudit.Validator.Basic
import WaqitiAudit.Validator.Phases
import WaqitiAudit.Validator.Registry
import WaqitiAudit.Validator.Cycles
import WaqitiAudit.Validator.ImportLines
import WaqitiAudit.Validator.Report
import WaqitiAudit.Validator.Runs
import WaqitiAudit.Deep.Imports
import WaqitiAudit.Kafka.Extractor
import WaqitiAudit.Kafka.Auditor
import WaqitiAudit.Kafka.Dlq
import WaqitiAudit.Kafka.Report
import WaqitiAudit.Kafka.Impact
import WaqitiAudit.Kafka.Orphans
import WaqitiAudit.Kafka.Topics
import WaqitiAudit.Migration.Rewrite
import WaqitiAudit.Migration.Backup
import WaqitiAudit.Migration.Fixpoint
import WaqitiAudit.Migration.Verify
import WaqitiAudit.Config.Prometheus
import WaqitiAudit.Compliance.CardNumber
