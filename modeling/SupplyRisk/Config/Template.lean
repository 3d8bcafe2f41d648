/-!
# The configuration template

The text of a new configuration file, which spells out the defaults.
-/

namespace SupplyRisk.Config

/-- The lines of the template. -/
def templateLines : List String :=
  ["# chainrisk configuration",
    "",
    "[scoring]",
    "history_window_days = 365",
    "",
    "[scoring.weights]",
    "financial = 0.3",
    "delivery = 0.3",
    "quality = 0.3",
    "geographical = 0.1",
    "",
    "[scoring.financial]",
    "elevated_exposure = 50000.0",
    "high_exposure = 100000.0",
    "",
    "[scoring.quality]",
    "moderate_part_count = 50",
    "large_part_count = 100",
    "",
    "[scoring.countries]",
    "high = [\"AF\", \"BY\", \"IR\", \"KP\", \"MM\", \"RU\", \"SD\", \"SY\", \"VE\", \"YE\"]",
    "medium = [\"BD\", \"BR\", \"CN\", \"EG\", \"ID\", \"IN\", \"MX\", \"NG\", \"PK\", \"TR\", \"VN\"]",
    "",
    "[scoring.stockout]",
    "critical_days = 7.0",
    "high_days = 30.0",
    "medium_days = 90.0",
    "",
    "[alerts]",
    "lookback_hours = 24",
    "default_alert_threshold = 70",
    "next_assessment_interval_days = 90",
    "",
    "[recommendations]",
    "max_per_part = 3",
    "base_similarity = 50",
    "per_shared_part = 10",
    "",
    "[parallel]",
    "enabled = true",
    "# max_concurrency = 8",
    "",
    "[retry]",
    "enabled = true",
    "max_retries = 3",
    "transient_retries = 1",
    "base_delay_ms = 25",
    "strategy = \"exponential\"",
    "",
    "[run]",
    "# timeout_seconds = 600"]

/-- The text of the template. -/
def template : String := String.join (templateLines.map (· ++ "\n"))

end SupplyRisk.Config
