import PresenceSeal.Attempt

/-! The journal: what the program notes about its own work. Entries never hold
seeds, payloads, signatures or keys. A filter decides which entries are shown. -/
namespace PresenceSeal

inductive Severity where
  | error
  | warn
  | info
  | debug
  | trace
  deriving DecidableEq, Repr

namespace Severity

/-- The gravest entries have rank 0. -/
def rank : Severity → Nat
  | error => 0
  | warn => 1
  | info => 2
  | debug => 3
  | trace => 4

def name : Severity → String
  | error => "ERROR"
  | warn => "WARN"
  | info => "INFO"
  | debug => "DEBUG"
  | trace => "TRACE"

end Severity

namespace Journal

structure Entry where
  severity : Severity
  text : String
  deriving DecidableEq, Repr

end Journal

/-- Entries, the newest first. -/
abbrev Journal := List Journal.Entry

namespace Journal

def note (severity : Severity) (text : String) : StateM Journal Unit :=
  modify (⟨severity, text⟩ :: ·)

/-- Which entries are shown: those at least as grave as a severity, or none. -/
abbrev Filter := Option Severity

namespace Filter

/-- The filter of a level's name. Any other text is no filter. -/
def ofName? : String → Option Filter
  | "error" => some (some .error)
  | "warn" => some (some .warn)
  | "info" => some (some .info)
  | "debug" => some (some .debug)
  | "trace" => some (some .trace)
  | "off" => some none
  | _ => none

def admits (filter : Filter) (entry : Entry) : Bool :=
  match filter with
  | some limit => entry.severity.rank ≤ limit.rank
  | none => false

end Filter

/-- The level in effect: the configured one, unless the user asked for more. -/
def effectiveLevel (configured : String) (verbosity : Nat) : String :=
  match verbosity with
  | 0 => configured
  | 1 => "debug"
  | _ => "trace"

def shown (filter : Filter) (journal : Journal) : List Severity :=
  (journal.filter filter.admits).map (·.severity)

end Journal

end PresenceSeal
