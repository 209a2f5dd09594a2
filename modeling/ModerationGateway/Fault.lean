import ModerationGateway.Number.Shortest

/-!
# Faults

Everything that can go wrong, by its cause. A fault of a vendor (`vendorUnreachable`, `timeout`,
`malformedReply`) becomes a verdict and is resolved by the policy of the rule; a fault of a word
list (`wordList`) switches local screening off for the request; the others reach the operator.

* `Fault`: the causes;
* `Fault.code`: the machine-readable name of the cause;
* `Fault.message`: the wording.
-/

namespace ModerationGateway

/-- A cause of failure. -/
inductive Fault where
  | config (message : String)
  | notConfigured (subject : String)
  | unsupportedVendor (vendor available : String)
  | vendorUnreachable (message : String)
  | timeout (ms : Nat)
  | malformedReply (vendor message : String)
  | wordList (source message : String)
  | backend (message : String)
  | server (message : String)
  | cancelled (message : String)
  | json (message : String)
  | file (message : String)
  deriving DecidableEq, Repr

namespace Fault

/-- The machine-readable name of the cause. -/
def code : Fault → String
  | config _ => "config"
  | notConfigured _ => "not_configured"
  | unsupportedVendor _ _ => "unsupported_vendor"
  | vendorUnreachable _ => "vendor_unreachable"
  | timeout _ => "timeout"
  | malformedReply _ _ => "malformed_response"
  | wordList _ _ => "pattern_build"
  | backend _ => "upstream"
  | server _ => "server"
  | cancelled _ => "cancelled"
  | json _ => "json"
  | file _ => "io"

/-- The wording of the fault. -/
def message : Fault → String
  | config m => "Config error: " ++ m
  | notConfigured s => "No rule configured for " ++ s
  | unsupportedVendor v a => "Unsupported vendor: " ++ v ++ " (available: " ++ a ++ ")"
  | vendorUnreachable m => "Vendor unreachable: " ++ m
  | timeout ms => "Timed out after " ++ decimalText ms ++ " ms"
  | malformedReply v m => "Malformed vendor response from " ++ v ++ ": " ++ m
  | wordList s m => "Pattern build failed for source '" ++ s ++ "': " ++ m
  | backend m => "Upstream error: " ++ m
  | server m => "Server error: " ++ m
  | cancelled m => "Cancelled: " ++ m
  | json m => "JSON error: " ++ m
  | file m => "IO error: " ++ m

end Fault

end ModerationGateway
