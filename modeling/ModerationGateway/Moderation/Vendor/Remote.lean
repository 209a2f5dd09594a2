import ModerationGateway.Http.Client
import ModerationGateway.Moderation.Checker
import ModerationGateway.Moderation.Vendor.Shumei
import ModerationGateway.Moderation.Vendor.Zkrj

/-!
# Vendors over a network

* `remote`: the checker of a vendor that is asked by one document and answers by another;
* `CheckerRegistry.vendorsOver`: both vendors.
-/

namespace ModerationGateway.Moderation

open ModerationGateway.Http

variable {σ : Type}

/-- A vendor that is sent a document and answers by one. -/
def remote (exchange : Exchange σ) (vendor : String)
    (requestBody : ContentSecurity → Question → Json)
    (interpret : Json → Phase → Except Fault Verdict) : Checker σ where
  vendor := vendor
  check c q s :=
    match postJson exchange c.url (requestBody c q) s with
    | (.error failure, s) => (.atOnce (.error (.vendorUnreachable failure.message)), s)
    | (.ok reply, s) => (.atOnce (interpret reply q.phase), s)

/-- The vendor `zkrj`. -/
def Zkrj.checker (exchange : Exchange σ) : Checker σ :=
  remote exchange Zkrj.vendor Zkrj.requestBody Zkrj.interpret

/-- The vendor `shumei`, whose replies do not depend on the phase. -/
def Shumei.checker (exchange : Exchange σ) : Checker σ :=
  remote exchange Shumei.vendor Shumei.requestBody fun reply _ => Shumei.interpret reply

/-- The registry of both vendors. -/
def CheckerRegistry.vendorsOver (exchange : Exchange σ) : CheckerRegistry σ :=
  (CheckerRegistry.empty.register (Zkrj.checker exchange)).register (Shumei.checker exchange)

end ModerationGateway.Moderation
