import ModerationGateway.Breaker.Basic
import ModerationGateway.Config.Rule
import ModerationGateway.Moderation.Verdict
import ModerationGateway.Text.Blank
import ModerationGateway.Text.Quoted

/-!
# Checkers and where they are found

* `Checker`: a vendor's name and how it answers. Answering is work that takes time and may change
  the world of the checkers, of type `σ`;
* `CheckerRegistry`: checkers by name. Case and blanks around a name do not count, and no name
  means the default vendor.
-/

namespace ModerationGateway.Moderation

open ModerationGateway.Breaker

variable {σ : Type}

/-- A vendor and how it answers questions under the settings of a rule. -/
structure Checker (σ : Type) where
  vendor : String
  check : ContentSecurity → Question → σ → Work Fault Verdict × σ

/-- A checker whose world is a part of a larger one. -/
def Checker.within {τ : Type} (get : τ → σ) (set : σ → τ → τ) (c : Checker σ) : Checker τ where
  vendor := c.vendor
  check settings q t :=
    let (work, s) := c.check settings q (get t)
    (work, set s t)

/-- Checkers by lower-case name, in the order of the names. -/
structure CheckerRegistry (σ : Type) where
  entries : List (String × Checker σ)

namespace CheckerRegistry

/-- The registry without checkers. -/
def empty : CheckerRegistry σ := ⟨[]⟩

/-- The vendor that is meant by no name. -/
def defaultVendor : String := "zkrj"

/-- Put a checker into entries that are sorted by name. -/
def place (name : String) (c : Checker σ) : List (String × Checker σ) → List (String × Checker σ)
  | [] => [(name, c)]
  | (other, old) :: rest =>
    if name = other then (name, c) :: rest
    else if name < other then (name, c) :: (other, old) :: rest
    else (other, old) :: place name c rest

/-- Register a checker under its name. An earlier one of that name is replaced. -/
def register (r : CheckerRegistry σ) (c : Checker σ) : CheckerRegistry σ :=
  ⟨place (Text.lowerAscii c.vendor) c r.entries⟩

/-- The names, sorted. -/
def vendors (r : CheckerRegistry σ) : List String := r.entries.map (·.1)

/-- The name that is meant. -/
def meant (vendor : String) : String :=
  let name := Text.trimmed vendor
  if name.isEmpty then defaultVendor else Text.lowerAscii name

/-- The checker of a name. -/
def get (r : CheckerRegistry σ) (vendor : String) : Except Fault (Checker σ) :=
  match r.entries.lookup (meant vendor) with
  | some c => .ok c
  | none => .error (.unsupportedVendor (meant vendor) (", ".intercalate r.vendors))

/-- The registry as it is shown to an operator. -/
def describe (r : CheckerRegistry σ) : String :=
  "CheckerRegistry \x7b vendors: " ++ Text.shownList r.vendors ++ ", default_vendor: " ++
    Text.shown defaultVendor ++ " \x7d"

end CheckerRegistry

end ModerationGateway.Moderation
