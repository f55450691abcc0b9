import CbenchValidation.Text
import CbenchValidation.Utf8
import CbenchValidation.System
import CbenchValidation.CompileAndRun
import CbenchValidation.Validator
import CbenchValidation.Trace
import CbenchValidation.Flaky
import CbenchValidation.ShaOutput
import CbenchValidation.Registry
import CbenchValidation.Scenario
import CbenchValidation.Reference
import CbenchValidation.Verdict
import CbenchValidation.Download
