import CbenchValidation.CompileAndRun

/-! `_make_cBench_validator.validator_cb`: one validation attempt. It runs the guarded
runtime-data download, checks the required inputs, and in a fresh temporary directory
runs the gold standard (an unmodified fork of the environment, built with `-O2` and no
sanitizer) when console or file comparison is asked for, moves its output files aside,
runs the candidate, calls the result hook, and difftests the console and the files. -/
namespace CbenchValidation

/-- The arguments `_make_cBench_validator` closes over. -/
structure Config where
  cmd : String
  linkopts : List String
  osEnv : Dict
  numRuns : ℕ := 1
  compareOutput : Bool := true
  inputFiles : List String := []
  outputFiles : List String := []
  validateResult : Option (BenchmarkExecutionResult → Except Exc (Option String)) := none
  preExecutionCallback : Option (Dir → Except Exc Dir) := none
  sanitizer : Option LlvmSanitizer := none
  flakiness : ℤ := 5

def Config.needsGoldStandard (cfg : Config) : Bool := cfg.compareOutput || !cfg.outputFiles.isEmpty

def goldStandardName (f : String) : String := f ++ ".gold_standard"

def pipelineFiles : List String := ["benchmark.bc","_finfo_dataset","a.out"]

/-- Declared output names that `cwd / o` leaves as they are and that cannot be confused
with each other, with a gold-standard copy, or with the pipeline's own files. -/
structure OutputNamesOk (outs : List String) : Prop where
  normal : ∀ f ∈ outs, Text.NormalName f
  nodup : outs.Nodup
  notGoldCopy : ∀ f ∈ outs, ∀ g ∈ outs, f ≠ goldStandardName g
  notPipeline : ∀ f ∈ outs, f ∉ pipelineFiles

instance (outs : List String) : Decidable (OutputNamesOk outs) :=
  decidable_of_iff (_ ∧ _ ∧ _ ∧ _) ⟨fun ⟨a,b,c,d⟩ => ⟨a,b,c,d⟩,fun ⟨a,b,c,d⟩ => ⟨a,b,c,d⟩⟩

def expandCommand (cmd cbenchData : String) : String := Text.replace cmd "$D" cbenchData

def pyStr : Option String → String
  | some s => s
  | none => "None"

def Datum.ofOption : Option String → Datum
  | some s => .str s
  | none => .null

def checkInputs (w : World) : List String → Py Unit
  | [] => pure ()
  | f::fs =>
    if w.runtimeData f then checkInputs w fs
    else Py.raise (.fileNotFound ("Required benchmark input not found: " ++ w.cbenchData ++ "/" ++ f))

def writeBitcode (w : World) (role : Role) : Py Unit := do
  Py.call (.writeBitcode role) (w.writeBitcode role)
  Py.writeFile "benchmark.bc" (w.bitcode role)

/-- The `try` block of the gold standard: reset the fork to the original benchmark, write
its bitcode, and build and run it with `-O2` and no sanitizer. -/
def goldStandardBody (w : World) (cfg : Config) (cwd expandedCommand : String) :
    Py BenchmarkExecutionResult := do
  Py.call .reset w.reset
  writeBitcode w .goldStandard
  compileAndRunBitcodeFile w .goldStandard cwd expandedCommand (cfg.linkopts ++ ["-O2"]) cfg.osEnv 1 none

/-- `gs_env = env.fork()` and the `try`/`finally gs_env.close()` around the gold-standard
run. The source returns the gold standard's error from inside the `try`; returning it
after `close`, as `validateIn` does, is the same. -/
def goldStandardRun (w : World) (cfg : Config) (cwd expandedCommand : String) :
    Py BenchmarkExecutionResult := do
  Py.call .fork w.fork
  Py.tryFinally (goldStandardBody w cfg cwd expandedCommand) (Py.call .close w.close)

def moveGoldStandardOutputs (w : World) (cfg : Config) (gold : BenchmarkExecutionResult) :
    List String → Py Unit
  | [] => pure ()
  | f::fs => do
    if ← Py.isFile f then
      Py.rename f (goldStandardName f)
      moveGoldStandardOutputs w cfg gold fs
    else Py.raise (.fileNotFound ("Expected file '" ++ Text.pathName f ++ "' not generated\n" ++
      "Benchmark: " ++ w.benchmark ++ "\n" ++ "Command: " ++ cfg.cmd ++ "\n" ++
      "Output: " ++ pyStr gold.output))

/-- `if validate_result: validate_result(outcome)`; the value returned is dropped. -/
def runValidateResult (cfg : Config) (outcome : BenchmarkExecutionResult) : Py Unit :=
  match cfg.validateResult with
  | none => pure ()
  | some f => do
    let _diagnostic ← Py.call .hook fun _ => f outcome

def difftestOutputs (w : World) (cwd cmd : String) : List String → Py (Option ValidationError)
  | [] => pure none
  | f::fs => do
    if !(← Py.isFile f) then
      pure (some ⟨"Output not generated",[("path",.str (Text.pathName f)),("command",.str cmd)]⟩)
    else do
      Py.emit (.diff f)
      let r ← Py.ofExcept (w.diff ["diff",cwd ++ "/" ++ f,cwd ++ "/" ++ goldStandardName f] (← Py.get))
      if r.1 ≠ 0 then
        pure (some ⟨"Wrong output (file)",
          [("path",.str (Text.pathName f)),("diff",.str (decodeOutput r.2))]⟩)
      else difftestOutputs w cwd cmd fs

def candidateRun (w : World) (cfg : Config) (cwd expandedCommand : String)
    (gold : Option BenchmarkExecutionResult) : Py (Option ValidationError) := do
  writeBitcode w .candidate
  let outcome ← compileAndRunBitcodeFile w .candidate cwd expandedCommand cfg.linkopts cfg.osEnv
    cfg.numRuns cfg.sanitizer
  match outcome.error with
  | some e => pure (some e)
  | none => do
    runValidateResult cfg outcome
    if cfg.compareOutput && gold.bind (·.output) != outcome.output then
      pure (some ⟨"Wrong output",
        [("expected",.ofOption (gold.bind (·.output))),("actual",.ofOption outcome.output)]⟩)
    else difftestOutputs w cwd cfg.cmd cfg.outputFiles

def preExecution (cfg : Config) : Py Unit :=
  match cfg.preExecutionCallback with
  | some f => Py.onDir .preExecution f
  | none => pure ()

def goldThenCandidate (w : World) (cfg : Config) (cwd expandedCommand : String) :
    Py (Option ValidationError) := do
  let gold ← goldStandardRun w cfg cwd expandedCommand
  match gold.error with
  | some e => pure (some ⟨"Gold standard: " ++ e.type,e.data⟩)
  | none => do
    moveGoldStandardOutputs w cfg gold cfg.outputFiles
    candidateRun w cfg cwd expandedCommand (some gold)

/-- The body of `with tempfile.TemporaryDirectory(...) as d`. -/
def validateIn (w : World) (cfg : Config) (cwd : String) : Py (Option ValidationError) := do
  let expandedCommand := expandCommand cfg.cmd w.cbenchData
  preExecution cfg
  if cfg.needsGoldStandard then goldThenCandidate w cfg cwd expandedCommand
  else candidateRun w cfg cwd expandedCommand none

/-- `validator_cb(env)`. -/
def validatorCb (w : World) (cfg : Config) : Py (Option ValidationError) := do
  Py.call .download w.download
  checkInputs w cfg.inputFiles
  let d ← Py.makeTemp w.makeTemp
  Py.tryFinally (validateIn w cfg d) Py.removeTemp

open Py

theorem run_writeBitcode (w : World) (role : Role) (s : Sys) :
    (writeBitcode w role).run s = match w.writeBitcode role s with
      | .ok _ => ⟨.ok (),Function.update s.cwd "benchmark.bc" (some (w.bitcode role)),
          [.call (.writeBitcode role) true,.writeFile "benchmark.bc"]⟩
      | .error e => ⟨.error e,s.cwd,[.call (.writeBitcode role) false]⟩ := by
  rcases h : w.writeBitcode role s with _ | _ <;> simp [writeBitcode,run_bind,h,Except.toBool]

theorem run_checkInputs (w : World) (fs : List String) (s : Sys) :
    ((checkInputs w fs).run s).events = [] ∧ ((checkInputs w fs).run s).cwd = s.cwd ∧
      (((checkInputs w fs).run s).result = .ok () ↔ ∀ f ∈ fs, w.runtimeData f) := by
  induction fs with
  | nil => simp [checkInputs]
  | cons f fs ih =>
    by_cases hf : w.runtimeData f
    · simpa [checkInputs,hf] using ih
    · simp [checkInputs,hf]

end CbenchValidation
