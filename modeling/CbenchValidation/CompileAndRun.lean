import CbenchValidation.System

/-! `_compile_and_run_bitcode_file`: the iteration-count file, the sanitizer build
(skipped without a sanitizer, where `lli` interprets the bitcode), the benchmark run
under a timeout with the binary deleted in a `finally`, and the classification of a
non-zero exit. -/
namespace CbenchValidation

def compileArgs (darwin : Bool) : List String :=
  if darwin then ["-L","/Library/Developer/CommandLineTools/SDKs/MacOSX.sdk/usr/lib"] else []

def sanitizerFlags : LlvmSanitizer → List String
  | .asan => ["-O1","-g","-fsanitize=address","-fno-omit-frame-pointer"]
  | .tsan => ["-O1","-g","-fsanitize=thread"]
  | .msan => ["-O1","-g","-fsanitize=memory"]
  | .ubsan => ["-fsanitize=undefined"]

def baseRunEnv (environ : String → Option String) : Dict :=
  [("TMPDIR",(environ "TMPDIR").getD ""),("HOME",(environ "HOME").getD ""),
   ("USER",(environ "USER").getD ""),("GRPC_VERBOSITY","NONE")]

def finfoDataset (numRuns : ℕ) : Bytes := Utf8.encode (toString numRuns ++ "\n").data

/-- `stdout.decode("utf-8")`, and `"<binary>"` where that raises `UnicodeDecodeError`. -/
def decodeOutput (b : Bytes) : String :=
  match Utf8.decode b with
  | some cs => ⟨cs⟩
  | none => "<binary>"

/-- A run that prints a text is read back as that text. -/
theorem decodeOutput_encode (s : String) : decodeOutput (Utf8.encode s.data) = s := by
  simp [decodeOutput,Utf8.decode_encode]

/-- The error type of a run with a non-zero return code: the first branch of the
source's `if`/`elif` chain that matches. -/
def runtimeErrorType (sanitizer : Option LlvmSanitizer) (returncode : ℤ) (output : String) :
    String :=
  if sanitizer = some .asan ∧ Text.contains output "LeakSanitizer" then "Memory leak"
  else if sanitizer = some .asan ∧ Text.contains output "AddressSanitizer" then "Memory error"
  else if sanitizer = some .msan ∧ Text.contains output "MemorySanitizer" then "Memory error"
  else if Text.contains output "Segmentation fault" then "Segmentation fault"
  else if Text.contains output "Illegal Instruction" then "Illegal Instruction"
  else "Runtime error (" ++ toString returncode ++ ")"

def runResult (sanitizer : Option LlvmSanitizer) (errorData : List (String × Datum))
    (timeoutSeconds : ℕ) : Finished Bytes → BenchmarkExecutionResult
  | .timedOut =>
    { walltimeSeconds := timeoutSeconds
      error := some ⟨"Execution timeout",errorData ++ [("timeout_seconds",.int timeoutSeconds)]⟩ }
  | .exited code stdout elapsed =>
    if code ≠ 0 then
      { walltimeSeconds := elapsed
        error := some ⟨runtimeErrorType sanitizer code (decodeOutput stdout),
          errorData ++ [("return_code",.int code),("output",.str (decodeOutput stdout))]⟩ }
    else { walltimeSeconds := elapsed, output := some (decodeOutput stdout) }

/-- The `try`/`except subprocess.TimeoutExpired`/`finally` block that runs the benchmark;
the `finally` unlinks a sanitizer build's `a.out` on every way out of the block. -/
def execute (w : World) (role : Role) (p : Popen) (sanitizer : Option LlvmSanitizer)
    (errorData : List (String × Datum)) (timeoutSeconds : ℕ) : Py BenchmarkExecutionResult := do
  let r ← Py.tryFinally (Py.process (w.run role p) (.run role))
    (if sanitizer.isSome then Py.unlink "a.out" else pure ())
  pure (runResult sanitizer errorData timeoutSeconds r)

def compileError (errorData : List (String × Datum)) (timeoutSeconds compilationTimeoutSeconds : ℕ) :
    Finished String → BenchmarkExecutionResult
  | .timedOut =>
    { walltimeSeconds := timeoutSeconds
      error := some ⟨"Compilation timeout",errorData ++ [("timeout",.int compilationTimeoutSeconds)]⟩ }
  | .exited _ output _ =>
    { walltimeSeconds := timeoutSeconds
      error := some ⟨"Compilation failed",errorData ++ [("output",.str output)]⟩ }

def Finished.succeeded {σ : Type} : Finished σ → Bool
  | .exited code _ _ => code = 0
  | .timedOut => false

def sanitizedRunCmd (cmd : String) : String := Text.replace cmd "$BIN" "./a.out"

def lliRunCmd (lliPath cmd : String) : String :=
  Text.replace cmd "$BIN" (Text.pathName lliPath ++ " benchmark.bc")

def clangCommand (w : World) (cwd : String) (linkopts : List String) (san : LlvmSanitizer) :
    List String :=
  [Text.pathName w.clangPath,cwd ++ "/benchmark.bc","-o",cwd ++ "/a.out"] ++ compileArgs w.darwin ++
    linkopts ++ sanitizerFlags san

def clangPopen (w : World) (compileCmd : List String) : Popen :=
  ⟨.argv compileCmd,[("PATH",Text.pathParent w.clangPath ++ ":" ++ (w.environ "PATH").getD "")],none⟩

/-- The sanitizer build of `a.out`, from `assert not binary.is_file()` to
`assert binary.is_file()`; `some` carries the result the stage returns when the compiler
timed out or failed. -/
def buildBinary (w : World) (compileCmd : List String) (errorData : List (String × Datum))
    (timeoutSeconds compilationTimeoutSeconds : ℕ) : Py (Option BenchmarkExecutionResult) := do
  Py.assert !(← Py.isFile "a.out")
  let c ← Py.process (w.compile (clangPopen w compileCmd)) .compile
  if c.succeeded then do
    Py.assert (← Py.isFile "a.out")
    pure none
  else pure (some (compileError errorData timeoutSeconds compilationTimeoutSeconds c))

/-- `_compile_and_run_bitcode_file`; `role` is ghost data for the log. -/
def compileAndRunBitcodeFile (w : World) (role : Role) (cwd cmd : String)
    (linkopts : List String) (env : Dict) (numRuns : ℕ) (sanitizer : Option LlvmSanitizer)
    (timeoutSeconds : ℕ := 300) (compilationTimeoutSeconds : ℕ := 60) :
    Py BenchmarkExecutionResult := do
  Py.writeFile "_finfo_dataset" (finfoDataset numRuns)
  let runEnv := (baseRunEnv w.environ).update env
  match sanitizer with
  | some san =>
    let compileCmd := clangCommand w cwd linkopts san
    let errorData := [("run_cmd",.str (sanitizedRunCmd cmd)),("compile_cmd",.strs compileCmd)]
    match ← buildBinary w compileCmd errorData timeoutSeconds compilationTimeoutSeconds with
    | some failed => pure failed
    | none => execute w role ⟨.shell (sanitizedRunCmd cmd),runEnv,some cwd⟩ sanitizer errorData timeoutSeconds
  | none =>
    let runCmd := lliRunCmd w.lliPath cmd
    execute w role ⟨.shell runCmd,runEnv.set "PATH" (Text.pathParent w.lliPath),some cwd⟩ none
      [("run_cmd",.str runCmd)] timeoutSeconds

open Py

theorem run_buildBinary (w : World) (compileCmd : List String) (errorData : List (String × Datum))
    (ts cts : ℕ) (s : Sys) :
    (buildBinary w compileCmd errorData ts cts).run s =
      if (s.cwd "a.out").isSome then ⟨.error .assertion,s.cwd,[]⟩ else
      ⟨match (w.compile (clangPopen w compileCmd) s).1 with
        | .ok fin => if fin.succeeded then
            (if ((w.compile (clangPopen w compileCmd) s).2 "a.out").isSome then .ok none else .error .assertion)
          else .ok (some (compileError errorData ts cts fin))
        | .error e => .error e,
       (w.compile (clangPopen w compileCmd) s).2,[.compile (w.compile (clangPopen w compileCmd) s).1]⟩ := by
  by_cases ha : (s.cwd "a.out").isSome <;> simp [buildBinary,run_bind,ha]
  rcases (w.compile (clangPopen w compileCmd) s) with ⟨_ | fin,d⟩ <;> simp
  split_ifs <;> simp_all

theorem run_execute (w : World) (role : Role) (p : Popen) (san : Option LlvmSanitizer)
    (errorData : List (String × Datum)) (ts : ℕ) (s : Sys) :
    (execute w role p san errorData ts).run s =
      ⟨if san.isSome ∧ (w.run role p s).2 "a.out" = none then .error (.fileNotFound "a.out")
        else runResult san errorData ts <$> (w.run role p s).1,
       if san.isSome then Function.update (w.run role p s).2 "a.out" none else (w.run role p s).2,
       .run role (w.run role p s).1 :: if san.isSome then [.unlink "a.out"] else []⟩ := by
  rcases h : (w.run role p s) with ⟨_ | fin, d⟩ <;> cases san <;> 
    simp [execute, run_bind, h] <;> split_ifs <;> simp_all [Except.map]

@[simp] theorem runResult_exited_zero (san : Option LlvmSanitizer) (ed : List (String × Datum)) (ts : ℕ)
    (out : Bytes) (t : ℕ) : runResult san ed ts (.exited 0 out t) = { walltimeSeconds := t, output := some (decodeOutput out) } := by
  simp [runResult]

theorem runResult_error_eq_none {san : Option LlvmSanitizer} {ed : List (String × Datum)} {ts : ℕ}
    {fin : Finished Bytes} : (runResult san ed ts fin).error = none ↔ ∃ o t, fin = .exited 0 o t := by
  cases fin <;> simp [runResult]; split_ifs <;> simp_all

theorem execute_ok (w : World) (role : Role) (p : Popen) (san : Option LlvmSanitizer)
    (ed : List (String × Datum)) (ts : ℕ) (s : Sys) {res : BenchmarkExecutionResult}
    (h : ((execute w role p san ed ts).run s).result = .ok res) (he : res.error = none) :
    ∃ o t, (w.run role p s).1 = .ok (.exited 0 o t) := by
  rw [run_execute] at h
  simp only at h
  split_ifs at h
  rcases hr : (w.run role p s).1 with _ | fin <;> rw [hr] at h <;> cases h
  exact (runResult_error_eq_none.mp he).imp fun o ⟨t,ht⟩ => ⟨t,ht ▸ rfl⟩

theorem compileError_error (ed : List (String × Datum)) (ts cts : ℕ) (c : Finished String) :
    (compileError ed ts cts c).error ≠ none := by
  cases c <;> simp [compileError]

theorem buildBinary_failed {w : World} {compileCmd : List String} {ed : List (String × Datum)}
    {ts cts : ℕ} {s : Sys} {failed : BenchmarkExecutionResult}
    (h : ((buildBinary w compileCmd ed ts cts).run s).result = .ok (some failed)) : failed.error ≠ none := by
  rw [run_buildBinary] at h
  rcases hc : w.compile (clangPopen w compileCmd) s with ⟨_ | fin,d⟩ <;>
    simp only [hc] at h <;> split_ifs at h <;> simp at h
  exact h ▸ compileError_error _ _ _ _

theorem run_compileAndRun_some (w : World) (role : Role) (cwd cmd : String) (linkopts : List String)
    (env : Dict) (numRuns : ℕ) (san : LlvmSanitizer) (ts cts : ℕ) (s : Sys) :
    (compileAndRunBitcodeFile w role cwd cmd linkopts env numRuns (some san) ts cts).run s =
      let s1 : Sys := ⟨Function.update s.cwd "_finfo_dataset" (some (finfoDataset numRuns)),
        s.log ++ [.writeFile "_finfo_dataset"]⟩
      let ed := [("run_cmd",.str (sanitizedRunCmd cmd)),("compile_cmd",.strs (clangCommand w cwd linkopts san))]
      let b := (buildBinary w (clangCommand w cwd linkopts san) ed ts cts).run s1
      match b.result with
      | .ok none =>
        let x := (execute w role ⟨.shell (sanitizedRunCmd cmd),(baseRunEnv w.environ).update env,some cwd⟩
          (some san) ed ts).run (s1.after b)
        ⟨x.result,x.cwd,.writeFile "_finfo_dataset" :: (b.events ++ x.events)⟩
      | .ok (some failed) => ⟨.ok failed,b.cwd,.writeFile "_finfo_dataset" :: b.events⟩
      | .error e => ⟨.error e,b.cwd,.writeFile "_finfo_dataset" :: b.events⟩ := by
  simp only [compileAndRunBitcodeFile,run_bind,run_writeFile,after_mk]
  generalize (buildBinary _ _ _ _ _).run _ = b
  rcases b with ⟨_ | _ | failed,d,es⟩ <;> simp


theorem buildBinary_events (w : World) (compileCmd : List String) (ed : List (String × Datum))
    (ts cts : ℕ) (s : Sys) :
    ((buildBinary w compileCmd ed ts cts).run s).events = [] ∨
      ∃ c, ((buildBinary w compileCmd ed ts cts).run s).events = [.compile c] := by
  rw [run_buildBinary]; split_ifs <;> simp

theorem buildBinary_compiled {w : World} {compileCmd : List String} {ed : List (String × Datum)}
    {ts cts : ℕ} {s : Sys} {out : String} {t : ℕ}
    (h : .compile (.ok (.exited 0 out t)) ∈ ((buildBinary w compileCmd ed ts cts).run s).events) :
    ((buildBinary w compileCmd ed ts cts).run s).result = .ok none ∧
        (((buildBinary w compileCmd ed ts cts).run s).cwd "a.out").isSome ∨
      ((buildBinary w compileCmd ed ts cts).run s).result = .error .assertion ∧
        ((buildBinary w compileCmd ed ts cts).run s).cwd "a.out" = none := by
  rw [run_buildBinary] at h ⊢
  by_cases ha : (s.cwd "a.out").isSome
  · simp [ha] at h
  · simp only [ha,Bool.false_eq_true,if_false,List.mem_singleton,Event.compile.injEq] at h ⊢
    rw [← h]
    by_cases hb : ((w.compile (clangPopen w compileCmd) s).2 "a.out").isSome <;>
      simp_all [Finished.succeeded,Option.not_isSome_iff_eq_none]

theorem run_compileAndRun_none (w : World) (role : Role) (cwd cmd : String) (linkopts : List String)
    (env : Dict) (numRuns : ℕ) (ts cts : ℕ) (s : Sys) :
    (compileAndRunBitcodeFile w role cwd cmd linkopts env numRuns none ts cts).run s =
      let x := (execute w role ⟨.shell (lliRunCmd w.lliPath cmd),
        ((baseRunEnv w.environ).update env).set "PATH" (Text.pathParent w.lliPath),some cwd⟩ none
        [("run_cmd",.str (lliRunCmd w.lliPath cmd))] ts).run
        ⟨Function.update s.cwd "_finfo_dataset" (some (finfoDataset numRuns)),s.log ++ [.writeFile "_finfo_dataset"]⟩
      ⟨x.result,x.cwd,.writeFile "_finfo_dataset" :: x.events⟩ := by
  simp [compileAndRunBitcodeFile,run_bind]

theorem compileAndRun_events (w : World) (role : Role) (cwd cmd : String) (linkopts : List String)
    (env : Dict) (numRuns : ℕ) (sanitizer : Option LlvmSanitizer) (ts cts : ℕ) (s : Sys) :
    ∃ pre post, ((compileAndRunBitcodeFile w role cwd cmd linkopts env numRuns sanitizer ts cts).run s).events =
        .writeFile "_finfo_dataset" :: (pre ++ post) ∧ (pre = [] ∨ ∃ c, pre = [.compile c]) ∧
      (post = [] ∨ ∃ r, post = .run role r :: if sanitizer.isSome then [.unlink "a.out"] else []) := by
  cases sanitizer with
  | none => exact ⟨[],_,by rw [run_compileAndRun_none,run_execute]; rfl,.inl rfl,.inr ⟨_,rfl⟩⟩
  | some san =>
    rw [run_compileAndRun_some]
    simp only
    split
    · exact ⟨_,_,rfl,buildBinary_events ..,.inr ⟨_,by rw [run_execute]⟩⟩
    all_goals exact ⟨_,[],by rw [List.append_nil],buildBinary_events ..,.inl rfl⟩

theorem compileAndRun_ok (w : World) (role : Role) (cwd cmd : String) (linkopts : List String)
    (env : Dict) (numRuns : ℕ) (sanitizer : Option LlvmSanitizer) (ts cts : ℕ) (s : Sys)
    {res : BenchmarkExecutionResult}
    (h : ((compileAndRunBitcodeFile w role cwd cmd linkopts env numRuns sanitizer ts cts).run s).result = .ok res)
    (he : res.error = none) :
    ∃ out t, .run role (.ok (.exited 0 out t)) ∈
      ((compileAndRunBitcodeFile w role cwd cmd linkopts env numRuns sanitizer ts cts).run s).events := by
  cases sanitizer with
  | none =>
    rw [run_compileAndRun_none] at h ⊢
    obtain ⟨o,t,hr⟩ := execute_ok w role _ none _ ts _ h he
    exact ⟨o,t,List.mem_cons_of_mem _ (by rw [run_execute,hr]; exact List.mem_cons_self _ _)⟩
  | some san =>
    rw [run_compileAndRun_some] at h ⊢
    simp only at h ⊢
    split at h
    · rename_i hb
      simp only [hb]
      obtain ⟨o,t,hr⟩ := execute_ok w role _ _ _ ts _ h he
      refine ⟨o,t,List.mem_cons_of_mem _ (List.mem_append_right _ ?_)⟩
      rw [run_execute,hr]
      exact List.mem_cons_self _ _
    · cases h
      exact absurd he (buildBinary_failed ‹_›)
    · cases h

/-- Once the compiler has exited 0, the sanitizer stage ends with no `a.out` in the
working directory, whichever way it ends. -/
theorem compileAndRun_binary_removed (w : World) (role : Role) (cwd cmd : String)
    (linkopts : List String) (env : Dict) (numRuns : ℕ) (san : LlvmSanitizer) (ts cts : ℕ) (s : Sys)
    {out : String} {t : ℕ} (h : .compile (.ok (.exited 0 out t)) ∈
      ((compileAndRunBitcodeFile w role cwd cmd linkopts env numRuns (some san) ts cts).run s).events) :
    ((compileAndRunBitcodeFile w role cwd cmd linkopts env numRuns (some san) ts cts).run s).cwd "a.out" = none := by
  rw [run_compileAndRun_some] at h ⊢
  simp only at h ⊢
  split at h <;> rename_i hres <;> simp only [hres]
  · rw [run_execute]
    simp
  all_goals
    simp only [List.mem_cons,reduceCtorEq,false_or] at h
    rcases buildBinary_compiled h with ⟨hok,-⟩ | ⟨-,hcwd⟩
    · simp [hok] at hres
    · exact hcwd

end CbenchValidation
