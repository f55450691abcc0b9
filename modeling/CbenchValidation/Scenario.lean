import CbenchValidation.Validator

/-! # Scenarios of one attempt

A scenario fixes what the processes of one attempt do: how the gold-standard and the
candidate benchmark runs finish and the files each leaves, and what the sanitizer build's
compiler does. Every other collaborator returns normally and `diff` compares the two files
it is given. In such a world the log is ghost data: each stage's result and directory are
functions of the directory it starts from, as the stage lemmas below state. -/
namespace CbenchValidation

/-- What one benchmark process does: how it finishes, and for each name `none` when it
leaves that file as it was, `some none` when it deletes it, `some (some b)` when it leaves
the bytes `b`. -/
structure RunBehaviour where
  finished : Finished Bytes
  writes : String → Option (Option Bytes)

namespace RunBehaviour

def apply (r : RunBehaviour) (d : Dir) : Dir := fun f => (r.writes f).getD (d f)

/-- What a run leaves at a name that was not a file before it. -/
def leaves (r : RunBehaviour) (f : String) : Option Bytes := (r.writes f).getD none

def Exits0 (r : RunBehaviour) : Prop := ∃ out t, r.finished = .exited 0 out t

end RunBehaviour

structure Scenario where
  goldStandard : RunBehaviour
  candidate : RunBehaviour
  /-- How the sanitizer build's compiler finishes, and the `a.out` it leaves. -/
  compiled : Finished String
  binary : Option Bytes

def Scenario.behaviour (sc : Scenario) : Role → RunBehaviour
  | .goldStandard => sc.goldStandard
  | .candidate => sc.candidate

def relName (tmp p : String) : String := ⟨p.data.drop (tmp.length + 1)⟩

/-- `diff a b` on two files of the working directory `tmp`: 0 and no output when both are
files with the same bytes, otherwise 1 when they differ and 2 when one is missing, with
what `out` prints for them. -/
def diffIn (tmp : String) (out : String → String → Option Bytes → Option Bytes → Bytes) :
    List String → Sys → Except Exc (ℤ × Bytes)
  | [_,a,b], s =>
    match s.cwd (relName tmp a),s.cwd (relName tmp b) with
    | some x, some y => .ok (if x = y then (0,[]) else (1,out a b (some x) (some y)))
    | x, y => .ok (2,out a b x y)
  | _, _ => .error (.other "diff")

/-- The world of a scenario whose temporary directory is `tmp`. -/
def Scenario.world (sc : Scenario) (w : World) (tmp : String) : World :=
  { w with
    download := fun _ => .ok ()
    makeTemp := fun _ => .ok tmp
    fork := fun _ => .ok ()
    reset := fun _ => .ok ()
    writeBitcode := fun _ _ => .ok ()
    close := fun _ => .ok ()
    compile := fun _ s => (.ok sc.compiled,Function.update s.cwd "a.out" sc.binary)
    run := fun role _ s => (.ok (sc.behaviour role).finished,(sc.behaviour role).apply s.cwd)
    diff := diffIn tmp w.diffOutput }

def Scenario.goldStandardResult (sc : Scenario) (w : World) (cmd : String) : BenchmarkExecutionResult :=
  runResult none [("run_cmd",.str (lliRunCmd w.lliPath cmd))] 300 sc.goldStandard.finished

def Scenario.goldStandardDir (sc : Scenario) (w : World) (d : Dir) : Dir :=
  sc.goldStandard.apply (Function.update (Function.update d "benchmark.bc" (some (w.bitcode .goldStandard)))
    "_finfo_dataset" (some (finfoDataset 1)))

/-- The sanitizer build goes through from the directory `d`: no `a.out` yet, a compiler
that exits 0 and leaves the binary, and a candidate run that does not delete it. -/
def Scenario.Builds (sc : Scenario) (san : Option LlvmSanitizer) (d : Dir) : Prop :=
  san.isSome → d "a.out" = none ∧ sc.compiled.succeeded ∧ sc.binary.isSome ∧ sc.candidate.writes "a.out" ≠ some none

/-- The result hook returns normally on every result that carries output. -/
def Config.HookReturns (cfg : Config) : Prop :=
  ∀ h ∈ cfg.validateResult, ∀ r : BenchmarkExecutionResult, r.output.isSome → ∃ v, h r = .ok v

open Py

theorem ne_of_not_mem_pipelineFiles {g : String} (hg : g ∉ pipelineFiles) :
    g ≠ "benchmark.bc" ∧ g ≠ "_finfo_dataset" ∧ g ≠ "a.out" := by
  simpa [pipelineFiles] using hg

/-- The directory once each of `outs` has been renamed to its gold-standard name. -/
def movedOutputs (d : Dir) : List String → Dir
  | [] => d
  | f::fs => movedOutputs (Function.update (Function.update d (goldStandardName f) (d f)) f none) fs

theorem OutputNamesOk.tail {f : String} {fs : List String} (h : OutputNamesOk (f::fs)) : OutputNamesOk fs :=
  ⟨fun a ha => h.normal a (List.mem_cons_of_mem f ha),(List.nodup_cons.mp h.nodup).2,
    fun a ha b hb => h.notGoldCopy a (List.mem_cons_of_mem f ha) b (List.mem_cons_of_mem f hb),
    fun a ha => h.notPipeline a (List.mem_cons_of_mem f ha)⟩

theorem OutputNamesOk.update_other {f : String} {fs : List String} (h : OutputNamesOk (f::fs)) (d : Dir)
    {g : String} (hg : g ∈ fs) :
    Function.update (Function.update d (goldStandardName f) (d f)) f none g = d g := by
  have hgf : g ≠ f := fun e => (List.nodup_cons.mp h.nodup).1 (e ▸ hg)
  have hgg : g ≠ goldStandardName f := h.notGoldCopy g (List.mem_cons_of_mem f hg) f (List.mem_cons_self f fs)
  simp [Function.update_noteq hgf,Function.update_noteq hgg]

theorem run_moveGoldStandardOutputs (w : World) (cfg : Config) (gold : BenchmarkExecutionResult)
    {outs : List String} (h : OutputNamesOk outs) (s : Sys) :
    (((moveGoldStandardOutputs w cfg gold outs).run s).result = .ok () ↔ ∀ f ∈ outs, (s.cwd f).isSome) ∧
      (((moveGoldStandardOutputs w cfg gold outs).run s).result = .ok () →
        ((moveGoldStandardOutputs w cfg gold outs).run s).cwd = movedOutputs s.cwd outs) := by
  induction outs generalizing s with
  | nil => simp [moveGoldStandardOutputs,movedOutputs]
  | cons f fs ih =>
    by_cases hf : (s.cwd f).isSome
    · obtain ⟨ih1,ih2⟩ := ih h.tail ⟨Function.update (Function.update s.cwd (goldStandardName f) (s.cwd f)) f none,
        s.log ++ [.rename f (goldStandardName f)]⟩
      simp only [moveGoldStandardOutputs,result_bind,cwd_bind,run_isFile,hf,if_true,run_rename,after_mk,List.append_nil]
      refine ⟨?_,fun hr => by simpa [movedOutputs] using ih2 hr⟩
      rw [ih1]
      simp only [List.mem_cons,forall_eq_or_imp,hf,true_and]
      exact forall₂_congr fun g hg => by rw [h.update_other s.cwd hg]
    · simp [moveGoldStandardOutputs,hf]

theorem run_runValidateResult (cfg : Config) (outcome : BenchmarkExecutionResult) (s : Sys) :
    ((runValidateResult cfg outcome).run s).cwd = s.cwd ∧
      (((runValidateResult cfg outcome).run s).result = .ok () ↔ ∀ h ∈ cfg.validateResult, ∃ v, h outcome = .ok v) := by
  rcases hv : cfg.validateResult with _ | h
  · simp [runValidateResult,hv]
  · rcases hh : h outcome with e | v <;> simp [runValidateResult,hv,hh]

theorem validateIn_noHook (w : World) (cfg : Config) (cwd : String) (s : Sys) (h : cfg.preExecutionCallback = none) :
    ((validateIn w cfg cwd).run s).result =
      ((if cfg.needsGoldStandard then goldThenCandidate w cfg cwd (expandCommand cfg.cmd w.cbenchData)
        else candidateRun w cfg cwd (expandCommand cfg.cmd w.cbenchData) none).run s).result := by
  simp [validateIn,preExecution,h]

section World

variable (sc : Scenario) (w : World) (tmp : String)

@[simp] theorem world_download : (sc.world w tmp).download = fun _ => .ok () := rfl
@[simp] theorem world_makeTemp : (sc.world w tmp).makeTemp = fun _ => .ok tmp := rfl
@[simp] theorem world_fork : (sc.world w tmp).fork = fun _ => .ok () := rfl
@[simp] theorem world_reset : (sc.world w tmp).reset = fun _ => .ok () := rfl
@[simp] theorem world_writeBitcode : (sc.world w tmp).writeBitcode = fun _ _ => .ok () := rfl
@[simp] theorem world_close : (sc.world w tmp).close = fun _ => .ok () := rfl
@[simp] theorem world_compile (p : Popen) (s : Sys) :
    (sc.world w tmp).compile p s = (.ok sc.compiled,Function.update s.cwd "a.out" sc.binary) := rfl
@[simp] theorem world_run (role : Role) (p : Popen) (s : Sys) :
    (sc.world w tmp).run role p s = (.ok (sc.behaviour role).finished,(sc.behaviour role).apply s.cwd) := rfl
@[simp] theorem world_diff : (sc.world w tmp).diff = diffIn tmp w.diffOutput := rfl
@[simp] theorem world_bitcode : (sc.world w tmp).bitcode = w.bitcode := rfl
@[simp] theorem world_runtimeData : (sc.world w tmp).runtimeData = w.runtimeData := rfl
@[simp] theorem world_lliPath : (sc.world w tmp).lliPath = w.lliPath := rfl


theorem goldStandardRun_scenario (cfg : Config) (cwd cmd : String) (s : Sys) :
    ((goldStandardRun (sc.world w tmp) cfg cwd cmd).run s).result = .ok (sc.goldStandardResult w cmd) ∧
      ((goldStandardRun (sc.world w tmp) cfg cwd cmd).run s).cwd = sc.goldStandardDir w s.cwd := by
  simp [goldStandardRun,goldStandardBody,run_writeBitcode,run_compileAndRun_none,run_execute,Scenario.behaviour,
    Scenario.goldStandardResult,Scenario.goldStandardDir]

theorem goldStandardDir_empty {f : String} (h1 : f ≠ "benchmark.bc") (h2 : f ≠ "_finfo_dataset") :
    sc.goldStandardDir w (fun _ => none) f = sc.goldStandard.leaves f := by
  simp [Scenario.goldStandardDir,RunBehaviour.apply,RunBehaviour.leaves,h1,h2]

theorem goldStandardResult_error (cmd : String) :
    (sc.goldStandardResult w cmd).error = none ↔ sc.goldStandard.Exits0 := runResult_error_eq_none

theorem compileAndRun_candidate_builds (cwd cmd : String) (linkopts : List String) (env : Dict) (numRuns : ℕ)
    (san : Option LlvmSanitizer) (s : Sys) (hB : sc.Builds san s.cwd) :
    (∃ ed, ((compileAndRunBitcodeFile (sc.world w tmp) .candidate cwd cmd linkopts env numRuns san).run s).result =
        .ok (runResult san ed 300 sc.candidate.finished)) ∧
      ∀ g ∉ pipelineFiles,
        ((compileAndRunBitcodeFile (sc.world w tmp) .candidate cwd cmd linkopts env numRuns san).run s).cwd g =
          sc.candidate.apply s.cwd g := by
  cases san with
  | none =>
    simp only [run_compileAndRun_none,run_execute,world_run,Scenario.behaviour]
    refine ⟨⟨_,by simp; rfl⟩,fun g hg => ?_⟩
    simp [RunBehaviour.apply,(ne_of_not_mem_pipelineFiles hg).2.1]
  | some san =>
    obtain ⟨ha,hc,hb,hw⟩ := hB rfl
    obtain ⟨bin,hbin⟩ := Option.isSome_iff_exists.mp hb
    have hfa : ("a.out" : String) ≠ "_finfo_dataset" := by decide
    have hw' : (sc.candidate.writes "a.out").getD (some bin) ≠ none := by
      cases h : sc.candidate.writes "a.out" <;> simp_all
    simp [run_compileAndRun_some,run_buildBinary,run_execute,Scenario.behaviour,hfa,ha,hc,hbin,RunBehaviour.apply,hw']
    refine ⟨⟨_,rfl⟩,fun g hg => ?_⟩
    obtain ⟨-,h2,h3⟩ := ne_of_not_mem_pipelineFiles hg
    simp [RunBehaviour.apply,h2,h3]

theorem candidateRun_scenario_exits (cfg : Config) (cmd : String) (gold : Option BenchmarkExecutionResult)
    (s : Sys) (hB : sc.Builds cfg.sanitizer s.cwd) (hh : cfg.HookReturns) {out : Bytes} {t : ℕ}
    (hc : sc.candidate.finished = .exited 0 out t) :
    ∃ s' : Sys, (∀ g ∉ pipelineFiles, s'.cwd g = sc.candidate.apply s.cwd g) ∧
      ((candidateRun (sc.world w tmp) cfg tmp cmd gold).run s).result =
        if cfg.compareOutput && gold.bind (·.output) != some (decodeOutput out) then
          .ok (some ⟨"Wrong output",[("expected",.ofOption (gold.bind (·.output))),("actual",.str (decodeOutput out))]⟩)
        else ((difftestOutputs (sc.world w tmp) tmp cfg.cmd cfg.outputFiles).run s').result := by
  set s1 : Sys := ⟨Function.update s.cwd "benchmark.bc" (some (w.bitcode .candidate)),
    s.log ++ [.call (.writeBitcode .candidate) true,.writeFile "benchmark.bc"]⟩ with hs1
  have hB1 : sc.Builds cfg.sanitizer s1.cwd := fun h => by
    obtain ⟨ha,rest⟩ := hB h
    exact ⟨by simp [s1,ha],rest⟩
  obtain ⟨⟨ed,hr⟩,hcwd⟩ :=
    compileAndRun_candidate_builds sc w tmp tmp cmd cfg.linkopts cfg.osEnv cfg.numRuns cfg.sanitizer s1 hB1
  rw [hc,runResult_exited_zero] at hr
  set o : BenchmarkExecutionResult := { walltimeSeconds := t, output := some (decodeOutput out) } with ho
  have hk : ∀ s, ((runValidateResult cfg o).run s).result = .ok () :=
    fun s => (run_runValidateResult cfg o s).2.mpr fun h hm => hh h hm _ rfl
  let s2 := s1.after ((compileAndRunBitcodeFile (sc.world w tmp) .candidate tmp cmd cfg.linkopts cfg.osEnv cfg.numRuns
    cfg.sanitizer).run s1)
  refine ⟨s2.after ((runValidateResult cfg o).run s2),fun g hg => ?_,?_⟩
  · rw [after_cwd,(run_runValidateResult cfg o s2).1,after_cwd,hcwd g hg]
    simp [s1,RunBehaviour.apply,(ne_of_not_mem_pipelineFiles hg).1]
  · simp only [candidateRun,result_bind,run_writeBitcode,world_writeBitcode,after_mk,world_bitcode]
    simp only [world_bitcode,← hs1,hr,result_bind,hk]
    split <;> rfl

theorem goldThenCandidate_scenario_eq (cfg : Config) (cmd : String) (s : Sys) (hn : OutputNamesOk cfg.outputFiles)
    (he : (sc.goldStandardResult w cmd).error = none)
    (hmv : ∀ f ∈ cfg.outputFiles, (sc.goldStandardDir w s.cwd f).isSome) :
    ∃ s' : Sys, s'.cwd = movedOutputs (sc.goldStandardDir w s.cwd) cfg.outputFiles ∧
      ((goldThenCandidate (sc.world w tmp) cfg tmp cmd).run s).result =
        ((candidateRun (sc.world w tmp) cfg tmp cmd (some (sc.goldStandardResult w cmd))).run s').result := by
  obtain ⟨hgr,hgd⟩ := goldStandardRun_scenario sc w tmp cfg tmp cmd s
  set s' := s.after ((goldStandardRun (sc.world w tmp) cfg tmp cmd).run s)
  have hs' : s'.cwd = sc.goldStandardDir w s.cwd := by rw [after_cwd,hgd]
  obtain ⟨hm1,hm2⟩ := run_moveGoldStandardOutputs (sc.world w tmp) cfg (sc.goldStandardResult w cmd) hn s'
  have hok := hm1.mpr (hs' ▸ hmv)
  refine ⟨s'.after ((moveGoldStandardOutputs (sc.world w tmp) cfg (sc.goldStandardResult w cmd)
    cfg.outputFiles).run s'),by rw [after_cwd,hm2 hok,hs'],?_⟩
  unfold goldThenCandidate
  rw [result_bind,hgr]
  simp only [he]
  rw [result_bind,hok]

theorem validatorCb_scenario (cfg : Config) (s : Sys) (hin : ∀ f ∈ cfg.inputFiles, w.runtimeData f) :
    ((validatorCb (sc.world w tmp) cfg).run s).result =
      ((validateIn (sc.world w tmp) cfg tmp).run ⟨fun _ => none,s.log ++ [.call .download true,.call .makeTemp true]⟩).result := by
  obtain ⟨he,hc,hr⟩ := run_checkInputs (sc.world w tmp) cfg.inputFiles ⟨s.cwd,s.log ++ [.call .download true]⟩
  simp [validatorCb,Except.toBool,hr.mpr hin,Sys.after,he]

end World

end CbenchValidation
