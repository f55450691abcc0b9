import CbenchValidation.Reference
import CbenchValidation.Registry

/-! # The verdict of one attempt

`Passes` is what one attempt is meant to decide: the differential test of the candidate
against the gold standard over exit status, console text and declared output files. In
every scenario the validator returns the reference verdict, and no error exactly when
`Passes` holds and the sanitizer build goes through, provided the result hook returns. The
console comparison is of decoded texts, so two outputs that are not UTF-8 compare equal,
and a result hook's diagnostic is dropped, so the sha validators check nothing of what the
benchmark prints. -/
namespace CbenchValidation

open Py

/-- What a sanitizer build needs besides the runs: no `a.out` left by the gold standard, a
compiler that exits 0 and leaves the binary, and a candidate run that does not delete it. -/
def Scenario.BuildOk (sc : Scenario) (cfg : Config) : Prop :=
  cfg.sanitizer.isSome → (cfg.needsGoldStandard → sc.goldStandard.leaves "a.out" = none) ∧
    sc.compiled.succeeded ∧ sc.binary.isSome ∧ sc.candidate.writes "a.out" ≠ some none

theorem validatorCb_console_scenario (w : World) (tmp : String) (cfg : Config) (sc : Scenario) (s : Sys)
    (hcmp : cfg.compareOutput = true) (hout : cfg.outputFiles = []) (hpre : cfg.preExecutionCallback = none)
    (hin : ∀ f ∈ cfg.inputFiles, w.runtimeData f) (hb : sc.BuildOk cfg) (hh : cfg.HookReturns)
    {bo bc : Bytes} {tg tc : ℕ} (hgo : sc.goldStandard.finished = .exited 0 bo tg)
    (hca : sc.candidate.finished = .exited 0 bc tc) :
    ((validatorCb (sc.world w tmp) cfg).run s).result =
      if decodeOutput bo = decodeOutput bc then .ok none
      else .ok (some ⟨"Wrong output",[("expected",.str (decodeOutput bo)),("actual",.str (decodeOutput bc))]⟩) := by
  have hgx : sc.goldStandard.Exits0 := ⟨bo,tg,hgo⟩
  have hg : cfg.needsGoldStandard = true := by simp [Config.needsGoldStandard,hcmp]
  rw [validatorCb_scenario sc w tmp cfg s hin,validateIn_noHook _ _ _ _ hpre,if_pos hg]
  obtain ⟨s',hs',hr⟩ := goldThenCandidate_scenario_eq sc w tmp cfg (expandCommand cfg.cmd (sc.world w tmp).cbenchData)
    ⟨fun _ => none,s.log ++ [.call .download true,.call .makeTemp true]⟩ (by rw [hout]; decide)
    ((goldStandardResult_error sc w _).mpr hgx) (by simp [hout])
  have hB : sc.Builds cfg.sanitizer s'.cwd := fun h => by
    obtain ⟨ha,rest⟩ := hb h
    refine ⟨?_,rest⟩
    rw [hs',hout,movedOutputs,goldStandardDir_empty sc w (by decide) (by decide)]
    exact ha hg
  obtain ⟨s'',-,hr'⟩ := candidateRun_scenario_exits sc w tmp cfg _ _ s' hB hh hca
  have hgr : (sc.goldStandardResult w (expandCommand cfg.cmd (sc.world w tmp).cbenchData)).output =
      some (decodeOutput bo) := by simp [Scenario.goldStandardResult,hgo]
  rw [hr,hr']
  simp only [Option.bind_some,hgr,hcmp,hout]
  by_cases hd : decodeOutput bo = decodeOutput bc <;> simp [hd,hgr,difftestOutputs,Datum.ofOption]

/-- The gsm validator for `telecom_gsm_data/1.au`, whose benchmark prints encoded audio: a
candidate that prints the byte `0xfe` where the gold standard prints `0xff` passes, since
neither output is UTF-8 and both are compared as `<binary>`. -/
theorem validatorCb_gsm_binary_outputs_pass :
    let r : Registration :=
      { benchmark := "benchmark://cbench-v1/gsm", cmd := "$BIN -fps -c $D/telecom_gsm_data/" ++ toString 1 ++ ".au",
        data := ["telecom_gsm_data/" ++ toString 1 ++ ".au"] }
    let sc : Scenario := ⟨⟨.exited 0 [0xff] 0,fun _ => none⟩,⟨.exited 0 [0xfe] 0,fun _ => none⟩,.timedOut,none⟩
    r ∈ registrationsFor 1 ∧ ([0xff] : Bytes) ≠ [0xfe] ∧
      ((validatorCb (sc.world { (default : World) with runtimeData := fun _ => true } "/tmp/d") r.config).run
        ⟨fun _ => none,[]⟩).result = .ok none :=
  ⟨by simp [registrationsFor],by decide,
    (validatorCb_console_scenario _ _ _ _ _ rfl rfl rfl (by simp) (by simp [Scenario.BuildOk,Registration.config])
      (by simp [Config.HookReturns,Registration.config]) rfl rfl).trans (if_pos (by decide))⟩

theorem validatorCb_scenario_candidate_only (w : World) (tmp : String) (cfg : Config) (sc : Scenario) (s : Sys)
    (hcmp : cfg.compareOutput = false) (hout : cfg.outputFiles = []) (hpre : cfg.preExecutionCallback = none)
    (hin : ∀ f ∈ cfg.inputFiles, w.runtimeData f) (hB : sc.Builds cfg.sanitizer fun _ => none)
    (hh : cfg.HookReturns) (hx : sc.candidate.Exits0) :
    ((validatorCb (sc.world w tmp) cfg).run s).result = .ok none := by
  obtain ⟨out,t,hc⟩ := hx
  rw [validatorCb_scenario sc w tmp cfg s hin,validateIn_noHook _ _ _ _ hpre,
    if_neg (by simp [Config.needsGoldStandard,hcmp,hout])]
  obtain ⟨s',-,hr⟩ := candidateRun_scenario_exits sc w tmp cfg _ none
    ⟨fun _ => none,s.log ++ [.call .download true,.call .makeTemp true]⟩ hB hh hc
  rw [hr]
  simp [hcmp,hout,difftestOutputs]

theorem validateShaOutput_returns (r : BenchmarkExecutionResult) (h : r.output.isSome) :
    ∃ v, ShaOutput.validateShaOutput r = .ok v := by
  obtain ⟨out,ho⟩ := Option.isSome_iff_exists.mp h
  simp only [ShaOutput.validateShaOutput,ho]
  split_ifs <;> exact ⟨_,rfl⟩

/-- The first sha validator with a candidate that prints `hello`: `validate_sha_output`
reports the output unparsable, and the attempt still passes. -/
theorem validatorCb_sha_drops_diagnostic :
    let r : Registration :=
      { benchmark := "benchmark://cbench-v1/sha", cmd := "$BIN $D/office_data/" ++ toString 1 ++ ".txt",
        data := ["office_data/" ++ toString 1 ++ ".txt"], compareOutput := false,
        validateResult := some ShaOutput.validateShaOutput }
    let sc : Scenario := ⟨⟨.timedOut,fun _ => none⟩,⟨.exited 0 (Utf8.encode "hello\n".data) 1,fun _ => none⟩,
      .timedOut,none⟩
    r ∈ registrationsFor 1 ∧
      ShaOutput.validateShaOutput { walltimeSeconds := 1, output := some "hello\n" } =
        .ok (some "Failed to parse hex output") ∧
      ((validatorCb (sc.world { (default : World) with runtimeData := fun _ => true } "/tmp/d") r.config).run
        ⟨fun _ => none,[]⟩).result = .ok none :=
  ⟨by simp [registrationsFor],by rfl,
    validatorCb_scenario_candidate_only _ _ _ _ _ rfl rfl rfl (by simp) (by simp [Scenario.Builds,Registration.config])
      (by simpa [Config.HookReturns,Registration.config] using validateShaOutput_returns) ⟨_,_,rfl⟩⟩

/-- Every sha validator in `VALIDATORS`, plain or sanitized, passes every attempt whose
inputs exist, whose build goes through and whose candidate exits 0, whatever the
candidate printed: `validate_sha_output`'s verdict is never used. -/
theorem sha_validators_accept_any_output (platform D : String) (w : World) (tmp : String) (sc : Scenario)
    (s : Sys) {cfg : Config} (hcfg : cfg ∈ (registry platform D).validators "benchmark://cbench-v1/sha")
    (hin : ∀ f ∈ cfg.inputFiles, w.runtimeData f) (hB : sc.Builds cfg.sanitizer fun _ => none)
    (hx : sc.candidate.Exits0) :
    ((validatorCb (sc.world w tmp) cfg).run s).result = .ok none := by
  obtain ⟨r,hr,hb,san,rfl⟩ := mem_registry_validators hcfg
  obtain ⟨hcmp,hout,hpre,hv⟩ := registrations_sha r hr hb
  exact validatorCb_scenario_candidate_only w tmp _ sc s hcmp hout hpre hin hB
    (by simpa [Config.HookReturns,Registration.config,hv] using validateShaOutput_returns) hx

theorem sha_validators_accept_any_output_hello :
    let r : Registration :=
      { benchmark := "benchmark://cbench-v1/sha", cmd := "$BIN $D/office_data/" ++ toString 1 ++ ".txt",
        data := ["office_data/" ++ toString 1 ++ ".txt"], compareOutput := false,
        validateResult := some ShaOutput.validateShaOutput }
    let sc : Scenario := ⟨⟨.timedOut,fun _ => none⟩,⟨.exited 0 (Utf8.encode "hello\n".data) 1,fun _ => none⟩,
      .timedOut,none⟩
    r.config ∈ (registry "linux" "/srv").validators "benchmark://cbench-v1/sha" ∧
      ((validatorCb (sc.world { (default : World) with runtimeData := fun _ => true } "/tmp/d") r.config).run
        ⟨fun _ => none,[]⟩).result = .ok none := by
  intro r sc
  have hr : r ∈ registrations :=
    List.mem_append_right _ (List.mem_flatMap.mpr ⟨1,by simp,by simp [r,registrationsFor]⟩)
  have hmem : r.config ∈ (registry "linux" "/srv").validators "benchmark://cbench-v1/sha" :=
    @mem_registry_validators_of "linux" "/srv" r _ hr (by decide) (List.mem_cons_self _ _)
  exact ⟨hmem,sha_validators_accept_any_output "linux" "/srv" _ "/tmp/d" sc _ hmem (by simp [r,Registration.config])
    (by simp [Scenario.Builds,r,Registration.config]) ⟨_,_,rfl⟩⟩

end CbenchValidation
