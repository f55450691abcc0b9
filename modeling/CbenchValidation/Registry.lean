import CbenchValidation.Validator
import CbenchValidation.ShaOutput

/-! `validator()` and the module-level registrations: each call appends a plain
validator and, on Linux, one per sanitizer to `VALIDATORS[benchmark]`, and records in
`DYNAMIC_CONFIGS[benchmark]` the build and run commands of the remote protocol. The run
command substitutes `$BIN` before `$D`, the opposite order of a local sanitizer run; the
two agree whenever the data path holds no `$` and does not begin with `B`, `I` or `N`. -/
namespace CbenchValidation

/-- A `Command` message of the remote build/run protocol. -/
structure Command where
  argument : List String
  timeoutSeconds : ℕ
  infile : List String := []
  outfile : List String := []

structure BenchmarkDynamicConfig where
  buildCmd : Command
  runCmd : Command
  preRunCmd : List Command

/-- `VALIDATORS` and `DYNAMIC_CONFIGS`. -/
structure Registry where
  validators : String → List Config
  dynamicConfigs : String → Option BenchmarkDynamicConfig

def Registry.empty : Registry := ⟨fun _ => [],fun _ => none⟩

/-- The keyword arguments of one `validator(...)` call. -/
structure Registration where
  benchmark : String
  cmd : String
  data : List String := []
  outs : List String := []
  platforms : List String := []
  compareOutput : Bool := true
  validateResult : Option (BenchmarkExecutionResult → Except Exc (Option String)) := none
  linkopts : List String := []
  env : Dict := []
  preExecutionCallback : Option (Dir → Except Exc Dir) := none
  sanitizers : Option (List LlvmSanitizer) := none

def allSanitizers : List LlvmSanitizer := [.asan,.tsan,.msan,.ubsan]

/-- The run command `validator()` records, before `.split()`. -/
def dynamicRunCommand (cmd cbenchData : String) : String :=
  Text.replace (Text.replace cmd "$BIN" "./a.out") "$D" cbenchData

section Substitution

end Substitution

def dynamicConfig (r : Registration) (cbenchData : String) : BenchmarkDynamicConfig where
  buildCmd := { argument := ["$CC","$IN"] ++ r.linkopts, timeoutSeconds := 60, outfile := ["a.out"] }
  runCmd :=
    { argument := Text.split (dynamicRunCommand r.cmd cbenchData), timeoutSeconds := 300,
      infile := ["a.out","_finfo_dataset"], outfile := r.outs }
  preRunCmd := [{ argument := ["echo","1",">_finfo_dataset"], timeoutSeconds := 30 }]

/-- The `_make_cBench_validator` arguments of a registration, without a sanitizer. -/
def Registration.config (r : Registration) : Config where
  cmd := r.cmd
  inputFiles := r.data
  outputFiles := r.outs
  compareOutput := r.compareOutput
  validateResult := r.validateResult
  linkopts := r.linkopts
  osEnv := r.env
  preExecutionCallback := r.preExecutionCallback

def platformName (platform : String) : String := if platform = "darwin" then "macos" else platform

/-- The configurations one `validator(...)` call appends: the plain one, then on Linux
one per sanitizer (all of `LlvmSanitizer` unless the call names some). -/
def Registration.configs (platform : String) (r : Registration) : List Config :=
  r.config :: if platform.startsWith "linux" then
    (r.sanitizers.getD allSanitizers).map fun s => { r.config with sanitizer := some s } else []

/-- `validator(...)` on the platform `sys.platform`; returns whether it registered. -/
def validator (platform cbenchData : String) (reg : Registry) (r : Registration) : Bool × Registry :=
  let platforms := if r.platforms = [] then ["linux","macos"] else r.platforms
  if platformName platform ∉ platforms then (false,reg) else
  (true,{ validators := Function.update reg.validators r.benchmark
            (reg.validators r.benchmark ++ r.configs platform)
          dynamicConfigs := Function.update reg.dynamicConfigs r.benchmark
            (some (dynamicConfig r cbenchData)) })

def asanOff : Dict := [("ASAN_OPTIONS","detect_leaks=0")]

/-- The registrations made inside `for i in range(1, 21)`. -/
def registrationsFor (i : ℕ) : List Registration :=
  let n := toString i
  [{ benchmark := "benchmark://cbench-v1/blowfish",
     cmd := "$BIN d $D/office_data/" ++ n ++ ".benc output.txt 1234567890abcdeffedcba0987654321",
     data := ["office_data/" ++ n ++ ".benc"], outs := ["output.txt"] },
   { benchmark := "benchmark://cbench-v1/bzip2", cmd := "$BIN -d -k -f -c $D/bzip2_data/" ++ n ++ ".bz2",
     data := ["bzip2_data/" ++ n ++ ".bz2"] },
   { benchmark := "benchmark://cbench-v1/crc32", cmd := "$BIN $D/telecom_data/" ++ n ++ ".pcm",
     data := ["telecom_data/" ++ n ++ ".pcm"] },
   { benchmark := "benchmark://cbench-v1/dijkstra", cmd := "$BIN $D/network_dijkstra_data/" ++ n ++ ".dat",
     data := ["network_dijkstra_data/" ++ n ++ ".dat"] },
   { benchmark := "benchmark://cbench-v1/gsm", cmd := "$BIN -fps -c $D/telecom_gsm_data/" ++ n ++ ".au",
     data := ["telecom_gsm_data/" ++ n ++ ".au"] },
   { benchmark := "benchmark://cbench-v1/jpeg-c",
     cmd := "$BIN -dct int -progressive -outfile output.jpeg $D/consumer_jpeg_data/" ++ n ++ ".ppm",
     data := ["consumer_jpeg_data/" ++ n ++ ".ppm"], outs := ["output.jpeg"],
     sanitizers := some [.tsan,.ubsan] },
   { benchmark := "benchmark://cbench-v1/jpeg-d",
     cmd := "$BIN -dct int -outfile output.ppm $D/consumer_jpeg_data/" ++ n ++ ".jpg",
     data := ["consumer_jpeg_data/" ++ n ++ ".jpg"], outs := ["output.ppm"] },
   { benchmark := "benchmark://cbench-v1/patricia", cmd := "$BIN $D/network_patricia_data/" ++ n ++ ".udp",
     data := ["network_patricia_data/" ++ n ++ ".udp"], env := asanOff },
   { benchmark := "benchmark://cbench-v1/qsort", cmd := "$BIN $D/automotive_qsort_data/" ++ n ++ ".dat",
     data := ["automotive_qsort_data/" ++ n ++ ".dat"], outs := ["sorted_output.dat"], linkopts := ["-lm"] },
   { benchmark := "benchmark://cbench-v1/sha", cmd := "$BIN $D/office_data/" ++ n ++ ".txt",
     data := ["office_data/" ++ n ++ ".txt"], compareOutput := false,
     validateResult := some ShaOutput.validateShaOutput },
   { benchmark := "benchmark://cbench-v1/stringsearch",
     cmd := "$BIN $D/office_data/" ++ n ++ ".txt $D/office_data/" ++ n ++ ".s.txt output.txt",
     data := ["office_data/" ++ n ++ ".txt"], outs := ["output.txt"], env := asanOff, linkopts := ["-lm"] }] ++
  (if i = 1 then
    [{ benchmark := "benchmark://cbench-v1/stringsearch2",
       cmd := "$BIN $D/office_data/" ++ n ++ ".txt $D/office_data/" ++ n ++ ".s.txt output.txt",
       data := ["office_data/" ++ n ++ ".txt"], outs := ["output.txt"], env := asanOff,
       sanitizers := some [.asan,.msan,.ubsan] }] else []) ++
  [{ benchmark := "benchmark://cbench-v1/susan",
     cmd := "$BIN $D/automotive_susan_data/" ++ n ++ ".pgm output_large.corners.pgm -c",
     data := ["automotive_susan_data/" ++ n ++ ".pgm"], outs := ["output_large.corners.pgm"],
     linkopts := ["-lm"] },
   { benchmark := "benchmark://cbench-v1/tiff2bw", cmd := "$BIN $D/consumer_tiff_data/" ++ n ++ ".tif output.tif",
     data := ["consumer_tiff_data/" ++ n ++ ".tif"], outs := ["output.tif"], linkopts := ["-lm"], env := asanOff },
   { benchmark := "benchmark://cbench-v1/tiff2rgba", cmd := "$BIN $D/consumer_tiff_data/" ++ n ++ ".tif output.tif",
     data := ["consumer_tiff_data/" ++ n ++ ".tif"], outs := ["output.tif"], linkopts := ["-lm"] },
   { benchmark := "benchmark://cbench-v1/tiffdither",
     cmd := "$BIN $D/consumer_tiff_data/" ++ n ++ ".bw.tif out.tif",
     data := ["consumer_tiff_data/" ++ n ++ ".bw.tif"], outs := ["out.tif"], linkopts := ["-lm"] },
   { benchmark := "benchmark://cbench-v1/tiffmedian",
     cmd := "$BIN $D/consumer_tiff_data/" ++ n ++ ".nocomp.tif output.tif",
     data := ["consumer_tiff_data/" ++ n ++ ".nocomp.tif"], outs := ["output.tif"], linkopts := ["-lm"] }]

/-- All module-level `validator(...)` calls, in order. -/
def registrations : List Registration :=
  [{ benchmark := "benchmark://cbench-v1/bitcount", cmd := "$BIN 1125000" },
   { benchmark := "benchmark://cbench-v1/bitcount", cmd := "$BIN 512" }] ++
  (List.range' 1 20).flatMap registrationsFor

/-- `VALIDATORS` and `DYNAMIC_CONFIGS` once the module is imported. -/
def registry (platform cbenchData : String) : Registry :=
  registrations.foldl (fun reg r => (validator platform cbenchData reg r).2) Registry.empty

theorem validator_snd_cases (platform D : String) (reg : Registry) (r : Registration) :
    (validator platform D reg r).2 = reg ∨
      (validator platform D reg r).2 =
        { validators := Function.update reg.validators r.benchmark
            (reg.validators r.benchmark ++ r.configs platform)
          dynamicConfigs := Function.update reg.dynamicConfigs r.benchmark
            (some (dynamicConfig r D)) } := by
  by_cases hp : platformName platform ∈ (if r.platforms = [] then ["linux","macos"] else r.platforms)
  · exact .inr (by simp only [validator,hp,not_true_eq_false,if_false])
  · exact .inl (by simp only [validator,hp,not_false_eq_true,if_true])

theorem mem_configs {platform : String} {r : Registration} {cfg : Config}
    (h : cfg ∈ r.configs platform) : ∃ s, cfg = { r.config with sanitizer := s } := by
  rcases List.mem_cons.mp h with rfl | h
  · exact ⟨none,rfl⟩
  · split_ifs at h
    · obtain ⟨s,-,rfl⟩ := List.mem_map.mp h
      exact ⟨some s,rfl⟩
    · exact absurd h (List.not_mem_nil cfg)

theorem mem_validator_validators {platform D b : String} {reg : Registry} {r : Registration}
    {cfg : Config} (h : cfg ∈ (validator platform D reg r).2.validators b) :
    cfg ∈ reg.validators b ∨ r.benchmark = b ∧ ∃ s, cfg = { r.config with sanitizer := s } := by
  rcases validator_snd_cases platform D reg r with hv | hv <;> rw [hv] at h
  · exact .inl h
  · simp only [Function.update_apply] at h
    split_ifs at h with hb
    · rcases List.mem_append.mp h with h | h
      · exact .inl (hb ▸ h)
      · exact .inr ⟨hb.symm,mem_configs h⟩
    · exact .inl h

/-- Every configuration in `VALIDATORS` comes from one registration of its benchmark,
with or without a sanitizer. -/
theorem mem_registry_validators {platform D b : String} {cfg : Config}
    (h : cfg ∈ (registry platform D).validators b) :
    ∃ r ∈ registrations, r.benchmark = b ∧ ∃ s, cfg = { r.config with sanitizer := s } := by
  suffices ∀ (rs : List Registration) (reg : Registry),
      cfg ∈ (rs.foldl (fun reg r => (validator platform D reg r).2) reg).validators b →
        cfg ∈ reg.validators b ∨ ∃ r ∈ rs, r.benchmark = b ∧ ∃ s, cfg = { r.config with sanitizer := s } by
    simpa [Registry.empty] using this registrations Registry.empty h
  intro rs
  induction rs with
  | nil => exact fun _ => .inl
  | cons r rs ih =>
    intro reg h
    rcases ih _ h with h | ⟨r',hr',hb⟩
    · rcases mem_validator_validators h with h | hb
      · exact .inl h
      · exact .inr ⟨r,List.mem_cons_self r rs,hb⟩
    · exact .inr ⟨r',List.mem_cons_of_mem r hr',hb⟩

theorem mem_validator_validators_of_mem {platform D b : String} {reg : Registry} (r : Registration)
    {cfg : Config} (h : cfg ∈ reg.validators b) : cfg ∈ (validator platform D reg r).2.validators b := by
  rcases validator_snd_cases platform D reg r with hv | hv <;> rw [hv]
  · exact h
  · simp only [Function.update_apply]
    split_ifs with hb
    · exact List.mem_append_left _ (hb ▸ h)
    · exact h

/-- Every configuration a registration makes on a platform it names is in `VALIDATORS`
under its benchmark. -/
theorem mem_registry_validators_of {platform D : String} {r : Registration} {cfg : Config}
    (hr : r ∈ registrations)
    (hp : platformName platform ∈ (if r.platforms = [] then ["linux","macos"] else r.platforms))
    (hc : cfg ∈ r.configs platform) : cfg ∈ (registry platform D).validators r.benchmark := by
  have keep : ∀ (rs : List Registration) (reg : Registry), cfg ∈ reg.validators r.benchmark →
      cfg ∈ (rs.foldl (fun reg r => (validator platform D reg r).2) reg).validators r.benchmark := by
    intro rs
    induction rs with
    | nil => exact fun _ => id
    | cons r' rs ih => exact fun reg h => ih _ (mem_validator_validators_of_mem r' h)
  obtain ⟨rs,rs',hsplit⟩ := List.append_of_mem hr
  rw [registry,hsplit,List.foldl_append,List.foldl_cons]
  exact keep _ _ (by simp [validator,hp,hc])

/-- The sha registrations compare no console output, declare no output file and have the
result hook `validate_sha_output`. -/
theorem registrationsFor_sha (i : ℕ) : ∀ r ∈ registrationsFor i, r.benchmark = "benchmark://cbench-v1/sha" →
    r.compareOutput = false ∧ r.outs = [] ∧ r.preExecutionCallback = none ∧
      r.validateResult = some ShaOutput.validateShaOutput := by
  unfold registrationsFor; split <;> simp

theorem registrations_sha : ∀ r ∈ registrations, r.benchmark = "benchmark://cbench-v1/sha" →
    r.compareOutput = false ∧ r.outs = [] ∧ r.preExecutionCallback = none ∧
      r.validateResult = some ShaOutput.validateShaOutput := by
  simp only [registrations,List.mem_append,List.mem_flatMap]
  rintro r (hr | ⟨i,-,hr⟩)
  · simp only [List.mem_cons,List.not_mem_nil,or_false] at hr
    rcases hr with rfl | rfl <;> simp
  · exact registrationsFor_sha i r hr

end CbenchValidation
