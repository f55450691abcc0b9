import Mathlib.Logic.Function.Basic

/-! # The guarded runtime-data download

Every caller of `download_cBench_runtime_data` (`validator_cb` and `CBenchDataset.install`)
holds `_CBENCH_DOWNLOAD_THREAD_LOCK`, a lock of its own process, and inside it the
inter-process file lock. The file lock is an `fcntl` lock: it belongs to a process, so a
second thread of the holding process would take it at once, and a process that dies loses
it. The model runs any number of threads of any number of processes, one step at a time in
any order, and any process may crash between any two steps; `rmtree` and the extraction
take several steps, so a crash can leave a partial directory. Processes start independently,
with their locks free: a child forked while a thread of its parent holds the thread lock
would start with it held, and no caller in the repository forks there.

Every reachable state is `Safe` (one installer at a time, a marker only on complete data
that stays, a normal return only once the data is installed) and `DeadlockFree`: the locks
are always taken in one order, and a crash releases the ones its process held. Whatever
crashes leave behind, a call that then runs alone removes the partial directory and
installs the data. -/
namespace CbenchValidation
namespace Download

/-- What is on disk at `runtime_data`. -/
inductive Data
  | absent | incomplete | complete
  deriving DecidableEq, Repr

/-- Where a thread is in a guarded call: waiting for either lock, at the marker's
`is_file()`, at `cbench_data.is_dir()`, inside `rmtree`, at `download(url, sha256)`,
inside `extractall`, at the `assert`, at the marker's `touch()`, or leaving the file lock's
and then the thread lock's `with` block, the call returning normally or raising. -/
inductive Pc
  | idle
  | lockThread
  | lockFile
  | checkMarker
  | checkDir
  | removing
  | fetch
  | extracting
  | assertDir
  | touch
  | releaseFile (normal : Bool)
  | releaseThread (normal : Bool)
  deriving DecidableEq, Repr

namespace Pc

@[simp] def holdsThread : Pc → Bool
  | .idle | .lockThread => false
  | _ => true

@[simp] def holdsFile : Pc → Bool
  | .idle | .lockThread | .lockFile | .releaseThread _ => false
  | _ => true

@[simp] def installing : Pc → Bool
  | .checkDir | .removing | .fetch | .extracting | .assertDir | .touch => true
  | _ => false

@[simp] def extracted : Pc → Bool
  | .assertDir | .touch => true
  | _ => false

/-- A `rmtree` or an extraction of the directory is in progress. -/
@[simp] def busy : Pc → Bool
  | .removing | .extracting => true
  | _ => false

@[simp] def returning : Pc → Bool
  | .releaseFile true | .releaseThread true => true
  | _ => false

theorem holdsThread_of_holdsFile {c : Pc} (h : c.holdsFile) : c.holdsThread := by
  cases c <;> simp_all [holdsFile,holdsThread]

theorem holdsFile_of_installing {c : Pc} (h : c.installing) : c.holdsFile := by
  cases c <;> simp_all [holdsFile,installing]

theorem installing_of_extracted {c : Pc} (h : c.extracted) : c.installing := by
  cases c <;> simp_all [installing,extracted]

theorem installing_of_busy {c : Pc} (h : c.busy) : c.installing := by
  cases c <;> simp_all [installing,busy]

theorem ne_idle_of_holdsThread {c : Pc} (h : c.holdsThread) : c ≠ .idle := by
  rintro rfl; cases h

end Pc

/-- The shared state: each thread's place, which processes are alive, the holder of each
process's thread lock and of the file lock, the directory and the `unpacked` marker. -/
structure St (P T : Type) where
  pc : T → Pc
  alive : P → Bool
  threadLock : P → Option T
  fileLock : Option P
  data : Data
  marker : Bool

/-- The steps: one step of a thread, or the crash of a process. -/
inductive Act (P T : Type)
  | call (t : T)
  | lockThread (t : T)
  | lockFile (t : T)
  | checkMarker (t : T)
  | checkDir (t : T)
  | removed (t : T)
  | fetched (t : T)
  | extracted (t : T)
  | assertDir (t : T)
  | touch (t : T)
  | raise (t : T)
  | releaseFile (t : T)
  | releaseThread (t : T)
  | crash (p : P)

variable {P T : Type}

/-- The step thread `t` takes next from the place `c` when nothing is raised. -/
def nextAct (t : T) : Pc → Act P T
  | .idle => .call t
  | .lockThread => .lockThread t
  | .lockFile => .lockFile t
  | .checkMarker => .checkMarker t
  | .checkDir => .checkDir t
  | .removing => .removed t
  | .fetch => .fetched t
  | .extracting => .extracted t
  | .assertDir => .assertDir t
  | .touch => .touch t
  | .releaseFile _ => .releaseFile t
  | .releaseThread _ => .releaseThread t

/-- The steps of one guarded call that runs alone and raises nothing, from a directory with
or without the marker and with the data as given: with the marker it returns at once;
otherwise it removes what is there, downloads, extracts, checks and marks. -/
def soloCall (t : T) (marker : Bool) (data : Data) : List (Act P T) :=
  [.call t,.lockThread t,.lockFile t,.checkMarker t] ++
    (if marker then [] else
      .checkDir t :: (if data = .absent then [] else [.removed t]) ++
        [.fetched t,.extracted t,.assertDir t,.touch t]) ++
    [.releaseFile t,.releaseThread t]

section Transitions

variable [DecidableEq T]

def St.goto (s : St P T) (t : T) (c : Pc) : St P T := { s with pc := Function.update s.pc t c }

@[simp] theorem St.goto_pc (s : St P T) (t : T) (c : Pc) : (s.goto t c).pc = Function.update s.pc t c := rfl
@[simp] theorem St.goto_alive (s : St P T) (t : T) (c : Pc) : (s.goto t c).alive = s.alive := rfl
@[simp] theorem St.goto_threadLock (s : St P T) (t : T) (c : Pc) : (s.goto t c).threadLock = s.threadLock := rfl
@[simp] theorem St.goto_fileLock (s : St P T) (t : T) (c : Pc) : (s.goto t c).fileLock = s.fileLock := rfl
@[simp] theorem St.goto_data (s : St P T) (t : T) (c : Pc) : (s.goto t c).data = s.data := rfl
@[simp] theorem St.goto_marker (s : St P T) (t : T) (c : Pc) : (s.goto t c).marker = s.marker := rfl

variable [DecidableEq P] (proc : T → P)

/-- When a step can be taken: its thread is alive and at the step's place, and a lock is
taken only when it is free (the file lock also when the thread's own process holds it). -/
def Enabled (s : St P T) : Act P T → Prop
  | .call t => s.alive (proc t) ∧ s.pc t = .idle
  | .lockThread t => s.alive (proc t) ∧ s.pc t = .lockThread ∧ s.threadLock (proc t) = none
  | .lockFile t => s.alive (proc t) ∧ s.pc t = .lockFile ∧ (s.fileLock = none ∨ s.fileLock = some (proc t))
  | .checkMarker t => s.alive (proc t) ∧ s.pc t = .checkMarker
  | .checkDir t => s.alive (proc t) ∧ s.pc t = .checkDir
  | .removed t => s.alive (proc t) ∧ s.pc t = .removing
  | .fetched t => s.alive (proc t) ∧ s.pc t = .fetch
  | .extracted t => s.alive (proc t) ∧ s.pc t = .extracting
  | .assertDir t => s.alive (proc t) ∧ s.pc t = .assertDir
  | .touch t => s.alive (proc t) ∧ s.pc t = .touch
  | .raise t => s.alive (proc t) ∧ (s.pc t = .removing ∨ s.pc t = .fetch ∨ s.pc t = .extracting)
  | .releaseFile t => s.alive (proc t) ∧ ∃ b, s.pc t = .releaseFile b
  | .releaseThread t => s.alive (proc t) ∧ ∃ b, s.pc t = .releaseThread b
  | .crash p => s.alive p

/-- What a step does. `checkDir` starts `rmtree` on a directory that is there, which
deletes the marker with it; `fetched` is the download returning and the extraction
starting; `raise` is an exception of `rmtree`, the download or the extraction. -/
def transition (s : St P T) : Act P T → St P T
  | .call t => s.goto t .lockThread
  | .lockThread t => { s.goto t .lockFile with threadLock := Function.update s.threadLock (proc t) (some t) }
  | .lockFile t => { s.goto t .checkMarker with fileLock := some (proc t) }
  | .checkMarker t => s.goto t (if s.marker then .releaseFile true else .checkDir)
  | .checkDir t =>
    if s.data = .absent then s.goto t .fetch else { s.goto t .removing with data := .incomplete, marker := false }
  | .removed t => { s.goto t .fetch with data := .absent }
  | .fetched t => { s.goto t .extracting with data := .incomplete }
  | .extracted t => { s.goto t .assertDir with data := .complete }
  | .assertDir t => s.goto t (if s.data = .absent then .releaseFile false else .touch)
  | .touch t => { s.goto t (.releaseFile true) with marker := true }
  | .raise t => s.goto t (.releaseFile false)
  | .releaseFile t =>
    { s.goto t (match s.pc t with | .releaseFile b => .releaseThread b | c => c) with fileLock := none }
  | .releaseThread t => { s.goto t .idle with threadLock := Function.update s.threadLock (proc t) none }
  | .crash p =>
    { pc := fun t => if proc t = p then .idle else s.pc t
      alive := Function.update s.alive p false
      threadLock := Function.update s.threadLock p none
      fileLock := if s.fileLock = some p then none else s.fileLock
      data := s.data
      marker := s.marker }

instance (s : St P T) : DecidablePred (Enabled proc s)
  | .call _ | .checkMarker _ | .checkDir _ | .removed _ | .fetched _ | .extracted _ | .assertDir _
  | .touch _ => inferInstanceAs (Decidable (_ ∧ _))
  | .lockThread _ | .lockFile _ => inferInstanceAs (Decidable (_ ∧ _ ∧ _))
  | .raise _ => inferInstanceAs (Decidable (_ ∧ (_ ∨ _ ∨ _)))
  | .releaseFile _ | .releaseThread _ => inferInstanceAs (Decidable (_ ∧ Exists _))
  | .crash _ => inferInstanceAs (Decidable (_ = true))

def exec (s : St P T) : List (Act P T) → Option (St P T)
  | [] => some s
  | a :: as => if Enabled proc s a then exec (transition proc s a) as else none

def Step (s : St P T) (a : Act P T) (s' : St P T) : Prop := Enabled proc s a ∧ s' = transition proc s a

inductive Run : St P T → St P T → Prop
  | refl (s : St P T) : Run s s
  | tail {s s' s'' : St P T} (a : Act P T) : Run s s' → Step proc s' a s'' → Run s s''

/-- A state no call has started from: the directory as an earlier run may have left it,
with the marker only on complete data. -/
structure Initial (s : St P T) : Prop where
  idle : ∀ t, s.pc t = .idle
  threadLock : ∀ p, s.threadLock p = none
  fileLock : s.fileLock = none
  marker : s.marker → s.data = .complete

def Reachable (s : St P T) : Prop := ∃ s₀, Initial s₀ ∧ Run proc s₀ s

variable {proc}

theorem Run.head {s s' s'' : St P T} {a : Act P T} (hs : Step proc s a s') (hr : Run proc s' s'') :
    Run proc s s'' := by
  induction hr with
  | refl => exact .tail a (.refl _) hs
  | tail b _ hs' ih => exact .tail b ih hs'

theorem exec_run {s s' : St P T} {as : List (Act P T)} (h : exec proc s as = some s') : Run proc s s' := by
  induction as generalizing s with
  | nil => cases h; exact .refl _
  | cons a as ih =>
    simp only [exec] at h
    split_ifs at h with he
    exact Run.head ⟨he,rfl⟩ (ih h)

@[simp] theorem exec_nil (s : St P T) : exec proc s [] = some s := rfl

theorem exec_cons (s : St P T) (a : Act P T) (as : List (Act P T)) :
    exec proc s (a :: as) = if Enabled proc s a then exec proc (transition proc s a) as else none := rfl

theorem exec_append (s : St P T) (as bs : List (Act P T)) :
    exec proc s (as ++ bs) = (exec proc s as).bind fun s' => exec proc s' bs := by
  induction as generalizing s with
  | nil => rfl
  | cons a as ih => simp only [List.cons_append,exec_cons,ih]; split <;> rfl

example : (exec id (⟨fun _ => .idle,fun _ => true,fun _ => none,none,.absent,false⟩ : St Bool Bool)
    [.call false,.lockThread false,.lockFile false,.checkMarker false,.checkDir false,.fetched false,
     .crash false,.call true,.lockThread true,.lockFile true,.checkMarker true,.checkDir true,.removed true,
     .fetched true,.extracted true,.assertDir true,.touch true,.releaseFile true,.releaseThread true]).map
      (fun s => (s.marker,s.data,s.pc true)) = some (true,.complete,.idle) := by decide

end Transitions

section Invariant

variable (proc : T → P)

/-- What holds of each thread in every reachable state: a thread in a call belongs to a live
process, holds the locks its place says it holds, finds no marker while it (re)creates the
directory and complete data once its extraction finished, and leaves a marker when it
returns normally. -/
structure ThreadOk (s : St P T) (t : T) : Prop where
  alive : s.pc t ≠ .idle → s.alive (proc t)
  thread : (s.pc t).holdsThread → s.threadLock (proc t) = some t
  file : (s.pc t).holdsFile → s.fileLock = some (proc t)
  installing : (s.pc t).installing → s.marker = false
  extracted : (s.pc t).extracted → s.data = .complete
  returning : (s.pc t).returning → s.marker = true

/-- The invariant: the marker stands only on complete data, and every thread is as
`ThreadOk` says. -/
structure Inv (s : St P T) : Prop where
  marker : s.marker → s.data = .complete
  thread : ∀ t, ThreadOk proc s t

variable {proc}

theorem ThreadOk.frame {s s' : St P T} {t : T} (h : ThreadOk proc s t) (hpc : s'.pc t = s.pc t)
    (halive : s'.alive (proc t) = s.alive (proc t))
    (hth : (s.pc t).holdsThread → s'.threadLock (proc t) = s.threadLock (proc t))
    (hf : (s.pc t).holdsFile → s'.fileLock = s.fileLock)
    (hi : (s.pc t).installing → s'.marker = s.marker)
    (hx : (s.pc t).extracted → s'.data = s.data)
    (hr : (s.pc t).returning → s'.marker = s.marker) : ThreadOk proc s' t := by
  refine ⟨fun hn => ?_,fun hh => ?_,fun hh => ?_,fun hh => ?_,fun hh => ?_,fun hh => ?_⟩ <;> rw [hpc] at *
  · rw [halive]; exact h.alive hn
  · rw [hth hh]; exact h.thread hh
  · rw [hf hh]; exact h.file hh
  · rw [hi hh]; exact h.installing hh
  · rw [hx hh]; exact h.extracted hh
  · rw [hr hh]; exact h.returning hh

theorem Inv.thread_unique {s : St P T} (h : Inv proc s) {t t' : T} (ht : (s.pc t).holdsThread)
    (ht' : (s.pc t').holdsThread) (hp : proc t = proc t') : t = t' := by
  have h1 := (h.thread t).thread ht
  have h2 := (h.thread t').thread ht'
  rw [hp,h2] at h1
  exact (Option.some.inj h1).symm

/-- Mutual exclusion: at most one thread of all processes is inside the file lock's block. -/
theorem Inv.file_unique {s : St P T} (h : Inv proc s) {t t' : T} (ht : (s.pc t).holdsFile)
    (ht' : (s.pc t').holdsFile) : t = t' :=
  h.thread_unique (Pc.holdsThread_of_holdsFile ht) (Pc.holdsThread_of_holdsFile ht')
    (Option.some.inj (((h.thread t).file ht).symm.trans ((h.thread t').file ht')))

theorem Initial.inv {s : St P T} (h : Initial s) : Inv proc s :=
  ⟨h.marker,fun t => ⟨fun hn => absurd (h.idle t) hn,by simp [h.idle t],by simp [h.idle t],by simp [h.idle t],
    by simp [h.idle t],by simp [h.idle t]⟩⟩

def fresh : St P T := ⟨fun _ => .idle,fun _ => true,fun _ => none,none,.absent,false⟩

theorem initial_fresh : Initial (fresh : St P T) := ⟨fun _ => rfl,fun _ => rfl,rfl,fun h => by cases h⟩

theorem Inv.not_busy {s : St P T} (h : Inv proc s) (hm : s.marker) (t : T) : (s.pc t).busy = false := by
  by_contra hb
  have := (h.thread t).installing (Pc.installing_of_busy (by simpa using hb))
  rw [hm] at this
  cases this

end Invariant

section Runs

variable [DecidableEq T] {proc : T → P}

theorem Inv.inside {s s' : St P T} {t : T} {c : Pc} (h : Inv proc s) (hf : (s.pc t).holdsFile)
    (hpc : s'.pc = Function.update s.pc t c) (hal : s'.alive = s.alive)
    (hth : s'.threadLock = s.threadLock) (hfl : s'.fileLock = s.fileLock) (hm : s.marker → s'.marker)
    (hmd : s'.marker → s'.data = .complete) (hi : c.installing → s'.marker = false)
    (hx : c.extracted → s'.data = .complete) (hr : c.returning → s'.marker) : Inv proc s' := by
  refine ⟨hmd,fun t' => ?_⟩
  by_cases e : t' = t
  · subst e
    have o := h.thread t'
    have hpt : s'.pc t' = c := by simp [hpc]
    refine ⟨fun _ => ?_,fun _ => ?_,fun _ => ?_,hpt ▸ hi,hpt ▸ hx,hpt ▸ hr⟩
    · rw [hal]; exact o.alive fun e => by simp [e] at hf
    · rw [hth]; exact o.thread (Pc.holdsThread_of_holdsFile hf)
    · rw [hfl]; exact o.file hf
  · have other : ∀ {q : Pc → Bool}, (q (s.pc t') → (s.pc t').holdsFile) → q (s.pc t') → s'.marker = s.marker :=
      fun hq hq' => absurd (h.file_unique (hq hq') hf) e
    refine (h.thread t').frame (by simp [hpc,e]) (by rw [hal]) (fun _ => by rw [hth]) (fun _ => by rw [hfl])
      (other Pc.holdsFile_of_installing)
      (fun hx' => absurd (h.file_unique (Pc.holdsFile_of_installing (Pc.installing_of_extracted hx')) hf) e)
      fun hr' => ?_
    have ho := (h.thread t').returning hr'
    rw [ho,hm ho]

theorem Inv.goto_inside {s : St P T} {t : T} {c : Pc} (h : Inv proc s) (hf : (s.pc t).holdsFile)
    (hi : c.installing → s.marker = false) (hx : c.extracted → s.data = .complete)
    (hr : c.returning → s.marker) : Inv proc (s.goto t c) :=
  h.inside hf rfl rfl rfl rfl id h.marker hi hx hr

variable [DecidableEq P]

theorem transition_inv {s : St P T} {a : Act P T} (h : Inv proc s) (he : Enabled proc s a) :
    Inv proc (transition proc s a) := by
  cases a with
  | call t =>
    obtain ⟨hal,hpc⟩ := he
    refine ⟨h.marker,fun t' => ?_⟩
    by_cases ht : t' = t
    · subst ht
      exact ⟨fun _ => hal,by simp [transition],by simp [transition],by simp [transition],by simp [transition],by simp [transition]⟩
    · exact (h.thread t').frame (by simp [transition,ht]) rfl (fun _ => rfl) (fun _ => rfl) (fun _ => rfl) (fun _ => rfl)
        (fun _ => rfl)
  | lockThread t =>
    obtain ⟨hal,hpc,hfree⟩ := he
    refine ⟨h.marker,fun t' => ?_⟩
    by_cases ht : t' = t
    · subst ht
      exact ⟨fun _ => hal,by simp [transition],by simp [transition,hpc],by simp [transition,hpc],by simp [transition,hpc],by simp [transition,hpc]⟩
    · refine (h.thread t').frame (by simp [transition,ht]) rfl (fun hh => Function.update_noteq (fun hp => ?_) _ _)
        (fun _ => rfl) (fun _ => rfl) (fun _ => rfl) (fun _ => rfl)
      have := (h.thread t').thread hh
      rw [hp,hfree] at this
      cases this
  | lockFile t =>
    obtain ⟨hal,hpc,hfl⟩ := he
    refine ⟨h.marker,fun t' => ?_⟩
    by_cases ht : t' = t
    · subst ht
      exact ⟨fun _ => hal,fun _ => (h.thread t').thread (by simp [hpc]),by simp [transition],by simp [transition],by simp [transition],
        by simp [transition]⟩
    · refine (h.thread t').frame (by simp [transition,ht]) rfl (fun _ => rfl) (fun hh => absurd ?_ ht) (fun _ => rfl)
        (fun _ => rfl) (fun _ => rfl)
      have hft := (h.thread t').file hh
      rcases hfl with hfl | hfl
      · rw [hfl] at hft; cases hft
      · exact h.thread_unique (Pc.holdsThread_of_holdsFile hh) (by simp [hpc]) (Option.some.inj (hft.symm.trans hfl))
  | checkMarker t =>
    simp only [transition]
    split_ifs with hm
    · exact h.goto_inside (by simp [he.2]) (by simp) (by simp) fun _ => hm
    · exact h.goto_inside (by simp [he.2]) (fun _ => by simpa using hm) (by simp) (by simp)
  | checkDir t =>
    have hm := (h.thread t).installing (by simp [he.2])
    simp only [transition]
    split_ifs
    · exact h.goto_inside (by simp [he.2]) (fun _ => hm) (by simp) (by simp)
    · exact h.inside (by simp [he.2]) rfl rfl rfl rfl (by simp [hm]) (by simp) (fun _ => rfl) (by simp) (by simp)
  | removed t =>
    have hm := (h.thread t).installing (by simp [he.2])
    exact h.inside (by simp [he.2]) rfl rfl rfl rfl id (fun e => absurd (hm.symm.trans e) (by decide)) (fun _ => hm)
      (by simp) (by simp)
  | fetched t =>
    have hm := (h.thread t).installing (by simp [he.2])
    exact h.inside (by simp [he.2]) rfl rfl rfl rfl id (fun e => absurd (hm.symm.trans e) (by decide)) (fun _ => hm)
      (by simp) (by simp)
  | extracted t =>
    have hm := (h.thread t).installing (by simp [he.2])
    exact h.inside (by simp [he.2]) rfl rfl rfl rfl id (fun _ => rfl) (fun _ => hm) (fun _ => rfl) (by simp)
  | assertDir t =>
    have hd := (h.thread t).extracted (by simp [he.2])
    rw [show transition proc s (.assertDir t) = s.goto t .touch by simp [transition,hd]]
    exact h.goto_inside (by simp [he.2]) (fun _ => (h.thread t).installing (by simp [he.2])) (fun _ => hd)
      (by simp)
  | touch t =>
    have hd := (h.thread t).extracted (by simp [he.2])
    exact h.inside (by simp [he.2]) rfl rfl rfl rfl (fun _ => rfl) (fun _ => hd) (by simp) (by simp)
      (fun _ => rfl)
  | raise t =>
    have hf : (s.pc t).holdsFile := by rcases he.2 with hpc | hpc | hpc <;> simp [hpc]
    exact h.goto_inside hf (by simp) (by simp) (by simp)
  | releaseFile t =>
    obtain ⟨hal,b,hpc⟩ := he
    have hth := (h.thread t).thread (by simp [hpc])
    simp only [transition,hpc]
    refine ⟨h.marker,fun t' => ?_⟩
    by_cases ht : t' = t
    · subst ht
      exact ⟨fun _ => hal,fun _ => hth,by simp,by simp,by simp,
        fun hr => (h.thread t').returning (by rw [hpc]; cases b <;> simp_all)⟩
    · exact (h.thread t').frame (by simp [ht]) rfl (fun _ => rfl)
        (fun hh => absurd (h.file_unique hh (by simp [hpc])) ht) (fun _ => rfl) (fun _ => rfl) (fun _ => rfl)
  | releaseThread t =>
    obtain ⟨hal,b,hpc⟩ := he
    simp only [transition]
    refine ⟨h.marker,fun t' => ?_⟩
    by_cases ht : t' = t
    · subst ht
      exact ⟨fun hn => absurd (by simp) hn,by simp,by simp,by simp,by simp,by simp⟩
    · exact (h.thread t').frame (by simp [ht]) rfl
        (fun hh => Function.update_noteq (fun hp => ht (h.thread_unique hh (by simp [hpc]) hp)) _ _)
        (fun _ => rfl) (fun _ => rfl) (fun _ => rfl) (fun _ => rfl)
  | crash p =>
    simp only [transition]
    refine ⟨h.marker,fun t' => ?_⟩
    by_cases hp : proc t' = p
    · exact ⟨fun hn => absurd (by simp [hp]) hn,by simp [hp],by simp [hp],by simp [hp],by simp [hp],by simp [hp]⟩
    · exact (h.thread t').frame (by simp [hp]) (Function.update_noteq hp _ _) (fun _ => Function.update_noteq hp _ _)
        (fun hh => by rw [(h.thread t').file hh,if_neg fun e => hp (Option.some.inj e)]) (fun _ => rfl)
        (fun _ => rfl) (fun _ => rfl)

theorem Inv.run {s s' : St P T} (h : Inv proc s) (hr : Run proc s s') : Inv proc s' := by
  induction hr with
  | refl => exact h
  | tail a _ hs ih => exact hs.2 ▸ transition_inv ih hs.1

theorem Reachable.inv {s : St P T} (h : Reachable proc s) : Inv proc s :=
  let ⟨_,h0,hr⟩ := h
  h0.inv.run hr

theorem marker_transition {s : St P T} {a : Act P T} (h : Inv proc s) (he : Enabled proc s a)
    (hm : s.marker) : (transition proc s a).marker := by
  cases a with
  | checkDir t =>
    have := (h.thread t).installing (by simp [he.2])
    rw [hm] at this
    cases this
  | touch t => rfl
  | crash p => exact hm
  | checkMarker t | lockThread t | lockFile t | call t | removed t | fetched t | extracted t | assertDir t
  | raise t | releaseFile t | releaseThread t => exact hm

/-- Once the marker is there it stays, on complete data, and no thread ever again removes
or extracts the directory. -/
theorem marker_run {s s' : St P T} (h : Inv proc s) (hm : s.marker) (hr : Run proc s s') :
    s'.marker ∧ s'.data = .complete ∧ ∀ t, (s'.pc t).busy = false := by
  have key : s'.marker ∧ Inv proc s' := by
    induction hr with
    | refl => exact ⟨hm,h⟩
    | tail a _ hs ih => exact ⟨hs.2 ▸ marker_transition ih.2 hs.1 ih.1,hs.2 ▸ transition_inv ih.2 hs.1⟩
  exact ⟨key.1,key.2.marker key.1,key.2.not_busy key.1⟩

variable (proc)

/-- What the guarded download guarantees of a state. -/
structure Safe (s : St P T) : Prop where
  /-- At most one `rmtree` or extraction is in progress. -/
  exclusive : ∀ t t', (s.pc t).busy → (s.pc t').busy → t = t'
  /-- Where the marker exists the data is complete, and stays so with the marker, and no
  later step removes or extracts the directory. -/
  markerStable : s.marker → s.data = .complete ∧
    ∀ s', Run proc s s' → s'.marker ∧ s'.data = .complete ∧ ∀ t, (s'.pc t).busy = false
  /-- A guarded call that returns normally leaves the marker, and complete data from then on. -/
  returnsInstalled : ∀ t s', s.pc t = .releaseThread true → Step proc s (.releaseThread t) s' →
    ∀ s'', Run proc s' s'' → s''.marker ∧ s''.data = .complete

variable {proc}

/-- The runtime data is installed exclusively and crash-consistently: every state reached
under any interleaving of the threads of any processes, with crashes anywhere, is `Safe`. -/
theorem reachable_safe {s : St P T} (hs : Reachable proc s) : Safe proc s := by
  have h := hs.inv
  refine ⟨fun t t' ht ht' => h.file_unique (Pc.holdsFile_of_installing (Pc.installing_of_busy ht))
      (Pc.holdsFile_of_installing (Pc.installing_of_busy ht')),
    fun hm => ⟨h.marker hm,fun s' hr => marker_run h hm hr⟩,fun t s' hpc hst s'' hr => ?_⟩
  have hm : s.marker := (h.thread t).returning (by simp [hpc])
  have h' : Inv proc s' := hst.2 ▸ transition_inv h hst.1
  have hm' : s'.marker := hst.2 ▸ marker_transition h hst.1 hm
  exact (marker_run h' hm' hr).imp_right And.left

/-- Two processes: `false` crashed while extracting, then a thread of `true` entered its
call and took its thread lock. -/
theorem reachable_safe_after_crash :
    Safe id ((exec id (fresh : St Bool Bool) [.call false,.lockThread false,.lockFile false,.checkMarker false,
      .checkDir false,.fetched false,.crash false,.call true,.lockThread true]).getD fresh) :=
  reachable_safe ⟨fresh,initial_fresh,@exec_run Bool Bool _ _ id fresh _ [.call false,.lockThread false,
    .lockFile false,.checkMarker false,.checkDir false,.fetched false,.crash false,.call true,.lockThread true] rfl⟩

end Runs

section Locks

variable (proc : T → P)

/-- Each held lock has a thread inside its block: a process's thread lock a thread of that
process, the file lock a thread of the process holding it. -/
structure Held (s : St P T) : Prop where
  thread : ∀ p t, s.threadLock p = some t → proc t = p ∧ (s.pc t).holdsThread
  file : ∀ p, s.fileLock = some p → ∃ t, proc t = p ∧ (s.pc t).holdsFile

variable {proc}

theorem Initial.held {s : St P T} (h : Initial s) : Held proc s :=
  ⟨fun p t h' => by simp [h.threadLock p] at h',fun p h' => by simp [h.fileLock] at h'⟩

variable (proc) in
/-- No deadlock: while a thread is inside a call, one of the threads inside a call can take
its next step. -/
def DeadlockFree (s : St P T) : Prop :=
  (∃ t, s.pc t ≠ .idle) → ∃ t, s.pc t ≠ .idle ∧ Enabled proc s (nextAct t (s.pc t))

theorem enabled_nextAct {s : St P T} {t : T} (ha : s.alive (proc t))
    (hlt : s.pc t = .lockThread → s.threadLock (proc t) = none)
    (hlf : s.pc t = .lockFile → s.fileLock = none ∨ s.fileLock = some (proc t)) :
    Enabled proc s (nextAct t (s.pc t)) := by
  cases h : s.pc t <;> simp_all [nextAct,Enabled]


theorem enabled_of_holdsFile {s : St P T} (h : Inv proc s) {t : T} (hf : (s.pc t).holdsFile) :
    Enabled proc s (nextAct t (s.pc t)) :=
  enabled_nextAct ((h.thread t).alive fun e => by simp [e] at hf) (fun e => by simp [e] at hf)
    fun e => by simp [e] at hf

theorem progress_of_holdsThread {s : St P T} (h : Inv proc s) (hl : Held proc s) {t : T}
    (ht : (s.pc t).holdsThread) : ∃ t', (s.pc t').holdsThread ∧ Enabled proc s (nextAct t' (s.pc t')) := by
  by_cases hw : s.pc t = .lockFile ∧ ∃ p, s.fileLock = some p ∧ p ≠ proc t
  · obtain ⟨-,p,hp,-⟩ := hw
    obtain ⟨t',-,hf⟩ := hl.file p hp
    exact ⟨t',Pc.holdsThread_of_holdsFile hf,enabled_of_holdsFile h hf⟩
  · refine ⟨t,ht,enabled_nextAct ((h.thread t).alive (Pc.ne_idle_of_holdsThread ht))
      (fun e => by simp [e] at ht) fun e => ?_⟩
    cases hf : s.fileLock with
    | none => exact .inl rfl
    | some p => exact .inr (congrArg some (by_contra fun hne => hw ⟨e,p,hf,hne⟩))

variable [DecidableEq T]

theorem update_pc_holds {q : Pc → Bool} {f : T → Pc} {t t' : T} {c : Pc} (hq : q c = q (f t))
    (h : q (f t')) : q (Function.update f t c t') := by
  by_cases e : t' = t
  · subst e; simpa [hq] using h
  · simpa [e] using h

theorem Held.move {s s' : St P T} {t : T} {c : Pc} (h : Held proc s) (hpc : s'.pc = Function.update s.pc t c)
    (hth : s'.threadLock = s.threadLock) (hfl : s'.fileLock = s.fileLock)
    (ht : c.holdsThread = (s.pc t).holdsThread) (hf : c.holdsFile = (s.pc t).holdsFile) : Held proc s' := by
  refine ⟨fun p t' h' => ?_,fun p h' => ?_⟩ <;> rw [hpc]
  · exact (h.thread p t' (hth ▸ h')).imp_right (update_pc_holds ht)
  · obtain ⟨t',hp,hh⟩ := h.file p (hfl ▸ h')
    exact ⟨t',hp,update_pc_holds hf hh⟩

variable [DecidableEq P]

theorem transition_held {s : St P T} {a : Act P T} (h : Held proc s) (he : Enabled proc s a) :
    Held proc (transition proc s a) := by
  cases a with
  | call t => exact h.move rfl rfl rfl (by simp [he.2]) (by simp [he.2])
  | lockThread t =>
    obtain ⟨-,hpc,hfree⟩ := he
    refine ⟨fun p t' h' => ?_,fun p h' => ?_⟩
    · by_cases hp : p = proc t
      · subst hp
        obtain rfl : t = t' := by simpa [transition] using h'
        simp [transition]
      · obtain ⟨hp',hh⟩ := h.thread p t' (by simpa [transition,hp] using h')
        have ht : t' ≠ t := fun e => hp (e ▸ hp'.symm)
        simpa [transition,ht] using ⟨hp',hh⟩
    · obtain ⟨t',hp,hh⟩ := h.file p h'
      exact ⟨t',hp,update_pc_holds (by simp [hpc]) hh⟩
  | lockFile t =>
    obtain ⟨-,hpc,-⟩ := he
    refine ⟨fun p t' h' => (h.thread p t' h').imp_right (update_pc_holds (by simp [hpc])),fun p h' => ?_⟩
    obtain rfl : proc t = p := by simpa [transition] using h'
    exact ⟨t,rfl,by simp [transition]⟩
  | checkMarker t =>
    simp only [transition]
    split <;> exact h.move rfl rfl rfl (by simp [he.2]) (by simp [he.2])
  | checkDir t =>
    simp only [transition]
    split_ifs <;> exact h.move rfl rfl rfl (by simp [he.2]) (by simp [he.2])
  | removed t => exact h.move rfl rfl rfl (by simp [he.2]) (by simp [he.2])
  | fetched t => exact h.move rfl rfl rfl (by simp [he.2]) (by simp [he.2])
  | extracted t => exact h.move rfl rfl rfl (by simp [he.2]) (by simp [he.2])
  | assertDir t =>
    simp only [transition]
    split_ifs <;> exact h.move rfl rfl rfl (by simp [he.2]) (by simp [he.2])
  | touch t => exact h.move rfl rfl rfl (by simp [he.2]) (by simp [he.2])
  | raise t =>
    rcases he.2 with hpc | hpc | hpc <;> exact h.move rfl rfl rfl (by simp [hpc]) (by simp [hpc])
  | releaseFile t =>
    obtain ⟨-,b,hpc⟩ := he
    simp only [transition,hpc]
    exact ⟨fun p t' h' => (h.thread p t' h').imp_right (update_pc_holds (by simp [hpc])),fun p h' => by cases h'⟩
  | releaseThread t =>
    obtain ⟨-,b,hpc⟩ := he
    refine ⟨fun p t' h' => ?_,fun p h' => ?_⟩
    · have hp : p ≠ proc t := by rintro rfl; simp [transition] at h'
      obtain ⟨hp',hh⟩ := h.thread p t' (by simpa [transition,hp] using h')
      have ht : t' ≠ t := fun e => hp (e ▸ hp'.symm)
      simpa [transition,ht] using ⟨hp',hh⟩
    · obtain ⟨t',hp,hh⟩ := h.file p h'
      exact ⟨t',hp,update_pc_holds (by simp [hpc]) hh⟩
  | crash p =>
    refine ⟨fun p' t' h' => ?_,fun p' h' => ?_⟩
    · have hp : p' ≠ p := by rintro rfl; simp [transition] at h'
      obtain ⟨hp',hh⟩ := h.thread p' t' (by simpa [transition,hp] using h')
      refine ⟨hp',?_⟩
      simpa [transition,hp',hp] using hh
    · simp only [transition] at h'
      split_ifs at h' with hfl
      obtain ⟨t',hp',hh⟩ := h.file p' h'
      have hp : proc t' ≠ p := fun e => hfl (e ▸ hp' ▸ h')
      exact ⟨t',hp',by simpa [transition,hp] using hh⟩

theorem Held.run {s s' : St P T} (h : Held proc s) (hr : Run proc s s') : Held proc s' := by
  induction hr with
  | refl => exact h
  | tail a _ hs ih => exact hs.2 ▸ transition_held ih hs.1

theorem Reachable.held {s : St P T} (h : Reachable proc s) : Held proc s :=
  let ⟨_,h0,hr⟩ := h
  h0.held.run hr

/-- The two locks, taken always in the same order and released by a crash, never deadlock:
in every reachable state some thread inside a call can move. Processes start with their
locks free; a fork that copies a held thread lock is outside the model. -/
theorem reachable_deadlockFree {s : St P T} (hs : Reachable proc s) : DeadlockFree proc s := by
  rintro ⟨t,ht⟩
  have h := hs.inv
  have hl := hs.held
  have holder : ∀ t', (s.pc t').holdsThread → ∃ t, s.pc t ≠ .idle ∧ Enabled proc s (nextAct t (s.pc t)) :=
    fun t' ht' => let ⟨t'',h1,h2⟩ := progress_of_holdsThread h hl ht'
      ⟨t'',Pc.ne_idle_of_holdsThread h1,h2⟩
  by_cases hth : (s.pc t).holdsThread
  · exact holder t hth
  · have hw : s.pc t = .lockThread := by cases e : s.pc t <;> simp_all
    cases hfree : s.threadLock (proc t) with
    | none => exact ⟨t,ht,enabled_nextAct ((h.thread t).alive ht) (fun _ => hfree) fun e => by simp [hw] at e⟩
    | some t' => exact holder t' (hl.thread _ t' hfree).2

/-- Process `true` waits for the file lock that process `false` holds. -/
theorem reachable_deadlockFree_waiting :
    DeadlockFree id ((exec id (fresh : St Bool Bool) [.call false,.lockThread false,.lockFile false,.call true,
      .lockThread true]).getD fresh) :=
  reachable_deadlockFree ⟨fresh,initial_fresh,@exec_run Bool Bool _ _ id fresh _
    [.call false,.lockThread false,.lockFile false,.call true,.lockThread true] rfl⟩

end Locks

section Recovery

variable [DecidableEq T] [DecidableEq P] {proc : T → P}

/-- From a state where no call is in progress, whatever crashes left behind, one call
that runs alone installs the data: it ends with the marker on complete data. -/
theorem solo_installs {s : St P T} (hs : Reachable proc s) (hq : ∀ t, s.pc t = .idle) {t : T}
    (ha : s.alive (proc t)) :
    ∃ s', exec proc s (soloCall t s.marker s.data) = some s' ∧ s'.marker ∧ s'.data = .complete ∧
      ∀ t', s'.pc t' = .idle := by
  have hl := hs.held
  have hth : s.threadLock (proc t) = none := by
    cases e : s.threadLock (proc t) with
    | none => rfl
    | some t' => simpa [hq t'] using (hl.thread _ t' e).2
  have hfl : s.fileLock = none := by
    cases e : s.fileLock with
    | none => rfl
    | some p => obtain ⟨t',-,ht'⟩ := hl.file p e; simp [hq t'] at ht'
  cases hm : s.marker
  · cases hd : s.data <;>
      simp [soloCall,exec_append,exec_cons,Enabled,transition,hq,ha,hth,hfl,hm,hd,St.goto,Function.update_apply]
  · simpa [soloCall,exec_append,exec_cons,Enabled,transition,hq,ha,hth,hfl,hm,St.goto,Function.update_apply]
      using hs.inv.marker hm

/-- Process `false` crashed while extracting; a call of process `true` alone repairs
the directory. -/
theorem solo_installs_after_crash :
    let s₁ := (exec id (fresh : St Bool Bool) [.call false,.lockThread false,.lockFile false,.checkMarker false,
      .checkDir false,.fetched false,.crash false]).getD fresh
    ∃ s', exec id s₁ (soloCall true s₁.marker s₁.data) = some s' ∧ s'.marker ∧ s'.data = .complete ∧
      ∀ t', s'.pc t' = .idle :=
  solo_installs ⟨fresh,initial_fresh,@exec_run Bool Bool _ _ id fresh _ [.call false,.lockThread false,
    .lockFile false,.checkMarker false,.checkDir false,.fetched false,.crash false] rfl⟩ (by decide) (by decide)

end Recovery

end Download
end CbenchValidation
