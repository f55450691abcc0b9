import CbenchValidation.System

/-! `validate_sha_output`, the result hook of the sha validators. `re.match` is modelled
for patterns made of literal characters and bounded repetitions of a character class:
it succeeds when some prefix of the text matches, trying repetition counts greedily and
backtracking. The hook then accepts exactly the outputs whose stripped text begins with
four runs of at most sixteen lowercase hex digits, each followed by one space. -/
namespace CbenchValidation
namespace ShaOutput

/-- A piece of a regular expression without alternation: a literal character, or
`[...]{lo,hi}` for a class given by character ranges. -/
inductive Piece
  | lit (c : Char)
  | rep (cls : List (Char × Char)) (lo hi : ℕ)

def inClass (cls : List (Char × Char)) (c : Char) : Bool := cls.any fun r => r.1 ≤ c && c ≤ r.2

/-- Repetition of a class between `lo` and `hi` times, then the continuation `k`; one more
character is tried before stopping, as a greedy quantifier does. -/
def matchRep (cls : List (Char × Char)) (k : List Char → Bool) : ℕ → ℕ → List Char → Bool
  | lo, hi+1, d::s => (inClass cls d && matchRep cls k (lo-1) hi s) || (lo == 0 && k (d::s))
  | lo, _, s => lo == 0 && k s

/-- `re.match(pattern, text)` is not `None`: some prefix of the text matches. -/
def matchPieces : List Piece → List Char → Bool
  | [], _ => true
  | .lit c :: ps, d::s => c == d && matchPieces ps s
  | .lit _ :: _, [] => false
  | .rep cls lo hi :: ps, s => matchRep cls (matchPieces ps) lo hi s

def hexClass : List (Char × Char) := [('0','9'),('a','f')]

def hexRun : Piece := .rep hexClass 0 16

/-- `r"[0-9a-f]{0,16} [0-9a-f]{0,16} [0-9a-f]{0,16} [0-9a-f]{0,16} [0-9a-f]{0,16}"`. -/
def shaPattern : List Piece :=
  [hexRun,.lit ' ',hexRun,.lit ' ',hexRun,.lit ' ',hexRun,.lit ' ',hexRun]

/-- `validate_sha_output`. `result.output.rstrip()` raises `AttributeError` when there is
no output; its `except UnicodeDecodeError` can never fire on a `str`. -/
def validateShaOutput (result : BenchmarkExecutionResult) : Except Exc (Option String) :=
  match result.output with
  | none => .error (.other "AttributeError")
  | some out =>
    if matchPieces shaPattern (Text.rstrip out).data then .ok none
    else .ok (some "Failed to parse hex output")

theorem matchRep_iff (cls : List (Char × Char)) (k : List Char → Bool) (hi : ℕ) :
    ∀ lo s, matchRep cls k lo hi s = true ↔
      ∃ t r, s = t ++ r ∧ lo ≤ t.length ∧ t.length ≤ hi ∧ (∀ c ∈ t, inClass cls c) ∧ k r := by
  induction hi with
  | zero =>
    intro lo s
    have h : matchRep cls k lo 0 s = (lo == 0 && k s) := by cases s <;> rfl
    rw [h]
    constructor
    · intro h'
      simp only [Bool.and_eq_true,beq_iff_eq] at h'
      exact ⟨[],s,rfl,by omega,le_rfl,by simp,h'.2⟩
    · rintro ⟨t,r,rfl,hlo,hhi,-,hk⟩
      obtain rfl := List.length_eq_zero.mp (Nat.le_zero.mp hhi)
      simp_all
  | succ hi ih =>
    intro lo s
    cases s with
    | nil =>
      constructor
      · intro h'
        simp only [matchRep,Bool.and_eq_true,beq_iff_eq] at h'
        exact ⟨[],[],rfl,by omega,Nat.zero_le _,by simp,h'.2⟩
      · rintro ⟨t,r,hs,hlo,-,-,hk⟩
        obtain ⟨rfl,rfl⟩ := List.append_eq_nil.mp hs.symm
        show (lo == 0 && k []) = true
        simp only [List.length_nil,Nat.le_zero] at hlo
        simp [hlo,hk]
    | cons d s =>
      simp only [matchRep,Bool.or_eq_true,Bool.and_eq_true,ih,beq_iff_eq]
      constructor
      · rintro (⟨hd,t,r,rfl,hlo,hhi,hc,hk⟩ | ⟨rfl,hk⟩)
        · refine ⟨d::t,r,rfl,by simp; omega,by simp; omega,?_,hk⟩
          simpa [hd] using hc
        · exact ⟨[],d::s,rfl,le_refl 0,Nat.zero_le _,by simp,hk⟩
      · rintro ⟨_|⟨c,t⟩,r,hs,hlo,hhi,hc,hk⟩
        · simp only [List.length_nil,Nat.le_zero,List.nil_append] at hlo hs
          exact Or.inr ⟨hlo,hs ▸ hk⟩
        · simp only [List.cons_append,List.cons.injEq] at hs
          obtain ⟨rfl,rfl⟩ := hs
          simp only [List.length_cons] at hlo hhi
          exact Or.inl ⟨hc d (List.mem_cons_self d t),t,r,rfl,by omega,by omega,
            fun x hx => hc x (List.mem_cons_of_mem d hx),hk⟩

@[simp] theorem matchPieces_nil (s : List Char) : matchPieces [] s = true := by
  cases s <;> rfl

theorem matchPieces_lit (c : Char) (ps : List Piece) (s : List Char) :
    matchPieces (.lit c :: ps) s = true ↔ ∃ r, s = c::r ∧ matchPieces ps r = true := by
  cases s with
  | nil => exact ⟨fun h => absurd h Bool.false_ne_true,fun ⟨_,h,_⟩ => absurd h List.noConfusion⟩
  | cons d s =>
    show (c == d && matchPieces ps s) = true ↔ _
    simp only [Bool.and_eq_true,beq_iff_eq,List.cons.injEq]
    exact ⟨fun ⟨hc,h⟩ => ⟨s,⟨hc.symm,rfl⟩,h⟩,fun ⟨_,⟨hc,hs⟩,h⟩ => ⟨hc.symm,hs ▸ h⟩⟩

theorem matchPieces_rep (cls : List (Char × Char)) (lo hi : ℕ) (ps : List Piece) (s : List Char) :
    matchPieces (.rep cls lo hi :: ps) s = true ↔
      ∃ t r, s = t ++ r ∧ lo ≤ t.length ∧ t.length ≤ hi ∧ (∀ c ∈ t, inClass cls c) ∧
        matchPieces ps r := matchRep_iff cls (matchPieces ps) hi lo s

/-- A run of at most sixteen lowercase hex digits, possibly empty. -/
def HexRun (t : List Char) : Prop := t.length ≤ 16 ∧ ∀ c ∈ t, inClass hexClass c

instance : DecidablePred HexRun := fun _ => inferInstanceAs (Decidable (_ ∧ _))

theorem matchPieces_hexRun (ps : List Piece) (s : List Char) :
    matchPieces (hexRun :: ps) s = true ↔ ∃ t r, s = t ++ r ∧ HexRun t ∧ matchPieces ps r = true := by
  rw [hexRun,matchPieces_rep]
  simp only [Nat.zero_le,true_and,HexRun,and_assoc]

/-- Four hex runs, each followed by one space, then any text. -/
def ShaPrefix (s : List Char) : Prop :=
  ∃ t1 t2 t3 t4 r, s = t1 ++ ' ' :: (t2 ++ ' ' :: (t3 ++ ' ' :: (t4 ++ ' ' :: r))) ∧
    HexRun t1 ∧ HexRun t2 ∧ HexRun t3 ∧ HexRun t4

/-- The language `re.match` accepts for the sha pattern: the fifth run may be empty, so
whatever follows the fourth space is accepted. -/
theorem matchPieces_shaPattern (s : List Char) : matchPieces shaPattern s = true ↔ ShaPrefix s := by
  simp only [shaPattern,matchPieces_hexRun,matchPieces_lit,matchPieces_nil,and_true]
  constructor
  · rintro ⟨t1,_,rfl,h1,_,rfl,t2,_,rfl,h2,_,rfl,t3,_,rfl,h3,_,rfl,t4,_,rfl,h4,_,rfl,t5,r,rfl,-⟩
    exact ⟨t1,t2,t3,t4,t5 ++ r,rfl,h1,h2,h3,h4⟩
  · rintro ⟨t1,t2,t3,t4,r,rfl,h1,h2,h3,h4⟩
    exact ⟨t1,_,rfl,h1,_,rfl,t2,_,rfl,h2,_,rfl,t3,_,rfl,h3,_,rfl,t4,_,rfl,h4,_,rfl,[],r,rfl,
      by simp [HexRun]⟩

/-- The hook accepts an output exactly when its stripped text begins with four short
hex runs, each followed by one space, and otherwise returns its diagnostic. -/
theorem validateShaOutput_spec (w : ℕ) (e : Option ValidationError) (s : String) :
    (validateShaOutput ⟨w,e,some s⟩ = .ok none ↔ ShaPrefix (Text.rstrip s).data) ∧
      (¬ ShaPrefix (Text.rstrip s).data →
        validateShaOutput ⟨w,e,some s⟩ = .ok (some "Failed to parse hex output")) := by
  simp only [validateShaOutput,← matchPieces_shaPattern]
  by_cases h : matchPieces shaPattern (Text.rstrip s).data <;> simp [h]

/-- Exactly five tokens between single spaces, each of one to sixteen lowercase hex
digits. -/
def fiveHexTokens (t : List Char) : Bool :=
  let parts := t.splitOn ' '
  parts.length == 5 && parts.all fun p => 1 ≤ p.length && p.length ≤ 16 && p.all (inClass hexClass)

/-- The hook accepts `0 1 2 3 hello world!`, which is not five hex tokens: after the fourth
space `re.match` accepts anything. -/
theorem validateShaOutput_accepts_trailing_text :
    validateShaOutput { walltimeSeconds := 0, output := some "0 1 2 3 hello world!" } = .ok none ∧
      fiveHexTokens (Text.rstrip "0 1 2 3 hello world!").data = false := by
  refine ⟨(validateShaOutput_spec 0 none _).1.mpr ?_,by decide⟩
  exact ⟨['0'],['1'],['2'],['3'],"hello world!".data,rfl,by decide,by decide,by decide,by decide⟩

end ShaOutput
end CbenchValidation
