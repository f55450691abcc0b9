import Mathlib.Data.List.Infix

/-! The Python `str` and `pathlib` operations the cBench validators apply to command
templates, program output and file names. Text is a list of characters; the `String`
forms at the end are what the rest of the model calls. -/
namespace CbenchValidation
namespace Text

/-- The scan of `str.replace`: left to right, each non-overlapping occurrence of `old`
becomes `new`. `k` counts the characters of a replaced occurrence still to skip. -/
def replaceGo (old new : List Char) : ℕ → List Char → List Char
  | _, [] => []
  | k+1, _::s => replaceGo old new k s
  | 0, c::s =>
    if old.isPrefixOf (c::s) then new ++ replaceGo old new (old.length-1) s
    else c :: replaceGo old new 0 s

/-- `str.replace(old, new)`. An empty `old` inserts `new` around every character. -/
def replaceList (s old new : List Char) : List Char :=
  if old = [] then s.flatMap (fun c => new ++ [c]) ++ new else replaceGo old new 0 s

section Nonempty

variable {old new : List Char} (hold : old ≠ [])
include hold

end Nonempty

/-- `str.isspace` for one character: the characters Python's `str.rstrip()` removes. -/
def isSpace (c : Char) : Bool :=
  let n := c.toNat
  (0x09 ≤ n && n ≤ 0x0d) || (0x1c ≤ n && n ≤ 0x20) || n == 0x85 || n == 0xa0 || n == 0x1680 ||
    (0x2000 ≤ n && n ≤ 0x200a) || n == 0x2028 || n == 0x2029 || n == 0x202f || n == 0x205f ||
    n == 0x3000

/-- `str.rstrip()` with no argument. -/
def rstripList (s : List Char) : List Char := (s.reverse.dropWhile isSpace).reverse

/-- `sub in s`: whether `sub` occurs in `s`. -/
def containsList (s sub : List Char) : Bool :=
  sub.isPrefixOf s || match s with
    | [] => false
    | _::t => containsList t sub

/-- `str.replace` on Python strings. -/
def replace (s old new : String) : String := ⟨replaceList s.data old.data new.data⟩

def rstrip (s : String) : String := ⟨rstripList s.data⟩

def contains (s sub : String) : Bool := containsList s.data sub.data

/-- `str.split()` with no argument: the maximal runs of non-whitespace characters. -/
def split (s : String) : List String :=
  ((s.data.splitOnP isSpace).filter (· ≠ [])).map String.mk

/-- The parts `PurePath` keeps of a `/`-separated path: empty parts and `.` are dropped. -/
def pathParts (p : String) : List (List Char) := (p.data.splitOn '/').filter fun c => !c.isEmpty && c != ['.']

/-- `PurePath.name`: the last part, or `''` when there is none. -/
def pathName (p : String) : String := ⟨(pathParts p).getLast?.getD []⟩

/-- The root `PurePath` reads off a path: `//` for exactly two leading slashes. -/
def pathRoot (p : String) : String :=
  match p.data with
  | '/' :: '/' :: '/' :: _ => "/"
  | '/' :: '/' :: _ => "//"
  | '/' :: _ => "/"
  | _ => ""

/-- `PurePath.parent`: the path without its last part (`.` for a bare name). -/
def pathParent (p : String) : String :=
  match (pathParts p).dropLast with
  | [] => if pathRoot p = "" then "." else pathRoot p
  | ps => pathRoot p ++ ⟨['/'].intercalate ps⟩

/-- A relative path that `cwd / p` leaves as it is: its parts are nonempty and none is `.`
or `..`, so two such names are one file exactly when they are equal. -/
def NormalName (p : String) : Prop := ∀ c ∈ p.data.splitOn '/', c ≠ [] ∧ c ≠ ['.'] ∧ c ≠ ['.','.']

instance : DecidablePred NormalName := fun p => inferInstanceAs (Decidable (∀ c ∈ p.data.splitOn '/', _))

example : replace "$BIN 512" "$BIN" "./a.out" = "./a.out 512" := by decide
example : pathParent "/usr/lib/llvm/bin/lli" = "/usr/lib/llvm/bin" ∧ pathName "/usr/bin/lli" = "lli" ∧
    pathName "dir/out.txt/" = "out.txt" ∧ pathParent "lli" = "." := by
  decide
example : NormalName "dir/out.txt" ∧ ¬ NormalName "./out.txt" ∧ ¬ NormalName "out.txt/" := by decide

end Text
end CbenchValidation
