/-
Sets of characters that an expression can ask for.
-/
import SearchFilter.Text.Case
import SearchFilter.Text.Property

namespace SearchFilter.Regex

open SearchFilter.Text (CharSet Named)

/-- a set of characters -/
inductive CharClass where
  | ranges (set : CharSet)
  | named (set : Named)
  /-- all characters equal to one of the set when case is ignored -/
  | folded (c : CharClass)
  | negation (c : CharClass)
  | union (a b : CharClass)
  | intersection (a b : CharClass)

namespace CharClass

/-- code points equal to `n` when case is ignored, `n` among them -/
def caseVariants (n : Nat) : List Nat :=
  let image := Text.foldRuns.image n
  image :: Text.foldRuns.filterMap fun r =>
    let m := r.lo + (image - r.image)
    if r.image ≤ image && m ≤ r.hi && (m - r.lo) % r.step = 0 then some m else none

def has (n : Nat) : CharClass → Bool
  | ranges set => set.has n
  | named set => set.has n
  | folded c => (caseVariants n).any fun m => c.has m
  | negation c => !c.has n
  | union a b => a.has n || b.has n
  | intersection a b => a.has n && b.has n

def single (n : Nat) : CharClass := ranges [(n, n)]

def difference (a b : CharClass) : CharClass := intersection a (negation b)

def symmetricDifference (a b : CharClass) : CharClass := union (difference a b) (difference b a)

/-! ## Size -/

/-- an estimate of the number of ranges -/
def rangeCount : CharClass → Nat
  | ranges set => set.length
  | named .ascii => 1
  | named (.categories cs) => (Text.categoryRuns.filter fun r => cs.contains r.first).length
  | named (.property p) =>
    p.plus.length + p.minus.length + (Text.categoryRuns.filter fun r => p.categories.contains r.first).length
  | named (.script code) => (Text.scriptRuns.filter fun r => r.2.2 == code).length
  | named (.scriptExtension code) =>
    (Text.scriptRuns.filter fun r => r.2.2 == code).length +
      (Text.scriptExtensionRuns.filter fun r => r.2.2.contains code).length
  | folded c => 2 * rangeCount c
  | negation c => rangeCount c + 1
  | union a b => rangeCount a + rangeCount b
  | intersection a b => rangeCount a + rangeCount b

/-- whether a set is known to be within ASCII -/
def isAscii : CharClass → Bool
  | ranges set => set.all fun r => r.2 ≤ 0x7F
  | named .ascii => true
  | named _ => false
  | folded c => c.isAscii
  | negation _ => false
  | union a b => a.isAscii && b.isAscii
  | intersection a b => a.isAscii || b.isAscii

end CharClass
end SearchFilter.Regex
