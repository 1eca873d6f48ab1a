/-!
Suggestions for mistyped words, by Jaro similarity.

Two characters match when they are equal, not yet matched, and at most `max(|a|, |b|) / 2 - 1`
positions apart; with `m` matches and `t` half-transpositions, the similarity is
`(m/|a| + m/|b| + (m - t)/m) / 3`. A candidate is suggested when its similarity exceeds 0.7;
candidates are ordered from least to most similar, ties keeping their order. Similarities are
kept as exact fractions.
-/

namespace SealedPillar

namespace Cli

structure Ratio where
  num : Nat
  den : Nat
  deriving Inhabited

def Ratio.lt (a b : Ratio) : Bool := a.num * b.den < b.num * a.den

def jaroMatches (a b : List Char) (range : Nat) : List Bool × List Bool :=
  let step (acc : List Bool × List Bool × Nat) (c : Char) : List Bool × List Bool × Nat :=
    let (aFlags, bFlags, i) := acc
    let lo := i - range
    let hi := min b.length (i + range + 1)
    let hit := (List.range hi).find? fun j =>
      lo ≤ j && b[j]? == some c && bFlags[j]? == some false
    match hit with
    | some j => (aFlags ++ [true], bFlags.set j true, i + 1)
    | none => (aFlags ++ [false], bFlags, i + 1)
  let (aFlags, bFlags, _) := a.foldl step ([], List.replicate b.length false, 0)
  (aFlags, bFlags)

def jaro (x y : String) : Ratio :=
  let a := x.toList
  let b := y.toList
  if a.isEmpty && b.isEmpty then ⟨1, 1⟩
  else if a.isEmpty || b.isEmpty then ⟨0, 1⟩
  else
    let range := max a.length b.length / 2 - 1
    let (aFlags, bFlags) := jaroMatches a b range
    let aHits := (a.zip aFlags).filterMap fun (c, f) => if f then some c else none
    let bHits := (b.zip bFlags).filterMap fun (c, f) => if f then some c else none
    let m := aHits.length
    let t := ((aHits.zip bHits).filter fun (p, q) => p != q).length / 2
    if m == 0 then ⟨0, 1⟩
    else
      let la := a.length
      let lb := b.length
      -- (m/la + m/lb + (m - t)/m) / 3
      ⟨m * lb * m + m * la * m + (m - t) * la * lb, 3 * la * lb * m⟩

def similar (word : String) (candidates : List String) : List String :=
  let scored := candidates.filterMap fun c =>
    let r := jaro word c
    if (Ratio.lt ⟨7, 10⟩ r) then some (r, c) else none
  (scored.mergeSort fun p q => !Ratio.lt q.1 p.1).map (·.2)

/-- The most similar candidate, the last of equals. -/
def closest (word : String) (candidates : List String) : Option String :=
  (similar word candidates).getLast?

end Cli

end SealedPillar
