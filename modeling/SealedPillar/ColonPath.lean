import SealedPillar.Value

/-!
Colon paths into nested mappings.

`app:db:password` names the key `password` of the mapping under `db` of the mapping under
`app`. Segments are taken literally and empty segments are kept, so a key holding `:` cannot be
named. Reading a path (`ColonPath.resolve`) walks mappings only. Writing one (`ColonPath.assign`)
first checks the path: a segment holding anything but a mapping or null, met before any missing
or null segment, is a conflict and nothing changes; otherwise a building pass makes mappings of
missing or null segments and sets the last key. The building pass has a conflict of its own, which
the check leaves it no way to reach (`buildParts_of_checked`).

Main statements: a parsed path has a segment and displays as its text (`parts_parse_ne_nil`,
`display_parse`), and a successful write is read back (`resolve_of_assign`).
-/

namespace SealedPillar

structure ColonPath where
  parts : List String
  deriving DecidableEq, Inhabited

inductive PathError where
  /-- A segment on the way to the written key holds a value that is not a mapping. -/
  | conflict (path segment : String)
  | notFound (path : String)
  | notScalar (path : String)
  deriving Inhabited

def PathError.message : PathError → String
  | .conflict path segment =>
    "cannot set '" ++ path ++ "': segment '" ++ segment ++ "' is not a mapping"
  | .notFound path => "no value at path '" ++ path ++ "'"
  | .notScalar path => "value at path '" ++ path ++ "' is not a string"

namespace ColonPath

def segmentsFrom (acc : List Char) : List Char → List (List Char)
  | [] => [acc.reverse]
  | c :: rest =>
    if c = ':' then acc.reverse :: segmentsFrom [] rest else segmentsFrom (c :: acc) rest

theorem segmentsFrom_ne_nil (acc cs : List Char) : segmentsFrom acc cs ≠ [] := by
  induction cs generalizing acc with
  | nil => simp [segmentsFrom]
  | cons c rest ih =>
    unfold segmentsFrom
    split
    · simp
    · exact ih _

theorem intercalate_segmentsFrom (acc cs : List Char) :
    [':'].intercalate (segmentsFrom acc cs) = acc.reverse ++ cs := by
  induction cs generalizing acc with
  | nil => simp [segmentsFrom]
  | cons c rest ih =>
    unfold segmentsFrom
    split
    · rename_i colon
      subst colon
      have tail := ih []
      obtain ⟨first, others, split⟩ := List.exists_cons_of_ne_nil (segmentsFrom_ne_nil [] rest)
      rw [split] at tail ⊢
      rw [List.intercalate_cons_cons, tail]
      simp
    · rw [ih]
      simp

def parse (s : String) : ColonPath := ⟨(segmentsFrom [] s.toList).map String.ofList⟩

def display (p : ColonPath) : String := ":".intercalate p.parts

theorem parts_parse_ne_nil (s : String) : (parse s).parts ≠ [] := by
  simp [parse, segmentsFrom_ne_nil]

theorem display_parse (s : String) : (parse s).display = s := by
  apply String.toList_inj.mp
  simp [parse, display, List.map_map, Function.comp_def, intercalate_segmentsFrom]

def last (p : ColonPath) : String := p.parts.getLast?.getD ""

def join (pfx key : String) : String := if pfx.isEmpty then key else pfx ++ ":" ++ key

def resolveParts : List String → List (String × Value) → Option Value
  | [], _ => none
  | [k], entries => Value.lookup k entries
  | k :: rest, entries =>
    match Value.lookup k entries with
    | some (.mapping inner) => resolveParts rest inner
    | _ => none

def resolve (entries : List (String × Value)) (p : ColonPath) : Option Value :=
  resolveParts p.parts entries

/-- The first segment among `parents` that holds neither a mapping nor null, if it is met
before a missing or null segment. -/
def conflictIn : List String → List (String × Value) → Option String
  | [], _ => none
  | k :: rest, entries =>
    match Value.lookup k entries with
    | some (.mapping inner) => conflictIn rest inner
    | some .null => none
    | none => none
    | some _ => some k

def assignParts : List String → List (String × Value) → Value → List (String × Value)
  | [], entries, _ => entries
  | [k], entries, v => Value.insertEntry k v entries
  | k :: rest, entries, v =>
    let inner :=
      match Value.lookup k entries with
      | some (.mapping m) => m
      | _ => []
    Value.insertEntry k (.mapping (assignParts rest inner v)) entries

/-- The building pass of a write, after the check: makes mappings of missing or null segments on
the way and sets the last key. A segment holding anything else is a conflict, which the check has
already ruled out (`buildParts_of_checked`). -/
def buildParts (path : String) : List String → List (String × Value) → Value →
    Except PathError (List (String × Value))
  | [], entries, _ => .ok entries
  | [k], entries, v => .ok (Value.insertEntry k v entries)
  | k :: rest, entries, v =>
    match Value.lookup k entries with
    | some (.mapping m) =>
      (buildParts path rest m v).map fun built => Value.insertEntry k (.mapping built) entries
    | some .null =>
      (buildParts path rest [] v).map fun built => Value.insertEntry k (.mapping built) entries
    | none =>
      (buildParts path rest [] v).map fun built => Value.insertEntry k (.mapping built) entries
    | some _ => .error (.conflict path k)

/-- Writes a value at a path: the check first, so that a conflict changes nothing, then the
building pass. -/
def assign (entries : List (String × Value)) (p : ColonPath) (v : Value) :
    Except PathError (List (String × Value)) :=
  match conflictIn p.parts.dropLast entries with
  | some seg => .error (.conflict p.display seg)
  | none => buildParts p.display p.parts entries v

theorem conflictIn_nil_entries (parts : List String) : conflictIn parts [] = none := by
  cases parts <;> rfl

theorem buildParts_of_checked (path : String) {parts : List String}
    {entries : List (String × Value)} (v : Value) (checked : conflictIn parts.dropLast entries = none) :
    buildParts path parts entries v = .ok (assignParts parts entries v) := by
  induction parts generalizing entries with
  | nil => rfl
  | cons k rest ih =>
    cases rest with
    | nil => rfl
    | cons k2 rest =>
      -- the check looked at `k` first: a mapping is entered, a missing or null one built afresh
      have deeper : ∀ inner, conflictIn (k2 :: rest).dropLast inner = none →
          buildParts path (k2 :: rest) inner v = .ok (assignParts (k2 :: rest) inner v) :=
        fun inner innerChecked => ih innerChecked
      rw [List.dropLast_cons_cons] at checked
      cases found : Value.lookup k entries with
      | none =>
        simp [buildParts, assignParts, found, deeper [] (conflictIn_nil_entries _), Except.map]
      | some held =>
        cases held with
        | mapping m =>
          simp only [conflictIn, found] at checked
          simp [buildParts, assignParts, found, deeper m checked, Except.map]
        | null =>
          simp [buildParts, assignParts, found, deeper [] (conflictIn_nil_entries _), Except.map]
        | bool _ | number _ | string _ | sequence _ => simp [conflictIn, found] at checked

theorem assign_of_conflict {entries : List (String × Value)} {p : ColonPath} {seg : String}
    (v : Value) (blocked : conflictIn p.parts.dropLast entries = some seg) :
    assign entries p v = .error (.conflict p.display seg) := by
  simp [assign, blocked]

theorem assign_of_checked {entries : List (String × Value)} {p : ColonPath} (v : Value)
    (checked : conflictIn p.parts.dropLast entries = none) :
    assign entries p v = .ok (assignParts p.parts entries v) := by
  simp [assign, checked, buildParts_of_checked _ _ checked]

theorem resolveParts_assignParts (parts : List String) (nonempty : parts ≠ [])
    (entries : List (String × Value)) (v : Value) :
    resolveParts parts (assignParts parts entries v) = some v := by
  induction parts generalizing entries with
  | nil => exact absurd rfl nonempty
  | cons k rest ih =>
    cases rest with
    | nil => simp [resolveParts, assignParts, Value.lookup_insertEntry_self]
    | cons k2 rest2 =>
      simp only [assignParts, resolveParts, Value.lookup_insertEntry_self]
      exact ih (List.cons_ne_nil k2 rest2) _

theorem resolve_of_assign {entries written : List (String × Value)} {p : ColonPath} {v : Value}
    (nonempty : p.parts ≠ []) (success : assign entries p v = .ok written) :
    resolve written p = some v := by
  cases checked : conflictIn p.parts.dropLast entries with
  | some seg =>
    rw [assign_of_conflict v checked] at success
    cases success
  | none =>
    rw [assign_of_checked v checked] at success
    cases success
    exact resolveParts_assignParts p.parts nonempty entries v

end ColonPath

end SealedPillar
