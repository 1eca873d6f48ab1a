import SealedPillar.Pillar

/-!
The include scan.

Reading a document first looks for a line holding `include:` and refuses the text if it finds
one. A needle that holds no line feed and no carriage return cannot straddle a line break, and
dropping a line's final carriage return cannot cut it either, so it occurs in some line exactly
when it occurs in the text (`Text.exists_line_infix_iff`). Both line scans of the library, the
bare check and the one that also reports the line, are therefore the plain substring test; and
since the scan decides before any other step of reading, a text that holds `include:` is refused
with the include error whatever else it holds, while every other text is read past the scan
(`include_scan_comes_first`).
-/

namespace SealedPillar

namespace Text

theorem prefix_of_prefix_append_cons {c : Char} :
    {needle a b : List Char} → c ∉ needle → needle <+: a ++ c :: b → needle <+: a
  | _, [], b, absent, pre => by
    rcases List.prefix_cons_iff.mp pre with rfl | ⟨t, rfl, _⟩
    · exact List.nil_prefix
    · exact absurd List.mem_cons_self absent
  | _, x :: a, b, absent, pre => by
    rcases List.prefix_cons_iff.mp pre with rfl | ⟨t, rfl, below⟩
    · exact List.nil_prefix
    · have avoids : c ∉ t := fun mem => absent (List.mem_cons_of_mem x mem)
      exact List.cons_prefix_cons.mpr ⟨rfl, prefix_of_prefix_append_cons avoids below⟩

variable {needle : List Char} {c : Char}

theorem infix_append_cons_iff (absent : c ∉ needle) :
    {a b : List Char} → (needle <:+: a ++ c :: b ↔ needle <:+: a ∨ needle <:+: b)
  | [], b => by
    rw [List.nil_append, List.infix_cons_iff, List.infix_nil]
    constructor
    · rintro (pre | inner)
      · rcases List.prefix_cons_iff.mp pre with rfl | ⟨t, rfl, _⟩
        · exact Or.inl rfl
        · exact absurd List.mem_cons_self absent
      · exact Or.inr inner
    · rintro (rfl | inner)
      · exact Or.inl List.nil_prefix
      · exact Or.inr inner
  | x :: a, b => by
    rw [List.cons_append, List.infix_cons_iff, infix_append_cons_iff absent, List.infix_cons_iff]
    constructor
    · rintro (pre | inner | inner)
      · exact Or.inl (Or.inl (prefix_of_prefix_append_cons absent pre))
      · exact Or.inl (Or.inr inner)
      · exact Or.inr inner
    · rintro ((pre | inner) | inner)
      · exact Or.inl (pre.trans (List.prefix_append _ _))
      · exact Or.inr (Or.inl inner)
      · exact Or.inr (Or.inr inner)

theorem infix_dropCarriageReturn_iff (absent : '\r' ∉ needle) (line : List Char) :
    needle <:+: dropCarriageReturn line ↔ needle <:+: line := by
  unfold dropCarriageReturn
  split
  case isFalse => rfl
  case isTrue ends =>
    have nonempty : line ≠ [] := by
      rintro rfl
      simp at ends
    have last : line.getLast nonempty = '\r' := by
      simpa [List.getLast?_eq_some_getLast nonempty] using ends
    conv => rhs; rw [← List.dropLast_concat_getLast nonempty, last]
    rw [infix_append_cons_iff absent, List.infix_nil]
    constructor
    · exact Or.inl
    · rintro (inner | rfl)
      · exact inner
      · exact List.nil_infix

theorem exists_linesFrom_infix_iff (nonempty : needle ≠ []) (noFeed : '\n' ∉ needle)
    (noReturn : '\r' ∉ needle) (cs acc : List Char) :
    (∃ line ∈ linesFrom cs acc, needle <:+: line) ↔ needle <:+: acc.reverse ++ cs := by
  fun_induction linesFrom cs acc with
  | case1 => simpa [linesFrom] using nonempty
  | case2 acc _ => simp
  | case3 rest acc ih =>
    simp only [List.mem_cons, exists_eq_or_imp, ih, List.reverse_nil, List.nil_append,
      infix_dropCarriageReturn_iff noReturn, infix_append_cons_iff noFeed]
  | case4 ch rest acc _ ih => simp [ih]

theorem exists_line_infix_iff {t : String} (nonempty : needle ≠ []) (noFeed : '\n' ∉ needle)
    (noReturn : '\r' ∉ needle) :
    (∃ line ∈ lines t, needle <:+: line.toList) ↔ needle <:+: t.toList := by
  have split := exists_linesFrom_infix_iff nonempty noFeed noReturn t.toList []
  rw [List.reverse_nil, List.nil_append] at split
  rw [← split]
  simp only [lines, linesOf, List.mem_map]
  constructor
  · rintro ⟨_, ⟨line, mem, rfl⟩, holds⟩
    exact ⟨line, mem, by simpa using holds⟩
  · rintro ⟨line, mem, holds⟩
    exact ⟨String.ofList line, ⟨line, mem, rfl⟩, by simpa using holds⟩

theorem contains_iff (s needle : String) : contains s needle = true ↔ needle.toList <:+: s.toList :=
  @decide_eq_true_iff _ (List.instDecidableIsInfixOfDecidableEq _ _)

end Text

namespace Document

theorem includeToken_breakless :
    "include:".toList ≠ [] ∧ '\n' ∉ "include:".toList ∧ '\r' ∉ "include:".toList := by
  decide

theorem hasInclude_iff (t : String) : hasInclude t = true ↔ "include:".toList <:+: t.toList := by
  obtain ⟨nonempty, noFeed, noReturn⟩ := includeToken_breakless
  rw [← Text.exists_line_infix_iff nonempty noFeed noReturn]
  simp [hasInclude, Text.contains_iff, includeToken]

theorem isSome_includeLine_iff (t : String) :
    (includeLine? t).isSome ↔ "include:".toList <:+: t.toList := by
  rw [← hasInclude_iff, hasInclude, List.any_eq_true]
  simp only [includeLine?, Option.isSome_map, List.find?_isSome]
  constructor
  · rintro ⟨entry, mem, holds⟩
    exact ⟨entry.1, List.fst_mem_of_mem_zipIdx mem, holds⟩
  · rintro ⟨line, mem, holds⟩
    have indexed : line ∈ (Text.lines t).zipIdx.map Prod.fst := by
      rw [List.zipIdx_map_fst]
      exact mem
    obtain ⟨entry, entered, rfl⟩ := List.mem_map.mp indexed
    exact ⟨entry, entered, holds⟩

theorem parseIn_of_includeLine {t : String} (found : (includeLine? t).isSome) (file : String) :
    parseIn file t = .error (.includeDetected file) := by
  obtain ⟨i, line⟩ := Option.isSome_iff_exists.mp found
  simp [parseIn, parseReport, line]

theorem parseIn_of_no_includeLine {t : String} (none : includeLine? t = none) (file : String) :
    ∀ e, parseIn file t ≠ .error (.includeDetected e) := by
  intro e
  unfold parseIn parseReport
  rw [none]
  dsimp only
  split
  · simp
  · split <;> simp

theorem parseIn_includeDetected_iff (file t : String) :
    (∃ e, parseIn file t = .error (.includeDetected e)) ↔ (includeLine? t).isSome := by
  constructor
  · rintro ⟨e, refused⟩
    cases scanned : includeLine? t with
    | none => exact absurd refused (parseIn_of_no_includeLine scanned file e)
    | some i => rfl
  · intro found
    exact ⟨file, parseIn_of_includeLine found file⟩

end Document

namespace Pillar

theorem parse_run (tr : Tracer Id) (source : Source) (t : String) :
    (parse tr source t).run =
      ((Document.parseIn source.name t).map (Pillar.mk source)).mapError .document := by
  unfold parse Document.parseIn
  rcases Document.parseReport source.name t with ⟨result, _ | event⟩ <;>
    cases result <;> rfl

end Pillar

/-- Include detection is a substring test that comes before everything else. Each line scan
finds `include:` exactly when it occurs in the text, however its lines end. Reading a document
is refused with the include error exactly for such texts, and for each of them that is the
answer, whatever else the text holds; a pillar read from a source gives the same answer under
the source's name. -/
theorem include_scan_comes_first (t : String) :
    (hasInclude t = true ↔ "include:".toList <:+: t.toList) ∧
    ((Document.includeLine? t).isSome ↔ "include:".toList <:+: t.toList) ∧
    ((∃ file, Document.parse t = .error (.includeDetected file)) ↔
      "include:".toList <:+: t.toList) ∧
    ("include:".toList <:+: t.toList → Document.parse t = .error (.includeDetected "input")) ∧
    ∀ (tr : Tracer Id) (source : Source),
      ((∃ file, (Pillar.parse tr source t).run = .error (.document (.includeDetected file))) ↔
        "include:".toList <:+: t.toList) ∧
      ("include:".toList <:+: t.toList →
        (Pillar.parse tr source t).run = .error (.document (.includeDetected source.name))) := by
  have scanned := Document.isSome_includeLine_iff t
  refine ⟨Document.hasInclude_iff t, scanned, ?_, fun found => ?_, fun tr source => ⟨?_, ?_⟩⟩
  · rw [← scanned]
    exact Document.parseIn_includeDetected_iff "input" t
  · exact Document.parseIn_of_includeLine (scanned.mpr found) "input"
  · rw [Pillar.parse_run, ← scanned, ← Document.parseIn_includeDetected_iff source.name t]
    constructor
    · rintro ⟨file, refused⟩
      cases read : Document.parseIn source.name t with
      | error e =>
        rw [read] at refused
        cases refused
        exact ⟨file, rfl⟩
      | ok d =>
        rw [read] at refused
        cases refused
    · rintro ⟨file, refused⟩
      exact ⟨file, by rw [refused]; rfl⟩
  · intro found
    rw [Pillar.parse_run, Document.parseIn_of_includeLine (scanned.mpr found)]
    rfl

theorem include_scan_wins_over_malformed_yaml :
    "include:".toList <:+: "key: [unclosed\ninclude:\n  - other\n".toList ∧
      Document.parse "key: [unclosed\ninclude:\n  - other\n" = .error (.includeDetected "input") :=
  have found : "include:".toList <:+: "key: [unclosed\ninclude:\n  - other\n".toList := by
    decide +kernel
  ⟨found, (include_scan_comes_first _).2.2.2.1 found⟩

end SealedPillar
