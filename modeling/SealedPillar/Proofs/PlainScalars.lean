import SealedPillar.Yaml.Write
import SealedPillar.Yaml.Resolve

/-!
Which strings the writer leaves unquoted, and what the reader makes of them.

The writer quotes a one-line string exactly when `Write.needsQuotes` says so
(`Write.scalar_eq_self_iff`): a quoted text is always longer than the string. The reader resolves
an unquoted scalar as null, a boolean, a number or a string (`resolvePlain`). Every null and
boolean word is one the writer quotes, so an unquoted string can only be misread as a number
(`resolvePlain_of_unquoted`), and it reads back as itself exactly when `Number.ofText?` does not
read it (`unquoted_scalar_reads_back_iff`). The writer's test covers decimal integers and floats
and the `0x` prefix only, so texts such as `0o17`, `0b1`, `+0x1F` or `+.inf` are written unquoted
and read back as numbers (`octal_text_reads_as_number`).
-/

namespace SealedPillar

namespace Yaml

namespace Write

theorem length_escapeChar_pos (c : Char) : 0 < (escapeChar c).length := by
  simp only [escapeChar]
  -- seven two-character escapes, the six-character hex escape, and the character itself
  repeat' split
  all_goals simp [← String.length_toList]

theorem length_le_join_escapes (cs : List Char) :
    cs.length ≤ (String.join (cs.map escapeChar)).length := by
  induction cs with
  | nil => simp
  | cons c rest ih =>
    have escaped := length_escapeChar_pos c
    rw [List.map_cons, String.join_cons, String.length_append, List.length_cons]
    omega

theorem length_doubleQuoted (s : String) : s.length + 2 ≤ (doubleQuoted s).length := by
  have quote : "\"".length = 1 := by decide
  have escapes := length_le_join_escapes s.toList
  rw [String.length_toList] at escapes
  simp only [doubleQuoted, String.length_append, quote]
  omega

theorem scalar_of_oneLine (literal : Bool) (level : Int) {s : String}
    (oneLine : '\n' ∉ s.toList) :
    scalar literal level s = if needsQuotes s then doubleQuoted s else s := by
  have noBreak : s.toList.contains '\n' = false := by simpa using oneLine
  simp only [scalar, noBreak, Bool.and_false, Bool.false_and, Bool.false_eq_true, if_false]

theorem scalar_eq_self_iff (literal : Bool) (level : Int) {s : String}
    (oneLine : '\n' ∉ s.toList) : scalar literal level s = s ↔ needsQuotes s = false := by
  rw [scalar_of_oneLine literal level oneLine]
  cases quoted : needsQuotes s with
  | false => simp
  | true =>
    have longer := length_doubleQuoted s
    simp only [if_true, Bool.true_eq_false, iff_false]
    intro same
    rw [same] at longer
    omega

theorem unquoted_not_reserved {s : String} (unquoted : needsQuotes s = false) :
    s.isEmpty = false ∧ reservedWords.contains s = false := by
  simp only [needsQuotes, Bool.or_eq_false_iff] at unquoted
  exact ⟨unquoted.1.1.1.1.1.1.1.1.1, unquoted.1.1.1.1.2⟩

end Write

theorem nullWords_reserved :
    ∀ w ∈ nullWords, w.isEmpty ∨ Write.reservedWords.contains w := by
  decide

theorem reserved_of_parseBool {s : String} {b : Bool} (found : parseBool s = some b) :
    Write.reservedWords.contains s = true := by
  simp only [parseBool] at found
  split at found
  · rename_i word
    simp only [List.contains_iff_mem, List.mem_cons, List.not_mem_nil, or_false] at word
    rcases word with rfl | rfl | rfl | rfl | rfl | rfl | rfl | rfl | rfl <;> decide
  · split at found
    · rename_i _ word
      simp only [List.contains_iff_mem, List.mem_cons, List.not_mem_nil, or_false] at word
      rcases word with rfl | rfl | rfl | rfl | rfl | rfl | rfl | rfl | rfl <;> decide
    · cases found

theorem resolvePlain_of_unquoted {s : String} (unquoted : Write.needsQuotes s = false) :
    resolvePlain s = match Number.ofText? s with
      | some n => .number n
      | none => .string s := by
  obtain ⟨nonempty, notReserved⟩ := Write.unquoted_not_reserved unquoted
  have notNull : nullWords.contains s = false := by
    rw [Bool.eq_false_iff]
    intro held
    rcases nullWords_reserved s (List.contains_iff_mem.mp held) with empty | reserved
    · rw [nonempty] at empty
      cases empty
    · rw [notReserved] at reserved
      cases reserved
  have notBool : parseBool s = none := by
    cases found : parseBool s with
    | none => rfl
    | some b =>
      have reserved := reserved_of_parseBool found
      rw [notReserved] at reserved
      cases reserved
  simp only [resolvePlain, notNull, notBool]
  rfl

theorem resolvePlain_eq_string_iff {s : String} (unquoted : Write.needsQuotes s = false) :
    resolvePlain s = .string s ↔ Number.ofText? s = none := by
  rw [resolvePlain_of_unquoted unquoted]
  cases Number.ofText? s with
  | none => simp
  | some n => simp

/-- A one-line string that the writer leaves unquoted reads back as itself exactly when it does
not read as a number. -/
theorem unquoted_scalar_reads_back_iff (literal : Bool) (level : Int) {s : String}
    (oneLine : '\n' ∉ s.toList) :
    (Write.scalar literal level s = s → resolvePlain s = .string s) ↔
      (Write.needsQuotes s = false → Number.ofText? s = none) := by
  rw [Write.scalar_eq_self_iff literal level oneLine]
  constructor
  · intro readsBack unquoted
    exact (resolvePlain_eq_string_iff unquoted).mp (readsBack unquoted)
  · intro notNumber unquoted
    exact (resolvePlain_eq_string_iff unquoted).mpr (notNumber unquoted)

theorem unquoted_scalar_reads_back_password :
    '\n' ∉ "hunter2".toList ∧
      (Write.scalar false 0 "hunter2" = "hunter2" → resolvePlain "hunter2" = .string "hunter2") :=
  ⟨by decide, (unquoted_scalar_reads_back_iff false 0 (by decide)).mpr fun _ => rfl⟩

/-- The octal text `0o17` is written unquoted and read back as the number 15. -/
theorem octal_text_reads_as_number :
    Write.scalar false 0 "0o17" = "0o17" ∧ resolvePlain "0o17" = .number (.unsigned 15) :=
  ⟨by decide +kernel, rfl⟩

end Yaml

end SealedPillar
