import SealedPillar.Proofs.IncludeScan
import SealedPillar.Proofs.RunLaws

/-!
Blank input.

Reading a document skips the YAML parser for a text whose lines, trimmed of Unicode white space,
are empty or comments. YAML itself takes only spaces and tabs for blanks, and a carriage return
for a line break, so the shortcut and the parser disagree on a text such as a lone no-break
space, which the parser reads as a string (`no_break_space_is_blank_but_reads_as_string`). On
text made only of spaces, tabs, line breaks and comments (`Yaml.blankText`) they agree: the
shortcut takes it, and the parser finds no document in it (`blank_shortcut_agrees_with_load`).

The parser's side is a run of the scanner. Its whitespace loop reads such a text to its end
(`Scan.skipToNextToken_blank`), so the first two tokens are the stream's start and end, and the
parser's first two events are the stream's start and end (`firstDocumentEvents_blank`).
-/

namespace SealedPillar

namespace Yaml

mutual

/-- Text that YAML reads as nothing: blanks, line breaks, and comments that run to a line
break. -/
def blankText : List Char → Bool
  | [] => true
  | c :: rest => if isBlank c || isBreak c then blankText rest else c == '#' && commentText rest

def commentText : List Char → Bool
  | [] => true
  | c :: rest => if isBreak c then blankText rest else commentText rest

end

theorem blankText_cons {c : Char} {rest : List Char} : blankText (c :: rest) = true ↔
    (isBlank c = true ∧ blankText rest = true) ∨ (isBreak c = true ∧ blankText rest = true) ∨
      (c = '#' ∧ commentText rest = true) := by
  by_cases spacing : isBlank c = true
  · have other : c ≠ '#' := by
      rintro rfl
      simp [isBlank] at spacing
    simp [blankText, spacing, other]
  · by_cases breaking : isBreak c = true
    · have other : c ≠ '#' := by
        rintro rfl
        simp [isBreak] at breaking
      simp [blankText, breaking, other]
    · simp [blankText, spacing, breaking]

theorem blankText_after_break {c : Char} {rest : List Char} (breaking : isBreak c = true) :
    (x : List Char) → blankText (x ++ c :: rest) = true ∨ commentText (x ++ c :: rest) = true →
      blankText rest = true
  | [], reads => by
    rcases reads with blank | comment
    · simpa [blankText, breaking] using blank
    · simpa [commentText, breaking] using comment
  | d :: x, reads => by
    apply blankText_after_break breaking x
    rcases reads with blank | comment
    · rcases blankText_cons.mp blank with ⟨_, more⟩ | ⟨_, more⟩ | ⟨_, comment⟩
      · exact .inl more
      · exact .inl more
      · exact .inr comment
    · by_cases ends : isBreak d = true
      · exact .inl (by simpa [commentText, ends] using comment)
      · exact .inr (by simpa [commentText, ends] using comment)

theorem blankText_of_append (y : List Char) : (x : List Char) →
    (blankText (x ++ y) = true → blankText x = true) ∧
      (commentText (x ++ y) = true → commentText x = true)
  | [] => ⟨fun _ => rfl, fun _ => rfl⟩
  | d :: x => by
    obtain ⟨blankFront, commentFront⟩ := blankText_of_append y x
    constructor
    · intro blank
      rcases blankText_cons.mp blank with ⟨spacing, more⟩ | ⟨breaking, more⟩ | ⟨rfl, comment⟩
      · exact blankText_cons.mpr (.inl ⟨spacing, blankFront more⟩)
      · exact blankText_cons.mpr (.inr (.inl ⟨breaking, blankFront more⟩))
      · exact blankText_cons.mpr (.inr (.inr ⟨rfl, commentFront comment⟩))
    · intro comment
      by_cases ends : isBreak d = true <;> simp_all [commentText]

namespace Scanner

def rest (s : Scanner) : List Char := s.input.toList.drop s.pos

theorem peek_eq_getD (s : Scanner) (k : Nat) : s.peek k = s.rest.getD k endChar := by
  simp [peek, rest, List.getD_eq_getElem?_getD]

theorem remaining_eq (s : Scanner) : s.remaining = s.rest.length + 1 := by
  simp [remaining, rest]

@[simp] theorem rest_skipCounted (s : Scanner) (units : Nat) :
    (s.skipCounted units).rest = s.rest.tail := by
  simp [skipCounted, rest, List.tail_drop]

@[simp] theorem rest_skipNewline (s : Scanner) : s.skipNewline.rest = s.rest.tail := by
  simp [skipNewline, rest, List.tail_drop]

def ReadOn (s t : Scanner) : Prop :=
  ∃ pos mark allowed lead, t =
    { s with pos := pos, mark := mark, simpleKeyAllowed := allowed, leadingWhitespace := lead }

theorem ReadOn.refl (s : Scanner) : ReadOn s s :=
  ⟨s.pos, s.mark, s.simpleKeyAllowed, s.leadingWhitespace, rfl⟩

theorem ReadOn.trans {s t u : Scanner} (first : ReadOn s t) (second : ReadOn t u) :
    ReadOn s u := by
  obtain ⟨_, _, _, _, rfl⟩ := first
  obtain ⟨pos, mark, allowed, lead, rfl⟩ := second
  exact ⟨pos, mark, allowed, lead, rfl⟩

theorem readOn_skipCounted (s : Scanner) (units : Nat) : ReadOn s (s.skipCounted units) :=
  ⟨_, _, _, _, rfl⟩

theorem readOn_skipNewline (s : Scanner) : ReadOn s s.skipNewline :=
  ⟨_, _, _, _, rfl⟩

theorem peek_of_rest {s : Scanner} {c : Char} {more : List Char} (split : s.rest = c :: more) :
    s.peek 0 = c := by
  simp [peek_eq_getD, split]

theorem peek_of_rest_nil {s : Scanner} (done : s.rest = []) : s.peek 0 = endChar := by
  simp [peek_eq_getD, done]

theorem length_rest_lt {s t : Scanner} (suffix : t.rest <:+ s.rest) (moved : t.peek 0 ≠ s.peek 0) :
    t.rest.length < s.rest.length := by
  have shorter : t.rest.length ≤ s.rest.length := suffix.length_le
  have other : t.rest.length ≠ s.rest.length := by
    intro same
    apply moved
    simp [peek_eq_getD, suffix.eq_of_length same]
  omega

theorem skipLineBreak_blank {s : Scanner} {c : Char} {more : List Char} (split : s.rest = c :: more)
    (breaking : isBreak c = true) (blank : blankText more = true) :
    ReadOn s s.skipLineBreak ∧ blankText s.skipLineBreak.rest = true ∧
      s.skipLineBreak.rest.length < s.rest.length := by
  have first := peek_of_rest split
  rcases (by simpa [isBreak] using breaking : c = '\n' ∨ c = '\r') with rfl | rfl
  · have step : s.skipLineBreak = s.skipNewline := by simp [skipLineBreak, first, isBreak]
    rw [step]
    exact ⟨readOn_skipNewline s, by simpa [split] using blank, by simp [split]⟩
  · cases more with
    | cons d after =>
      by_cases pair : d = '\n'
      · subst pair
        have second : s.peek 1 = '\n' := by simp [peek_eq_getD, split]
        have step : s.skipLineBreak = s.skipBlank.skipNewline := by
          simp [skipLineBreak, first, second]
        rw [step]
        refine ⟨(readOn_skipCounted s 1).trans (readOn_skipNewline _), ?_, ?_⟩
        · simpa [skipBlank, split, blankText, isBreak] using blank
        · simp only [skipBlank, rest_skipNewline, rest_skipCounted, split, List.tail_cons,
            List.length_cons]
          omega
      · have second : s.peek 1 = d := by simp [peek_eq_getD, split]
        have step : s.skipLineBreak = s.skipNewline := by
          simp [skipLineBreak, first, second, pair, isBreak]
        rw [step]
        exact ⟨readOn_skipNewline s, by simpa [split] using blank, by simp [split]⟩
    | nil =>
      have second : s.peek 1 = endChar := by simp [peek_eq_getD, split]
      have step : s.skipLineBreak = s.skipNewline := by
        simp [skipLineBreak, first, second, endChar, isBreak]
      rw [step]
      exact ⟨readOn_skipNewline s, by simp [split, blankText], by simp [split]⟩

structure AtStart (s : Scanner) : Prop where
  started : s.streamStartProduced = true
  notEnded : s.streamEndProduced = false
  queue : s.tokens = #[]
  unavailable : s.tokenAvailable = false
  keys : s.simpleKeys = #[SimpleKey.unused]
  flat : s.indents = #[]
  top : s.indent = -1
  outside : s.flowLevel = 0

theorem AtStart.readOn {s t : Scanner} (fresh : s.AtStart) (read : ReadOn s t) : t.AtStart := by
  obtain ⟨_, _, _, _, rfl⟩ := read
  exact ⟨fresh.started, fresh.notEnded, fresh.queue, fresh.unavailable, fresh.keys, fresh.flat,
    fresh.top, fresh.outside⟩

end Scanner

namespace Scan

theorem run_fuel_loop (inv post : Scanner → Prop) {body : Nat → PUnit → ScanM (ForInStep PUnit)}
    (round : ∀ i s, inv s → ∃ s', ((body i ⟨⟩).run s = .ok (.done ⟨⟩, s') ∧ post s') ∨
      ((body i ⟨⟩).run s = .ok (.yield ⟨⟩, s') ∧ inv s' ∧ s'.rest.length < s.rest.length))
    (s : Scanner) (holds : inv s) :
    ∃ s', (do let n ← fuel; forIn [:n] ⟨⟩ body; pure ()).run s = .ok ((), s') ∧ post s' := by
  obtain ⟨s', loop, ends⟩ := forIn_range_of_variant inv post (·.rest.length) body round
    s.remaining s holds (by rw [Scanner.remaining_eq]; omega)
  refine ⟨s', ?_, ends⟩
  simp only [fuel, StateT.run_bind, StateT.run_get, StateT.run_pure, pure_bind, loop]
  rfl

theorem skipCommentKeepingLead_run (s : Scanner) (comment : commentText s.rest = true) :
    ∃ s', skipCommentKeepingLead.run s = .ok ((), s') ∧ Scanner.ReadOn s s' ∧
      isBreakZ (s'.peek 0) = true ∧ commentText s'.rest = true ∧ s'.rest <:+ s.rest := by
  unfold skipCommentKeepingLead
  refine run_fuel_loop
    (fun x => Scanner.ReadOn s x ∧ commentText x.rest = true ∧ x.rest <:+ s.rest)
    (fun x => Scanner.ReadOn s x ∧ isBreakZ (x.peek 0) = true ∧ commentText x.rest = true ∧
      x.rest <:+ s.rest) ?_ s ⟨.refl s, comment, List.suffix_refl _⟩
  rintro i x ⟨read, inComment, suffix⟩
  by_cases stops : isBreakZ (x.peek 0) = true
  · refine ⟨x, .inl ⟨?_, read, stops, inComment, suffix⟩⟩
    simp [stops]
    rfl
  · -- the comment goes on: its next character is no break and not the end
    cases split : x.rest with
    | nil => simp [Scanner.peek_of_rest_nil split, isBreakZ, isZ] at stops
    | cons c more =>
      have first : x.peek 0 = c := Scanner.peek_of_rest split
      have inside : isBreak c = false := by
        simp only [first, isBreakZ, Bool.or_eq_true, not_or] at stops
        simpa using stops.1
      refine ⟨x.skipBlank, .inr ⟨?_, ⟨read.trans (Scanner.readOn_skipCounted x 1), ?_, ?_⟩, ?_⟩⟩
      · simp [stops]
        rfl
      · simpa [Scanner.skipBlank, split, commentText, inside] using inComment
      · simpa [Scanner.skipBlank, split] using (List.suffix_cons c more).trans (split ▸ suffix)
      · simp [Scanner.skipBlank, split]

theorem blank_after_comment {x : Scanner} (stops : isBreakZ (x.peek 0) = true)
    (comment : commentText x.rest = true) : blankText x.rest = true ∨ isZ (x.peek 0) = true := by
  cases split : x.rest with
  | nil => exact .inl rfl
  | cons d more =>
    rw [Scanner.peek_of_rest split] at stops ⊢
    by_cases breaking : isBreak d = true
    · rw [split] at comment
      simp only [commentText, breaking, if_true] at comment
      exact .inl (by simp [blankText, breaking, comment])
    · exact .inr (by simpa [isBreakZ, breaking] using stops)

theorem skipToNextToken_blank (s : Scanner) (flat : s.indents = #[]) (outside : s.flowLevel = 0)
    (blank : blankText s.rest = true) :
    ∃ s', skipToNextToken.run s = .ok ((), s') ∧ Scanner.ReadOn s s' ∧
      isZ (s'.peek 0) = true := by
  unfold skipToNextToken
  refine run_fuel_loop
    (fun x => Scanner.ReadOn s x ∧ (blankText x.rest = true ∨ isZ (x.peek 0) = true))
    (fun x => Scanner.ReadOn s x ∧ isZ (x.peek 0) = true) ?_ s ⟨.refl s, .inl blank⟩
  rintro i x ⟨read, going⟩
  have block : x.isWithinBlock = false := by
    obtain ⟨_, _, _, _, rfl⟩ := read
    simp [Scanner.isWithinBlock, flat]
  have level : x.flowLevel = 0 := by
    obtain ⟨_, _, _, _, rfl⟩ := read
    exact outside
  by_cases ends : isZ (x.peek 0) = true
  · refine ⟨x, .inl ⟨?_, read, ends⟩⟩
    have nul : x.peek 0 = endChar := by simpa [isZ] using ends
    simp [nul, endChar, isBreak]
    rfl
  · have blankRest : blankText x.rest = true := going.resolve_right ends
    cases split : x.rest with
    | nil => exact absurd (by simp [Scanner.peek_of_rest_nil split, isZ]) ends
    | cons c more =>
      have first : x.peek 0 = c := Scanner.peek_of_rest split
      rw [split] at blankRest
      rcases blankText_cons.mp blankRest with ⟨spacing, blankMore⟩ | ⟨breaking, blankMore⟩ |
        ⟨rfl, inComment⟩
      · -- a space or a tab
        refine ⟨x.skipBlank, .inr ⟨?_, ⟨read.trans (Scanner.readOn_skipCounted x 1), .inl ?_⟩, ?_⟩⟩
        · rcases (by simpa [isBlank] using spacing : c = ' ' ∨ c = '\t') with rfl | rfl <;>
            simp [first, block] <;> rfl
        · simpa [Scanner.skipBlank, split] using blankMore
        · simp [Scanner.skipBlank, split]
      · -- a line break, after which a simple key may start
        obtain ⟨moved, blankAfter, shorter⟩ := Scanner.skipLineBreak_blank split breaking blankMore
        refine ⟨{ x.skipLineBreak with simpleKeyAllowed := true }, .inr ⟨?_, ⟨?_, .inl ?_⟩, ?_⟩⟩
        · rcases (by simpa [isBreak] using breaking : c = '\n' ∨ c = '\r') with rfl | rfl <;>
            simp [first, block, level, allowSimpleKey] <;> rfl
        · exact read.trans (moved.trans ⟨_, _, _, _, rfl⟩)
        · exact blankAfter
        · rw [← split]
          exact shorter
      · -- a comment, read to its line break, which is past the `#`
        obtain ⟨y, run, moved, stops, comment, suffix⟩ :=
          skipCommentKeepingLead_run x (by simpa [split, commentText, isBreak] using inComment)
        refine ⟨y, .inr ⟨?_, ⟨read.trans moved, blank_after_comment stops comment⟩, ?_⟩⟩
        · simp [first, block, run, isBreak]
        · have other : y.peek 0 ≠ x.peek 0 := by
            intro same
            simp [same, first, isBreakZ, isBreak, isZ, endChar] at stops
          rw [← split]
          exact Scanner.length_rest_lt suffix other

theorem staleSimpleKeys_unused (s : Scanner) (keys : s.simpleKeys = #[SimpleKey.unused]) :
    staleSimpleKeys.run s = .ok ((), s) := by
  obtain ⟨⟩ := s
  subst keys
  simp [staleSimpleKeys, SimpleKey.unused]
  rfl

theorem frontMayBeKey_unused (s : Scanner) (keys : s.simpleKeys = #[SimpleKey.unused]) :
    frontMayBeKey.run s = .ok (false, s) := by
  have settled : s.simpleKeys.any (fun k => k.possible && k.tokenNumber == s.tokensParsed) =
      false := by
    rw [keys]
    simp [SimpleKey.unused]
  simp only [frontMayBeKey, StateT.run_bind, StateT.run_get, pure_bind, StateT.run_pure, settled]
  rfl

theorem fetchMoreTokens_of_fetch {s s' : Scanner} (empty : s.tokens = #[])
    (fetch : fetchNextToken.run s = .ok ((), s')) (filled : s'.tokens ≠ #[])
    (keys : s'.simpleKeys = #[SimpleKey.unused]) :
    fetchMoreTokens.run s = .ok ((), { s' with tokenAvailable := true }) := by
  have rounds : 2 * s.remaining + 8 = (2 * s.remaining + 6) + 1 + 1 := by omega
  simp only [fetchMoreTokens, fuel, StateT.run_bind, StateT.run_get, pure_bind, StateT.run_pure,
    rounds, Std.Legacy.Range.forIn_eq_forIn_range', Std.Legacy.Range.size]
  rw [Nat.sub_zero, Nat.add_sub_cancel, Nat.div_one, List.range'_succ, List.range'_succ]
  have fetched : fetchNextToken.run s = pure ((), s') := fetch
  have stale : staleSimpleKeys.run s' = pure ((), s') := staleSimpleKeys_unused s' keys
  have settled : frontMayBeKey.run s' = pure (false, s') := frontMayBeKey_unused s' keys
  simp [empty, fetched, filled, stale, settled]
  rfl

theorem unrollIndent_of_le (s : Scanner) (col : Int) (outside : s.flowLevel = 0)
    (within : s.indent ≤ col) : (unrollIndent col).run s = .ok ((), s) := by
  simp [unrollIndent, outside, within, Std.Legacy.Range.forIn_eq_forIn_range', List.range'_succ]
  rfl

theorem fetchStreamEnd_unused (s : Scanner) (keys : s.simpleKeys = #[SimpleKey.unused])
    (outside : s.flowLevel = 0) (top : s.indent = -1) :
    ∃ m s', fetchStreamEnd.run s = .ok ((), s') ∧ s'.tokens = s.tokens.push ⟨m, .streamEnd⟩ ∧
      s'.simpleKeys = #[SimpleKey.unused] := by
  -- the end mark moves to the start of a new line unless it is at one already
  by_cases col : s.mark.col = 0
  · simp [fetchStreamEnd, col, keys, SimpleKey.unused, unrollIndent_of_le, outside, top,
      removeSimpleKey, disallowSimpleKey, mark, pushToken]
    exact ⟨_, _, rfl, rfl, rfl⟩
  · simp [fetchStreamEnd, col, keys, SimpleKey.unused, unrollIndent_of_le, outside, top,
      removeSimpleKey, disallowSimpleKey, mark, pushToken]
    exact ⟨_, _, rfl, rfl, rfl⟩

theorem fetchNextToken_blank (s : Scanner) (fresh : s.AtStart) (blank : blankText s.rest = true) :
    ∃ m s', fetchNextToken.run s = .ok ((), s') ∧ s'.tokens = #[⟨m, .streamEnd⟩] ∧
      s'.simpleKeys = #[SimpleKey.unused] := by
  obtain ⟨y, skipped, read, ends⟩ := skipToNextToken_blank s fresh.flat fresh.outside blank
  have still : y.AtStart := fresh.readOn read
  have unrolled := unrollIndent_of_le y y.mark.col still.outside (by rw [still.top]; omega)
  obtain ⟨m, z, ended, pushed, settled⟩ := fetchStreamEnd_unused y still.keys still.outside still.top
  refine ⟨m, z, ?_, by rw [pushed, still.queue]; rfl, settled⟩
  simp [fetchNextToken, fresh.started, skipped, staleSimpleKeys_unused y still.keys, mark, unrolled,
    ends, ended]

theorem nextToken_ofString (t : String) :
    ∃ s, nextToken.run (Scanner.ofString t) = .ok (some ⟨⟨0, 1, 0⟩, .streamStart⟩, s) ∧
      s.AtStart ∧ s.rest = t.toList := by
  have fetched : fetchNextToken.run (Scanner.ofString t) =
      .ok ((), { Scanner.ofString t with
        streamStartProduced := true, simpleKeyAllowed := true, simpleKeys := #[SimpleKey.unused]
        tokens := #[⟨⟨0, 1, 0⟩, .streamStart⟩] }) := by
    simp [fetchNextToken, Scanner.ofString, fetchStreamStart, pushToken]
    rfl
  have filled := fetchMoreTokens_of_fetch rfl fetched (by simp) rfl
  have notEnded : (Scanner.ofString t).streamEndProduced = false := rfl
  have unavailable : (Scanner.ofString t).tokenAvailable = false := rfl
  refine ⟨{ Scanner.ofString t with
      streamStartProduced := true, simpleKeyAllowed := true, simpleKeys := #[SimpleKey.unused]
      tokensParsed := 1 }, ?_, ⟨rfl, rfl, rfl, rfl, rfl, rfl, rfl, rfl⟩,
    by simp [Scanner.rest, Scanner.ofString]⟩
  simp [nextToken, notEnded, unavailable, filled]
  rfl

theorem nextToken_blank (s : Scanner) (fresh : s.AtStart) (blank : blankText s.rest = true) :
    ∃ m s', nextToken.run s = .ok (some ⟨m, .streamEnd⟩, s') := by
  obtain ⟨m, z, fetched, pushed, settled⟩ := fetchNextToken_blank s fresh blank
  have filled := fetchMoreTokens_of_fetch fresh.queue fetched (by simp [pushed]) settled
  exact ⟨m, _, by simp [nextToken, fresh.notEnded, fresh.unavailable, filled, pushed]; rfl⟩

end Scan

namespace Parse

theorem peekToken_of_nextToken (p : Parser) (empty : p.token = none) {t : Token} {s : Scanner}
    (next : Scan.nextToken.run p.scanner = .ok (some t, s)) :
    peekToken.run p = .ok (t, { p with scanner := s, token := some t }) := by
  simp [peekToken, empty, next]
  rfl

theorem nextEvent_ofString (t : String) :
    ∃ p, nextEvent.run (Parser.ofString t) = .ok (.streamStart, p) ∧
      p.state = .implicitDocumentStart ∧ p.token = none ∧ p.scanner.AtStart ∧
      p.scanner.rest = t.toList := by
  obtain ⟨s, next, fresh, rest⟩ := Scan.nextToken_ofString t
  have peeked := peekToken_of_nextToken (Parser.ofString t) rfl next
  have start : (Parser.ofString t).state = .streamStart := rfl
  refine ⟨{ Parser.ofString t with scanner := s, state := .implicitDocumentStart }, ?_, rfl, rfl,
    fresh, rest⟩
  simp [nextEvent, start, streamStart, peeked, setState, skip]
  rfl

theorem nextEvent_blank (p : Parser) (state : p.state = .implicitDocumentStart)
    (empty : p.token = none) (fresh : p.scanner.AtStart) (blank : blankText p.scanner.rest = true) :
    ∃ p', nextEvent.run p = .ok (.streamEnd, p') := by
  obtain ⟨m, s, next⟩ := Scan.nextToken_blank p.scanner fresh blank
  -- the loop over document end markers stops at once, before the stream's end
  exact ⟨_, by
    simp [nextEvent, state, documentStart, Std.Legacy.Range.forIn_eq_forIn_range',
      List.range'_succ, peekKind, peekToken, empty, next, setState, skip]
    rfl⟩

end Parse

theorem blankText_of_mem_linesFrom (cs acc : List Char)
    (blank : blankText (acc.reverse ++ cs) = true) :
    ∀ line ∈ Text.linesFrom cs acc, blankText line = true := by
  fun_induction Text.linesFrom cs acc with
  | case1 => simp
  | case2 acc _ => simpa using blank
  | case3 rest acc ih =>
    have front : blankText acc.reverse = true := (blankText_of_append _ _).1 blank
    have after : blankText rest = true := blankText_after_break rfl acc.reverse (.inl blank)
    simp only [List.mem_cons, forall_eq_or_imp]
    refine ⟨?_, ih (by simpa using after)⟩
    -- dropping a carriage return before the line feed keeps a prefix of the line
    unfold Text.dropCarriageReturn
    split
    · obtain ⟨last, whole⟩ := List.dropLast_prefix acc.reverse
      exact (blankText_of_append last _).1 (by rw [whole]; exact front)
    · exact front
  | case4 c rest acc _ ih => exact ih (by simpa using blank)

theorem dropWhile_whitespace_of_blankText : (l : List Char) → blankText l = true →
    l.dropWhile Text.isWhitespace = [] ∨ ∃ more, l.dropWhile Text.isWhitespace = '#' :: more
  | [], _ => .inl rfl
  | c :: rest, blank => by
    -- YAML's blanks and line breaks are Unicode white space, `#` is not
    rcases blankText_cons.mp blank with ⟨spacing, more⟩ | ⟨breaking, more⟩ | ⟨rfl, _⟩
    · have white : Text.isWhitespace c = true := by
        rcases (by simpa [isBlank] using spacing : c = ' ' ∨ c = '\t') with rfl | rfl <;> decide
      simpa [List.dropWhile_cons, white] using dropWhile_whitespace_of_blankText rest more
    · have white : Text.isWhitespace c = true := by
        rcases (by simpa [isBreak] using breaking : c = '\n' ∨ c = '\r') with rfl | rfl <;> decide
      simpa [List.dropWhile_cons, white] using dropWhile_whitespace_of_blankText rest more
    · exact .inr ⟨rest, by simp [Text.isWhitespace]⟩

theorem trimList_of_blankText {l : List Char} (blank : blankText l = true) :
    Text.trimList l = [] ∨ ∃ more, Text.trimList l = '#' :: more := by
  unfold Text.trimList
  rcases dropWhile_whitespace_of_blankText l blank with empty | ⟨rest, front⟩
  · exact .inl (by simp [empty])
  · -- trailing white space goes, the `#` in front stays
    right
    rw [front, List.reverse_cons, List.dropWhile_append]
    split
    · exact ⟨[], by simp [Text.isWhitespace]⟩
    · exact ⟨(rest.reverse.dropWhile Text.isWhitespace).reverse, by simp⟩

theorem isBlankText_of_blankText (t : String) (blank : blankText t.toList = true) :
    isBlankText t = true := by
  simp only [isBlankText, Text.lines, Text.linesOf, List.all_map, List.all_eq_true,
    Function.comp_apply]
  intro line mem
  have lineBlank := blankText_of_mem_linesFrom t.toList [] (by simpa using blank) line mem
  rcases trimList_of_blankText lineBlank with empty | ⟨more, front⟩
  · simp [Text.trim, empty]
  · simp [Text.trim, front, String.startsWith_string_iff]

theorem firstDocumentEvents_blank (t : String) (blank : blankText t.toList = true) :
    firstDocumentEvents t = .ok [] := by
  obtain ⟨p, first, state, empty, fresh, rest⟩ := Parse.nextEvent_ofString t
  obtain ⟨p', second⟩ := Parse.nextEvent_blank p state empty fresh (rest ▸ blank)
  simp [firstDocumentEvents, Parse.firstDocument, first, second]
  rfl

end Yaml

/-- On text made only of spaces, tabs, line breaks and comments the blank shortcut and the parser
agree: the shortcut takes the text, and the parser finds no document in it, so reading it gives
the empty document either way. -/
theorem blank_shortcut_agrees_with_load (t : String) (blank : Yaml.blankText t.toList = true) :
    isBlankText t = true ∧ Document.loadValue t = .ok none := by
  refine ⟨Yaml.isBlankText_of_blankText t blank, ?_⟩
  rw [Document.loadValue, Yaml.firstDocumentEvents_blank t blank]
  rfl

theorem blank_shortcut_agrees_on_comments :
    Yaml.blankText "# settings\n  \t\r\n# none yet\r\n".toList = true ∧
      isBlankText "# settings\n  \t\r\n# none yet\r\n" = true ∧
      Document.loadValue "# settings\n  \t\r\n# none yet\r\n" = .ok none :=
  have blank : Yaml.blankText "# settings\n  \t\r\n# none yet\r\n".toList = true := by
    decide +kernel
  ⟨blank, blank_shortcut_agrees_with_load _ blank⟩

/-- A lone no-break space is blank to the shortcut, which trims Unicode white space, while the
parser, for which only spaces and tabs are blanks, reads it as a string. -/
theorem no_break_space_is_blank_but_reads_as_string :
    isBlankText "\u00a0" = true ∧ Document.includeLine? "\u00a0" = none ∧
      ((Document.loadValue "\u00a0").toOption.bind id).map Value.kind = some "string" ∧
      Document.loadValue "\u00a0" ≠ .ok none ∧ Document.loadValue "\u00a0" ≠ .ok (some .null) := by
  have read : ((Document.loadValue "\u00a0").toOption.bind id).map Value.kind = some "string" := by
    decide +kernel
  refine ⟨by decide +kernel, by decide +kernel, read, fun empty => ?_, fun null => ?_⟩
  · rw [empty] at read
    simp [Except.toOption] at read
  · rw [null] at read
    simp [Except.toOption, Value.kind] at read

end SealedPillar
