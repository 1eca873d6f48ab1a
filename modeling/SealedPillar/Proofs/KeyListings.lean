import Mathlib.Data.List.Induction
import SealedPillar.Cipher.GpgScript
import SealedPillar.Proofs.HostRuns
import SealedPillar.Proofs.Utf8RoundTrip

/-!
Key ids read from gpg's packet listings.

The ids of a listing are the ids its `pubkey enc packet` lines name, less the empty ones, each
kept where it first occurs (`Gpg.parseKeyIds_eq`). A line names the first word after its first
`keyid `, without the commas that end it (`Gpg.keyIdOf_eq_word`), and nothing when it holds no
`keyid ` (`Gpg.keyIdOf_of_absent`). Asking for a message's keys lists its packets, and fails
exactly when the listing, standard output then standard error, names no id; otherwise it names
each key by the user id gpg lists for it or by its bare id (`Gpg.keyIdentity_run`).

When the first of two texts ends its last line, the lines of the two joined are those of each, so
the ids of the joined texts are those of the first, then the new ones of the second
(`Gpg.parseKeyIds_append`). Without the line feed the first text's last line runs into the second
text's first, and the two can name an id neither names (`Gpg.parseKeyIds_joins_unended_line`).
So reading a program's two streams joined is reading them apart when its standard output ends its
last line or its standard error is empty (`ProgramOutput.LinesApart`), as every answer of the
scripted gpg does (`GpgScript.run_linesApart`).
-/

namespace SealedPillar

/-! ### Each element once, where it first occurs -/

section Distinct

variable {α : Type} [BEq α] [LawfulBEq α]

theorem eraseDups_concat (l : List α) (x : α) :
    (l ++ [x]).eraseDups = if x ∈ l then l.eraseDups else l.eraseDups ++ [x] := by
  rw [List.eraseDups_append]
  by_cases mem : x ∈ l <;> simp [mem, List.removeAll, List.eraseDups_cons]

theorem eraseDups_append_eraseDups (front tail : List α) :
    (front ++ tail.eraseDups).eraseDups = (front ++ tail).eraseDups := by
  -- by the tail's last element, which both sides keep exactly when it is new
  induction tail using List.reverseRecOn with
  | nil => simp
  | append_singleton tail x ih =>
    have seen : x ∈ front ++ tail.eraseDups ↔ x ∈ front ++ tail := by simp
    rw [eraseDups_concat, ← List.append_assoc, eraseDups_concat]
    by_cases old : x ∈ tail
    · rw [if_pos old, ih, if_pos (List.mem_append_right front old)]
    · rw [if_neg old, ← List.append_assoc, eraseDups_concat, ih]
      exact if_congr seen rfl rfl

theorem eraseDups_eraseDups (l : List α) : l.eraseDups.eraseDups = l.eraseDups := by
  simpa using eraseDups_append_eraseDups [] l

theorem eraseDups_eraseDups_append (front tail : List α) :
    (front.eraseDups ++ tail).eraseDups = (front ++ tail).eraseDups := by
  have same : tail.removeAll front.eraseDups = tail.removeAll front := by
    simp [List.removeAll]
  rw [List.eraseDups_append, eraseDups_eraseDups, same, ← List.eraseDups_append]

end Distinct

namespace Text

/-! ### The first occurrence of a text -/

section First

variable {needle : List Char}

theorem afterFirst_of_not_infix :
    ∀ {cs : List Char}, ¬ needle <:+: cs → afterFirst needle cs = none
  | [], absent => by
    rw [afterFirst.eq_1, if_neg fun found => absent (List.isPrefixOf_iff_prefix.mp found).isInfix]
  | c :: cs, absent => by
    rw [afterFirst.eq_2, if_neg fun found => absent (List.isPrefixOf_iff_prefix.mp found).isInfix]
    exact afterFirst_of_not_infix fun inner => absent (List.infix_cons inner)

theorem afterFirst_of_first {post : List Char} : ∀ {pre : List Char},
    ¬ needle <:+: pre ++ needle.dropLast → afterFirst needle (pre ++ needle ++ post) = some post
  | [], _ => by
    rw [afterFirst.eq_def, if_pos (List.isPrefixOf_iff_prefix.mpr (by simp))]
    simp
  | c :: pre, first => by
    have nonempty : needle ≠ [] := by
      rintro rfl
      exact first List.nil_infix
    -- an occurrence at the front would end inside `c :: pre ++ needle.dropLast`
    have late : ¬ needle <+: c :: pre ++ needle ++ post := by
      intro early
      have within : c :: pre ++ needle.dropLast <+: c :: pre ++ needle ++ post := by
        rw [List.append_assoc]
        exact (List.prefix_append_right_inj _).mpr
          ((List.dropLast_prefix needle).trans (List.prefix_append _ _))
      have short : needle.length ≤ (c :: pre ++ needle.dropLast).length := by
        have := List.length_pos_iff.mpr nonempty
        simp
        omega
      exact first (List.prefix_of_prefix_length_le early within short).isInfix
    rw [List.append_assoc, List.cons_append, afterFirst.eq_2, if_neg fun found =>
      late (by rw [List.append_assoc]; exact List.isPrefixOf_iff_prefix.mp found),
      ← List.append_assoc]
    exact afterFirst_of_first fun inner => first (List.infix_cons inner)

end First

/-! ### The first word and its trailing commas -/

theorem firstWord_eq {blank word rest : List Char} (blanks : ∀ c ∈ blank, isWhitespace c = true)
    (letters : ∀ c ∈ word, isWhitespace c = false)
    (ends : ∀ c ∈ rest.head?, isWhitespace c = true)
    (nonempty : word = [] → rest = []) :
    ((blank ++ word ++ rest).dropWhile isWhitespace).takeWhile (!isWhitespace ·) = word := by
  rw [List.append_assoc, List.dropWhile_append_of_pos blanks]
  cases word with
  | nil => simp [nonempty rfl]
  | cons c more =>
    have first : isWhitespace c = false := letters c (by simp)
    rw [List.cons_append, List.dropWhile_cons_of_neg (by simp [first]), ← List.cons_append,
      List.takeWhile_append_of_pos (by simpa using letters)]
    cases rest with
    | nil => simp
    | cons r _ => simp [ends r rfl]

theorem dropTrailingCommas_eq {core commas : List Char} (trailing : ∀ c ∈ commas, c = ',')
    (last : core.getLast? ≠ some ',') :
    ((core ++ commas).reverse.dropWhile (· == ',')).reverse = core := by
  rw [List.reverse_append, List.dropWhile_append_of_pos (by simpa using trailing)]
  cases reversed : core.reverse with
  | nil => simpa using reversed.symm
  | cons x more =>
    have ends : core.getLast? = some x := by rw [← List.head?_reverse, reversed]; rfl
    have kept : (x == ',') = false := by
      simp only [beq_eq_false_iff_ne]
      rintro rfl
      exact last ends
    rw [List.dropWhile_cons_of_neg (by simp [kept]), ← reversed, List.reverse_reverse]

/-! ### Lines of joined texts -/

theorem linesFrom_append_feed (rest : List Char) : ∀ (cs acc : List Char),
    linesFrom (cs ++ '\n' :: rest) acc = linesFrom (cs ++ ['\n']) acc ++ linesFrom rest []
  | [], acc => by simp [linesFrom]
  | c :: cs, acc => by
    by_cases feed : c = '\n'
    · subst feed
      simp [linesFrom, linesFrom_append_feed rest cs []]
    · simp [linesFrom, linesFrom_append_feed rest cs (c :: acc)]

theorem lines_append {s t : String} (ends : ∀ c ∈ s.toList.getLast?, c = '\n') :
    lines (s ++ t) = lines s ++ lines t := by
  simp only [lines, linesOf, String.toList_append, ← List.map_append]
  congr 1
  cases last : s.toList.getLast? with
  | none => simp [List.getLast?_eq_none_iff.mp last, linesFrom]
  | some c =>
    obtain ⟨init, split⟩ := List.getLast?_eq_some_iff.mp last
    have feed : c = '\n' := ends c (by simp [last])
    rw [split, feed, List.append_assoc, List.singleton_append, linesFrom_append_feed]

end Text

namespace Gpg

/-! ### The ids of a listing -/

theorem addKeyId_eraseDups (seen : List String) (id : String) :
    addKeyId (seen.filter (!·.isEmpty)).eraseDups id =
      ((seen ++ [id]).filter (!·.isEmpty)).eraseDups := by
  rw [List.filter_append, addKeyId]
  by_cases empty : id.isEmpty = true
  · simp [empty]
  · simp only [empty, Bool.false_or, List.filter_cons, Bool.not_false, if_true, List.filter_nil,
      eraseDups_concat, List.contains_iff_mem, List.mem_eraseDups]

theorem foldl_addKeyId (seen : List String) : ∀ ids : List String,
    ids.foldl addKeyId (seen.filter (!·.isEmpty)).eraseDups =
      ((seen ++ ids).filter (!·.isEmpty)).eraseDups
  | [] => by simp
  | id :: ids => by
    rw [List.foldl_cons, addKeyId_eraseDups, foldl_addKeyId (seen ++ [id]) ids]
    simp

theorem parseKeyIds_eq (listing : String) :
    parseKeyIds listing =
      ((((Text.lines listing).filter (Text.contains · "pubkey enc packet")).map keyIdOf).filter
        (!·.isEmpty)).eraseDups := by
  rw [parseKeyIds]
  simpa using foldl_addKeyId []
    (((Text.lines listing).filter (Text.contains · "pubkey enc packet")).map keyIdOf)

theorem keyIdOf_of_absent {line : String} (absent : ¬ "keyid ".toList <:+: line.toList) :
    keyIdOf line = "" := by
  rw [keyIdOf, Text.afterFirst_of_not_infix absent]

theorem keyIdOf_eq_word {line : String} {pre blank core commas rest : List Char}
    (split : line.toList = pre ++ "keyid ".toList ++ (blank ++ (core ++ commas) ++ rest))
    (first : ¬ "keyid ".toList <:+: pre ++ "keyid ".toList.dropLast)
    (blanks : ∀ c ∈ blank, Text.isWhitespace c = true)
    (letters : ∀ c ∈ core ++ commas, Text.isWhitespace c = false)
    (ends : ∀ c ∈ rest.head?, Text.isWhitespace c = true)
    (nonempty : core ++ commas = [] → rest = [])
    (trailing : ∀ c ∈ commas, c = ',') (last : core.getLast? ≠ some ',') :
    keyIdOf line = String.ofList core := by
  rw [keyIdOf, split, Text.afterFirst_of_first first]
  simp only [Text.firstWord_eq blanks letters ends nonempty,
    Text.dropTrailingCommas_eq trailing last]

theorem parseKeyIds_append {s t : String} (ends : ∀ c ∈ s.toList.getLast?, c = '\n') :
    parseKeyIds (s ++ t) = (parseKeyIds s ++ parseKeyIds t).eraseDups := by
  rw [parseKeyIds_eq, parseKeyIds_eq, parseKeyIds_eq, Text.lines_append ends, List.filter_append,
    List.map_append, List.filter_append, eraseDups_eraseDups_append, eraseDups_append_eraseDups]

/-- Without the line feed the first text's last line runs into the second text's first line: the
packet line of `A` read on together with `B` names `AB`, which neither text names. -/
theorem parseKeyIds_joins_unended_line :
    parseKeyIds ("pubkey enc packet keyid A" ++ "B\n") = ["AB"] ∧
      (parseKeyIds "pubkey enc packet keyid A" ++ parseKeyIds "B\n").eraseDups = ["A"] := by
  constructor <;> decide +kernel

theorem parseKeyIds_append_empty (s : String) :
    parseKeyIds (s ++ "") = (parseKeyIds s ++ parseKeyIds "").eraseDups := by
  have nothing : parseKeyIds "" = [] := by
    rw [parseKeyIds_eq]
    rfl
  rw [String.append_empty, nothing, List.append_nil, parseKeyIds_eq, eraseDups_eraseDups]

theorem parseKeyIds_append_of_apart {s t : String} (apart : (∀ c ∈ s.toList.getLast?, c = '\n') ∨ t = "") :
    parseKeyIds (s ++ t) = (parseKeyIds s ++ parseKeyIds t).eraseDups := by
  rcases apart with ends | rfl
  · exact parseKeyIds_append ends
  · exact parseKeyIds_append_empty s

end Gpg

/-! ### The scripted gpg's two streams -/

namespace ProgramOutput

/-- The two streams of a run keep their lines apart when joined: standard output is empty or
ends its last line, or standard error is empty. -/
def LinesApart (out : ProgramOutput) : Prop :=
  (∀ c ∈ (Text.decodeLossy out.stdout).toList.getLast?, c = '\n') ∨ out.stderr = []

theorem linesApart_finish {status : Nat} {out err : String}
    (ends : (∀ c ∈ out.toList.getLast?, c = '\n') ∨ err = "") :
    (GpgScript.finish status out err).LinesApart := by
  unfold LinesApart GpgScript.finish GpgScript.bytes
  rw [Text.decodeLossy_utf8Bytes]
  rcases ends with ends | rfl
  · exact .inl ends
  · exact .inr (by simp [Text.utf8Bytes_eq])

theorem linesApart_finish_silent {status : Nat} {err : String} :
    (GpgScript.finish status "" err).LinesApart :=
  linesApart_finish (.inl (by simp))

theorem linesApart_of_quiet {status : Nat} {out : List UInt8} :
    (⟨status, out, []⟩ : ProgramOutput).LinesApart :=
  .inr rfl

theorem parseKeyIds_streams {out : ProgramOutput} (apart : out.LinesApart) :
    Gpg.parseKeyIds (Text.decodeLossy out.stdout ++ Text.decodeLossy out.stderr) =
      (Gpg.parseKeyIds (Text.decodeLossy out.stdout) ++
        Gpg.parseKeyIds (Text.decodeLossy out.stderr)).eraseDups := by
  refine Gpg.parseKeyIds_append_of_apart (apart.imp id fun quiet => ?_)
  rw [quiet]
  simp [Text.decodeLossy, Text.decodeLossyFrom]

end ProgramOutput

namespace GpgScript

theorem run_linesApart (g : GpgScript) (args : List String) (input : List UInt8) :
    (g.run args input).LinesApart := by
  unfold run
  dsimp only
  split_ifs
  · exact ProgramOutput.linesApart_finish_silent
  · split
    · exact ProgramOutput.linesApart_of_quiet
    · exact ProgramOutput.linesApart_finish_silent
  · split
    · exact ProgramOutput.linesApart_finish_silent
    · split_ifs
      · exact ProgramOutput.linesApart_finish_silent
      · split
        · exact ProgramOutput.linesApart_of_quiet
        · exact ProgramOutput.linesApart_finish_silent
  · split
    · exact ProgramOutput.linesApart_finish_silent
    · -- the listing ends with the encrypted data packet's last line
      refine ProgramOutput.linesApart_finish (.inl ?_)
      simp [String.toList_append]
  · split
    · exact ProgramOutput.linesApart_finish (.inr rfl)
    · exact ProgramOutput.linesApart_finish_silent
  · exact ProgramOutput.linesApart_finish_silent

end GpgScript

/-! ### Asking gpg for a message's keys -/

namespace Host

variable {h : Host}

theorem runGpg_run {g : Executable} (present : h.gpg = some g) (args : List String)
    (input : String) :
    (runGpg args input).run h =
      (some (g args (Text.utf8Bytes input)),
        { h with gpgCalls := h.gpgCalls.push (args, input) }) := by
  simp [runGpg, present]
  rfl

theorem runGpg_absent (absent : h.gpg = none) (args : List String) (input : String) :
    (runGpg args input).run h = (none, h) := by
  simp [runGpg, absent]
  rfl

theorem emit_gpg (area : String) (level : Level) (message : String)
    (fields : List (String × String)) :
    ((emit area level message fields).run h).2.gpg = h.gpg := by
  unfold emit
  simp only [StateT.run_bind, StateT.run_get, pure_bind]
  split
  · rfl
  · split <;> rfl

end Host

namespace Gpg

variable (o : GpgOptions)

theorem userId_run {h : Host} {g : Executable} (present : h.gpg = some g) (id : String) :
    let args := keyringArgs o ++ ["--batch", "--with-colons", "--list-keys", id]
    let out := g args (Text.utf8Bytes "")
    (userId o Host.runGpg id).run h =
      (if out.status == 0 then parseUserId (Text.decodeLossy out.stdout) else none,
        { h with gpgCalls := h.gpgCalls.push (args, "") }) := by
  intro args out
  unfold userId
  rw [StateT.run_bind, Host.runGpg_run present]
  rfl

theorem userId_absent {h : Host} (absent : h.gpg = none) (id : String) :
    (userId o Host.runGpg id).run h = (none, h) := by
  unfold userId
  rw [StateT.run_bind, Host.runGpg_absent absent]
  rfl

theorem userId_of_same_gpg {h h' : Host} (same : h'.gpg = h.gpg) (id : String) :
    ((userId o Host.runGpg id).run h').1 = ((userId o Host.runGpg id).run h).1 ∧
      ((userId o Host.runGpg id).run h').2.gpg = h.gpg := by
  cases present : h.gpg with
  | none =>
    rw [present] at same
    simp [userId_absent o same, userId_absent o present, same]
  | some g =>
    rw [present] at same
    simp [userId_run o same, userId_run o present, same]

theorem names_run (ids : List String) : ∀ {h h' : Host}, h'.gpg = h.gpg →
    ((ids.mapM fun id => do pure ((← userId o Host.runGpg id).getD id)).run h').1 =
      ids.map fun id => ((userId o Host.runGpg id).run h).1.getD id := by
  induction ids with
  | nil => intro h h' _; rfl
  | cons id ids ih =>
    intro h h' same
    obtain ⟨answer, kept⟩ := userId_of_same_gpg o same id
    have rest := ih kept
    rw [List.mapM_cons]
    simp only [bind_pure_comp] at rest ⊢
    -- a state computation's bind runs the rest from the state the lookup leaves
    exact congrArg₂ List.cons (congrArg (·.getD id) answer) rest

theorem keyIdentity_run (message : String) {h : Host} {g : Executable} (present : h.gpg = some g) :
    let out := g (keyringArgs o ++ ["--batch", "--list-only", "--list-packets"])
      (Text.utf8Bytes message)
    let ids := parseKeyIds (Text.decodeLossy out.stdout ++ Text.decodeLossy out.stderr)
    (((backend o Host.runGpg Host.tracer).keyIdentity message).run h).1 =
      if ids = [] then .error (.keyLookupFailed "no public key encrypted session packet found")
      else
        .ok (", ".intercalate (ids.map fun id => ((userId o Host.runGpg id).run h).1.getD id)) := by
  intro out ids
  simp only [backend]
  rw [Host.run_bind_of_run (Host.runGpg_run present _ _)]
  show (StateT.run (if ids.isEmpty = true then _ else _ : HostM (Except CipherError String)) _).1 =
    _
  by_cases empty : ids = []
  · rw [if_pos empty, if_pos (by simp [empty])]
    rfl
  · rw [if_neg empty, if_neg (by simpa using empty)]
    simp only [Host.tracer]
    rw [Host.run_emit_bind, StateT.run_bind]
    -- the names are looked up on the machine the listing and the log event leave, whose gpg is
    -- the one the message was listed with
    exact congrArg (fun names => Except.ok (", ".intercalate names))
      (names_run o ids (Host.emit_gpg _ _ _ _))

/-- The key ids of gpg's packet listings, the names asking any gpg program for a message's keys
gives, and when the ids of its two streams joined are those of each. -/
theorem keyIdentity_names_packet_keys :
    (∀ listing : String, parseKeyIds listing =
      ((((Text.lines listing).filter (Text.contains · "pubkey enc packet")).map keyIdOf).filter
        (!·.isEmpty)).eraseDups) ∧
    (∀ line : String, ¬ "keyid ".toList <:+: line.toList → keyIdOf line = "") ∧
    (∀ (line : String) (pre blank core commas rest : List Char),
      line.toList = pre ++ "keyid ".toList ++ (blank ++ (core ++ commas) ++ rest) →
      ¬ "keyid ".toList <:+: pre ++ "keyid ".toList.dropLast →
      (∀ c ∈ blank, Text.isWhitespace c = true) →
      (∀ c ∈ core ++ commas, Text.isWhitespace c = false) →
      (∀ c ∈ rest.head?, Text.isWhitespace c = true) →
      (core ++ commas = [] → rest = []) →
      (∀ c ∈ commas, c = ',') → core.getLast? ≠ some ',' →
      keyIdOf line = String.ofList core) ∧
    (∀ (o : GpgOptions) (message : String) (h : Host) (g : Executable), h.gpg = some g →
      let out := g (keyringArgs o ++ ["--batch", "--list-only", "--list-packets"])
        (Text.utf8Bytes message)
      let ids := parseKeyIds (Text.decodeLossy out.stdout ++ Text.decodeLossy out.stderr)
      (((backend o Host.runGpg Host.tracer).keyIdentity message).run h).1 =
        if ids = [] then .error (.keyLookupFailed "no public key encrypted session packet found")
        else
          .ok (", ".intercalate (ids.map fun id => ((userId o Host.runGpg id).run h).1.getD id))) ∧
    (∀ s t : String, (∀ c ∈ s.toList.getLast?, c = '\n') ∨ t = "" →
      parseKeyIds (s ++ t) = (parseKeyIds s ++ parseKeyIds t).eraseDups) ∧
    (∀ (g : Executable) (args : List String) (input : List UInt8), (g args input).LinesApart →
      let out := g args input
      parseKeyIds (Text.decodeLossy out.stdout ++ Text.decodeLossy out.stderr) =
        (parseKeyIds (Text.decodeLossy out.stdout) ++
          parseKeyIds (Text.decodeLossy out.stderr)).eraseDups) :=
  ⟨parseKeyIds_eq, fun _ => keyIdOf_of_absent,
    fun _ _ _ _ _ _ split first blanks letters ends nonempty trailing last =>
      keyIdOf_eq_word split first blanks letters ends nonempty trailing last,
    fun o message _ _ present => keyIdentity_run o message present,
    fun _ _ => parseKeyIds_append_of_apart, fun _ _ _ => ProgramOutput.parseKeyIds_streams⟩

theorem keyIdentity_names_packet_keys_pubkey_line :
    (¬ "keyid ".toList <:+: "gpg: no valid OpenPGP data found.".toList ∧
      keyIdOf "gpg: no valid OpenPGP data found." = "") ∧
    (":pubkey enc packet: version 3, algo 1, keyid  7A1B,, x".toList =
        ":pubkey enc packet: version 3, algo 1, ".toList ++ "keyid ".toList ++
          ([' '] ++ ("7A1B".toList ++ [',', ',']) ++ " x".toList) ∧
      ¬ "keyid ".toList <:+: ":pubkey enc packet: version 3, algo 1, ".toList ++
        "keyid ".toList.dropLast ∧
      keyIdOf ":pubkey enc packet: version 3, algo 1, keyid  7A1B,, x" = "7A1B") ∧
    ((Host.start default [] [] (some (GpgScript.run ⟨[], "", true⟩))).gpg =
        some (GpgScript.run ⟨[], "", true⟩) ∧
      (((backend default Host.runGpg Host.tracer).keyIdentity "").run
          (Host.start default [] [] (some (GpgScript.run ⟨[], "", true⟩)))).1 =
        .error (.keyLookupFailed "no public key encrypted session packet found")) ∧
    (((∀ c ∈ "a\n".toList.getLast?, c = '\n') ∨ "b" = "") ∧
      parseKeyIds ("a\n" ++ "b") = (parseKeyIds "a\n" ++ parseKeyIds "b").eraseDups) ∧
    ((GpgScript.run ⟨[], "", true⟩ ["--list-packets"] []).LinesApart ∧
      let out := GpgScript.run ⟨[], "", true⟩ ["--list-packets"] []
      parseKeyIds (Text.decodeLossy out.stdout ++ Text.decodeLossy out.stderr) =
        (parseKeyIds (Text.decodeLossy out.stdout) ++
          parseKeyIds (Text.decodeLossy out.stderr)).eraseDups) := by
  have absent : ¬ "keyid ".toList <:+: "gpg: no valid OpenPGP data found.".toList := by
    decide +kernel
  have split : ":pubkey enc packet: version 3, algo 1, keyid  7A1B,, x".toList =
      ":pubkey enc packet: version 3, algo 1, ".toList ++ "keyid ".toList ++
        ([' '] ++ ("7A1B".toList ++ [',', ',']) ++ " x".toList) := by decide +kernel
  have first : ¬ "keyid ".toList <:+: ":pubkey enc packet: version 3, algo 1, ".toList ++
      "keyid ".toList.dropLast := by decide +kernel
  -- quantifiers over characters are closed by `simp`: deciding them would try every character
  have blanks : ∀ c ∈ [' '], Text.isWhitespace c = true := by simp [Text.isWhitespace]
  have letters : ∀ c ∈ "7A1B".toList ++ [',', ','], Text.isWhitespace c = false := by
    simp [Text.isWhitespace]
  have ends : ∀ c ∈ " x".toList.head?, Text.isWhitespace c = true := by simp [Text.isWhitespace]
  have trailing : ∀ c ∈ [',', ','], c = ',' := by simp
  have last : "7A1B".toList.getLast? ≠ some ',' := by decide +kernel
  have word := keyIdentity_names_packet_keys.2.2.1 _ _ _ _ _ _ split first blanks letters ends
    (by simp) trailing last
  -- a failing gpg lists nothing, so no packet names a key
  have listed := keyIdentity_names_packet_keys.2.2.2.1 default ""
    (Host.start default [] [] (some (GpgScript.run ⟨[], "", true⟩))) _ rfl
  have quiet : parseKeyIds (Text.decodeLossy (GpgScript.bytes "") ++
      Text.decodeLossy (GpgScript.bytes "gpg: simulated failure\n")) = [] := by
    rw [GpgScript.bytes, GpgScript.bytes, Text.decodeLossy_utf8Bytes, Text.decodeLossy_utf8Bytes]
    decide +kernel
  have feed : (∀ c ∈ "a\n".toList.getLast?, c = '\n') ∨ "b" = "" := .inl (by simp)
  have apart := GpgScript.run_linesApart ⟨[], "", true⟩ ["--list-packets"] []
  refine ⟨⟨absent, keyIdentity_names_packet_keys.2.1 _ absent⟩, ⟨split, first, ?_⟩,
    ⟨rfl, ?_⟩,
    ⟨feed, keyIdentity_names_packet_keys.2.2.2.2.1 _ _ feed⟩,
    ⟨apart, keyIdentity_names_packet_keys.2.2.2.2.2 _ _ _ apart⟩⟩
  · rw [word]
    rfl
  · rw [listed]
    exact if_pos quiet

end Gpg

end SealedPillar
